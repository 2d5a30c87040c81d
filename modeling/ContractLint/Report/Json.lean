import ContractLint.Document.Json.Printer
import ContractLint.Report.Basic

/-! # Reports as JSON documents -/

namespace ContractLint.Report.Json

def snippet (output : OutputSettings) (f : Finding) : Outcome Value :=
  match f.snippet with
  | none => pure .null
  | some "" => pure (.text "")
  | some s => if output.includeSnippets.truthy then .text <$> truncated output s else pure .null

def findingValue (output : OutputSettings) (clock : Timestamp) (e : Entry) : Outcome Value := do
  let fields := (e.finding.toValue clock).parts
  return .object (Entries.put fields "code_snippet" (← snippet output e.finding))

def document (output : OutputSettings) (clock : Timestamp) (entries : List Entry) : Outcome Value := do
  let time := Value.text clock.text
  return .object [
    ("contractquard_version", .text "0.1.0"),
    ("report_format", .text "json"),
    ("generated_at", time),
    ("summary", .object ((summary entries).toFields ++ [("timestamp", time)])),
    ("findings", .list (← entries.mapM (findingValue output clock))),
    ("metadata", .object [
      ("total_findings", .of entries.length),
      ("analysis_complete", .bool true),
      ("report_config", .object [
        ("include_code_snippets", output.includeSnippets),
        ("max_snippet_lines", output.maxSnippetLines)])])]

/-- The report. -/
def render (output : OutputSettings) (clock : Timestamp) (entries : List Entry) : Outcome String := do
  return Document.Json.indented (← document output clock entries)

end ContractLint.Report.Json
