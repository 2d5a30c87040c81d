import ContractLint.Report.Basic

/-! # Reports as Markdown documents -/

namespace ContractLint.Report.Markdown

def headline : String := "# ContractQuard Security Analysis Report\n"

/-- The report without findings. -/
def nothingFound : String :=
  headline ++ "\n## No Security Issues Found\n\n"
    ++ "Your smart contract appears to be free of the vulnerabilities "
    ++ "checked by ContractQuard's static analysis.\n"

/-- The numbers of a report. -/
def summarySection (s : Summary) : String :=
  let rows := s.present.map fun (severity, count) =>
    "| " ++ tag severity ++ " " ++ severity.name ++ " | " ++ Number.digitsText count ++ " |\n"
  "## Summary\n\n| Severity | Count |\n|----------|-------|\n" ++ String.join rows
    ++ "\n**Files with issues:** " ++ Number.digitsText s.files.length ++ "\n\n"

def entry (output : OutputSettings) (index : Nat) (e : Entry) : Outcome String := do
  let f := e.finding
  let snippet ← (shownSnippet output f).mapM (truncated output)
  let references ← references f
  return "#### " ++ Number.digitsText index ++ ". " ++ tag f.severity ++ " " ++ f.severity.name
    ++ " - " ++ f.title ++ "\n\n**Location:** `" ++ placeText e ++ "`\n\n"
    ++ (if f.description = "" then "" else "**Description:** " ++ f.description ++ "\n\n")
    ++ whenSome snippet (fun s => "**Code:**\n```solidity\n" ++ s ++ "\n```\n\n")
    ++ whenSome (recommendation f) (fun s => "**Recommendation:** " ++ s ++ "\n\n")
    ++ (if references.isEmpty then ""
      else "**References:**\n" ++ String.join (references.map fun s => "- " ++ s ++ "\n") ++ "\n")

def findingsSection (output : OutputSettings) (entries : List Entry) : Outcome String := do
  let heading (file : String) : String := "### 📄 " ++ file ++ "\n\n"
  return "## 🔍 Detailed Findings\n\n" ++ (← byFile heading (entry output) none (numbered entries))

/-- The report. -/
def render (output : OutputSettings) (entries : List Entry) : Outcome String := do
  if entries.isEmpty then return nothingFound
  return Text.joinLines
    [headline, summarySection (summary entries), ← findingsSection output (sorted entries)]

end ContractLint.Report.Markdown
