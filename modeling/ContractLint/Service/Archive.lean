import ContractLint.Scan.Analyzer
import ContractLint.Service.Handler

/-! # Stored analyses

Answers about earlier analyses, from the database or from what the service remembers.
-/

namespace ContractLint.Service

def countColumns : List String :=
  ["critical_count", "high_count", "medium_count", "low_count", "info_count"]

def storedFinding (row : Row) : Value :=
  .object ([("id", .text (row.get "id").display), ("detector", row.get "detector_name")]
    ++ row.select ["severity", "title", "description", "line_number"]
    ++ [("column", row.get "column_number")]
    ++ row.select ["code_snippet", "recommendation", "confidence", "impact", "cwe_id"]
    ++ [("references", if (row.get "references").truthy then row.get "references" else .list [])])

def remembered? (id : Value) : Handler (Option Value) := do
  id.hashable
  match id with
  | .text id => return (← state).results.lookup id
  | _ => return none

def storedAnswer (row : Row) (findings : List Row) (time : String) : Value :=
  .object [
    ("analysis_id", .text (row.get "id").display),
    ("status", .text "completed"),
    ("findings", .of (findings.map storedFinding)),
    ("metadata", .object (row.select (["filename", "file_size", "total_findings",
      "analysis_duration_ms", "language", "risk_score"] ++ countColumns))),
    ("timestamp", .text time)]

/-- The answer to an earlier upload. -/
def analysisOf (id : Value) : Handler Value :=
  shielding "Error retrieving analysis result"
    "Internal server error while retrieving analysis result" do
    if let some row ← first? .analysis "id" id then
      let findings ← rowsWith .finding "analysis_id" id
      let time ← row.time "created_at"
      say ("Retrieved analysis result from database: " ++ id.display)
      return storedAnswer row findings time
    if let some answer ← remembered? id then
      say ("Retrieved analysis result from memory: " ++ id.display)
      return answer
    refuse 404 ("Analysis with ID " ++ id.display ++ " not found")

def history (limit offset : Value) : Handler Value :=
  reporting "Error retrieving analysis history" (fun _ => "Error retrieving analysis history") do
    query ("Analysis.order_by(created_at desc).offset(" ++ offset.display ++ ").limit("
      ++ limit.display ++ ").all")
    let entries ← ((← setting).database.rows .analysis).mapM fun row => do
      return Value.object ([("analysis_id", .text (row.get "id").display)]
        ++ row.select (["filename", "language", "status", "risk_score", "total_findings"]
          ++ countColumns ++ ["analysis_duration_ms"])
        ++ [("created_at", .text (← row.time "created_at"))])
    return .object [("analyses", .list entries), ("total", .of entries.length)]

/-- Numbers about all analyses. -/
def statistics : Handler Value :=
  reporting "Error retrieving statistics" (fun _ => "Error retrieving statistics") do
    let total ← count "Analysis"
    let critical ← count "Analysis.filter(critical_count > 0)"
    let high ← count "Analysis.filter(high_count > 0)"
    let medium ← count "Analysis.filter(medium_count > 0)"
    query "language, count(id).group_by(language).all"
    let languages := (← setting).database.groups.foldl
      (fun known (language, number) => Entries.put known language.display number) []
    return .object [
      ("total_analyses", total),
      ("severity_distribution",
        .object [("critical", critical), ("high", high), ("medium", medium)]),
      ("language_distribution", .object languages),
      ("supported_languages", .ofTexts (Scan.Analyzer.all.map Scan.Analyzer.extension))]

def sourceOf (id : Value) : Handler Value :=
  reporting "Error getting analysis code" (fun message => message) do
    let some row ← first? .analysis "id" id | refuse 404 "Analysis not found"
    let content := row.get "file_content"
    return .object ([("analysis_id", id)] ++ row.select ["filename", "language"]
      ++ [("content", if content.truthy then content else .text "")])

end ContractLint.Service
