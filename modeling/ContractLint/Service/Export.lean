import ContractLint.Document.Csv
import ContractLint.Service.Handler
import ContractLint.Text.Case

/-! # Exports

A stored analysis as a document, as a table and as a plain text.
-/

namespace ContractLint.Service

structure Download where
  mediaType : String
  file : String
  content : String

def Download.toValue (d : Download) : Value :=
  .object [
    ("status", .int 200),
    ("media_type", .text d.mediaType),
    ("headers", .object [("Content-Disposition", .text ("attachment; filename=" ++ d.file))]),
    ("content", .text d.content)]

namespace Export

/-! ## Tables -/

/-- The rows about the analysis: the name of each and the field it shows. -/
def summaryFields : List (String × String) := [
  ("Analysis ID", "analysis_id"),
  ("Filename", "filename"),
  ("Language", "language"),
  ("File Size (bytes)", "file_size"),
  ("Risk Score", "risk_score"),
  ("Total Findings", "total_findings"),
  ("Analysis Duration (ms)", "analysis_duration_ms"),
  ("Created At", "created_at")]

/-- The columns of the findings: the name of each and the field it shows. -/
def findingFields : List (String × String) := [
  ("ID", "id"),
  ("Detector", "detector"),
  ("Severity", "severity"),
  ("Category", "category"),
  ("Title", "title"),
  ("Description", "description"),
  ("Line", "line_number"),
  ("Column", "column_number"),
  ("Recommendation", "recommendation"),
  ("Confidence", "confidence"),
  ("Impact", "impact"),
  ("CWE ID", "cwe_id")]

def cells (v : Value) (fields : List (String × String)) : Outcome (List String) :=
  fields.mapM fun (_, field) => return Document.Csv.cellOf (← v.field field)

def rows (data : Value) : Outcome (List (List String)) := do
  let summary ← summaryFields.mapM fun (name, field) =>
    return [name, Document.Csv.cellOf (← data.field field)]
  let severities := (← (← data.field "severity_counts").entries).map fun (severity, count) =>
    [Text.title severity, Document.Csv.cellOf count]
  let findings ← (← (← data.field "findings").elements).mapM fun finding =>
    cells finding findingFields
  return [["Analysis Summary"], ["Field", "Value"]] ++ summary ++ [[]]
    ++ [["Severity Distribution"], ["Severity", "Count"]] ++ severities ++ [[]]
    ++ [["Security Findings"], findingFields.map Prod.fst] ++ findings

def table (data : Value) : Outcome Download := do
  let content := Document.Csv.print (← rows data)
  return ⟨"text/csv", (← data.field "filename").display ++ "_analysis.csv", content⟩

/-! ## Plain text -/

def isPositive (count : Value) : Outcome Bool :=
  if count.asNumber?.isNone then throw (.notOrdered ">" count.kindName "int")
  else Value.less ">" (.int 0) count

/-- The line about a severity; there is none if nothing has it. -/
def severityLine (severity : String) (count : Value) : Outcome String := do
  if ← isPositive count then return "- " ++ Text.title severity ++ ": " ++ count.display ++ "\n"
  return ""

def findingLines (number : Nat) (finding : Value) : Outcome String := do
  let shown (field : String) : Outcome String := return (← finding.field field).display
  let title ← shown "title"
  let severity ← shown "severity"
  let category ← shown "category"
  let line ← shown "line_number"
  let description ← shown "description"
  let recommendation ← shown "recommendation"
  return "\n" ++ Number.digitsText number ++ ". " ++ title
    ++ "\n   Severity: " ++ severity
    ++ "\n   Category: " ++ category
    ++ "\n   Line: " ++ line
    ++ "\n   Description: " ++ description
    ++ "\n   Recommendation: " ++ recommendation ++ "\n"

def plain (data : Value) : Outcome Download := do
  let shown (field : String) : Outcome String := return (← data.field field).display
  let filename ← shown "filename"
  let language ← shown "language"
  let size ← shown "file_size"
  let risk ← shown "risk_score"
  let total ← shown "total_findings"
  let duration ← shown "analysis_duration_ms"
  let created ← shown "created_at"
  let severities ← (← (← data.field "severity_counts").entries).mapM fun (severity, count) =>
    severityLine severity count
  let findings ← ((← (← data.field "findings").elements).zipIdx 1).mapM fun (finding, number) =>
    findingLines number finding
  return ⟨"text/plain", filename ++ "_analysis.txt",
    "\nContractQuard Security Analysis Report\n\nAnalysis Summary:"
      ++ "\n- Filename: " ++ filename
      ++ "\n- Language: " ++ language
      ++ "\n- File Size: " ++ size ++ " bytes"
      ++ "\n- Risk Score: " ++ risk ++ "/100"
      ++ "\n- Total Findings: " ++ total
      ++ "\n- Analysis Duration: " ++ duration ++ " ms"
      ++ "\n- Created At: " ++ created
      ++ "\n\nSeverity Distribution:\n" ++ String.join severities
      ++ "\nSecurity Findings:\n" ++ String.join findings⟩

/-! ## Documents -/

def findingOf (row : Row) : Value :=
  .object ([("id", row.get "id"), ("detector", row.get "detector_name")]
    ++ row.select ["severity", "category", "title", "description", "line_number",
      "column_number", "code_snippet", "recommendation", "confidence", "impact", "cwe_id"]
    ++ [("references", .list [])])

/-- The share of tested code as a real number, or null. -/
def coverage (v : Value) : Value :=
  if !v.truthy then .null
  else match v.asNumber? with
    | some (.inl n) => .real (Float.ofInt n)
    | _ => v

def metricsOf (row : Row) : Value :=
  .object (row.select ["lines_of_code", "cyclomatic_complexity", "function_count",
    "contract_count", "dependency_count"]
    ++ [("test_coverage", coverage (row.get "test_coverage"))])

def recordOf (analysis : Row) (findings : List Row) (metrics : Option Row) : Outcome Value := do
  let created ← if (analysis.get "created_at").truthy then .text <$> analysis.time "created_at"
    else pure Value.null
  let severities := ["critical", "high", "medium", "low", "info"].map fun severity =>
    (severity, analysis.get (severity ++ "_count"))
  return .object ([("analysis_id", analysis.get "id")]
    ++ analysis.select ["filename", "language", "file_size", "status", "risk_score",
      "total_findings"]
    ++ [("severity_counts", .object severities),
      ("analysis_duration_ms", analysis.get "analysis_duration_ms"), ("created_at", created),
      ("findings", .of (findings.map findingOf)), ("code_metrics", .of (metrics.map metricsOf))])

end Export

def exportAnalysis (id format : Value) : Handler Value :=
  reporting "Export failed" (fun message => "Export failed: " ++ message) do
    let some analysis ← first? .analysis "id" id | refuse 404 "Analysis not found"
    let findings ← rowsWith .finding "analysis_id" id
    let metrics ← first? .metrics "analysis_id" id
    let data ← Export.recordOf analysis findings metrics
    match Text.lower (← format.textFor "lower") with
    | "json" => return data
    | "csv" => return (← Export.table data).toValue
    | "pdf" => return (← Export.plain data).toValue
    | _ => refuse 400 "Unsupported export format. Use json, csv, or pdf"

end ContractLint.Service
