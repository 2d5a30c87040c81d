import ContractLint.Proofs.Document.Csv
import ContractLint.Proofs.Outcome
import ContractLint.Service.Export

/-! # Exported tables

A reader of tables finds in an exported table the values of the record, row by row, whatever characters their
texts hold. A record may be any document with the fields that the table shows, and the records
made of stored rows have them.
-/

namespace ContractLint.Service.Export

open Document Outcome

variable {data : Value} {metrics : Option Row}

def HasField (v : Value) (name : String) : Prop := (v.field name).toBool

/-- The text of a field, empty for null. -/
def cellAt (v : Value) (name : String) : String :=
  match v.field name with
  | .ok item => Csv.cellOf item
  | .error _ => ""

/-- A document with the fields that the table shows, some severity counts and some findings. -/
structure IsRecord (data : Value) (counts : List (String × Value)) (findings : List Value) : Prop where
  summary : ∀ entry ∈ summaryFields, HasField data entry.2
  counted : data.field "severity_counts" = .ok (.object counts)
  listed : data.field "findings" = .ok (.list findings)
  columns : ∀ finding ∈ findings, ∀ entry ∈ findingFields, HasField finding entry.2

/-- The table of a record: the summary, the severities and a row for each finding. -/
def tableRows (data : Value) (counts : List (String × Value)) (findings : List Value) : List (List String) :=
  [["Analysis Summary"], ["Field", "Value"]] ++ summaryFields.map (fun entry => [entry.1, cellAt data entry.2]) ++ [[]]
    ++ [["Severity Distribution"], ["Severity", "Count"]]
    ++ counts.map (fun entry => [Text.title entry.1, Csv.cellOf entry.2]) ++ [[]]
    ++ [["Security Findings"], ["ID", "Detector", "Severity", "Category", "Title", "Description", "Line", "Column",
      "Recommendation", "Confidence", "Impact", "CWE ID"]]
    ++ findings.map fun finding => findingFields.map fun entry => cellAt finding entry.2

theorem exists_field {v : Value} {name : String} (has : HasField v name) :
    ∃ item, v.field name = .ok item ∧ cellAt v name = Csv.cellOf item := by
  rw [HasField] at has
  cases known : v.field name with
  | error fault =>
    rw [known] at has
    exact absurd has Bool.false_ne_true
  | ok item => exact ⟨item, rfl, by rw [cellAt, known]⟩

private theorem cells_eq {v : Value} (columns : ∀ entry ∈ findingFields, HasField v entry.2) :
    cells v findingFields = .ok (findingFields.map fun entry => cellAt v entry.2) := by
  apply mapM_eq_ok
  intro entry member
  obtain ⟨item, known, text⟩ := exists_field (columns entry member)
  change (v.field entry.2 >>= fun item => pure (Csv.cellOf item)) = _
  rw [known, ok_bind, text]
  rfl

private theorem rows_eq {counts : List (String × Value)} {findings : List Value}
    (record : IsRecord data counts findings) : rows data = .ok (tableRows data counts findings) := by
  have summary : (summaryFields.mapM fun entry => do return [entry.1, Csv.cellOf (← data.field entry.2)]) =
      Except.ok (summaryFields.map fun entry => [entry.1, cellAt data entry.2]) := by
    apply mapM_eq_ok
    intro entry member
    obtain ⟨item, known, text⟩ := exists_field (record.summary entry member)
    rw [known, ok_bind, text]
    rfl
  have listed : (findings.mapM fun finding => cells finding findingFields) =
      Except.ok (findings.map fun finding => findingFields.map fun entry => cellAt finding entry.2) :=
    mapM_eq_ok fun finding member => cells_eq (record.columns finding member)
  change (summaryFields.mapM (fun entry => do return [entry.1, Csv.cellOf (← data.field entry.2)]) >>= _) = _
  rw [summary, ok_bind, record.counted, ok_bind]
  change (data.field "findings" >>= _) = _
  rw [record.listed, ok_bind]
  change ((findings.mapM fun finding => cells finding findingFields) >>= _) = _
  rw [listed]
  rfl

private theorem hasField_findingOf (row : Row) : ∀ entry ∈ findingFields, HasField (findingOf row) entry.2 :=
  List.all_eq_true.mp (rfl : (findingFields.all fun entry => ((findingOf row).field entry.2).toBool) = true)

def countsOf (analysis : Row) : List (String × Value) :=
  ["critical", "high", "medium", "low", "info"].map fun severity => (severity, analysis.get (severity ++ "_count"))

/-- The fields of the record of stored rows, made at a time. -/
def recordFields (analysis : Row) (found : List Row) (metrics : Option Row) (created : Value) :
  List (String × Value) :=
  [("analysis_id", analysis.get "id")]
    ++ analysis.select ["filename", "language", "file_size", "status", "risk_score", "total_findings"]
    ++ [("severity_counts", .object (countsOf analysis)),
      ("analysis_duration_ms", analysis.get "analysis_duration_ms"), ("created_at", created),
      ("findings", .of (found.map findingOf)), ("code_metrics", .of (metrics.map metricsOf))]

private theorem exists_recordFields {analysis : Row} {found : List Row}
    (made : recordOf analysis found metrics = .ok data) :
    ∃ created, data = .object (recordFields analysis found metrics created) := by
  rw [recordOf] at made
  split at made
  · obtain ⟨created, _, made⟩ := bind_eq_ok.mp made
    cases made
    exact ⟨created, rfl⟩
  · cases made
    exact ⟨.null, rfl⟩

private theorem isRecord_recordOf {analysis : Row} {found : List Row}
    (made : recordOf analysis found metrics = .ok data) :
    IsRecord data (countsOf analysis) (found.map findingOf) := by
  obtain ⟨created, rfl⟩ := exists_recordFields made
  have same : Value.of (found.map findingOf) = .list (found.map findingOf) := by
    change Value.list (List.map id _) = _
    rw [List.map_id]
  refine ⟨List.all_eq_true.mp rfl, rfl, ?_, ?_⟩
  · change Except.ok (Value.of (found.map findingOf)) = _
    rw [same]
  · intro finding member
    obtain ⟨row, _, rfl⟩ := List.mem_map.mp member
    exact hasField_findingOf row

/-- A reader finds the rows of the table of every record, and what is exported of stored rows is a record. -/
theorem table_reads_back :
    (∀ data counts findings, IsRecord data counts findings →
      ∃ download, table data = .ok download ∧ Csv.read download.content = some (tableRows data counts findings)) ∧
    ∀ analysis found metrics data, recordOf analysis found metrics = .ok data →
      IsRecord data (countsOf analysis) (found.map findingOf) := by
  refine ⟨?_, fun _ _ _ _ made => isRecord_recordOf made⟩
  intro data counts findings record
  obtain ⟨name, known, _⟩ := exists_field (record.summary ("Filename", "filename") (by simp [summaryFields]))
  refine ⟨⟨"text/csv", name.display ++ "_analysis.csv", Csv.print (tableRows data counts findings)⟩, ?_, ?_⟩
  · rw [table, rows_eq record, ok_bind, known]
    rfl
  · simp only [Csv.read_print]

theorem table_reads_back_quoted :
    let analysis : Row := [("filename", .text "a,\"b\".sol"), ("critical_count", .int 1)]
    let finding : Row := [("title", .text "one\r\ntwo"), ("line_number", .int 3)]
    ∃ data, recordOf analysis [finding] none = .ok data ∧
      ∃ download, table data = .ok download ∧
        Csv.read download.content = some (tableRows data (countsOf analysis) [findingOf finding]) := by
  intro analysis finding
  have made : ∃ data, recordOf analysis [finding] none = .ok data := ⟨_, rfl⟩
  obtain ⟨data, made⟩ := made
  exact ⟨data, made, table_reads_back.1 _ _ _ (table_reads_back.2 analysis [finding] none data made)⟩

end ContractLint.Service.Export
