import ContractLint.Proofs.Service.Storage

/-! # The record of an upload

The findings in an uploaded file are saved as rows, one for each, and counted by severity. A row is made from the
document of a finding, which does not tell the category, so the finding is looked for by the position of its document
among all. Documents have identifiers of their own. Hence the search ends where it should, also if findings are equal,
and the rows match the findings in order (`rows_match_findings`).
-/

namespace ContractLint

open List

/-! ## Findings counted by severity -/

namespace Scan

namespace Tally

/-- The number of findings of a severity. -/
def count (tally : Tally) : Severity → Nat
  | .critical => tally.critical
  | .high => tally.high
  | .medium => tally.medium
  | .low => tally.low
  | .info => tally.info

/-- The number of all findings. -/
def total (tally : Tally) : Nat := tally.critical + tally.high + tally.medium + tally.low + tally.info

theorem eq_of_count {tally other : Tally} (same : ∀ severity, tally.count severity = other.count severity) :
    tally = other := by
  cases tally
  cases other
  rw [mk.injEq]
  exact ⟨same .critical, same .high, same .medium, same .low, same .info⟩

private theorem count_add (tally : Tally) (severity other : Severity) :
    (tally.add severity).count other = tally.count other + if severity == other then 1 else 0 := by
  cases severity <;> cases other <;> rfl

private theorem total_add (tally : Tally) (severity : Severity) : (tally.add severity).total = tally.total + 1 := by
  cases severity <;> simp only [add, total] <;> omega

end Tally

private theorem count_tally (findings : List Finding) (severity : Severity) :
    (tally findings).count severity = findings.countP fun f => f.severity == severity := by
  have loop (findings : List Finding) (start : Tally) :
      (findings.foldl (fun tally f => tally.add f.severity) start).count severity =
        start.count severity + findings.countP fun f => f.severity == severity := by
    induction findings generalizing start with
    | nil => rfl
    | cons f rest ih =>
      rw [foldl_cons, ih, Tally.count_add, countP_cons]
      omega
  refine (loop findings {}).trans ?_
  cases severity <;> exact Nat.zero_add _

/-- A tally counts every finding. -/
theorem total_tally (findings : List Finding) : (tally findings).total = findings.length := by
  have loop (findings : List Finding) (start : Tally) :
      (findings.foldl (fun tally f => tally.add f.severity) start).total = start.total + findings.length := by
    induction findings generalizing start with
    | nil => rfl
    | cons f rest ih =>
      rw [foldl_cons, ih, Tally.total_add, length_cons]
      omega
  exact (loop findings {}).trans (Nat.zero_add _)

end Scan

namespace Service

open Scan (Tally tally)

private theorem name_injective {severity other : Severity} (same : severity.name = other.name) : severity = other := by
  cases severity <;> cases other <;> first | rfl | exact absurd same (by decide)

private theorem names_severity (id : String) (f : Scan.Finding) (severity : Severity) :
    (Row.get (findingDocument id f).parts "severity").isText severity.name = (f.severity == severity) := by
  have told : Row.get (findingDocument id f).parts "severity" = .text f.severity.name := rfl
  rw [told, Bool.eq_iff_iff, beq_iff_eq, Value.isText, beq_iff_eq]
  exact ⟨name_injective, congrArg Severity.name⟩

private theorem countNaming_documentsFrom (issued : Nat) (findings : List Scan.Finding) (severity : Severity) :
    countNaming (documentsFrom issued findings) severity.name = findings.countP fun f => f.severity == severity := by
  rw [countNaming, ← countP_eq_length_filter, documentsFrom, countP_map]
  simp only [Function.comp_def, names_severity]
  have same := countP_map (p := fun f : Scan.Finding => f.severity == severity) (f := Prod.fst)
    (l := findings.zipIdx (issued + 1))
  rw [zipIdx_map_fst] at same
  exact same.symm

/-- Documents counted by the severity that they name give the numbers of the findings counted one by one. -/
theorem severitiesOf_documentsFrom (issued : Nat) (findings : List Scan.Finding) :
    severitiesOf (documentsFrom issued findings) = tally findings := by
  refine Tally.eq_of_count fun severity => ?_
  rw [Scan.count_tally, ← countNaming_documentsFrom issued]
  cases severity <;> rfl

/-! ## The finding of a document -/

/-- Documents that are equal have the same identifier, whatever else they tell. -/
theorem id_of_same {id other : String} {f g : Scan.Finding}
    (same : (findingDocument id f).same (findingDocument other g)) : id = other := by
  have compared : (findingDocument id f).same (findingDocument other g) = true := same
  unfold findingDocument at compared
  rw [Value.same, Bool.and_eq_true, Value.sameFields, Bool.and_eq_true] at compared
  exact beq_iff_eq.mp compared.2.1

section

variable (issued : Nat) {findings : List Scan.Finding} {position : Nat} {f : Scan.Finding}
  (known : findings[position]? = some f)

include known

/-- The documents are numbered on from what was issued. -/
theorem documentsFrom_getElem? :
    (documentsFrom issued findings)[position]? = some (findingDocument (identifier (issued + 1 + position)) f) := by
  simp [documentsFrom, known]

/-- A document is found at its own position, because no other one has its identifier. -/
theorem positionOf_documentsFrom :
    positionOf (documentsFrom issued findings) position (findingDocument (identifier (issued + 1 + position)) f) =
      position := by
  have inside := (List.getElem?_eq_some_iff.mp known).1
  refine Nat.le_antisymm (positionOf_le ..) (le_findIdx_of_not ?_ fun earlier before => ?_)
  · simpa [length_documentsFrom] using inside
  · have other := documentsFrom_getElem? issued (getElem?_eq_getElem (Nat.lt_trans before inside))
    obtain ⟨_, other⟩ := List.getElem?_eq_some_iff.mp other
    rw [getElem_zipIdx, other, Bool.or_eq_false_iff, Nat.zero_add]
    refine ⟨beq_false_of_ne (Nat.ne_of_lt before), Bool.eq_false_iff.mpr fun same => ?_⟩
    have numbers := identifier_injective (id_of_same same)
    omega

/-- So the category of a document is that of its finding. -/
theorem categoryOf_documentsFrom :
    categoryOf findings (documentsFrom issued findings) position
      (findingDocument (identifier (issued + 1 + position)) f) = .ok f.category := by
  rw [categoryOf, positionOf_documentsFrom issued known, known]
  rfl

end

/-! ## Rows and numbers -/

/-- A row of the analysis carries what a finding tells, and its category. -/
structure Carries (id : String) (f : Scan.Finding) (row : Row) : Prop where
  analysis : row.get "analysis_id" = .text id
  detector : row.get "detector_name" = f.detector
  severity : row.get "severity" = .text f.severity.name
  category : row.get "category" = f.category
  title : row.get "title" = f.title
  line : row.get "line_number" = f.line

def categoryAt (findings : List Scan.Finding) (position : Nat) : Value :=
  (findings[position]?.map Scan.Finding.category).getD .null

/-- The rows of findings whose documents follow the identifiers issued before. -/
def rowsFrom (id : String) (issued : Nat) (findings : List Scan.Finding) : List Row :=
  (documentsFrom issued findings).zipIdx.map fun entry => findingRow id entry.1.parts (categoryAt findings entry.2)

private theorem rowsFrom_carry (id : String) (issued : Nat) (findings : List Scan.Finding) :
    List.Forall₂ (Carries id) findings (rowsFrom id issued findings) := by
  rw [forall₂_iff_get]
  refine ⟨by simp [rowsFrom, length_documentsFrom], ?_⟩
  intro position inside _
  have known := getElem?_eq_getElem inside
  obtain ⟨_, document⟩ := List.getElem?_eq_some_iff.mp (documentsFrom_getElem? issued known)
  have row : (rowsFrom id issued findings)[position]? = some (findingRow id
      (findingDocument (identifier (issued + 1 + position)) findings[position]).parts findings[position].category) := by
    simp [rowsFrom, categoryAt, documentsFrom_getElem? issued known, known]
  obtain ⟨_, row⟩ := List.getElem?_eq_some_iff.mp row
  rw [get_eq_getElem, get_eq_getElem, row]
  exact ⟨rfl, rfl, rfl, rfl, rfl, rfl⟩

/-- Some fields tell the numbers of findings by severity, and the number of all, which is their sum. -/
structure Tells (findings : List Scan.Finding) (fields : Row) : Prop where
  counts : .object (fields.select ["critical_count", "high_count", "medium_count", "low_count", "info_count"]) =
    Scan.severityCounts findings
  total : fields.get "total_findings" = .int (tally findings).total

/-- What a reliable database and the service keep of an analysis with some findings. -/
structure Recorded (id : String) (findings : List Scan.Finding) (answer : Value) (s : State) (j : Journal) (t : State)
    (k : Journal) : Prop where
  rows : ∃ record rows metrics, k.saved = j.saved ++
      tabled .analysis record :: rows.map (tabled .finding) ++ [tabled .metrics metrics, .text "commit"] ∧
    List.Forall₂ (Carries id) findings rows ∧ Tells findings record
  remembered : t.results = (id, answer) :: s.results
  told : ∃ metadata, answer.field "metadata" = .ok (.object metadata) ∧ Tells findings metadata

private theorem Recorded.within {id : String} {findings : List Scan.Finding} {answer : Value} {s₀ s t t' : State}
    {j₀ j k k' : Journal} (start : Untouched s₀ j₀ s j) (recorded : Recorded id findings answer s j t k)
    (finish : Untouched t k t' k') : Recorded id findings answer s₀ j₀ t' k' := by
  refine ⟨?_, ?_, recorded.told⟩
  · rw [finish.saved, ← start.saved]
    exact recorded.rows
  · rw [finish.results, ← start.results]
    exact recorded.remembered

namespace Upload

variable (u : Upload) (issued : Nat) (findings : List Scan.Finding)

private theorem tells_analysisRow : Tells findings (u.analysisRow findings (documentsFrom issued findings)) := by
  rw [analysisRow, severitiesOf_documentsFrom, length_documentsFrom, ← Scan.total_tally]
  exact ⟨rfl, rfl⟩

private theorem tells_response (time : Value) :
    ∃ metadata, (u.response findings (documentsFrom issued findings) time).field "metadata" =
      .ok (.object metadata) ∧
      Tells findings metadata := by
  rw [response, severitiesOf_documentsFrom, length_documentsFrom, ← Scan.total_tally]
  exact ⟨_, rfl, rfl, rfl⟩

/-- An analysis is recorded with the findings that the analyzer returns, whatever they are. -/
theorem study_records {analyzer : Scan.Analyzer} {setting : Setting} (reliable : setting.database.Reliable)
    {s t : State} {j k : Journal} {found : List Scan.Finding × Value}
    (done : u.study analyzer setting s j = (.ok found, t, k)) :
    (analyzer.analyze (.text u.filename) (.text u.text) setting.around j.trace).1 = .ok found.1 ∧
      Recorded u.id found.1 found.2 s j t k := by
  obtain ⟨s₁, j₁, s₂, j₂, time, analysed, before, stored, same, rfl, saved⟩ := u.study_cases done
  have known : ∀ entry ∈ (documentsFrom s₁.issued found.1).zipIdx,
      categoryOf found.1 (documentsFrom s₁.issued found.1) entry.2 entry.1 = .ok (categoryAt found.1 entry.2) := by
    intro entry member
    have document := mk_mem_zipIdx_iff_getElem?.mp member
    have inside : entry.2 < found.1.length := length_documentsFrom s₁.issued found.1 ▸ snd_lt_of_mem_zipIdx member
    have finding := getElem?_eq_getElem inside
    rw [documentsFrom_getElem? s₁.issued finding] at document
    rw [← Option.some.inj document, categoryOf_documentsFrom s₁.issued finding, categoryAt, finding]
    rfl
  obtain ⟨trace, run⟩ := u.store_run found.1 _ reliable known
    { s₁ with issued := s₁.issued + found.1.length } j₁
  rw [run] at stored
  cases stored
  refine ⟨analysed, ⟨u.analysisRow found.1 (documentsFrom s₁.issued found.1), rowsFrom u.id s₁.issued found.1,
    u.metricsRow, ?_, rowsFrom_carry .., ?_⟩, ?_, ?_⟩
  · rw [saved, ← before.saved, rowsFrom, map_map]
    rfl
  · exact u.tells_analysisRow s₁.issued found.1
  · exact congrArg ((u.id, _) :: ·) before.results
  · rw [same]
    exact u.tells_response s₁.issued found.1 time

end Upload

/-- If the database is reliable, the rows of an accepted upload of which all connections hear match the findings that
the analyzer returns, one to one and in order, also where findings are equal. The record and the answer tell how many
there are of each severity. The answer is remembered, and given unless a connection breaks at the end. -/
theorem rows_match_findings {filename : Value} {content : Content} (accepted : Accepted filename content)
    {setting : Setting} (reliable : setting.database.Reliable) {s : State} (hears : ¬Overrun s) (j : Journal) :
    let run := analyzeUpload filename content setting s j
    ∃ u analyzer line findings answer, Upload.Admits u analyzer (identifier (s.issued + 1)) filename content ∧
      (analyzer.analyze (.text u.filename) (.text u.text) setting.around
        { j.trace with printed := j.trace.printed ++ [line] }).1 = .ok findings ∧
      Recorded u.id findings answer s j run.2.1 run.2.2 ∧ (tally findings).total = findings.length ∧
      (AllHear s → run.1 = .ok answer) := by
  obtain ⟨_, _, early⟩ | ⟨_, u, analyzer, found, studied⟩ := analyzeUpload_studies filename content setting s j
  · exact absurd (overrun_iff.mpr (early accepted)) hears
  obtain ⟨line, s₀, j₀, t, k, told, start, done, finish⟩ := studied.studies
  obtain ⟨analysed, recorded⟩ := u.study_records reliable done
  rw [told] at analysed
  have before := untouched_isFrame.trans (issue_untouched s j) start
  refine ⟨u, analyzer, line, found.1, found.2, studied.admits, analysed, recorded.within before finish,
    Scan.total_tally found.1, ?_⟩
  intro all
  obtain ⟨between, first, outcome⟩ := studied.outcome
  obtain ⟨rest, heard, _⟩ | ⟨name, member, limit, limited, less, _⟩ := heard_twice s.connections s.limits
  · rw [first] at heard
    rw [outcome, show Service.heard s.connections between = .ok rest from heard]
    rfl
  · have enough := all name member limit limited
    omega

private theorem reliable_default (around : Scan.Surroundings) :
    Database.Reliable (Setting.database ⟨around, default, default⟩) := fun _ => rfl

/-- A linter that reports the same problem twice. -/
def repeating : Scan.Surroundings :=
  { (default : Scan.Surroundings) with
    tools := [("gosec", .ended ⟨"Severity: HIGH\nSeverity: HIGH", "", .int 1⟩)] }

private theorem gosec_repeating (filename text : String) (trace : Scan.Trace) :
    ∃ issue, (Scan.Analyzer.go.analyze (.text filename) (.text text) repeating trace).1 =
      .ok (Scan.Analyzer.go.ruleFindings text ++ [issue, issue]) := by
  have lines : (Text.lines "Severity: HIGH\nSeverity: HIGH").filter (fun line => Text.contains line "Severity:") =
    ["Severity: HIGH", "Severity: HIGH"] := by decide +kernel
  have step : (Scan.Analyzer.go.analyze (.text filename) (.text text) repeating trace).1 = .ok
    (Scan.Analyzer.go.ruleFindings text ++ (Scan.Lint.gosecFindings "Severity: HIGH\nSeverity: HIGH" ++ [])) := rfl
  rw [Scan.Lint.gosecFindings, lines] at step
  exact ⟨_, step⟩

/-- Two equal findings have two rows. -/
theorem rows_match_findings_sample :
    Accepted (.text "x.go") (.text "panic(0)") ∧
    let run := analyzeUpload (.text "x.go") (.text "panic(0)") ⟨repeating, default, default⟩ {} {}
    ∃ u line before issue answer,
      let findings := before ++ [issue, issue]
      Upload.Admits u .go (identifier 1) (.text "x.go") (.text "panic(0)") ∧
      (Scan.Analyzer.go.analyze (.text u.filename) (.text u.text) repeating { printed := [line] }).1 = .ok findings ∧
      Recorded u.id findings answer {} {} run.2.1 run.2.2 ∧ (tally findings).total = findings.length ∧
      run.1 = .ok answer := by
  have accepted : Accepted (.text "x.go") (.text "panic(0)") :=
    ⟨"x.go", "panic(0)", ⟨rfl, by decide⟩, by decide +kernel, ⟨by decide, rfl, by decide, by decide⟩⟩
  have hears : ¬Overrun {} := by
    rintro ⟨name, member, _⟩
    exact absurd member not_mem_nil
  obtain ⟨u, analyzer, line, findings, answer, admits, analysed, recorded, total, given⟩ :=
    rows_match_findings accepted (reliable_default repeating) hears {}
  have named : u.filename = "x.go" := admits.name.unique ⟨rfl, by decide⟩
  have chosen : analyzerFor? "x.go" = some .go := by decide +kernel
  obtain rfl : analyzer = .go := Option.some.inj ((named ▸ admits.analyzer).symm.trans chosen)
  obtain ⟨issue, twice⟩ := gosec_repeating u.filename u.text { printed := [line] }
  obtain rfl : findings = _ := Except.ok.inj (analysed.symm.trans twice)
  exact ⟨accepted, u, line, _, issue, answer, admits, analysed, recorded, total,
    given fun name member => absurd member not_mem_nil⟩

end Service

end ContractLint
