import ContractLint.Proofs.Document.Json
import ContractLint.Proofs.Outcome
import ContractLint.Proofs.Timestamp
import ContractLint.Report.Format

/-! # Findings in a JSON report

The document of a finding holds all of it: a finding that has what every finding is made with, an identifier, a place
and a time, is read back as it was (`ofValue_toValue`).

A report with snippets holds the documents of its findings, whose snippets have been shortened (`findingValue_eq`), and
its text is read back as the document that was written, since all names in it are different.
-/

namespace ContractLint

open List Outcome

variable {f : Finding}

namespace Value

private theorem asText?_ofText? (s : Option String) : (ofText? s).asText? = .ok s := by
  cases s <;> rfl

theorem truthy_text {s : String} (some : s ≠ "") : (text s).truthy = true := bne_iff_ne.mpr some

end Value

private theorem Severity.ofValue_name (severity : Severity) :
    Severity.ofValue (.text severity.name) = .ok severity := by
  cases severity <;> rfl

namespace Finding

/-- What every finding is made with. Only times without an offset are known to be read back. -/
structure Complete (f : Finding) : Prop where
  id : f.id ≠ ""
  location : ∃ place, f.location = some place
  references : f.references ≠ .null
  metadata : f.metadata ≠ .null
  timestamp : ∃ t, f.timestamp = some t ∧ t.Naive

private theorem locationOf_toValue (place : Location) : locationOf place.toValue = .ok place := by
  obtain ⟨file, lineStart, lineEnd, columnStart, columnEnd⟩ := place
  cases lineEnd <;> cases columnStart <;> cases columnEnd <;> rfl

private theorem orElse_of_ne {v : Value} (some : v ≠ .null) (default : Value) : orElse v default = v := by
  cases v with
  | null => contradiction
  | _ => rfl

private theorem timestampOf_toValue {t : Timestamp} (timed : f.timestamp = some t) (naive : t.Naive)
    (clock : Timestamp) : timestampOf (f.toValue clock) = .ok (some t) := by
  have written : (f.toValue clock).get "timestamp" = .ok (.text t.text) := by
    rw [toValue, timed]
    rfl
  have some : t.text ≠ "" := by
    intro none
    have read := Timestamp.parse_text naive
    rw [none] at read
    cases read
  have read : Option.some <$> Timestamp.parse t.text = .ok (Option.some t) := by
    rw [Timestamp.parse_text naive]
    rfl
  rw [timestampOf, written, ok_bind, if_pos (Value.truthy_text some)]
  exact read

/-- A finding is read back from its document. -/
theorem ofValue_toValue (complete : Complete f) (clock : Timestamp) : ofValue (f.toValue clock) = .ok f := by
  obtain ⟨place, located⟩ := complete.location
  obtain ⟨t, timed, naive⟩ := complete.timestamp
  have position : (f.toValue clock).field "location" = .ok place.toValue := by
    rw [toValue, toFields, located]
    rfl
  have id : (f.toValue clock).field "finding_id" = .ok (.text f.id) := rfl
  have title : (f.toValue clock).field "title" = .ok (.text f.title) := rfl
  have description : (f.toValue clock).field "description" = .ok (.text f.description) := rfl
  have severity : (f.toValue clock).field "severity" = .ok (.text f.severity.name) := rfl
  have kind : (f.toValue clock).field "vulnerability_type" = .ok (.text f.kind) := rfl
  have confidence : (f.toValue clock).getOr "confidence" (.real 1.0) = .ok f.confidence := rfl
  have snippet : (f.toValue clock).get "code_snippet" = .ok (.ofText? f.snippet) := rfl
  have recommendation : (f.toValue clock).get "recommendation" = .ok (.ofText? f.recommendation) := rfl
  have references : (f.toValue clock).getOr "references" (.list []) = .ok f.references := rfl
  have metadata : (f.toValue clock).getOr "metadata" (.object []) = .ok f.metadata := rfl
  have detector : (f.toValue clock).getOr "detector_name" (.text "unknown") = .ok (.text f.detector) := rfl
  have text (s : String) : (Value.text s).asText = .ok s := rfl
  rw [ofValue, position, ok_bind, locationOf_toValue, ok_bind, timestampOf_toValue timed naive, ok_bind]
  simp only [id, title, description, severity, kind, confidence, snippet, recommendation, references, metadata,
    detector, text, ok_bind, Severity.ofValue_name, Value.asText?_ofText?, Value.truthy_text complete.id,
    orElse_of_ne complete.references, orElse_of_ne complete.metadata, if_true]
  rw [← located, ← timed, identified, if_neg complete.id]
  rfl

/-! ## Documents that are read back from their text -/

open Document.Json

private theorem legible_ofText? (s : Option String) : Legible (.ofText? s) := by
  cases s <;> trivial

private theorem legible_ofInt? (n : Option Int) : Legible (.ofInt? n) := by
  cases n <;> trivial

/-- The parts of a finding that may be any document are legible. -/
structure Readable (f : Finding) : Prop where
  confidence : Legible f.confidence
  references : Legible f.references
  metadata : Legible f.metadata

private theorem legible_toValue (located : ∃ place, f.location = some place) (readable : Readable f)
    (clock : Timestamp) : Legible (f.toValue clock) := by
  obtain ⟨place, located⟩ := located
  have position : Legible place.toValue :=
    ⟨by simp, trivial, trivial, legible_ofInt? _, legible_ofInt? _, legible_ofInt? _, trivial⟩
  rw [toValue, toFields, located]
  exact ⟨by simp, trivial, trivial, trivial, trivial, position, trivial, readable.confidence, legible_ofText? _,
    legible_ofText? _, readable.references, readable.metadata, trivial, trivial, trivial⟩

end Finding

end ContractLint

namespace ContractLint.Report

open List Outcome Document.Json

/-! ## Names in the summary -/

private theorem mem_bump {counts : List (String × Nat)} {name other : String}
    (member : other ∈ (bump counts name).map Prod.fst) : other = name ∨ other ∈ counts.map Prod.fst := by
  induction counts with
  | nil => exact .inl (by simpa [bump] using member)
  | cons entry rest ih =>
    obtain ⟨first, count⟩ := entry
    rw [bump] at member
    split at member
    next same =>
      subst same
      exact .inr member
    next =>
      obtain rfl | later := mem_cons.mp member
      · exact .inr mem_cons_self
      · exact (ih later).imp_right (mem_cons_of_mem _)

private theorem bump_nodup {counts : List (String × Nat)} (nodup : (counts.map Prod.fst).Nodup) (name : String) :
    ((bump counts name).map Prod.fst).Nodup := by
  induction counts with
  | nil => simp [bump]
  | cons entry rest ih =>
    obtain ⟨first, count⟩ := entry
    rw [map_cons, nodup_cons] at nodup
    rw [bump]
    split
    next same =>
      subst same
      exact nodup_cons.mpr nodup
    next other =>
      refine nodup_cons.mpr ⟨fun member => ?_, ih nodup.2⟩
      exact (mem_bump member).elim other nodup.1

private theorem counts_nodup (names : List String) : ((counts names).map Prod.fst).Nodup := by
  have all (done : List (String × Nat)) (nodup : (done.map Prod.fst).Nodup) :
      ((names.foldl bump done).map Prod.fst).Nodup := by
    induction names generalizing done with
    | nil => exact nodup
    | cons name rest ih => exact ih _ (bump_nodup nodup name)
  exact all [] nodup_nil

private theorem legible_countsValue {list : List (String × Nat)} (nodup : (list.map Prod.fst).Nodup) :
    Legible (Summary.countsValue list) := by
  refine ⟨?_, (legibleFields_iff _).mpr ?_⟩
  · rw [map_map]
    exact nodup
  · exact forall_mem_map.mpr fun _ _ => trivial

private theorem legible_summary (entries : List Entry) (clock : Timestamp) :
    Legible (.object ((summary entries).toFields ++ [("timestamp", .text clock.text)])) := by
  have severities : (((summary entries).severities.map fun item => (item.1.name, item.2)).map Prod.fst).Nodup := by
    rw [summary, map_map, map_map]
    exact (by decide : (Severity.all.map Severity.name).Nodup)
  exact ⟨by simp [Summary.toFields], trivial, legible_countsValue severities, legible_countsValue (counts_nodup _),
    legible_countsValue (counts_nodup _), legible_countsValue (counts_nodup _), trivial, trivial, trivial⟩

/-! ## Findings -/

/-- A finding whose snippet has been cut off after a number of lines, if it has more of them. -/
def shortened (limit : Int) (f : Finding) : Finding :=
  { f with snippet := f.snippet.map fun s =>
    if (Text.splitNewlines s).length ≤ limit then s else truncatedTo limit s }

private theorem shortened_complete (complete : f.Complete) (limit : Int) : (shortened limit f).Complete :=
  ⟨complete.id, complete.location, complete.references, complete.metadata, complete.timestamp⟩

private theorem shortened_readable (readable : f.Readable) (limit : Int) : (shortened limit f).Readable :=
  ⟨readable.confidence, readable.references, readable.metadata⟩

private theorem truncatedTo_of_short {limit : Int} {s : String} (short : (Text.splitNewlines s).length ≤ limit) :
    truncatedTo limit s = s := if_pos (.inr short)

def reportedFindings (document : Value) : Outcome (List Finding) := do
  (← (← document.field "findings").elements).mapM Finding.ofValue

variable {output : OutputSettings} {limit : Int}

section Shown

variable (shown : output.includeSnippets.truthy) (lines : output.maxSnippetLines = .int limit)

include shown lines

private theorem snippet_eq (f : Finding) : Json.snippet output f = .ok (.ofText? (shortened limit f).snippet) := by
  rw [Json.snippet, shortened]
  cases f.snippet with
  | none => rfl
  | some s =>
    have cut : (if (Text.splitNewlines s).length ≤ limit then s else truncatedTo limit s) = truncatedTo limit s := by
      split
      next short => rw [truncatedTo_of_short short]
      next => rfl
    rw [Option.map_some, cut]
    by_cases empty : s = ""
    · subst empty
      rfl
    · simp only [truncated_of_int lines, shown, if_true]
      rfl

/-- A finding is printed with its excerpt shortened. -/
theorem findingValue_eq (clock : Timestamp) (e : Entry) :
    Json.findingValue output clock e = .ok ((shortened limit e.finding).toValue clock) := by
  rw [Json.findingValue, snippet_eq shown lines, ok_bind]
  rfl

end Shown

/-- The entry of a finding whose place is known. -/
def entryAt (f : Finding) : Entry := ⟨f, f.location.getD default⟩

/-- A finding with a place makes an entry. -/
theorem entryOf_eq (located : ∃ place, f.location = some place) : entryOf f = .ok (entryAt f) := by
  obtain ⟨place, located⟩ := located
  rw [entryOf, entryAt, located]
  rfl

/-- What a report is made of. -/
theorem exists_document {clock : Timestamp} {entries : List Entry} {values : List Value}
    (made : entries.mapM (Json.findingValue output clock) = .ok values) :
    ∃ document, Json.document output clock entries = .ok document ∧
      document.field "findings" = .ok (.list values) ∧
      (Legible output.includeSnippets → Legible output.maxSnippetLines → (∀ v ∈ values, Legible v) →
        Legible document) := by
  refine ⟨_, by rw [Json.document, made]; rfl, rfl, fun snippets limit all => ?_⟩
  exact ⟨by simp, trivial, trivial, trivial, legible_summary entries clock, (legibleItems_iff values).mpr all,
    ⟨by simp, trivial, trivial, ⟨by simp, snippets, limit, trivial⟩, trivial⟩, trivial⟩

/-- A report with snippets lists its findings in order, with snippets up to the limit of lines, and its text is read
back as the document that was written. -/
theorem findings_read_back (shown : output.includeSnippets.truthy) (lines : output.maxSnippetLines = .int limit)
    (clock : Timestamp) {findings : List Finding} (complete : ∀ f ∈ findings, f.Complete) :
    ∃ document, Format.json.render output clock findings = .ok (indented document) ∧
      reportedFindings document = .ok (findings.map (shortened limit)) ∧
      (Legible output.includeSnippets → (∀ f ∈ findings, f.Readable) →
        parse? (indented document) = some document) := by
  have entries : findings.mapM entryOf = .ok (findings.map entryAt) :=
    mapM_eq_ok fun f member => entryOf_eq (complete f member).location
  have values : (findings.map entryAt).mapM (Json.findingValue output clock) =
      .ok (findings.map fun f => (shortened limit f).toValue clock) := by
    rw [mapM_eq_ok fun e _ => findingValue_eq shown lines clock e, map_map]
    rfl
  obtain ⟨document, written, listed, legible⟩ := exists_document values
  refine ⟨document, ?_, ?_, ?_⟩
  · rw [Format.render, entries, ok_bind, Json.render, written]
    rfl
  · rw [reportedFindings, listed, ok_bind, Value.elements, pure_bind, mapM_map]
    exact mapM_eq_ok fun f member => Finding.ofValue_toValue (shortened_complete (complete f member) limit) clock
  · intro snippets readable
    refine parse?_indented (legible snippets (by rw [lines]; trivial) (forall_mem_map.mpr fun f member => ?_))
    have full := shortened_complete (complete f member) limit
    exact Finding.legible_toValue full.location (shortened_readable (readable f member) limit) clock

def twoLines : Finding :=
  { (default : Finding) with
    id := "f"
    location := some (.line "a.sol" 1)
    confidence := .real 0.9
    snippet := some "a\nb"
    references := .list [.text "r"]
    metadata := .object [("k", .int 2)]
    timestamp := some ⟨2024, 2, 29, 3, 4, 5, 6, none⟩ }

def oneLine : Finding :=
  { twoLines with
    id := "g"
    severity := .low
    location := some (.line "b.sol" 7)
    confidence := .int 1
    snippet := some "c" }

/-- Of two findings, one with a double, the longer snippet is shortened; all else is read back. -/
theorem findings_read_back_twoLines :
    ∃ document,
      Format.json.render { maxSnippetLines := .int 1 } default [twoLines, oneLine] = .ok (indented document) ∧
      reportedFindings document = .ok [{ twoLines with snippet := some "a\n... (1 more lines)" }, oneLine] ∧
      parse? (indented document) = some document := by
  have naive : (⟨2024, 2, 29, 3, 4, 5, 6, none⟩ : Timestamp).Naive :=
    ⟨by decide, by decide, by decide, by decide, by decide, by decide, by decide, rfl⟩
  have complete : ∀ f ∈ [twoLines, oneLine], f.Complete := by
    refine forall_mem_cons.mpr ⟨?_, forall_mem_singleton.mpr ?_⟩
    · exact ⟨by decide, ⟨_, rfl⟩, by simp [twoLines], by simp [twoLines], _, rfl, naive⟩
    · exact ⟨by decide, ⟨_, rfl⟩, by simp [oneLine, twoLines], by simp [oneLine, twoLines], _, rfl, naive⟩
  have readable : ∀ f ∈ [twoLines, oneLine], f.Readable :=
    forall_mem_cons.mpr ⟨⟨rfl, ⟨trivial, trivial⟩, by simp, trivial, trivial⟩,
      forall_mem_singleton.mpr ⟨trivial, ⟨trivial, trivial⟩, by simp, trivial, trivial⟩⟩
  have lines : ({ maxSnippetLines := .int 1 } : OutputSettings).maxSnippetLines = .int 1 := rfl
  obtain ⟨document, made, listed, read⟩ := findings_read_back rfl lines default complete
  refine ⟨document, made, ?_, read trivial readable⟩
  rw [listed]
  rfl

end ContractLint.Report
