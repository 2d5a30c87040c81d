import Mathlib.Data.List.Nodup
import ContractLint.Proofs.Entries
import ContractLint.Proofs.Report.Region

/-! # References from results to rules

A document has one rule for each class of weakness and one result for each finding. A result gives the name of its
rule and the place of the rule in the list of rules, which is always the first. So the two agree in all results
exactly if all findings are of one class, in whatever order the rules stand (`references_agree_iff`).
-/

namespace ContractLint.Report.Sarif

open List Outcome

variable {output : OutputSettings} {findings : List Finding} {limit : Int}

/-! ## Parts of a document -/

def soleRun (document : Value) : Outcome Value := do (← document.field "runs").itemAt 0

def writtenRules (document : Value) : Outcome (List Value) := do
  let tool ← (← soleRun document).field "tool"
  (← (← tool.field "driver").field "rules").elements

def writtenResults (document : Value) : Outcome (List Value) := do
  (← (← soleRun document).field "results").elements

/-- A result is the one of a finding: it gives its class, its description, its severity and its place. -/
structure Presents (e : Entry) (result : Value) : Prop where
  rule : result.field "ruleId" = .ok (.text e.finding.kind)
  description : (result.field "message" >>= (·.field "text")) = .ok (.text e.finding.description)
  level : result.field "level" = .ok (.text (level e.finding.severity))
  place : writtenRegion result = .ok (region e.place)

/-- The rule at the index that a result gives has the name that the result gives. -/
def Agrees (rules : List Value) (result : Value) : Prop :=
  ∃ (index : Nat) (rule name : Value), result.field "ruleIndex" = .ok (.int index) ∧ rules[index]? = some rule ∧
    rule.field "id" = .ok name ∧ result.field "ruleId" = .ok name

/-! ## Rules -/

private theorem kinds_nodup (findings : List Finding) : (kinds findings).Nodup :=
  (mergeSort_perm _ _).nodup_iff.mpr (nodup_eraseDups _)

theorem mem_kinds {kind : String} : kind ∈ kinds findings ↔ ∃ f ∈ findings, f.kind = kind := by
  rw [kinds, mem_mergeSort, mem_eraseDups, mem_map]

/-- The findings that describe the rules, one for each class. -/
def representatives (findings : List Finding) : List Finding :=
  (kinds findings).filterMap fun kind => findings.find? fun f => f.kind = kind

private theorem map_filterMap_of_section {α β : Type} {f : α → Option β} {g : β → α} {xs : List α}
    (each : ∀ x ∈ xs, ∃ y, f x = some y ∧ g y = x) : (xs.filterMap f).map g = xs := by
  induction xs with
  | nil => rfl
  | cons x xs ih =>
    obtain ⟨⟨y, found, same⟩, others⟩ := forall_mem_cons.mp each
    rw [filterMap_cons_some found, map_cons, same, ih others]

private theorem kind_representatives (findings : List Finding) :
    (representatives findings).map Finding.kind = kinds findings := by
  refine map_filterMap_of_section fun kind member => ?_
  obtain ⟨f, inside, same⟩ := mem_kinds.mp member
  have present : (findings.find? fun f => f.kind = kind).isSome :=
    find?_isSome.mpr ⟨f, inside, decide_eq_true same⟩
  obtain ⟨first, found⟩ := Option.isSome_iff_exists.mp present
  have named := find?_some found
  exact ⟨first, found, of_decide_eq_true named⟩

private theorem mem_of_representatives {f : Finding} (member : f ∈ representatives findings) : f ∈ findings := by
  obtain ⟨kind, _, found⟩ := mem_filterMap.mp member
  exact mem_of_find?_eq_some found

/-- A finding whose references are a list describes a rule, which has the name of its class. -/
theorem exists_rule {f : Finding} {links : List Value} (listed : f.references = .list links) :
    ∃ document, rule f = .ok document ∧ document.field "id" = .ok (.text f.kind) := by
  rw [rule, listed]
  cases links with
  | nil => exact ⟨_, rfl, rfl⟩
  | cons link links => cases link <;> exact ⟨_, rfl, rfl⟩

private theorem exists_rules (listed : ∀ f ∈ findings, ∃ links, f.references = .list links) :
    ∃ written, rules findings = .ok written ∧
      List.Forall₂ (fun name rule => rule.field "id" = .ok (.text name)) (kinds findings) written := by
  have each : ∀ f ∈ representatives findings,
      ∃ document, rule f = .ok document ∧ document.field "id" = .ok (.text f.kind) := by
    intro f member
    obtain ⟨links, known⟩ := listed f (mem_of_representatives member)
    exact exists_rule known
  obtain ⟨written, done, named⟩ := exists_forall₂_mapM each
  refine ⟨written, done, ?_⟩
  rw [← kind_representatives, forall₂_map_left_iff]
  exact named

/-! ## Results -/

private theorem exists_context (lines : output.maxSnippetLines = .int limit)
    (f : Finding) : ∃ shown, context output f = .ok shown := by
  unfold context
  split
  · split
    · rw [truncated_of_int lines]
      exact ⟨_, rfl⟩
    · exact ⟨[], rfl⟩
  · exact ⟨[], rfl⟩

private theorem exists_presents (lines : output.maxSnippetLines = .int limit) (e : Entry) :
    ∃ document, result output e = .ok document ∧ Presents e document ∧
      document.field "ruleIndex" = .ok (.int 0) := by
  obtain ⟨shown, known⟩ := exists_context lines e.finding
  refine ⟨_, by rw [result, known, ok_bind]; rfl, ⟨rfl, rfl, rfl, rfl⟩, rfl⟩

private theorem exists_results (lines : output.maxSnippetLines = .int limit) (entries : List Entry) :
    ∃ written, entries.mapM (result output) = .ok written ∧
      List.Forall₂ (fun e document => Presents e document ∧ document.field "ruleIndex" = .ok (.int 0))
        entries written :=
  exists_forall₂_mapM fun e _ => exists_presents lines e

/-! ## Agreement -/

/-- A result agrees with the rules exactly if the first of them is that of its class. -/
theorem agrees_iff {rules : List Value} {e : Entry} {document : Value} (presents : Presents e document)
    (first : document.field "ruleIndex" = .ok (.int 0)) :
    Agrees rules document ↔ ∃ rule, rules.head? = some rule ∧ rule.field "id" = .ok (.text e.finding.kind) := by
  rw [head?_eq_getElem?]
  constructor
  · rintro ⟨index, rule, name, place, found, id, given⟩
    obtain rfl : index = 0 := by simpa [first, eq_comm] using place
    obtain rfl : Value.text e.finding.kind = name := by simpa [presents.rule] using given
    exact ⟨rule, found, id⟩
  · rintro ⟨rule, found, id⟩
    exact ⟨0, rule, _, first, found, id, presents.rule⟩

/-- All findings are of one class. -/
def OneKind (entries : List Entry) : Prop :=
  ∀ e ∈ entries, ∀ other ∈ entries, e.finding.kind = other.finding.kind

section Document

variable {entries : List Entry} {rules order results : List Value}

/-- All results agree with the rules exactly if all findings are of the kind of the first rule. -/
theorem forall_agrees (presented : List.Forall₂
      (fun e document => Presents e document ∧ document.field "ruleIndex" = .ok (.int 0)) entries results) :
    (∀ document ∈ results, Agrees rules document) ↔
      ∀ e ∈ entries, ∃ rule, rules.head? = some rule ∧ rule.field "id" = .ok (.text e.finding.kind) := by
  induction presented with
  | nil => simp
  | cons presents _ ih => rw [forall_mem_cons, forall_mem_cons, agrees_iff presents.1 presents.2, ih]

/-- In whatever order the rules stand, the first is the one of all findings exactly if these are of one class. -/
theorem forall_head_iff (named : List.Forall₂ (fun name rule => rule.field "id" = .ok (.text name))
      (kinds (entries.map Entry.finding)) rules) (ordered : order.Perm rules) :
    (∀ e ∈ entries, ∃ rule, order.head? = some rule ∧ rule.field "id" = .ok (.text e.finding.kind)) ↔
      OneKind entries := by
  constructor
  · intro each e member other otherMember
    obtain ⟨rule, found, id⟩ := each e member
    obtain ⟨rule', found', id'⟩ := each other otherMember
    obtain rfl : rule = rule' := by simpa [found] using found'
    simpa [id] using id'
  · intro same e member
    have known : e.finding.kind ∈ kinds (entries.map Entry.finding) :=
      mem_kinds.mpr ⟨e.finding, mem_map_of_mem member, rfl⟩
    have size : 0 < order.length := by
      rw [ordered.length_eq, ← named.length_eq]
      exact length_pos_of_mem known
    have written : order.head (ne_nil_of_length_pos size) ∈ rules := ordered.mem_iff.mp (head_mem _)
    obtain ⟨name, listed, id⟩ := Outcome.exists_mem_of_forall₂ named written
    obtain ⟨f, inside, rfl⟩ := mem_kinds.mp listed
    obtain ⟨other, otherMember, rfl⟩ := mem_map.mp inside
    exact ⟨_, head?_eq_some_head _, same e member other otherMember ▸ id⟩

end Document

/-- Findings whose references are lists have a document, which has the rules of their classes and their results. -/
theorem exists_document (output : OutputSettings) (lines : output.maxSnippetLines = .int limit)
    (entries : List Entry) (listed : ∀ e ∈ entries, ∃ links, e.finding.references = .list links) :
    ∃ written rules results, document output entries = .ok written ∧ writtenRules written = .ok rules ∧
      writtenResults written = .ok results ∧
      List.Forall₂ (fun name rule => rule.field "id" = .ok (.text name)) (kinds (entries.map Entry.finding)) rules ∧
      List.Forall₂ (fun e document => Presents e document ∧ document.field "ruleIndex" = .ok (.int 0))
        entries results := by
  have listed : ∀ f ∈ entries.map Entry.finding, ∃ links, f.references = .list links := by
    simpa using listed
  obtain ⟨rules, ruled, named⟩ := exists_rules listed
  obtain ⟨results, resulted, presented⟩ := exists_results lines entries
  obtain ⟨written, made, parts⟩ : ∃ written, document output entries = .ok written ∧
      writtenRules written = .ok rules ∧ writtenResults written = .ok results :=
    ⟨_, by rw [document, ruled, ok_bind, resulted, ok_bind]; rfl, rfl, rfl⟩
  exact ⟨written, rules, results, made, parts.1, parts.2, named, presented⟩

/-- Findings whose references are lists have a document. Its results are those of the findings, in their order, and
its rules have different names, which are the classes of the findings. Every result gives the first rule, so
all of them agree with the rules exactly if all findings are of one class, whatever the order of the rules. -/
theorem references_agree_iff (output : OutputSettings) (limit : Int) (lines : output.maxSnippetLines = .int limit)
    (entries : List Entry) (listed : ∀ e ∈ entries, ∃ links, e.finding.references = .list links) :
    ∃ written rules results names, document output entries = .ok written ∧
      render output entries = .ok (Document.Json.indented written) ∧
      writtenRules written = .ok rules ∧ writtenResults written = .ok results ∧
      List.Forall₂ Presents entries results ∧
      List.Forall₂ (fun name rule => rule.field "id" = .ok (.text name)) names rules ∧ names.Nodup ∧
      (∀ name, name ∈ names ↔ ∃ e ∈ entries, e.finding.kind = name) ∧
      ∀ order, order.Perm rules → ((∀ result ∈ results, Agrees order result) ↔ OneKind entries) := by
  obtain ⟨written, rules, results, made, hasRules, hasResults, named, presented⟩ :=
    exists_document output lines entries listed
  refine ⟨written, rules, results, kinds (entries.map Entry.finding), made, by rw [render, made]; rfl, hasRules,
    hasResults, presented.imp fun _ _ both => both.1, named, kinds_nodup _, ?_, ?_⟩
  · intro name
    simp [mem_kinds]
  · intro order ordered
    rw [forall_agrees presented, forall_head_iff named ordered]

/-- A finding of a class in the first line of a file. -/
def ofKind (kind : String) : Entry :=
  ⟨{ (default : Finding) with kind, references := .list [] }, .line "a.sol" 1⟩

/-- Two findings of one class have results that agree with the rules. -/
theorem references_agree_repeated :
    ∃ written rules results, document {} [ofKind "a", ofKind "a"] = .ok written ∧
      writtenRules written = .ok rules ∧ writtenResults written = .ok results ∧ results.length = 2 ∧
      ∀ result ∈ results, Agrees rules result := by
  obtain ⟨written, rules, results, names, made, -, hasRules, hasResults, presented, -, -, -, agreement⟩ :=
    references_agree_iff {} 5 rfl [ofKind "a", ofKind "a"] (by simp [ofKind])
  have one : OneKind [ofKind "a", ofKind "a"] := by simp [OneKind]
  exact ⟨written, rules, results, made, hasRules, hasResults, presented.length_eq.symm,
    (agreement rules (List.Perm.refl rules)).mpr one⟩

/-- Of two findings of different classes one has a result that does not agree with the rules. -/
theorem reference_disagrees :
    ∃ written rules results, document {} [ofKind "a", ofKind "b"] = .ok written ∧
      writtenRules written = .ok rules ∧ writtenResults written = .ok results ∧
      ∃ result ∈ results, ¬ Agrees rules result := by
  obtain ⟨written, rules, results, made, hasRules, hasResults, named, presented⟩ :=
    exists_document {} rfl [ofKind "a", ofKind "b"] (by simp [ofKind])
  refine ⟨written, rules, results, made, hasRules, hasResults, ?_⟩
  by_contra none
  have each : ∀ result ∈ results, Agrees rules result := by simpa using none
  rw [forall_agrees presented, forall_head_iff named (List.Perm.refl rules)] at each
  exact absurd (each (ofKind "a") (by simp) (ofKind "b") (by simp)) (by decide)

end ContractLint.Report.Sarif
