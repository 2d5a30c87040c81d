import ContractLint.Proofs.Analysis.Merge
import ContractLint.Proofs.Outcome
import Mathlib.Data.List.Nodup

/-! # Results that agree with themselves

A consistent result gives the number of its findings, of which no two have the same identifier and the
gravest come first. The findings of the analyzers are merged and counted before interfaces are compared,
and the findings of the comparison are put behind them. So a result is consistent exactly if it was so
before the comparison and the comparison has nothing to report (`together_consistent_iff`).
-/

namespace ContractLint.Analysis

open List Program

variable {known : List (String × Function)} {modules : List Module}

/-- No two findings have the same identifier, and the gravest come first. -/
structure Ranked (findings : List Finding) : Prop where
  distinct : (findings.map Finding.id).Nodup
  graded : findings.Pairwise fun f g => f.severity.rank ≤ g.severity.rank

/-- A result gives the number of its findings, which are ranked. -/
structure Result.Consistent (r : Result) : Prop where
  counted : r.statistics.lookup "total_findings" = some (.int r.findings.length)
  ranked : Ranked r.findings

/-! ## Merged findings -/

private theorem merged_graded (findings : List Finding) :
    (merged findings).Pairwise fun f g => f.severity.rank ≤ g.severity.rank := by
  refine (merged_in_order findings).imp fun {f g} before => ?_
  obtain less | ⟨same, -⟩ := before
  · exact less.le
  · exact same.le

/-! ## The analyzers -/

/-- The statistics give the number of findings. -/
theorem analyze_counted (s : Settings) (modules : List Module) :
    (s.analyze modules).statistics.lookup "total_findings" =
      some (.int (s.analyze modules).findings.length) := by
  simp only [Settings.analyze, foldl_cons, foldl_nil]
  rw [Entries.lookup_put_of_ne (by decide), Entries.lookup_put_self]

/-- Unless an analyzer fails, what the analyzers find is merged. -/
theorem analyze_ranked {s : Settings} (sound : (s.analyze modules).errors = []) :
    Ranked (s.analyze modules).findings := by
  rw [Settings.analyze] at sound ⊢
  generalize untilFailure {} _ = ended at sound ⊢
  obtain ⟨report, fault⟩ := ended
  cases fault with
  | none => exact ⟨merged_distinct report.findings, merged_graded report.findings⟩
  | some fault => contradiction

private theorem analyze_consistent_iff (s : Settings) (modules : List Module) :
    (s.analyze modules).Consistent ↔
      (s.analyze modules).errors = [] ∨ Ranked (s.analyze modules).findings := by
  constructor
  · intro consistent
    exact .inr consistent.ranked
  · rintro (sound | ranked)
    · exact ⟨analyze_counted s modules, analyze_ranked sound⟩
    · exact ⟨analyze_counted s modules, ranked⟩

/-! ## Interfaces -/

/-- Every public function has the signature of the first one of its name. -/
def InterfacesAgree (modules : List Module) : Prop :=
  ∀ before key f after first, publicFunctions modules = before ++ (key, f) :: after →
    before.lookup key = some first → signaturesAgree first f = .ok true

/-- Every function has the signature of the first one of its name, which may be among those known. -/
def AgreeWith (known functions : List (String × Function)) : Prop :=
  ∀ before key f after first, functions = before ++ (key, f) :: after →
    (known ++ before).lookup key = some first → signaturesAgree first f = .ok true

private theorem agreeWith_cons {rest : List (String × Function)} {key : String} {f : Function} :
    AgreeWith known ((key, f) :: rest) ↔
      (∀ first, known.lookup key = some first → signaturesAgree first f = .ok true) ∧
        AgreeWith (known ++ [(key, f)]) rest := by
  constructor
  · intro agree
    refine ⟨fun first found => agree [] key f rest first rfl (by simpa using found), ?_⟩
    intro before other g after first split found
    refine agree ((key, f) :: before) other g after first (by simp [split]) ?_
    simpa using found
  · rintro ⟨head, tail⟩ before other g after first split found
    cases before with
    | nil =>
      cases split
      exact head first (by simpa using found)
    | cons entry before =>
      cases split
      exact tail before other g after first rfl (by simpa using found)

/-- A function whose name is known has no bearing on those after it. -/
theorem agreeWith_append_known {key : String} {first : Function}
    (found : known.lookup key = some first) (f : Function) (rest : List (String × Function)) :
    AgreeWith (known ++ [(key, f)]) rest ↔ AgreeWith known rest := by
  have same (before : List (String × Function)) (other : String) :
      (known ++ [(key, f)] ++ before).lookup other = (known ++ before).lookup other := by
    rw [append_assoc, singleton_append, lookup_append_known found]
  simp only [AgreeWith, same]

private theorem mismatches_eq_nil {functions : List (String × Function)} :
    mismatches known functions = .ok [] ↔ AgreeWith known functions := by
  induction functions generalizing known with
  | nil => simp [mismatches, AgreeWith, pure, Except.pure]
  | cons entry rest ih =>
    obtain ⟨key, f⟩ := entry
    rw [mismatches, agreeWith_cons]
    cases found : known.lookup key with
    | none => simp [ih]
    | some first =>
      rw [agreeWith_append_known found, ← ih]
      simp only [Outcome.bind_eq_ok, Option.some.injEq, forall_eq']
      constructor
      · rintro ⟨agree, compared, others, none, done⟩
        cases agree with
        | true =>
          cases done
          exact ⟨compared, none⟩
        | false => cases done
      · rintro ⟨agree, none⟩
        exact ⟨true, agree, [], none, rfl⟩

/-- Nothing is reported exactly if the interfaces agree. -/
theorem interfaceFindings_eq_nil :
    interfaceFindings modules = .ok [] ↔ InterfacesAgree modules := mismatches_eq_nil

/-! ## Analyzers and interfaces together -/

private theorem not_consistent_of_failed (fault : Fault) : ¬(Result.failed fault).Consistent := by
  intro consistent
  exact nomatch consistent.counted

/-- Findings that come after the counting spoil the count. -/
theorem consistent_append_iff {r : Result} (counted : r.statistics.lookup "total_findings" =
    some (.int r.findings.length)) (found : List Finding) :
    Result.Consistent { r with findings := r.findings ++ found } ↔ r.Consistent ∧ found = [] := by
  constructor
  · intro consistent
    have total := counted.symm.trans consistent.counted
    simp only [length_append, Option.some.injEq, Value.int.injEq] at total
    have none : found = [] := eq_nil_of_length_eq_zero (by omega)
    subst none
    rw [append_nil] at consistent
    exact ⟨consistent, rfl⟩
  · rintro ⟨consistent, rfl⟩
    rw [append_nil]
    exact consistent

/-- The result of an analysis with a comparison of interfaces is consistent exactly if the findings of the
analyzers are, which is so unless an analyzer fails, and the comparison is not enabled or the interfaces
agree. -/
theorem together_consistent_iff (s : Settings) (modules : List Module) :
    (s.analyzeTogether modules).Consistent ↔
      ((s.analyze modules).errors = [] ∨ Ranked (s.analyze modules).findings) ∧
        (s.crossLanguage.truthy = true → InterfacesAgree modules) := by
  rw [← analyze_consistent_iff, ← interfaceFindings_eq_nil, Settings.analyzeTogether]
  by_cases enabled : s.crossLanguage.truthy = true
  · simp only [enabled, if_true, forall_const]
    cases compared : interfaceFindings modules with
    | ok found => simp [consistent_append_iff (analyze_counted s modules)]
    | error fault => simp [not_consistent_of_failed]
  · simp [enabled]

/-- A module with a contract that declares a public function with some parameters. -/
def declaring (parameters : List Parameter) : Module where
  name := "m"
  contracts := [{ name := "C", functions := [{ name := "f", parameters, visibility := .public }] }]

/-- Two modules that declare the same function. -/
theorem together_consistent_iff_sample :
    InterfacesAgree [declaring [], declaring []] ∧
      (Settings.analyzeTogether {} [declaring [], declaring []]).Consistent := by
  have agree : InterfacesAgree [declaring [], declaring []] := interfaceFindings_eq_nil.mp rfl
  exact ⟨agree, (together_consistent_iff _ _).mpr ⟨.inl (by decide +kernel), fun _ => agree⟩⟩

/-- Two modules disagree about the parameters of a function, and the finding about that is not counted. -/
theorem together_miscounts :
    let result := Settings.analyzeTogether { mode := .custom } [declaring [], declaring [⟨.text "x", none⟩]]
    result.findings.map Finding.title = ["Interface Mismatch"] ∧
      result.statistics.lookup "total_findings" = some (.int 0) ∧ ¬result.Consistent := by
  intro result
  have none : merged [] = [] := mergeSort_nil
  have found : result.findings.map Finding.title = ["Interface Mismatch"] := by
    change (merged [] ++ _).map Finding.title = _
    rw [none]
    rfl
  have total : result.statistics.lookup "total_findings" = some (.int 0) := by
    change List.lookup _ (Entries.put (Entries.put [_] _ (Value.int (merged []).length)) _ _) = _
    rw [none]
    rfl
  refine ⟨found, total, fun consistent => ?_⟩
  have counted := total.symm.trans consistent.counted
  rw [← length_map Finding.title, found] at counted
  cases counted

end ContractLint.Analysis
