import ContractLint.Proofs.Analysis.InfiniteLoop
import ContractLint.Proofs.Flow.Return
import ContractLint.Proofs.Program.Path

/-! # Findings about returns

A missing return is reported for the last block of a function, if no return comes after the last branch or
loop. So it is reported whenever control can come to the end of the function, but also if a branch of
which both ways return, or a return before a branch or loop, keeps control from it. Dead code is reported
for a statement that comes right after a return, unless it is a loop.
-/

namespace ContractLint.Analysis

open List Program ContractLint.Flow

variable {f : Function} {block : List Stmt}

namespace ControlFlow

/-- The findings about a function whose graph can be made. -/
theorem functionFindings_eq (nonempty : f.body ≠ []) (whole : Whole f.body) :
    functionFindings f =
      missingReturns f (finished f) ++ (complexFlow f (finished f) ++ deadCode f (finished f)) := by
  have built := controlGraph_eq nonempty whole
  have reached := unreachableCode_eq_nil (f := f) (unreachable_of_controlGraph built)
  rw [functionFindings, if_neg (by simpa using nonempty), built]
  simp only [checks, flatMap_cons, flatMap_nil, reached, infiniteLoops_eq_nil built,
    nil_append, append_nil]

/-- Nothing is reported about a function without a body. -/
theorem functionFindings_empty (empty : f.body = []) : functionFindings f = [] := by
  rw [functionFindings, empty]
  rfl

theorem not_reports_complexFlow {graph : ControlGraph} {title : String}
    (other : title ∉ ["High Cyclomatic Complexity", "Deep Nesting"]) :
    ¬ Reports (complexFlow f graph) title := by
  rintro ⟨finding, member, rfl⟩
  obtain same | same := title_of_complexFlow member <;> simp [same] at other

/-- Only the check for missing returns reports under its title. -/
theorem reports_missingReturns (nonempty : f.body ≠ []) (whole : Whole f.body) :
    Reports (functionFindings f) "Missing Return Statement" ↔ missingReturns f (finished f) ≠ [] := by
  rw [functionFindings_eq nonempty whole, reports_append, reports_append,
    reports_of_title fun _ => title_of_missingReturns, reports_of_title fun _ => title_of_deadCode]
  simp [not_reports_complexFlow]

/-- Only the check for dead code reports under its title. -/
theorem reports_deadCode (nonempty : f.body ≠ []) (whole : Whole f.body) :
    Reports (functionFindings f) "Dead Code After Return" ↔ deadCode f (finished f) ≠ [] := by
  rw [functionFindings_eq nonempty whole, reports_append, reports_append,
    reports_of_title fun _ => title_of_missingReturns, reports_of_title fun _ => title_of_deadCode]
  simp [not_reports_complexFlow]

/-! ## Missing returns -/

/-- A missing return is reported at most once. -/
theorem missingReturns_length (typed : f.result.isSome) (whole : Whole f.body) :
    (missingReturns f (finished f)).length = if (closing f.body).any Stmt.isReturn then 0 else 1 := by
  obtain ⟨block, ends⟩ := exits_without_return whole
  rw [missingReturns, if_neg (by simpa [Option.isSome_iff_ne_none] using typed), ends]
  split <;> rfl

/-- A return is reported as missing exactly if no closing statement is one. -/
theorem missingReturns_ne_nil (typed : f.result.isSome) (whole : Whole f.body) :
    missingReturns f (finished f) ≠ [] ↔ ∀ s ∈ closing f.body, s.isReturn = false := by
  rw [← length_pos_iff, missingReturns_length typed whole]
  split
  next some => simpa using some
  next none => simpa using none

/-- Where control can come to the end of a block, no return stands in the list itself. -/
theorem isReturn_of_canComplete (way : CanComplete block) : ∀ s ∈ block, s.isReturn = false := by
  rw [canComplete_iff, alwaysReturns_eq_any, any_eq_false] at way
  exact fun s member => Bool.eq_false_iff.mpr fun returns => way s member (alwaysReturnsOf_return returns)

private theorem closing_of_canComplete (way : CanComplete block) : ∀ s ∈ closing block, s.isReturn = false :=
  fun s member => isReturn_of_canComplete way s ((rtakeWhile_suffix _ _).subset member)

/-! ## Dead code -/

/-- No statement comes after the first return of a block exactly if no statement but the last returns. -/
theorem afterReturn?_eq_none {statements : List Stmt} :
    afterReturn? statements = none ↔ statements.Pairwise fun s _ => s.isReturn = false := by
  induction statements with
  | nil => simp [afterReturn?]
  | cons s rest ih =>
    rw [pairwise_cons]
    cases returns : s.isReturn with
    | true =>
      cases rest with
      | nil => simp [afterReturn?, returns]
      | cons next others =>
        have found : afterReturn? (s :: next :: others) = some 1 := by
          simp [afterReturn?, findIdx?_cons, returns]
        exact iff_of_false (by simp [found]) fun none => nomatch none.1 next mem_cons_self
    | false =>
      have later : afterReturn? (s :: rest) = (afterReturn? rest).map (· + 1) := by
        simp only [afterReturn?, findIdx?_cons, returns, Bool.false_eq_true, if_false]
        cases rest.findIdx? Stmt.isReturn with
        | none => rfl
        | some index =>
          simp only [Option.map_some, length_cons, Nat.add_lt_add_iff_right]
          split <;> rfl
      simp [later, ih]

/-- No dead code is reported exactly if only loops follow a return. -/
theorem deadCode_eq_nil (whole : Whole f.body) : deadCode f (finished f) = [] ↔ OnlyLoopsAfter f.body := by
  rw [← noneAfterReturn_iff whole (entryName f), ← (finished_holds f).noneAfterReturn_iff, deadCode,
    filterMap_eq_nil_iff]
  simp only [Option.map_eq_none_iff, afterReturn?_eq_none]

end ControlFlow

/-- For a function with a result, the check for missing returns reports one finding exactly if no return
comes after the last branch or loop of its list of statements, and none otherwise. So a missing return is
reported whenever control can come to the end of the function. -/
theorem missing_return_iff {f : Function} (typed : f.result.isSome) (nonempty : f.body ≠ [])
    (whole : Whole f.body) :
    ∃ graph, controlGraph f = .ok graph ∧
      ((ControlFlow.missingReturns f graph).length = 1 ↔ ∀ s ∈ closing f.body, s.isReturn = false) ∧
      ((∃ s ∈ closing f.body, s.isReturn) → ControlFlow.missingReturns f graph = []) ∧
      (CanComplete f.body → Reports (ControlFlow.missingReturns f graph) "Missing Return Statement" ∧
        Reports (ControlFlow.functionFindings f) "Missing Return Statement") := by
  have length := ControlFlow.missingReturns_length typed whole
  refine ⟨finished f, controlGraph_eq nonempty whole, ?_, ?_, ?_⟩
  · rw [length]
    split
    next some => simpa using some
    next none => simpa using none
  · intro some
    rw [if_pos (any_eq_true.mpr some)] at length
    exact eq_nil_of_length_eq_zero length
  · intro way
    have some := (ControlFlow.missingReturns_ne_nil typed whole).mpr (ControlFlow.closing_of_canComplete way)
    exact ⟨(reports_of_title fun _ => ControlFlow.title_of_missingReturns).mpr ⟨some, rfl⟩,
      (ControlFlow.reports_missingReturns nonempty whole).mpr some⟩

/-- A function with a result that may return from a loop or a branch, or come to its end. -/
def unfinished : Function where
  name := "f"
  result := some { name := "uint256" }
  body := [
    .loop "loop" none [.branch "inner" none [.ret "early" none] []],
    .branch "outer" none [.ret "late" none] [.plain "only" .throw],
    .plain "last" .functionCall]

theorem missing_return_iff_unfinished :
    unfinished.result.isSome ∧ Whole unfinished.body ∧ CanComplete unfinished.body ∧
      ∃ graph, controlGraph unfinished = .ok graph ∧
        (ControlFlow.missingReturns unfinished graph).length = 1 := by
  have whole : Whole unfinished.body := by decide
  obtain ⟨graph, built, one, -, -⟩ := missing_return_iff (f := unfinished) rfl (cons_ne_nil _ _) whole
  exact ⟨rfl, whole, canComplete_iff.mpr (by decide), graph, built, one.mpr (by decide)⟩

/-- A missing return is reported exactly if there are statements, and no return comes after the last branch
or loop. It is reported although control cannot come to the end of the function exactly if, besides, some
statement of the list always returns: a return, or a branch of which both ways always return. -/
theorem missing_return_spurious_iff {f : Function} (typed : f.result.isSome) (whole : Whole f.body) :
    (Reports (ControlFlow.functionFindings f) "Missing Return Statement" ↔
      f.body ≠ [] ∧ ∀ s ∈ closing f.body, s.isReturn = false) ∧
    (Reports (ControlFlow.functionFindings f) "Missing Return Statement" ∧ ¬ CanComplete f.body ↔
      (∃ s ∈ f.body, alwaysReturnsOf s) ∧ ∀ s ∈ closing f.body, s.isReturn = false) := by
  have reported : Reports (ControlFlow.functionFindings f) "Missing Return Statement" ↔
      f.body ≠ [] ∧ ∀ s ∈ closing f.body, s.isReturn = false := by
    by_cases empty : f.body = []
    · simp [ControlFlow.functionFindings_empty empty, Reports, empty]
    · rw [ControlFlow.reports_missingReturns empty whole, ControlFlow.missingReturns_ne_nil typed whole]
      simp [empty]
  refine ⟨reported, ?_⟩
  rw [reported, canComplete_iff, alwaysReturns_eq_any, Bool.not_eq_false, any_eq_true]
  constructor
  · rintro ⟨⟨-, none⟩, returns⟩
    exact ⟨returns, none⟩
  · rintro ⟨⟨s, member, returns⟩, none⟩
    exact ⟨⟨ne_nil_of_mem member, none⟩, s, member, returns⟩

/-- A function with a result that returns before a loop. -/
def returned : Function where
  name := "f"
  result := some { name := "uint256" }
  body := [.ret "first" none, .loop "loop" none [.plain "only" .functionCall]]

theorem missing_return_spurious_iff_returned :
    returned.result.isSome ∧ Whole returned.body ∧
      Reports (ControlFlow.functionFindings returned) "Missing Return Statement" ∧
      ¬ CanComplete returned.body := by
  have whole : Whole returned.body := by decide
  exact ⟨rfl, whole, (missing_return_spurious_iff rfl whole).2.mpr (by decide)⟩

/-- A function with a result that is a branch of which both ways return. -/
def settled : Function where
  name := "f"
  result := some { name := "uint256" }
  body := [.branch "choice" none [.ret "one" none] [.ret "other" none]]

/-- A missing return is reported although all ways through the function meet a return. -/
theorem missing_return_without_path :
    settled.result.isSome ∧ Whole settled.body ∧
      Reports (ControlFlow.functionFindings settled) "Missing Return Statement" ∧
      ¬ CanComplete settled.body := by
  have whole : Whole settled.body := by decide
  have some := (ControlFlow.missingReturns_ne_nil (f := settled) rfl whole).mpr (by decide)
  exact ⟨rfl, whole, (ControlFlow.reports_missingReturns (cons_ne_nil _ _) whole).mpr some,
    not_canComplete (by decide)⟩

/-- Dead code is reported exactly if some list of statements, at any depth, has a return right before a
statement that is no loop. -/
theorem dead_code_iff {f : Function} (whole : Whole f.body) :
    Reports (ControlFlow.functionFindings f) "Dead Code After Return" ↔
      ∃ place s t, stmtAt f.body place = some s ∧ s.isReturn ∧
        stmtAt f.body place.next = some t ∧ t.kind ≠ .whileLoop := by
  have exists_iff : (∃ place s t, stmtAt f.body place = some s ∧ s.isReturn ∧
      stmtAt f.body place.next = some t ∧ t.kind ≠ .whileLoop) ↔ ¬ OnlyLoopsAfter f.body := by
    simp only [OnlyLoopsAfter, not_forall]
    constructor
    · rintro ⟨place, s, t, here, returns, next, other⟩
      exact ⟨place, s, t, here, next, returns, other⟩
    · rintro ⟨place, s, t, here, next, returns, other⟩
      exact ⟨place, s, t, here, returns, next, other⟩
  rw [exists_iff]
  by_cases empty : f.body = []
  · simp [ControlFlow.functionFindings_empty empty, Reports, empty]
  · rw [ControlFlow.reports_deadCode empty whole, ne_eq, ControlFlow.deadCode_eq_nil whole]

/-- A function that has a branch right after a return, inside a loop. -/
def trailing : Function where
  name := "f"
  body := [.loop "loop" none [.ret "early" none, .branch "choice" none [] []], .ret "late" none]

theorem dead_code_iff_trailing :
    Whole trailing.body ∧
      Reports (ControlFlow.functionFindings trailing) "Dead Code After Return" := by
  have whole : Whole trailing.body := by decide
  exact ⟨whole, (dead_code_iff whole).mpr
    ⟨⟨[(0, .body)], 0⟩, .ret "early" none, .branch "choice" none [] [], rfl, rfl, rfl, by decide⟩⟩

/-- A function that has a loop right after a return. -/
def looping : Function where
  name := "f"
  body := [.ret "first" none, .loop "loop" none [.plain "only" .functionCall]]

/-- A loop after a return is not reported as dead code. -/
theorem dead_loop_not_reported :
    Whole looping.body ∧
      (∃ place next s t, place.Precedes next ∧ stmtAt looping.body place = some s ∧ s.isReturn ∧
        stmtAt looping.body next = some t) ∧
      ¬ Reports (ControlFlow.functionFindings looping) "Dead Code After Return" := by
  have whole : Whole looping.body := by decide
  refine ⟨whole, ⟨.first, .next .first, _, _, ⟨rfl, Nat.one_pos⟩, rfl, rfl, rfl⟩, ?_⟩
  rw [ControlFlow.reports_deadCode (cons_ne_nil _ _) whole, ne_eq, not_not,
    ControlFlow.deadCode_eq_nil whole, looping, onlyLoopsAfter_leaf rfl, onlyLoopsAfter_cons,
    Stmt.forall_held_loop, onlyLoopsAfter_leaf rfl]
  simp [Stmt.kind]

end ContractLint.Analysis
