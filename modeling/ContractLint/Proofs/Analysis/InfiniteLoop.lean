import ContractLint.Proofs.Analysis.Reuse
import ContractLint.Proofs.Analysis.Unreachable
import ContractLint.Proofs.Flow.Size
import ContractLint.Proofs.Flow.Stage

/-! # Findings about infinite loops

A cycle of a control flow graph is a loop with all that is inside it, and an edge leads from the header
of the loop to the block where the loop is left. So every cycle has an exit, whatever the conditions of
its loops are, and the check that looks for cycles without an exit never reports any. The pass over the
control flow looks for edges back instead. There is one for each loop, so it reports every function with a
loop.
-/

namespace ContractLint.Analysis

open List Program ContractLint.Flow

variable {f : Function}

namespace ControlFlow

/-- No cycle of a graph that was built is reported. -/
theorem infiniteLoops_eq_nil {graph : ControlGraph} (built : controlGraph f = .ok graph) :
    infiniteLoops f graph = [] := by
  have none : graph.components.filter
      (fun cycle => 1 < cycle.length && !hasExit graph.edges cycle) = [] := by
    apply filter_eq_nil_iff.mpr
    intro cycle found
    by_cases long : 1 < cycle.length
    · obtain ⟨_, _, _, _, loop⟩ := component_isLoop built found long
      simp [loop.hasExit]
    · simp [long]
  simp only [infiniteLoops, none, map_nil]

/-- Neither of the checks for unreachable code and for infinite loops finds anything. -/
theorem title_mem_titles {finding : Finding} (member : finding ∈ functionFindings f) :
    finding.title ∈ titles := by
  obtain known | ⟨graph, built, loops⟩ := title_mem_titles_or_loop member
  · exact known
  · simp [infiniteLoops_eq_nil built] at loops

end ControlFlow

/-- A cycle of a control flow graph is the outermost of its loops with all that is inside it: it has the
header of that loop, from which an edge leads to the block where the loop is left, outside the cycle. So
every cycle has an exit, and the control flow checks never report an infinite loop, whatever the
program. -/
theorem never_infinite_loop :
    (∀ (f : Function) (graph : ControlGraph), controlGraph f = .ok graph →
      (∀ cycle ∈ graph.components, 1 < cycle.length →
        (∃ start id condition body, IsLoop graph cycle start id condition body) ∧
          hasExit graph.edges cycle = true) ∧
      ControlFlow.infiniteLoops f graph = []) ∧
    (∀ f : Function, ∀ finding ∈ ControlFlow.functionFindings f,
      finding.title ≠ "Potential Infinite Loop") ∧
    (∀ m : Module, ∀ finding ∈ ControlFlow.moduleFindings m,
      finding.title ≠ "Potential Infinite Loop") := by
  have never {f : Function} {finding : Finding} (member : finding ∈ ControlFlow.functionFindings f) :
      finding.title ≠ "Potential Infinite Loop" := by
    intro same
    have known := ControlFlow.title_mem_titles member
    rw [same] at known
    revert known
    decide
  refine ⟨?_, fun _ _ => never, ?_⟩
  · intro f graph built
    refine ⟨fun cycle found long => ?_, ControlFlow.infiniteLoops_eq_nil built⟩
    obtain ⟨start, id, condition, body, loop⟩ := component_isLoop built found long
    exact ⟨⟨start, id, condition, body, loop⟩, loop.hasExit⟩
  · intro m finding member
    obtain ⟨f, -, member⟩ := mem_flatMap.mp member
    exact never member

/-- A loop that never ends, around another one. -/
def endless : Function where
  name := "f"
  body := [.loop "outer" (some (.literal "true" (.bool true) none))
    [.loop "inner" (some (.literal "true" (.bool true) none)) []]]

theorem never_infinite_loop_endless :
    controlGraph endless = .ok (finished endless) ∧
      (∃ cycle ∈ (finished endless).components, 1 < cycle.length ∧
        hasExit (finished endless).edges cycle = true) ∧
      ControlFlow.infiniteLoops endless (finished endless) = [] := by
  have built : controlGraph endless = .ok (finished endless) :=
    controlGraph_eq (cons_ne_nil _ _) (by decide)
  obtain ⟨cycles, none⟩ := never_infinite_loop.1 endless (finished endless) built
  obtain ⟨cycle, found, long⟩ : ∃ cycle ∈ (finished endless).components, 1 < cycle.length := by decide
  exact ⟨built, ⟨cycle, found, long, (cycles cycle found long).2⟩, none⟩

/-! ## The pass over a program -/

private theorem isLoop_iff {s : Stmt} (holds : s.holdsBlocks) : s.isLoop ↔ s.kind = .whileLoop := by
  cases s with
  | assign | branch | loop | ret => simp [Stmt.isLoop, Stmt.kind]
  | plain id kind =>
    have other : kind ≠ .whileLoop := by
      rintro rfl
      contradiction
    simp [Stmt.isLoop, Stmt.kind, other]

private theorem exists_loopBack_iff (whole : Whole f.body) :
    (∃ edge ∈ (finished f).edges, edge.kind = .loopBack) ↔ ∃ s ∈ unnest f.body, s.kind = .whileLoop := by
  have counted := madeEdges_loopBack (entryName f) f.body
  rw [← finished_edges] at counted
  calc (∃ edge ∈ (finished f).edges, edge.kind = .loopBack)
      ↔ 0 < (finished f).edges.countP fun edge => edge.kind = .loopBack := by simp [countP_pos_iff]
    _ ↔ 0 < (unnest f.body).countP Stmt.isLoop := by rw [counted]
    _ ↔ ∃ s ∈ unnest f.body, s.isLoop := countP_pos_iff
    _ ↔ ∃ s ∈ unnest f.body, s.kind = .whileLoop :=
      exists_congr fun s => and_congr_right fun member => isLoop_iff (whole s member)

namespace Pass

/-- The pass over the control flow of a function reports an infinite loop if there is an edge back, and
nothing else. -/
theorem controlFlow_findings (nonempty : f.body ≠ []) (whole : Whole f.body) :
    ∃ report, controlFlow.onFunction f = .ok report ∧
      report.findings.map Finding.title =
        if ∃ edge ∈ (finished f).edges, edge.kind = .loopBack then ["Potential Infinite Loop"] else [] := by
  have built := controlGraph_eq nonempty whole
  refine ⟨_, by rw [onFunction, controlFlowReport, built, Outcome.ok_bind]; rfl, ?_⟩
  simp only [unreachable_of_controlGraph built, isEmpty_nil, if_true, nil_append, any_eq_true,
    decide_eq_true_eq]
  split <;> rfl

/-- A new analyzer gives out what a single pass reports about a function. -/
theorem fresh_function {pass : Pass} {report : Report} (done : pass.onFunction f = .ok report) :
    Call.fresh ⟨.function f, [pass]⟩ all = .ok [(pass, report)] := by
  have known : all.contains pass := by cases pass <;> rfl
  rw [Call.fresh_eq, Call.reports, filter_cons_of_pos known, filter_nil, mapM_cons,
    mapM_nil, onTarget, done]
  rfl

end Pass

/-- For every function with statements whose branches and loops hold their blocks, the pass over the control
flow reports an infinite loop exactly if there is a loop among the statements, at any depth, whatever its
condition; and so does an analyzer with this pass. The control flow checks, which look for cycles without
an exit, report none, so the two disagree on all functions with a loop, and on no others. -/
theorem loop_reported_iff {f : Function} (nonempty : f.body ≠ []) (whole : Whole f.body) :
    ∃ report, Pass.controlFlow.onFunction f = .ok report ∧
      Call.fresh ⟨.function f, [.controlFlow]⟩ Pass.all = .ok [(.controlFlow, report)] ∧
      (Reports report.findings "Potential Infinite Loop" ↔ ∃ s ∈ unnest f.body, s.kind = .whileLoop) ∧
      ¬ Reports (ControlFlow.functionFindings f) "Potential Infinite Loop" := by
  obtain ⟨report, done, titles⟩ := Pass.controlFlow_findings nonempty whole
  refine ⟨report, done, Pass.fresh_function done, ?_, ?_⟩
  · have listed : Reports report.findings "Potential Infinite Loop" ↔
        "Potential Infinite Loop" ∈ report.findings.map Finding.title := by
      simp only [Reports, mem_map]
    rw [listed, titles, ← exists_loopBack_iff whole]
    split
    next some => exact iff_of_true (mem_singleton_self _) some
    next none => exact iff_of_false not_mem_nil none
  · rintro ⟨finding, member, title⟩
    have known := ControlFlow.title_mem_titles member
    rw [title] at known
    revert known
    decide

/-- A function with a loop inside a branch that is inside a loop, after a return. -/
def nested : Function where
  name := "f"
  body := [.ret "first" none,
    .loop "outer" none [.branch "choice" none [] [.loop "inner" none []]]]

theorem loop_reported_iff_nested :
    Whole nested.body ∧ ∃ report, Pass.controlFlow.onFunction nested = .ok report ∧
      Reports report.findings "Potential Infinite Loop" := by
  have whole : Whole nested.body := by decide
  obtain ⟨report, done, -, reported, -⟩ := loop_reported_iff (cons_ne_nil _ _) whole
  exact ⟨whole, report, done, reported.mpr (by decide)⟩

end ContractLint.Analysis
