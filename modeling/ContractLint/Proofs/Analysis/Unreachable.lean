import ContractLint.Analysis.Pass
import ContractLint.Proofs.Flow.Reachable

/-! # No finding about unreachable code

Every block of a control flow graph can be reached, so the checks that look for blocks that cannot be
reached never report any, neither those of the control flow checks nor those of the pass.
-/

namespace ContractLint.Analysis

open List Program ContractLint.Flow

variable {f : Function} {graph : ControlGraph} {finding : Finding}

def Reports (findings : List Finding) (title : String) : Prop :=
  ∃ finding ∈ findings, finding.title = title

theorem reports_append {first second : List Finding} {title : String} :
    Reports (first ++ second) title ↔ Reports first title ∨ Reports second title := by
  simp only [Reports, mem_append, or_and_right, exists_or]

/-- Findings that all have one title report this title, if there are any, and no other. -/
theorem reports_of_title {findings : List Finding} {own title : String}
    (titled : ∀ finding ∈ findings, finding.title = own) :
    Reports findings title ↔ findings ≠ [] ∧ own = title := by
  constructor
  · rintro ⟨finding, member, rfl⟩
    exact ⟨ne_nil_of_mem member, (titled finding member).symm⟩
  · rintro ⟨some, rfl⟩
    obtain ⟨finding, member⟩ := exists_mem_of_ne_nil _ some
    exact ⟨finding, member, titled finding member⟩

/-- None of the findings says that code is unreachable. -/
def NoneUnreachable (findings : List Finding) : Prop :=
  ∀ finding ∈ findings, finding.title ≠ "Unreachable Code"

namespace ControlFlow

/-- Where all blocks are reached, none is reported. -/
theorem unreachableCode_eq_nil (none : graph.unreachable = []) : unreachableCode f graph = [] := by
  simp only [unreachableCode, none, filter_nil, map_nil]

private theorem title_of_infiniteLoops
    (member : finding ∈ infiniteLoops f graph) : finding.title = "Potential Infinite Loop" := by
  obtain ⟨_, -, rfl⟩ := mem_map.mp member
  rfl

theorem title_of_missingReturns
    (member : finding ∈ missingReturns f graph) : finding.title = "Missing Return Statement" := by
  rw [missingReturns] at member
  split at member
  · contradiction
  · obtain ⟨_, -, rfl⟩ := mem_map.mp member
    rfl

theorem title_of_complexFlow (member : finding ∈ complexFlow f graph) :
    finding.title = "High Cyclomatic Complexity" ∨ finding.title = "Deep Nesting" := by
  rw [complexFlow] at member
  obtain high | deep := mem_append.mp member
  · split at high
    · obtain rfl := mem_singleton.mp high
      exact .inl rfl
    · contradiction
  · split at deep
    · obtain rfl := mem_singleton.mp deep
      exact .inr rfl
    · contradiction

theorem title_of_deadCode (member : finding ∈ deadCode f graph) : finding.title = "Dead Code After Return" := by
  obtain ⟨_, -, made⟩ := mem_filterMap.mp member
  obtain ⟨_, -, rfl⟩ := Option.map_eq_some_iff.mp made
  rfl

/-- The titles that the findings about the control flow of a function can have, those about cycles apart. -/
def titles : List String :=
  ["Missing Return Statement", "High Cyclomatic Complexity", "Deep Nesting", "Dead Code After Return",
    "Control Flow Analysis Error"]

/-- The check for unreachable code finds nothing, and each of the others has its titles. -/
theorem title_mem_titles_or_loop (member : finding ∈ functionFindings f) :
    finding.title ∈ titles ∨ ∃ graph, controlGraph f = .ok graph ∧ finding ∈ infiniteLoops f graph := by
  rw [functionFindings] at member
  split at member
  · contradiction
  · split at member
    next graph built =>
      have reached := unreachableCode_eq_nil (f := f) (unreachable_of_controlGraph built)
      simp only [checks, flatMap_cons, flatMap_nil, reached, nil_append, append_nil,
        mem_append] at member
      obtain loops | returns | complex | dead := member
      · exact .inr ⟨graph, built, loops⟩
      · simp [titles, title_of_missingReturns returns]
      · obtain title | title := title_of_complexFlow complex <;> simp [titles, title]
      · simp [titles, title_of_deadCode dead]
    next fault failed =>
      obtain rfl := mem_singleton.mp member
      exact .inl (by simp [titles, report, functionFinding])

/-- No check of the control flow of a function says that code is unreachable. -/
theorem functionFindings_title (f : Function) : NoneUnreachable (functionFindings f) := by
  intro finding member
  obtain known | ⟨graph, -, loops⟩ := title_mem_titles_or_loop member
  · exact fun same => absurd (same ▸ known) (by decide)
  · simp [title_of_infiniteLoops loops]

end ControlFlow

/-! ## The pass over a program -/

private theorem merge_findings (reports : List Report) (report : Report) :
    (reports.foldl Report.merge report).findings =
      report.findings ++ reports.flatMap Report.findings := by
  induction reports generalizing report with
  | nil => simp
  | cons first rest ih => simp only [foldl_cons, ih, Report.merge, flatMap_cons, append_assoc]

namespace Pass

/-- What a pass finds in a module it finds in one of the functions. -/
theorem mem_onModule {pass : Pass} {m : Module} {report : Report}
    (done : pass.onModule m = .ok report) (member : finding ∈ report.findings) :
    ∃ f part, pass.onFunction f = .ok part ∧ finding ∈ part.findings := by
  obtain ⟨reports, runs, done⟩ := Outcome.bind_eq_ok.mp done
  cases done
  rw [merge_findings, nil_append] at member
  obtain ⟨part, known, member⟩ := mem_flatMap.mp member
  obtain ⟨f, -, run⟩ := Outcome.mem_of_mapM runs known
  exact ⟨f, part, run, member⟩

/-- The pass over the control flow of a function never says that code is unreachable. -/
theorem controlFlow_title {report : Report}
    (done : controlFlow.onFunction f = .ok report) : NoneUnreachable report.findings := by
  intro finding member
  obtain ⟨graph, built, done⟩ := Outcome.bind_eq_ok.mp done
  cases done
  simp only [unreachable_of_controlGraph built, isEmpty_nil, if_true, nil_append] at member
  split at member
  · obtain rfl := mem_singleton.mp member
    simp [functionFinding]
  · contradiction

/-- The pass gives a report on a function with a whole body. -/
theorem exists_controlFlow (whole : Whole f.body) : ∃ report, controlFlow.onFunction f = .ok report := by
  obtain ⟨graph, built⟩ := exists_controlGraph whole
  exact ⟨_, by rw [onFunction, controlFlowReport, built, Outcome.ok_bind]; rfl⟩

private theorem exists_onModule {m : Module} (whole : ∀ f ∈ m.allFunctions, Whole f.body) :
    ∃ report, controlFlow.onModule m = .ok report := by
  obtain ⟨reports, done⟩ : ∃ reports, (m.contracts.flatMap Contract.functions ++ m.functions).mapM
      controlFlow.onFunction = .ok reports := by
    apply Outcome.exists_mapM
    intro f member
    exact exists_controlFlow (whole f (mem_append.mpr (mem_append.mp member).symm))
  exact ⟨_, by rw [onModule, done, Outcome.ok_bind]; rfl⟩

end Pass

/-- The entry leads to every block of every control flow graph, edges out of blocks that end with a
return included, so no block is found unreachable. The control flow checks never report unreachable
code, whatever the program; nor does the pass over the control flow, which reports on every function
and module whose branches and loops hold their blocks. -/
theorem never_unreachable :
    (∀ f : Function, Whole f.body → ∃ graph, controlGraph f = .ok graph ∧
      (∀ name ∈ graph.names, ∃ entry, graph.entry = some entry ∧ Reaches graph.edges entry name) ∧
      graph.unreachable = [] ∧ ControlFlow.unreachableCode f graph = []) ∧
    (∀ f : Function, NoneUnreachable (ControlFlow.functionFindings f)) ∧
    (∀ m : Module, NoneUnreachable (ControlFlow.moduleFindings m)) ∧
    (∀ f : Function, Whole f.body → ∃ report, Pass.controlFlow.onFunction f = .ok report) ∧
    (∀ (f : Function) (report : Report), Pass.controlFlow.onFunction f = .ok report →
      NoneUnreachable report.findings) ∧
    (∀ m : Module, (∀ f ∈ m.allFunctions, Whole f.body) →
      ∃ report, Pass.controlFlow.onModule m = .ok report) ∧
    (∀ (m : Module) (report : Report), Pass.controlFlow.onModule m = .ok report →
      NoneUnreachable report.findings) := by
  refine ⟨?_, ControlFlow.functionFindings_title, ?_, fun _ => Pass.exists_controlFlow,
    fun _ _ => Pass.controlFlow_title, fun _ => Pass.exists_onModule, ?_⟩
  · intro f whole
    obtain ⟨graph, built⟩ := exists_controlGraph whole
    have none := unreachable_of_controlGraph built
    exact ⟨graph, built, fun name => reached_of_controlGraph built, none,
      ControlFlow.unreachableCode_eq_nil none⟩
  · intro m finding member
    obtain ⟨f, -, member⟩ := mem_flatMap.mp member
    exact ControlFlow.functionFindings_title f finding member
  · intro m report done finding member
    obtain ⟨f, part, run, member⟩ := Pass.mem_onModule done member
    exact Pass.controlFlow_title run finding member

theorem never_unreachable_sample :
    Whole sample.body ∧ ∃ graph, controlGraph sample = .ok graph ∧ graph.unreachable = [] := by
  have whole : Whole sample.body := by decide
  obtain ⟨graph, built, -, none, -⟩ := never_unreachable.1 sample whole
  exact ⟨whole, graph, built, none⟩

end ContractLint.Analysis
