import ContractLint.Proofs.Outcome
import ContractLint.Scan.Analyzer

/-! # Failures outside an analysis

An analysis asks programs and services that may fail in any way. Whatever they do, the analysis of a text
ends with findings. Those of the rules come first and depend on the text only; what each of the computations
outside the rules contributes comes after them.
-/

namespace ContractLint.Scan

variable {α β : Type} {runs : List (Run (List α))}

theorem Run.bind_of_ok {first : Run α} {a : α} {around : Surroundings} {trace : Trace}
    (done : (first around trace).1 = .ok a) (next : α → Run β) :
    (first >>= next) around trace = next a around (first around trace).2 := by
  have step : (first >>= next) around trace = Run.andThen first next around trace := rfl
  rw [step, Run.andThen]
  generalize first around trace = ended at done
  obtain ⟨outcome, after⟩ := ended
  subst done
  rfl

/-- A run gives a result, whatever surrounds it. -/
def Run.Succeeds (run : Run α) : Prop := ∀ around trace, ∃ a, (run around trace).1 = .ok a

theorem Run.Succeeds.bind {first : Run α} {next : α → Run β} (one : first.Succeeds)
    (two : ∀ a, (next a).Succeeds) : (first >>= next).Succeeds := by
  intro around trace
  obtain ⟨a, done⟩ := one around trace
  rw [Run.bind_of_ok done]
  exact two a around _

theorem Run.Succeeds.pure (a : α) : (Pure.pure a : Run α).Succeeds := fun _ _ => ⟨a, rfl⟩

theorem Run.Succeeds.closed : ClosedUnderBind @Run.Succeeds := ⟨.pure, .bind⟩

/-- Computations inherit what sequences do when their results are joined. -/
theorem gather_of_closed {P : (α : Type) → Run α → Prop} (closed : ClosedUnderBind P)
    (each : ∀ run ∈ runs, P _ run) : P _ (gather runs) := by
  induction runs with
  | nil => exact closed.pure []
  | cons first rest ih =>
    obtain ⟨one, others⟩ := List.forall_mem_cons.mp each
    exact closed.bind one fun found => closed.bind (ih others) fun more => closed.pure (found ++ more)

/-- Computations one after the other, each in the trace that the one before leaves, with their results. -/
inductive Contributed (around : Surroundings) : List (Run (List α)) → Trace → List (List α) → Prop
  | nil {trace : Trace} : Contributed around [] trace []
  | cons {run : Run (List α)} {rest : List (Run (List α))} {trace : Trace} {found : List α}
      {parts : List (List α)} (done : (run around trace).1 = .ok found)
      (others : Contributed around rest (run around trace).2 parts) :
      Contributed around (run :: rest) trace (found :: parts)

/-- The results of computations that succeed are joined in their order. -/
theorem gather_eq_flatten (each : ∀ run ∈ runs, run.Succeeds) (around : Surroundings) (trace : Trace) :
    ∃ parts, Contributed around runs trace parts ∧ (gather runs around trace).1 = .ok parts.flatten := by
  induction runs generalizing trace with
  | nil => exact ⟨[], .nil, rfl⟩
  | cons first rest ih =>
    obtain ⟨one, others⟩ := List.forall_mem_cons.mp each
    obtain ⟨found, done⟩ := one around trace
    obtain ⟨parts, contributed, joined⟩ := ih others (first around trace).2
    refine ⟨found :: parts, .cons done contributed, ?_⟩
    rw [gather, Run.bind_of_ok done, Run.bind_of_ok joined]
    rfl

namespace Analyzer

/-- A run whose failure is tolerated succeeds. -/
theorem tolerated_succeeds (name : String) (run : Run (List Finding)) : (tolerated name run).Succeeds := by
  intro around trace
  have step : tolerated name run around trace = Run.orElse run (fun fault => do
    say (name ++ " failed: " ++ fault.message)
    pure []) around trace := rfl
  rw [step, Run.orElse]
  rcases run around trace with ⟨fault | found, after⟩
  · exact ⟨[], rfl⟩
  · exact ⟨found, rfl⟩

/-- Every computation outside the rules is tolerated. -/
theorem outside_succeeds (filename content : Value) (analyzer : Analyzer) :
    ∀ run ∈ analyzer.outside filename content, run.Succeeds := by
  cases analyzer with
  | solidity => simp [outside, tolerated_succeeds]
  | rust => simp [outside, tolerated_succeeds]
  | go => simp [outside, tolerated_succeeds]

/-- An analyzer succeeds on every text. -/
theorem analyze_succeeds (analyzer : Analyzer) (filename : Value) (text : String) :
    (analyzer.analyze filename (.text text)).Succeeds := by
  refine (Run.Succeeds.pure text).bind fun text => ?_
  exact (gather_of_closed Run.Succeeds.closed (outside_succeeds filename _ analyzer)).bind fun found => .pure _

/-- An analysis gives the findings of the rules and what the other runs contribute. -/
theorem exists_contributed (analyzer : Analyzer) (filename : Value) (text : String) (around : Surroundings)
    (trace : Trace) : ∃ parts, Contributed around (analyzer.outside filename (.text text)) trace parts ∧
      (analyzer.analyze filename (.text text) around trace).1 = .ok (analyzer.ruleFindings text ++ parts.flatten) := by
  obtain ⟨parts, contributed, joined⟩ :=
    gather_eq_flatten (outside_succeeds filename (.text text) analyzer) around trace
  refine ⟨parts, contributed, ?_⟩
  have step : analyzer.analyze filename (.text text) around trace =
    (gather (analyzer.outside filename (.text text)) >>= fun found =>
      pure (analyzer.ruleFindings text ++ found)) around trace := rfl
  rw [step, Run.bind_of_ok joined]
  rfl

/-- Whatever the programs and services outside do, the analysis of a text ends with the findings of the rules in
their order, and after them what each computation outside the rules contributes. -/
theorem analyze_begins_with_rules (filename : Value) (text : String) (around : Surroundings) (trace : Trace) :
    (∀ analyzer : Analyzer, ∃ parts,
      Contributed around (analyzer.outside filename (.text text)) trace parts ∧
      (analyzer.analyze filename (.text text) around trace).1 =
        .ok ((analyzer.rules.map fun rule => rule.2 (Source.ofContent text)).flatten ++ parts.flatten)) ∧
    solidity.rules.length = 10 ∧ rust.rules.length = 7 ∧ go.rules.length = 8 :=
  ⟨fun analyzer => analyzer.exists_contributed filename text around trace, rfl, rfl, rfl⟩

end Analyzer

end ContractLint.Scan
