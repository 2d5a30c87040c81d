import ContractLint.Flow.Call
import ContractLint.Proofs.Entries
import Mathlib.Logic.Relation

/-! # Functions that call themselves

The search for a way of calls back to a name goes on only from names that it has not visited on its
way. That loses no cycle: a way that comes back to a visited name can start from there instead
(`Onward.restart`). So the search finds a way back exactly if there is a cycle of calls through the name.
-/

namespace ContractLint.Flow

open List Program Relation

variable {graph : CallGraph} {name target : String}

def Calls (edges : List Edge) (caller callee : String) : Prop := ⟨caller, callee, .call⟩ ∈ edges

/-- A name lies on a cycle of one or more calls. -/
def OnCycle (edges : List Edge) (name : String) : Prop := TransGen (Calls edges) name name

namespace CallGraph

theorem mem_callees {callee : String} : callee ∈ graph.callees name ↔ Calls graph.edges name callee := by
  simp only [callees, successors, calls, Calls, mem_map, mem_filter, beq_iff_eq,
    decide_eq_true_eq]
  constructor
  · rintro ⟨⟨_, _, _⟩, ⟨⟨known, rfl⟩, rfl⟩, rfl⟩
    exact known
  · intro known
    exact ⟨_, ⟨⟨known, rfl⟩, rfl⟩, rfl⟩

/-! ## Names of functions -/

private theorem names_add (graph : CallGraph) (f : Function) :
    (graph.add f).names = if f.name ∈ graph.names then graph.names else graph.names ++ [f.name] := by
  have known : (graph.nodes.lookup f.name).isSome ↔ f.name ∈ graph.names := by
    simp [names, lookup_isSome_iff]
  rw [add]
  split
  next old =>
    rw [if_pos (known.mp old), names, List.map_map, names]
    apply map_congr_left
    intro entry _
    by_cases same : entry.1 = f.name <;> simp [same]
  next new =>
    rw [if_neg (fun old => new (known.mpr old)), names, map_append]
    rfl

/-- Functions stand under their names, in the order in which the names first occur. -/
theorem names_ofFunctions (functions : List Function) :
    (ofFunctions functions).names = (functions.map Function.name).eraseDups := by
  induction functions using List.reverseRecOn with
  | nil => rfl
  | append_singleton functions f ih =>
    rw [ofFunctions, foldl_append, foldl_cons, foldl_nil, ← ofFunctions, names_add, ih,
      map_append, map_singleton, eraseDups_append_singleton]
    simp only [mem_eraseDups]

/-! ## The search -/

private theorem returnsTo_eq (graph : CallGraph) (target : String) (visited : List String) (name : String) :
    graph.returnsTo target visited name = if name ∈ visited then name == target
      else (graph.callees name).any (graph.returnsTo target (name :: visited)) := by
  rw [returnsTo, dite_eq_ite]
  congr 1
  rw [any_subtype fun _ _ => rfl, unattach_attach]

end CallGraph

/-- A call from a name that has not been visited. -/
def Onward (edges : List Edge) (visited : List String) (caller callee : String) : Prop :=
  caller ∉ visited ∧ Calls edges caller callee

namespace Onward

variable {edges : List Edge} {visited : List String}

theorem mono {caller callee : String} (onward : Onward edges (name :: visited) caller callee) :
    Onward edges visited caller callee :=
  ⟨fun met => onward.1 (mem_cons_of_mem _ met), onward.2⟩

/-- A way goes on without a name, or from the last time that it meets this name. -/
theorem restart {start : String} (way : ReflTransGen (Onward edges visited) start target) (name : String) :
    ReflTransGen (Onward edges (name :: visited)) start target ∨
      ∃ callee, Calls edges name callee ∧
        ReflTransGen (Onward edges (name :: visited)) callee target := by
  induction way using ReflTransGen.head_induction_on with
  | refl => exact .inl .refl
  | @head caller callee step _ ih =>
    obtain direct | later := ih
    -- The rest of the way does not meet the name, so this is the last time if it is met here.
    · by_cases same : caller = name
      · exact .inr ⟨callee, same ▸ step.2, direct⟩
      · exact .inl (.head ⟨by simp [same, step.1], step.2⟩ direct)
    · exact .inr later

/-- A way to a name from where the name can be left only by its calls. -/
theorem iff_of_new (new : name ∉ visited) (differs : name ≠ target) :
    ReflTransGen (Onward edges visited) name target ↔ ∃ callee, Calls edges name callee ∧
      ReflTransGen (Onward edges (name :: visited)) callee target := by
  constructor
  · intro way
    obtain direct | later := restart way name
    · obtain same | ⟨_, step, -⟩ := direct.cases_head
      · exact absurd same differs
      · exact absurd mem_cons_self step.1
    · exact later
  · rintro ⟨callee, call, way⟩
    exact .head ⟨new, call⟩ (ReflTransGen.mono (fun _ _ => mono) _ _ way)

end Onward

namespace CallGraph

/-- The search finds a way exactly if one leads to the target over names that have not been visited. -/
theorem returnsTo_iff {visited : List String} (met : target ∈ visited) :
    graph.returnsTo target visited name ↔ ReflTransGen (Onward graph.edges visited) name target := by
  fun_induction returnsTo graph target visited name with
  | case1 visited name here =>
    have stuck (callee : String) : ¬ Onward graph.edges visited name callee := fun step => step.1 here
    rw [reflTransGen_iff_eq stuck, beq_iff_eq, eq_comm]
  | case2 visited name new ih =>
    have later : target ∈ name :: visited := mem_cons_of_mem name met
    rw [Onward.iff_of_new new (fun same => new (same ▸ met)), any_eq_true]
    constructor
    · rintro ⟨⟨callee, called⟩, -, found⟩
      exact ⟨callee, mem_callees.mp called, (ih ⟨callee, called⟩ later).mp found⟩
    · rintro ⟨callee, call, way⟩
      have called := mem_callees.mpr call
      exact ⟨⟨callee, called⟩, mem_attach _ _, (ih ⟨callee, called⟩ later).mpr way⟩

private theorem hasCycle_iff : graph.hasCycle name name ↔ OnCycle graph.edges name := by
  rw [hasCycle, returnsTo_eq, if_neg not_mem_nil, any_eq_true]
  simp only [mem_callees, returnsTo_iff (mem_singleton_self name)]
  constructor
  · rintro ⟨callee, call, way⟩
    exact .head' call (ReflTransGen.mono (fun _ _ step => step.2) _ _ way)
  · intro cycle
    obtain ⟨callee, call, way⟩ := TransGen.head'_iff.mp cycle
    have way : ReflTransGen (Onward graph.edges []) callee name :=
      ReflTransGen.mono (fun _ _ step => ⟨not_mem_nil, step⟩) _ _ way
    obtain direct | later := Onward.restart way name
    · exact ⟨callee, call, direct⟩
    · exact later

private theorem mem_recursive : name ∈ graph.recursive ↔ name ∈ graph.names ∧ OnCycle graph.edges name := by
  rw [recursive, mem_filter, hasCycle_iff]

end CallGraph

/-- Whatever functions and edges there are, the functions found to call themselves are those whose names
lie on a cycle of calls, other cycles notwithstanding. They are listed once each, in the order in which
their names first occur among the functions. -/
theorem recursive_iff_onCycle (functions : List Function) (edges : List Edge) :
    let graph : CallGraph := { CallGraph.ofFunctions functions with edges }
    graph.names = (functions.map Function.name).eraseDups ∧
      graph.recursive.Sublist graph.names ∧ graph.recursive.Nodup ∧
      ∀ name, name ∈ graph.recursive ↔ name ∈ functions.map Function.name ∧ OnCycle edges name := by
  intro graph
  have names : graph.names = (functions.map Function.name).eraseDups :=
    CallGraph.names_ofFunctions functions
  have ordered : graph.recursive.Sublist graph.names := filter_sublist
  refine ⟨names, ordered, ?_, fun name => ?_⟩
  · exact ordered.nodup (names ▸ nodup_eraseDups _)
  · rw [CallGraph.mem_recursive, names, mem_eraseDups]

end ContractLint.Flow
