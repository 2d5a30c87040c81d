import ContractLint.Detector.AccessControl
import ContractLint.Proofs.Detector.Reentrancy

/-! # Searching a tree for a change of state

One detector searches a tree for a change of state and stops at the first, another collects all of them. Both ask the
same nodes in the same order. So they agree on every tree on which the collection succeeds, and on any other tree the
search fails exactly if nothing was collected before the node that the collection fails on. Neither fails on a tree as
the compiler emits it, and nor does anything else that the detector asks.
-/

namespace ContractLint.Detector.AccessControl

open Solidity Outcome

variable {settings : DetectorSettings}

private theorem containsStateChange_eq (tree : Value) :
    containsStateChange tree = (nodes tree).anyM Reentrancy.isStateChange :=
  someNode_eq Reentrancy.isStateChange tree

/-! ## Questions -/

section Questions

variable {tree node : Value}

private theorem exists_isGuard (legible : Legible node) : ∃ b, isGuard node = .ok b := by
  unfold isGuard
  split
  next called =>
    have callee := legible.callee called
    simp only [hasKind_of_isObject callee, ok_bind, get_of_isObject callee]
    split
    next => exact ⟨_, rfl⟩
    next => exact ⟨_, rfl⟩
  next => exact ⟨_, rfl⟩

private theorem exists_isPrivileged (legible : Legible node) : ∃ b, isPrivileged node = .ok b := by
  unfold isPrivileged
  split
  next called =>
    have callee := legible.callee called
    simp only [hasKind_of_isObject callee, ok_bind, getOr_of_isObject callee]
    split
    next => exact ⟨_, rfl⟩
    next =>
      split
      next => exact ⟨_, rfl⟩
      next => exact ⟨_, rfl⟩
  next => exact ⟨_, rfl⟩

/-- A search has an answer if each node gives one. -/
theorem exists_someNode {ask : Value → Outcome Bool} (each : ∀ node ∈ nodes tree, ∃ b, ask node = .ok b) :
    ∃ b, someNode ask tree = .ok b := by
  rw [someNode_eq]
  exact exists_anyM each

private theorem exists_containsGuard (legible : Throughout Legible tree) : ∃ b, containsGuard tree = .ok b :=
  exists_someNode fun node member => exists_isGuard (legible node member)

private theorem exists_containsPrivileged (legible : Throughout Legible tree) :
    ∃ b, containsPrivileged tree = .ok b :=
  exists_someNode fun node member => exists_isPrivileged (legible node member)

private theorem exists_containsStateChange (legible : Throughout Legible tree) :
    ∃ b, containsStateChange tree = .ok b :=
  exists_someNode fun _ member =>
    Reentrancy.exists_isStateChange (isObject_of_mem_nodes member) (legible.below member)

end Questions

/-! ## Definitions -/

theorem exists_isSensitiveName (name : String) : ∃ b, isSensitiveName (.text name) = .ok b := ⟨_, rfl⟩

section Definition

variable {definition : Value} (object : definition.isObject) (emitted : Throughout Emitted definition)

include object

theorem bodyOf_eq : bodyOf definition = .ok (functionBody definition) := getOr_of_isObject object _ _

include emitted

theorem exists_containsGuard_body : ∃ b, (bodyOf definition >>= containsGuard) = .ok b := by
  rw [bodyOf_eq object, ok_bind]
  exact exists_containsGuard (emitted.legible.of_field legible_empty "body")

private theorem exists_isGuardModifier : ∃ b, isGuardModifier definition = .ok b := by
  obtain ⟨name, same⟩ := (emitted.own object).exists_name ""
  rw [isGuardModifier, getOr_of_isObject object, ok_bind, same, Value.textFor]
  refine exists_bind ⟨name, rfl⟩ fun name => ?_
  split
  next => exact ⟨true, rfl⟩
  next => exact exists_containsGuard_body object emitted

end Definition

private theorem exists_guardNames {definitions : List Value}
    (emitted : ∀ definition ∈ definitions, definition.isObject ∧ Throughout Emitted definition) :
    ∃ names, guardNames definitions = .ok names := by
  have each : ∀ definition ∈ definitions, isGuardModifier definition = .ok (isGuardModifier definition).holds := by
    intro definition member
    obtain ⟨object, emitted⟩ := emitted definition member
    exact eq_ok_holds (exists_isGuardModifier object emitted)
  rw [guardNames, filterM_eq_ok each, ok_bind]
  refine exists_bind (exists_mapM fun definition member => ?_) fun names => ⟨_, rfl⟩
  obtain ⟨object, emitted⟩ := emitted definition (List.mem_filter.mp member).1
  obtain ⟨name, same⟩ := (emitted.own object).exists_name ""
  rw [getOr_of_isObject object, ok_bind, same]
  exact ⟨name, rfl⟩

section Function

variable {function : Value} (known : isKind function "FunctionDefinition") (emitted : Throughout Emitted function)
  (guards : List String)

include known emitted

private theorem exists_isGuarded : ∃ b, isGuarded function guards = .ok b := by
  have object := isObject_of_isKind known
  obtain ⟨listed, objects⟩ := isNodeList_iff.mp ((emitted.own object).modifiers known)
  generalize itemsOf (fieldOr function "modifiers" (.list [])) = modifiers at listed objects
  have elements : (Value.list modifiers).elements = .ok modifiers := rfl
  rw [isGuarded, getOr_of_isObject object, ok_bind, listed, elements, ok_bind]
  refine exists_bind (exists_forIn (fun modifier member _ => ?_) _) fun ended => ?_
  · have inside := mem_nodes_of_item (mem_nodes_self object) listed member (objects modifier member)
    have inner := (emitted modifier inside).modifierName
    have applied := ((emitted.below inside).of_field emitted_empty "modifierName").own inner
    obtain ⟨name, same⟩ := applied.exists_name ""
    rw [getOr_of_isObject (objects modifier member), ok_bind, getOr_of_isObject inner, ok_bind, same]
    exact exists_bind ⟨(), rfl⟩ fun _ => exists_ite ⟨_, rfl⟩ ⟨_, rfl⟩
  · obtain ⟨answer, _⟩ := ended
    cases answer with
    | some b => exact ⟨b, rfl⟩
    | none => exact exists_containsGuard_body object emitted

private theorem exists_suspect? : ∃ suspect, suspect? guards function = .ok suspect := by
  have object := isObject_of_isKind known
  obtain ⟨name, same⟩ := (emitted.own object).exists_name "unknown"
  have legible : Throughout Legible (functionBody function) := emitted.legible.of_field legible_empty "body"
  obtain ⟨changes, changing⟩ := exists_containsStateChange legible
  obtain ⟨privileged, moving⟩ := exists_containsPrivileged legible
  obtain ⟨guarded, checked⟩ := exists_isGuarded known emitted guards
  rw [suspect?, getOr_of_isObject object, ok_bind, same, getOr_of_isObject object, ok_bind]
  simp only [isReadOnly, get_of_isObject object, bodyOf_eq object, ok_bind, changing, moving, checked]
  have kept (needed : Bool) :
      ∃ suspect, (pure (if needed && !guarded then some (changes, privileged) else none) : Outcome _) = .ok suspect :=
    ⟨_, rfl⟩
  -- One case for each reason why a function is no suspect, and one for the rest.
  refine exists_ite ⟨_, rfl⟩ (exists_bind ⟨_, rfl⟩ fun _ => exists_ite ⟨_, rfl⟩ ?_)
  refine exists_ite ⟨_, rfl⟩ (exists_ite ⟨_, rfl⟩ (exists_ite ?_ ?_))
  · exact exists_bind ⟨_, rfl⟩ kept
  · exact exists_bind (exists_isSensitiveName name) kept

private theorem exists_report (accepted : settings.Accepted) (source file : String) (changesState privileged : Bool) :
    ∃ finding, report settings function source file changesState privileged = .ok finding := by
  have object := isObject_of_isKind known
  obtain ⟨name, same⟩ := (emitted.own object).exists_name "unknown_function"
  rw [report, getOr_of_isObject object, ok_bind, same, getOr_of_isObject object, ok_bind]
  refine exists_bind ((emitted.own object).exists_nodeLocation object source file) fun place => ?_
  refine exists_bind ?_ fun why => exists_bind (exists_isSensitiveName name) fun sensitive =>
    profile.exists_report accepted _
  exact exists_ite ⟨_, rfl⟩ (exists_bind (exists_isSensitiveName name) fun _ =>
    exists_ite ⟨_, rfl⟩ ⟨_, rfl⟩)

private theorem exists_analyzeFunction (accepted : settings.Accepted) (source file : String) :
    ∃ found, analyzeFunction settings guards source file function = .ok found :=
  exists_bind (exists_suspect? known emitted guards) fun _ => exists_mapM fun does _ =>
    exists_report known emitted accepted source file does.1 does.2

end Function

/-- In a compiled file whose trees are as the compiler emits them the detector does not fail. -/
theorem exists_detect (accepted : settings.Accepted) {unit : Solidity.Unit}
    (emitted : ∀ contract ∈ unit.contracts, Throughout Emitted contract.ast) :
    ∃ found, detect settings unit = .ok found := by
  refine exists_bind (exists_mapM fun tree member => ?_) fun lists => ⟨lists.flatten, rfl⟩
  obtain ⟨contract, known, rfl⟩ := List.mem_map.mp (List.mem_filter.mp member).1
  have below {node : Value} (inside : node ∈ nodes contract.ast) := (emitted contract known).below inside
  refine exists_bind (exists_guardNames fun definition member => ?_) fun guards =>
    exists_bind (exists_mapM fun function member => ?_) fun lists => ⟨lists.flatten, rfl⟩
  · have inside := (List.mem_filter.mp member).1
    exact ⟨isObject_of_mem_nodes inside, below inside⟩
  · obtain ⟨inside, known⟩ := mem_functions.mp member
    exact exists_analyzeFunction known (below inside) guards accepted unit.source unit.file

/-! ## One change and all changes -/

/-- If the changes of state in a tree can be collected, the search for one succeeds and finds one exactly if there
are any. If they cannot, the node is known on which that fails, and the search fails on it in the same way unless a
change has been collected before it. -/
theorem finds_change_iff_collected (tree : Value) :
    (∀ changes, Reentrancy.stateChanges tree = .ok changes →
      ∃ found, containsStateChange tree = .ok found ∧ (found = true ↔ changes ≠ [])) ∧
    ∀ fault, Reentrancy.stateChanges tree = .error fault →
      ∃ before malformed after collected, nodes tree = before ++ malformed :: after ∧
        before.filterM Reentrancy.isStateChange = .ok collected ∧
        Reentrancy.isStateChange malformed = .error fault ∧
        containsStateChange tree = if collected.isEmpty then .error fault else .ok true := by
  rw [containsStateChange_eq]
  constructor
  · intro changes done
    refine ⟨!changes.isEmpty, anyM_of_filterM done, ?_⟩
    cases changes <;> simp
  · intro fault failed
    obtain ⟨before, malformed, after, collected, split, done, failing⟩ := filterM_eq_error failed
    refine ⟨before, malformed, after, collected, split, done, failing, ?_⟩
    rw [split, anyM_of_failing done failing after]

/-- The second item of a list in a list is not searched, so there are two changes and not three. -/
def nested : Value := .object [
  ("a", .list [assigned "x", .list [assigned "z"], .null]),
  ("b", .object [("c", assigned "x"), ("d", .int 1)])]

theorem finds_change_iff_collected_nested :
    Reentrancy.stateChanges nested = .ok [assigned "x", assigned "x"] ∧ containsStateChange nested = .ok true := by
  have collected : Reentrancy.stateChanges nested = .ok [assigned "x", assigned "x"] := by rfl
  obtain ⟨found, searched, some⟩ := (finds_change_iff_collected nested).1 _ collected
  refine ⟨collected, ?_⟩
  rw [searched, some.mpr (List.cons_ne_nil _ _)]

end ContractLint.Detector.AccessControl
