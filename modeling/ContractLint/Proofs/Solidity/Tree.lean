import ContractLint.Proofs.Outcome
import ContractLint.Solidity.Tree

/-! # Nodes of syntax trees

The nodes below a node of a tree are nodes of the tree. A node is an object, and asking an object for its
kind or for a field always succeeds.
-/

namespace ContractLint.Solidity

open List

variable {v : Value} {fields : List (String × Value)} {kind key : String} {tree node : Value}
  {names : List String}

/-! ## Asking objects -/

section Object

variable {v : Value} (object : v.isObject)

include object

/-- An object can be asked for any field. -/
theorem getOr_of_isObject (key : String) (default : Value) : v.getOr key default = .ok (fieldOr v key default) := by
  cases v with
  | object fields => rfl
  | _ => contradiction

theorem get_of_isObject (key : String) : v.get key = .ok (fieldOr v key .null) :=
  getOr_of_isObject object key .null

theorem hasKind_of_isObject (kind : String) : hasKind v kind = .ok (isKind v kind) := by
  rw [hasKind, get_of_isObject object]
  rfl

end Object

theorem has_eq (fields : List (String × Value)) (key : String) :
    (Value.object fields).has key = .ok (fields.lookup key).isSome := by
  suffices (fields.any fun entry => entry.1 == key) = (fields.lookup key).isSome from congrArg Except.ok this
  induction fields with
  | nil => rfl
  | cons field rest ih =>
    obtain ⟨name, v⟩ := field
    rw [any_cons, lookup_cons, ih]
    by_cases same : name = key
    · rw [same, beq_self_eq_true]
      rfl
    · rw [beq_false_of_ne same, beq_false_of_ne (Ne.symm same)]
      rfl

theorem isObject_of_isKind (known : isKind v kind) : v.isObject := by
  cases v with
  | object fields => rfl
  | _ => contradiction

theorem isObject_of_hasKind {known : Bool} (asked : hasKind v kind = .ok known) : v.isObject := by
  cases v with
  | object fields => rfl
  | _ => contradiction

theorem truthy_of_isKind (known : isKind v kind) : v.truthy := by
  cases v with
  | object fields =>
    cases fields with
    | nil => contradiction
    | cons field rest => rfl
  | _ => contradiction

theorem isText_iff {s : String} : v.isText s ↔ v = .text s := by
  cases v <;> simp [Value.isText]

theorem same_text_iff {s : String} : v.same (.text s) ↔ v = .text s := by
  cases v <;> simp [Value.same, Value.asNumber?]

/-- A node is of one kind only. -/
theorem isKind_unique {other : String} (known : isKind v kind) (differs : kind ≠ other) :
    isKind v other = false := by
  rw [isKind, isText_iff] at known
  rw [isKind, known]
  exact beq_false_of_ne differs

private theorem isOneOf_of_isKind (known : isKind v kind) (member : kind ∈ names) : (kindOf v).isOneOf names := by
  rw [isKind, isText_iff] at known
  rw [known]
  exact contains_iff_mem.mpr member

theorem isKind_of_isOneOf
    (none : (kindOf v).isOneOf names = false) (member : kind ∈ names) : isKind v kind = false := by
  apply Bool.eq_false_iff.mpr
  intro known
  rw [isOneOf_of_isKind known member] at none
  contradiction

/-! ## Nodes -/

theorem nodesOfItems_eq (items : List Value) : nodesOfItems items = items.flatMap nodes := by
  induction items with
  | nil => rfl
  | cons v rest ih => rw [nodesOfItems, ih, flatMap_cons]

theorem nodesOfFields_cons (field : String × Value) (rest : List (String × Value)) :
    nodesOfFields (field :: rest) = nodesOfFields [("", field.2)] ++ nodesOfFields rest := by
  obtain ⟨name, v⟩ := field
  cases v <;> simp [nodesOfFields]

theorem nodesOfFields_eq (fields : List (String × Value)) :
    nodesOfFields fields = fields.flatMap fun field => nodesOfFields [("", field.2)] := by
  induction fields with
  | nil => rfl
  | cons field rest ih => rw [nodesOfFields_cons, ih, flatMap_cons]

theorem nodesOfFields_append (first second : List (String × Value)) :
    nodesOfFields (first ++ second) = nodesOfFields first ++ nodesOfFields second := by
  rw [nodesOfFields_eq, flatMap_append, ← nodesOfFields_eq, ← nodesOfFields_eq]

/-- A list of nodes that has with each node all nodes below it. -/
def Forest (list : List Value) : Prop := ∀ node ∈ list, node.isObject ∧ ∀ below ∈ nodes node, below ∈ list

namespace Forest

theorem nil : Forest [] := by simp [Forest]

theorem append {first second : List Value} (one : Forest first) (two : Forest second) : Forest (first ++ second) := by
  intro node member
  obtain left | right := mem_append.mp member
  · exact ⟨(one node left).1, fun below inner => mem_append_left _ ((one node left).2 below inner)⟩
  · exact ⟨(two node right).1, fun below inner => mem_append_right _ ((two node right).2 below inner)⟩

/-- The nodes below the fields of an object, and the object above them. -/
theorem root (below : Forest (nodesOfFields fields)) : Forest (nodes (.object fields)) := by
  intro node member
  obtain rfl | deeper := mem_cons.mp member
  · exact ⟨rfl, fun _ inner => inner⟩
  · exact ⟨(below node deeper).1, fun other inner => mem_cons_of_mem _ ((below node deeper).2 other inner)⟩

end Forest

mutual

/-- The nodes of a tree are a forest. -/
theorem nodes_forest : (tree : Value) → Forest (nodes tree)
  | .object fields => (nodesOfFields_forest fields).root
  | .null | .bool _ | .int _ | .real _ | .text _ | .list _ => .nil

theorem nodesOfFields_forest : (fields : List (String × Value)) → Forest (nodesOfFields fields)
  | [] => .nil
  | (_, .list items) :: rest => (nodesOfItems_forest items).append (nodesOfFields_forest rest)
  | (_, .object fields) :: rest => (nodesOfFields_forest fields).root.append (nodesOfFields_forest rest)
  | (_, .null) :: rest | (_, .bool _) :: rest | (_, .int _) :: rest | (_, .real _) :: rest
  | (_, .text _) :: rest => nodesOfFields_forest rest

theorem nodesOfItems_forest : (items : List Value) → Forest (nodesOfItems items)
  | [] => .nil
  | v :: rest => (nodes_forest v).append (nodesOfItems_forest rest)

end

mutual

/-- Searching a tree is searching the list of its nodes. -/
theorem someNode_eq (ask : Value → Outcome Bool) : (tree : Value) → someNode ask tree = (nodes tree).anyM ask
  | .object fields => by rw [someNode, nodes, anyM_cons, someNodeOfFields_eq ask fields]
  | .null | .bool _ | .int _ | .real _ | .text _ | .list _ => rfl

theorem someNodeOfFields_eq (ask : Value → Outcome Bool) :
    (fields : List (String × Value)) → someNodeOfFields ask fields = (nodesOfFields fields).anyM ask
  | [] => rfl
  | (_, .list items) :: rest => by
    rw [someNodeOfFields, nodesOfFields, Outcome.anyM_append, someNodeOfItems_eq ask items,
      someNodeOfFields_eq ask rest]
  | (_, .object fields) :: rest => by
    change (do if ← someNode ask (.object fields) then return true else someNodeOfFields ask rest) =
      (nodes (.object fields) ++ nodesOfFields rest).anyM ask
    rw [Outcome.anyM_append, someNode_eq ask (.object fields), someNodeOfFields_eq ask rest]
  -- Below a scalar there is nothing to be asked.
  | (_, .null) :: rest | (_, .bool _) :: rest | (_, .int _) :: rest | (_, .real _) :: rest
  | (_, .text _) :: rest => someNodeOfFields_eq ask rest

theorem someNodeOfItems_eq (ask : Value → Outcome Bool) :
    (items : List Value) → someNodeOfItems ask items = (nodesOfItems items).anyM ask
  | [] => rfl
  | v :: rest => by
    rw [someNodeOfItems, nodesOfItems, Outcome.anyM_append, someNode_eq ask v, someNodeOfItems_eq ask rest]

end

theorem isObject_of_mem_nodes (member : node ∈ nodes tree) : node.isObject :=
  (nodes_forest tree node member).1

/-- Nodes of a node are nodes of the tree. -/
theorem mem_nodes_trans {below : Value} (member : node ∈ nodes tree) (inner : below ∈ nodes node) :
    below ∈ nodes tree :=
  (nodes_forest tree node member).2 below inner

theorem mem_nodes_self (object : node.isObject) : node ∈ nodes node := by
  cases node with
  | object fields => exact mem_cons_self
  | _ => contradiction

/-- The nodes in a field are among those in all fields, in the same order. -/
theorem nodesOfField_sublist
    (found : fields.lookup key = some v) : (nodesOfFields [("", v)]).Sublist (nodesOfFields fields) := by
  induction fields with
  | nil => contradiction
  | cons field rest ih =>
    obtain ⟨name, item⟩ := field
    rw [nodesOfFields_cons (name, item)]
    rw [lookup_cons] at found
    split at found
    next =>
      cases found
      exact sublist_append_left _ _
    next => exact (ih found).trans (sublist_append_right _ _)

theorem mem_nodesOfField (object : v.isObject) : v ∈ nodesOfFields [("", v)] := by
  cases v with
  | object fields => exact mem_cons_self
  | _ => contradiction

theorem mem_nodes_of_inside {v below : Value} (member : node ∈ nodes tree) (same : node = .object fields)
    (found : fields.lookup key = some v) (inside : below ∈ nodesOfFields [("", v)]) : below ∈ nodes tree := by
  subst same
  exact mem_nodes_trans member (mem_cons_of_mem _ ((nodesOfField_sublist found).subset inside))

/-- A field with a known kind is a node of the tree. -/
theorem mem_nodes_of_field {default : Value} (member : node ∈ nodes tree)
    (known : isKind (fieldOr node key default) kind) (missing : isKind default kind = false) :
    fieldOr node key default ∈ nodes tree := by
  cases node with
  | object fields =>
    rw [fieldOr] at known ⊢
    cases found : fields.lookup key with
    | none =>
      rw [found, Option.getD_none, missing] at known
      contradiction
    | some v =>
      rw [found, Option.getD_some] at known
      rw [Option.getD_some]
      exact mem_nodes_of_inside member rfl found (mem_nodesOfField (isObject_of_isKind known))
  | _ =>
    have object := isObject_of_mem_nodes member
    contradiction

/-- An object listed in a field is a node of the tree. -/
theorem mem_nodes_of_item {item : Value} {items : List Value} (member : node ∈ nodes tree)
    (listed : fieldOr node key (.list []) = .list items) (inside : item ∈ items) (object : item.isObject) :
    item ∈ nodes tree := by
  cases node with
  | object fields =>
    rw [fieldOr] at listed
    cases found : fields.lookup key with
    | none =>
      rw [found] at listed
      cases listed
      contradiction
    | some v =>
      rw [found] at listed
      cases listed
      refine mem_nodes_of_inside member rfl found ?_
      rw [nodesOfFields, nodesOfFields, append_nil, nodesOfItems_eq]
      exact mem_flatMap_of_mem inside (mem_nodes_self object)
  | _ =>
    have object := isObject_of_mem_nodes member
    contradiction

/-- Functions are the nodes that define one. -/
theorem mem_functions {function : Value} :
    function ∈ functions tree ↔ function ∈ nodes tree ∧ isKind function "FunctionDefinition" := by
  rw [functions, nodesOfKind, mem_filter, same_text_iff, isKind, isText_iff]

theorem truthy_of_mem_functions {function : Value} (member : function ∈ functions tree) : tree.truthy := by
  obtain ⟨inside, known⟩ := mem_functions.mp member
  cases tree with
  | object fields =>
    cases fields with
    | nil =>
      obtain rfl := mem_singleton.mp inside
      contradiction
    | cons field rest => rfl
  | _ => contradiction

end ContractLint.Solidity
