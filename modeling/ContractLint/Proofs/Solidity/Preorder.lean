import ContractLint.Proofs.Solidity.Tree

/-! # Nodes in preorder

A way to a node is a list of steps from objects to what they hold. The nodes that are extracted from a tree are
those of a kind to which there is a way, in the lexicographic order of the ways (`extract_preorder`): a node
comes before the nodes below it, and these come field by field and item by item. That some fields are looked into
whatever they hold makes no difference.
-/

namespace ContractLint.Solidity

open List

variable {fields : List (String × Value)}

/-! ## Collecting nodes -/

mutual

/-- The nodes of a kind are collected in preorder. -/
theorem toList_collect (kind : Value) (found : Array Value) : (tree : Value) →
    (collect kind found tree).toList = found.toList ++ nodesOfKind tree kind
  | .object fields => by
    rw [collect, toList_collectFields, nodesOfKind, nodes, filter_cons]
    split <;> simp
  | .null | .bool _ | .int _ | .real _ | .text _ | .list _ => (append_nil _).symm

theorem toList_collectFields (kind : Value) (found : Array Value) : (fields : List (String × Value)) →
    (collectFields kind found fields).toList =
      found.toList ++ (nodesOfFields fields).filter fun node => (kindOf node).same kind
  | [] => (append_nil _).symm
  | field :: rest => by
    rw [collectFields, toList_collectFields kind _ rest, toList_collectField kind found field,
      nodesOfFields_cons field rest, filter_append, append_assoc]

theorem toList_collectField (kind : Value) (found : Array Value) : (field : String × Value) →
    (collectField kind found field).toList =
      found.toList ++ (nodesOfFields [("", field.2)]).filter fun node => (kindOf node).same kind
  | (key, .list items) => by simp [collectField, nodesOfFields, toList_collectItems kind found items]
  | (key, .object fields) => by
    simp [collectField, Value.isObject, nodesOfFields, toList_collect kind found (.object fields), nodesOfKind]
  -- Under some names a scalar is looked into, but there is nothing in it.
  | (key, .null) | (key, .bool _) | (key, .int _) | (key, .real _) | (key, .text _) => by
    simp [collectField, Value.isObject, nodesOfFields, collect, nodes]

theorem toList_collectItems (kind : Value) (found : Array Value) : (items : List Value) →
    (collectItems kind found items).toList =
      found.toList ++ (nodesOfItems items).filter fun node => (kindOf node).same kind
  | [] => (append_nil _).symm
  | v :: rest => by
    rw [collectItems, toList_collectItems kind _ rest, toList_collect kind found v, nodesOfItems, filter_append,
      append_assoc, nodesOfKind]

end

private theorem extract_eq (tree kind : Value) : extract tree kind = nodesOfKind tree kind :=
  (toList_collect kind #[] tree).trans (nil_append _)

/-! ## Ways to nodes -/

/-- What a field holds: the items of a list, or else the one value. -/
def held : Value → List Value
  | .list items => items
  | v => [v]

/-- A step down from an object to something that one of its fields holds: the numbers of the field and of the item. -/
structure Descent where
  field : Nat
  item : Nat

/-- The step goes to an earlier field than the other, or to an earlier item of the same field. -/
def Descent.Before (a b : Descent) : Prop := a.field < b.field ∨ a.field = b.field ∧ a.item < b.item

/-- Some steps lead from a tree to a node. -/
inductive Leads : Value → List Descent → Value → Prop
  | here (fields : List (String × Value)) : Leads (.object fields) [] (.object fields)
  | onward {fields : List (String × Value)} {step : Descent} {key : String} {v w node : Value} {way : List Descent}
      (field : fields[step.field]? = some (key, v)) (item : (held v)[step.item]? = some w)
      (rest : Leads w way node) : Leads (.object fields) (step :: way) node

private theorem nodesOfField_eq (v : Value) : nodesOfFields [("", v)] = (held v).flatMap nodes := by
  cases v with
  | list items => rw [nodesOfFields, nodesOfFields, append_nil, nodesOfItems_eq, held]
  | _ => simp [nodesOfFields, held]

private theorem nodes_object (fields : List (String × Value)) :
    nodes (.object fields) = .object fields :: fields.flatMap fun field => (held field.2).flatMap nodes := by
  rw [nodes, nodesOfFields_eq]
  simp only [nodesOfField_eq]

private theorem sizeOf_lt_of_held {i j : Nat} {field : String × Value} {w : Value}
    (known : fields[i]? = some field) (item : (held field.2)[j]? = some w) :
    sizeOf w < sizeOf (Value.object fields) := by
  obtain ⟨key, v⟩ := field
  have outer := sizeOf_lt_of_mem (mem_of_getElem? known)
  have inner : sizeOf w ≤ sizeOf v := by
    cases v with
    | list items =>
      have smaller := sizeOf_lt_of_mem (mem_of_getElem? item)
      rw [held] at smaller
      rw [Value.list.sizeOf_spec]
      omega
    | _ => exact Nat.le_of_eq (congrArg sizeOf (mem_singleton.mp (mem_of_getElem? item)))
  rw [Prod.mk.sizeOf_spec] at outer
  rw [Value.object.sizeOf_spec]
  omega

/-! ## The order of the nodes -/

/-- The nodes are those that are reached in some ways, and stand in the order of these ways. -/
def Listed (reached : List Descent → Value → Prop) (list : List Value) : Prop :=
  ∃ found : List (List Descent × Value), list = found.map Prod.snd ∧
    (found.Pairwise fun a b => List.Lex Descent.Before a.1 b.1) ∧
    ∀ way node, (way, node) ∈ found ↔ reached way node

namespace Listed

open List

variable {reached : List Descent → Value → Prop} {list : List Value}

theorem nil (nothing : ∀ way node, ¬ reached way node) : Listed reached [] :=
  ⟨[], rfl, .nil, fun way node => iff_of_false not_mem_nil (nothing way node)⟩

private theorem filter (listed : Listed reached list) (keep : Value → Bool) :
    Listed (fun way node => reached way node ∧ keep node) (list.filter keep) := by
  obtain ⟨found, rfl, ordered, exact⟩ := listed
  refine ⟨found.filter fun entry => keep entry.2, ?_, ordered.filter _, fun way node => ?_⟩
  · rw [filter_map]
    rfl
  · rw [mem_filter, exact]

/-- What is reached from the end of a step is reached from its beginning in ways that start with it. -/
theorem step (listed : Listed reached list) (first : Descent) :
    Listed (fun way node => ∃ rest, way = first :: rest ∧ reached rest node) list := by
  obtain ⟨found, rfl, ordered, exact⟩ := listed
  refine ⟨found.map fun entry => (first :: entry.1, entry.2), ?_, ?_, fun way node => ?_⟩
  · rw [map_map]
    rfl
  · rw [pairwise_map]
    exact ordered.imp fun before => .cons before
  · simp only [mem_map, Prod.mk.injEq, Prod.exists]
    constructor
    · rintro ⟨rest, other, member, rfl, rfl⟩
      exact ⟨rest, rfl, (exact rest other).mp member⟩
    · rintro ⟨rest, rfl, known⟩
      exact ⟨rest, node, (exact rest node).mpr known, rfl, rfl⟩

/-- What is listed for each member of a list can be listed member by member, if the ways to what a later member has
are later. -/
theorem flatMap {α : Type} {xs : List α} {below : α → List Value}
    {reached : Nat → α → List Descent → Value → Prop}
    (each : ∀ i x, xs[i]? = some x → Listed (reached i x) (below x))
    (later : ∀ i j x y, i < j → ∀ way node way' node', reached i x way node → reached j y way' node' →
      List.Lex Descent.Before way way') :
    Listed (fun way node => ∃ i x, xs[i]? = some x ∧ reached i x way node) (xs.flatMap below) := by
  induction xs generalizing reached with
  | nil => exact .nil (by simp)
  | cons x xs ih =>
    obtain ⟨first, one, ordered, exact⟩ := each 0 x rfl
    obtain ⟨others, two, ordered', exact'⟩ := ih (fun i y known => each (i + 1) y known)
      fun i j y z before => later (i + 1) (j + 1) y z (Nat.succ_lt_succ before)
    refine ⟨first ++ others, ?_, ?_, fun way node => ?_⟩
    · rw [flatMap_cons, one, two, map_append]
    · refine pairwise_append.mpr ⟨ordered, ordered', fun entry known entry' known' => ?_⟩
      obtain ⟨i, y, _, there⟩ := (exact' entry'.1 entry'.2).mp known'
      exact later 0 (i + 1) x y (Nat.succ_pos i) _ _ _ _ ((exact entry.1 entry.2).mp known) there
    · rw [mem_append, exact, exact']
      constructor
      · rintro (here | ⟨i, y, known, there⟩)
        · exact ⟨0, x, rfl, here⟩
        · exact ⟨i + 1, y, known, there⟩
      · rintro ⟨_ | i, y, known, there⟩
        · cases known
          exact .inl there
        · exact .inr ⟨i, y, known, there⟩

/-- An object comes before what is below its fields. -/
theorem root
    (listed : Listed (fun way node => ∃ i field, fields[i]? = some field ∧ ∃ j w, (held field.2)[j]? = some w ∧
      ∃ rest, way = ⟨i, j⟩ :: rest ∧ Leads w rest node) list) :
    Listed (Leads (.object fields)) (.object fields :: list) := by
  obtain ⟨found, rfl, ordered, exact⟩ := listed
  refine ⟨([], .object fields) :: found, rfl, pairwise_cons.mpr ⟨?_, ordered⟩, fun way node => ?_⟩
  · rintro ⟨way, node⟩ member
    obtain ⟨_, _, _, _, _, _, rest, rfl, _⟩ := (exact way node).mp member
    exact .nil
  · rw [mem_cons, exact, Prod.mk.injEq]
    constructor
    · rintro (⟨rfl, rfl⟩ | ⟨i, ⟨key, v⟩, field, j, w, item, rest, rfl, onward⟩)
      · exact .here fields
      · exact .onward field item onward
    · intro leads
      cases leads with
      | here => exact .inl ⟨rfl, rfl⟩
      | onward field item rest => exact .inr ⟨_, _, field, _, _, item, _, rfl, rest⟩

end Listed

/-- The nodes of a tree are those that steps lead to, in the order of the ways. -/
theorem nodes_listed (tree : Value) : Listed (Leads tree) (nodes tree) := by
  cases tree with
  | object fields =>
    rw [nodes_object]
    refine .root (.flatMap (fun i field known => .flatMap (fun j w item => ?_) ?_) ?_)
    · exact (nodes_listed w).step ⟨i, j⟩
    · rintro j k w u before way node way' node' ⟨rest, rfl, _⟩ ⟨rest', rfl, _⟩
      exact .rel (.inr ⟨rfl, before⟩)
    · rintro i k field field' before way node way' node' ⟨j, w, _, rest, rfl, _⟩ ⟨j', w', _, rest', rfl, _⟩
      exact .rel (.inl before)
  | _ =>
    refine .nil fun way node leads => ?_
    cases leads
termination_by sizeOf tree
decreasing_by exact sizeOf_lt_of_held known item

/-- The nodes of a kind that are extracted from a tree are exactly those that steps lead to through the fields of
objects and the items of lists in fields, each once, in the order of the ways. For function definitions they are the
functions that detectors go through. -/
theorem extract_preorder (tree : Value) (kind : String) :
    (∃ found : List (List Descent × Value), extract tree (.text kind) = found.map Prod.snd ∧
      (found.Pairwise fun a b => List.Lex Descent.Before a.1 b.1) ∧
      ∀ way node, (way, node) ∈ found ↔ Leads tree way node ∧ kindOf node = .text kind) ∧
    extract tree (.text "FunctionDefinition") = functions tree := by
  refine ⟨?_, extract_eq tree _⟩
  obtain ⟨found, same, ordered, exact⟩ := (nodes_listed tree).filter fun node => (kindOf node).same (.text kind)
  refine ⟨found, (extract_eq tree _).trans same, ordered, fun way node => ?_⟩
  exact (exact way node).trans (and_congr_right' same_text_iff)

end ContractLint.Solidity
