import Mathlib.Tactic.MkIffOfInductiveProp
import ContractLint.Proofs.Solidity.Tree
import ContractLint.Solidity.Contract
import ContractLint.Solidity.Span

/-! # Trees of the shape that the compiler gives them

A syntax tree is a document, and a detector that finds a document of another shape than it expects fails.
`WellShaped` says that in no node of a tree it does. `Emitted` says what the compiler promises about a node, which
is less: a declaration may leave out its first variable. Fields may be missing, and there may be any others.
-/

namespace ContractLint.Solidity

variable {v tree : Value}

def isPlainText : Value → Bool
  | .text _ => true
  | _ => false

def isList : Value → Bool
  | .list _ => true
  | _ => false

def isNodeList : Value → Bool
  | .list items => items.all Value.isObject
  | _ => false

/-- The value is a list, and a node comes first in it if it is not empty. -/
def startsWithNode : Value → Bool
  | .list items => (items.take 1).all Value.isObject
  | _ => false

/-- The value is a list, and a node or nothing comes first in it if it is not empty. -/
def mayStartWithNode : Value → Bool
  | .list [] => true
  | .list (.null :: _) => true
  | .list (first :: _) => first.isObject
  | _ => false

/-- The node is a declaration that leaves out its first variable. -/
def omitsFirst (node : Value) : Bool :=
  isKind node "VariableDeclarationStatement" &&
    match fieldOr node "declarations" (.list []) with
    | .list (.null :: _) => true
    | _ => false

def fieldNames : Value → List String
  | .object fields => fields.map Prod.fst
  | _ => []

/-- A node says where it stands by a text, or not at all. -/
def isReadable (node : Value) : Bool := isPlainText (fieldOr node "src" (.text ""))

/-- The fields that hold a node, each with the kind of the nodes that have it. -/
def nodeFields : List (String × String) := [
  ("FunctionCall", "expression"),
  ("MemberAccess", "expression"),
  ("IndexAccess", "baseExpression"),
  ("Assignment", "left"),
  ("UnaryOperation", "subExpression"),
  ("ExpressionStatement", "expression")]

def itemsOf : Value → List Value
  | .list items => items
  | _ => []

def blockStatements (block : Value) : List Value := itemsOf (fieldOr block "statements" (.list []))

/-- The body of a function; one without a body has an empty one. -/
def functionBody (function : Value) : Value := fieldOr function "body" (.object [])

/-- The kinds of nodes that are made of expressions alone. -/
def statementFree : List String := ["VariableDeclarationStatement", "Assignment", "RequireStatement"]

/-- What detectors look at in a node has the shape that they expect. -/
@[mk_iff]
structure Shaped (node : Value) : Prop where
  position : isPlainText (fieldOr node "src" (.text ""))
  parts : ∀ field ∈ nodeFields, isKind node field.1 → (fieldOr node field.2 (.object [])).isObject
  arguments : isKind node "FunctionCall" → isList (fieldOr node "arguments" (.list []))
  /-- Later variables may be left out of a declaration. -/
  declarations : isKind node "VariableDeclarationStatement" →
    startsWithNode (fieldOr node "declarations" (.list []))
  statements : isKind node "Block" → isNodeList (fieldOr node "statements" (.list []))
  /-- The nodes of a block are those of its statements. -/
  tidy : isKind node "Block" → (nodes node).length = (nodesOfItems (blockStatements node)).length + 1
  /-- A function may have no body. -/
  body : isKind node "FunctionDefinition" →
    (functionBody node).truthy → (functionBody node).isObject
  modifiers : isKind node "FunctionDefinition" → isNodeList (fieldOr node "modifiers" (.list []))
  plain : (kindOf node).isOneOf statementFree → ∀ inner ∈ nodes node, isKind inner "ExpressionStatement" = false

instance (node : Value) : Decidable (Shaped node) := decidable_of_iff' _ (shaped_iff node)

/-- Every node of a tree has the shape that detectors expect. -/
def WellShaped (tree : Value) : Prop := ∀ node ∈ nodes tree, Shaped node

instance (tree : Value) : Decidable (WellShaped tree) := inferInstanceAs (Decidable (∀ _ ∈ _, _))

/-- What detectors read in a node is what they expect, except that a declaration may leave out its first variable. -/
@[mk_iff]
structure Legible (node : Value) : Prop where
  position : isReadable node
  parts : ∀ field ∈ nodeFields, isKind node field.1 → (fieldOr node field.2 (.object [])).isObject
  arguments : isKind node "FunctionCall" → isList (fieldOr node "arguments" (.list []))
  declarations : isKind node "VariableDeclarationStatement" →
    mayStartWithNode (fieldOr node "declarations" (.list []))
  statements : isKind node "Block" → isNodeList (fieldOr node "statements" (.list []))
  body : isKind node "FunctionDefinition" → (functionBody node).truthy → (functionBody node).isObject
  modifiers : isKind node "FunctionDefinition" → isNodeList (fieldOr node "modifiers" (.list []))

instance (node : Value) : Decidable (Legible node) := decidable_of_iff' _ (legible_iff node)

/-- A node as the compiler emits it. -/
@[mk_iff]
structure Emitted (node : Value) : Prop extends Legible node where
  distinct : (fieldNames node).Nodup
  name : isPlainText (fieldOr node "name" (.text ""))
  modifierName : (fieldOr node "modifierName" (.object [])).isObject

instance (node : Value) : Decidable (Emitted node) := decidable_of_iff' _ (emitted_iff node)

private theorem mayStartWithNode_of_startsWithNode (starts : startsWithNode v) : mayStartWithNode v := by
  cases v with
  | list items =>
    cases items with
    | nil => rfl
    | cons first rest =>
      have object : first.isObject := by simpa [startsWithNode] using starts
      cases first with
      | object fields => rfl
      | _ => contradiction
  | _ => contradiction

theorem Shaped.omitsFirst {node : Value} (shaped : Shaped node) : omitsFirst node = false := by
  unfold Solidity.omitsFirst
  cases declared : isKind node "VariableDeclarationStatement" with
  | false => rfl
  | true =>
    have starts := shaped.declarations declared
    split
    next rest given =>
      rw [given] at starts
      contradiction
    next => rfl

/-- A shaped node is legible. -/
theorem Shaped.legible {node : Value} (shaped : Shaped node) : Legible node where
  position := shaped.position
  parts := shaped.parts
  arguments := shaped.arguments
  declarations known := mayStartWithNode_of_startsWithNode (shaped.declarations known)
  statements := shaped.statements
  body := shaped.body
  modifiers := shaped.modifiers

/-- A node as the compiler emits it has a text for a name, if it has a name. -/
theorem Emitted.exists_name {node : Value} (emitted : Emitted node) (default : String) :
    ∃ name, fieldOr node "name" (.text default) = .text name := by
  have plain := emitted.name
  cases node with
  | object fields =>
    rw [fieldOr] at plain ⊢
    cases found : fields.lookup "name" with
    | none => exact ⟨default, rfl⟩
    | some v =>
      rw [found] at plain
      cases v with
      | text s => exact ⟨s, rfl⟩
      | _ => contradiction
  | _ => exact ⟨default, rfl⟩

theorem emitted_empty : Emitted (.object []) := by decide

theorem legible_empty : Legible (.object []) := by decide

theorem isNodeList_iff : isNodeList v ↔ v = .list (itemsOf v) ∧ ∀ item ∈ itemsOf v, item.isObject := by
  cases v with
  | list items => simp [isNodeList, itemsOf]
  | _ => simp [isNodeList]

theorem elements_of_isNodeList (listed : isNodeList v) : v.elements = .ok (itemsOf v) := by
  rw [(isNodeList_iff.mp listed).1]
  rfl

/-! ## Properties of all nodes -/

def Throughout (property : Value → Prop) (tree : Value) : Prop := ∀ node ∈ nodes tree, property node

instance (property : Value → Prop) [DecidablePred property] (tree : Value) : Decidable (Throughout property tree) :=
  inferInstanceAs (Decidable (∀ _ ∈ _, _))

namespace Throughout

variable {property : Value → Prop} {tree node : Value}

theorem own (all : Throughout property tree) (object : tree.isObject) : property tree :=
  all tree (mem_nodes_self object)

theorem imp {other : Value → Prop} (all : Throughout property tree)
    (weaker : ∀ node, property node → other node) :
    Throughout other tree := fun node member => weaker node (all node member)

/-- What holds throughout a tree holds throughout each node of it. -/
theorem below (all : Throughout property tree) (member : node ∈ nodes tree) : Throughout property node :=
  fun below inner => all below (mem_nodes_trans member inner)

theorem of_lookup {fields : List (String × Value)} {key : String}
    (all : Throughout property (.object fields)) (found : fields.lookup key = some v) : Throughout property v := by
  cases v with
  | object inner => exact all.below (mem_nodes_of_inside (mem_nodes_self rfl) rfl found (mem_nodesOfField rfl))
  | _ =>
    intro node member
    contradiction

/-- What all nodes have, those in a field have, and so has the empty one in its place. -/
theorem of_field (empty : property (.object [])) (all : Throughout property node) (key : String) :
    Throughout property (fieldOr node key (.object [])) := by
  have missing : Throughout property (.object []) := by
    intro inner member
    rwa [List.mem_singleton.mp member]
  cases node with
  | object fields =>
    rw [fieldOr]
    cases found : fields.lookup key with
    | none => exact missing
    | some v => exact all.of_lookup found
  | _ => exact missing

end Throughout

/-- The nodes of a well-shaped tree are well-shaped. -/
theorem WellShaped.below {node : Value} (shaped : WellShaped tree) (member : node ∈ nodes tree) :
    WellShaped node := Throughout.below shaped member

/-- A well-shaped tree is legible throughout. -/
theorem WellShaped.legible (shaped : WellShaped tree) : Throughout Legible tree :=
  Throughout.imp shaped fun _ => Shaped.legible

theorem Throughout.legible (emitted : Throughout Emitted tree) : Throughout Legible tree :=
  emitted.imp fun _ => Emitted.toLegible

/-! ## Blocks -/

section Block

variable {block : Value}

theorem Legible.fieldOr_statements (legible : Legible block) (known : isKind block "Block") :
    fieldOr block "statements" (.list []) = .list (blockStatements block) :=
  (isNodeList_iff.mp (legible.statements known)).1

/-- The statements of a legible block are nodes of it. -/
theorem Legible.mem_nodes_of_statement (legible : Legible block) (known : isKind block "Block") {statement : Value}
    (member : statement ∈ blockStatements block) : statement ∈ nodes block := by
  have objects := (isNodeList_iff.mp (legible.statements known)).2
  exact mem_nodes_of_item (mem_nodes_self (isObject_of_isKind known)) (legible.fieldOr_statements known) member
    (objects statement member)

/-- A block holds nothing but its statements. -/
theorem WellShaped.nodes_block (shaped : WellShaped block) (known : isKind block "Block") :
    nodes block = block :: nodesOfItems (blockStatements block) := by
  have own := shaped block (mem_nodes_self (isObject_of_isKind known))
  have tidy := own.tidy known
  have listed := own.legible.fieldOr_statements known
  generalize blockStatements block = statements at tidy listed ⊢
  cases block with
  | object fields =>
    rw [nodes, List.length_cons, Nat.add_right_cancel_iff] at tidy
    rw [nodes]
    refine congrArg _ ?_
    rw [fieldOr] at listed
    cases found : fields.lookup "statements" with
    | none =>
      rw [found] at listed
      cases listed
      exact List.eq_nil_of_length_eq_zero tidy
    | some v =>
      rw [found] at listed
      cases listed
      have part := nodesOfField_sublist found
      rw [nodesOfFields, nodesOfFields, List.append_nil] at part
      exact (part.eq_of_length tidy.symm).symm
  | _ => contradiction

end Block

/-! ## Nodes -/

theorem isObject_of_body {function : Value} (block : isKind (functionBody function) "Block") : function.isObject := by
  cases function with
  | object fields => rfl
  | _ => contradiction

/-- A node has a place exactly if what it says about that can be read. -/
theorem exists_nodeLocation_iff {node : Value} (object : node.isObject) (source file : String) :
    (∃ place, nodeLocation node source file = .ok place) ↔ isReadable node := by
  have spans : (∃ place, nodeLocation node source file = .ok place) ↔
      ∃ span, Span.ofNode node source = .ok span := by
    rw [nodeLocation]
    cases Span.ofNode node source with
    | error fault => simp
    | ok span => exact iff_of_true ⟨_, rfl⟩ ⟨_, rfl⟩
  rw [spans]
  cases node with
  | object fields =>
    rw [Span.ofNode, has_eq, Value.field, isReadable, fieldOr]
    cases fields.lookup "src" with
    | none => exact iff_of_true ⟨.unknown, rfl⟩ rfl
    | some v =>
      cases v with
      | text s => exact iff_of_true ⟨Span.ofPosition source s, rfl⟩ rfl
      | _ =>
        refine iff_of_false ?_ Bool.false_ne_true
        rintro ⟨span, done⟩
        contradiction
  | _ => contradiction

namespace Legible

variable {node : Value} (legible : Legible node)

include legible

theorem callee (called : isKind node "FunctionCall") : (fieldOr node "expression" (.object [])).isObject :=
  legible.parts ("FunctionCall", "expression") (by simp [nodeFields]) called

/-- A legible node has a place. -/
theorem exists_nodeLocation (object : node.isObject) (source file : String) :
    ∃ place, nodeLocation node source file = .ok place :=
  (exists_nodeLocation_iff object source file).mpr legible.position

end Legible

/-! ## Building trees -/

def node (kind : String) (fields : List (String × Value)) : Value := .object (("nodeType", .text kind) :: fields)

def block (statements : List Value) : Value := node "Block" [("statements", .list statements)]

def alone (expression : Value) : Value := node "ExpressionStatement" [("expression", expression)]

def named (name : String) : Value := node "Identifier" [("name", .text name)]

def memberCall (name member : String) : Value :=
  node "FunctionCall" [("expression", node "MemberAccess" [("memberName", .text member), ("expression", named name)])]

def assigned (name : String) : Value := node "Assignment" [("left", named name), ("right", named "y")]

def functionOf (statements : List Value) : Value :=
  node "FunctionDefinition" [("name", .text "f"), ("body", block statements)]

/-- A compiled file with one contract, whose tree is given. -/
def fileOf (tree : Value) : Unit :=
  { file := "a.sol", source := "", contracts := [{ name := "C", source := "", ast := tree }], errors := []
    warnings := [], version := .text "0.8.0" }

/-- The contracts of a well-shaped file are well-shaped. -/
theorem wellShaped_fileOf (shaped : WellShaped tree) :
    ∀ contract ∈ (fileOf tree).contracts, WellShaped contract.ast := by
  intro contract member
  rwa [List.mem_singleton.mp member]

end ContractLint.Solidity
