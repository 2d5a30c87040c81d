import ContractLint.Document.Access

/-! # Walking syntax trees

The nodes of a syntax tree are the objects that are reached from its root through the fields of
objects and the items of lists that are fields. `nodes` lists them, a node before the nodes below
it, and `someNode` searches them in the same order. `extract` collects those of one kind.
-/

namespace ContractLint.Solidity

mutual

/-- The nodes of a tree, each before the nodes below it. -/
def nodes : Value → List Value
  | .object fields => .object fields :: nodesOfFields fields
  | _ => []
termination_by structural v => v

def nodesOfFields : List (String × Value) → List Value
  | [] => []
  | (_, .list items) :: rest => nodesOfItems items ++ nodesOfFields rest
  | (_, v) :: rest => nodes v ++ nodesOfFields rest
termination_by structural fields => fields

def nodesOfItems : List Value → List Value
  | [] => []
  | v :: rest => nodes v ++ nodesOfItems rest
termination_by structural items => items

end

mutual

/-- Some node of a tree has a property. A node is asked before the nodes below it, and none is asked
after the first one that has the property. -/
def someNode (ask : Value → Outcome Bool) : Value → Outcome Bool
  | .object fields => do
    if ← ask (.object fields) then return true else someNodeOfFields ask fields
  | _ => pure false
termination_by structural v => v

def someNodeOfFields (ask : Value → Outcome Bool) : List (String × Value) → Outcome Bool
  | [] => pure false
  | (_, .list items) :: rest => do
    if ← someNodeOfItems ask items then return true else someNodeOfFields ask rest
  | (_, v) :: rest => do
    if ← someNode ask v then return true else someNodeOfFields ask rest
termination_by structural fields => fields

def someNodeOfItems (ask : Value → Outcome Bool) : List Value → Outcome Bool
  | [] => pure false
  | v :: rest => do
    if ← someNode ask v then return true else someNodeOfItems ask rest
termination_by structural items => items

end

/-- The field of a node, or a default where it is missing or the value is no object. -/
def fieldOr (v : Value) (key : String) (default : Value) : Value :=
  match v with
  | .object fields => (fields.lookup key).getD default
  | _ => default

def kindOf (node : Value) : Value := fieldOr node "nodeType" .null

def isKind (node : Value) (kind : String) : Bool := (kindOf node).isText kind

def nodesOfKind (tree kind : Value) : List Value :=
  (nodes tree).filter fun node => (kindOf node).same kind

def bodyFields : List String := ["nodes", "statements", "body"]

mutual

/-- Adds the nodes of a kind in a tree to those found before, each before the nodes below it. -/
def collect (kind : Value) (found : Array Value) : Value → Array Value
  | .object fields =>
    collectFields kind
      (if (kindOf (.object fields)).same kind then found.push (.object fields) else found) fields
  | _ => found
termination_by structural v => v

/-- Adds the nodes of a kind below the fields of an object. -/
def collectFields (kind : Value) (found : Array Value) : List (String × Value) → Array Value
  | [] => found
  | field :: rest => collectFields kind (collectField kind found field) rest
termination_by structural fields => fields

/-- Adds the nodes of a kind below a field. What is no list is looked into under some names whatever
it is, and under any other name if it is an object. -/
def collectField (kind : Value) (found : Array Value) : String × Value → Array Value
  | (_, .list items) => collectItems kind found items
  | (key, v) => if bodyFields.contains key || v.isObject then collect kind found v else found
termination_by structural field => field

def collectItems (kind : Value) (found : Array Value) : List Value → Array Value
  | [] => found
  | v :: rest => collectItems kind (collect kind found v) rest
termination_by structural items => items

end

def extract (tree kind : Value) : List Value := (collect kind #[] tree).toList

def functions (tree : Value) : List Value := nodesOfKind tree (.text "FunctionDefinition")

/-- The node of an expression has a kind; a value that is no node has none, and asking is a
fault. -/
def hasKind (node : Value) (kind : String) : Outcome Bool := do
  return (← node.get "nodeType").isText kind

mutual

/-- The expression reads or writes something with a name: a plain name, an entry of an array or
mapping with one, or a member of a structure with one. -/
def isNamedAccess : Value → Outcome Bool
  | .object fields =>
    if isKind (.object fields) "Identifier" then pure true
    else if isKind (.object fields) "IndexAccess" then isNamedField "baseExpression" fields
    else if isKind (.object fields) "MemberAccess" then isNamedField "expression" fields
    else pure false
  | other => throw (.noMember other.kindName "get")
termination_by structural v => v

/-- The expression in a field is an access to something with a name. -/
def isNamedField (key : String) : List (String × Value) → Outcome Bool
  | [] => pure false
  | (name, v) :: rest => if name = key then isNamedAccess v else isNamedField key rest
termination_by structural fields => fields

end

end ContractLint.Solidity
