import ContractLint.Program.Module
import ContractLint.Solidity.Contract
import ContractLint.Solidity.Tree

/-! # From syntax trees to programs

The syntax trees of the compiler are read into the parts of a program. A part needs to be told its
kind, and the reading does not tell it: so types and parameters can be read, and the reading of
every other part fails. What is looked at before, in the order of the tree, decides which failure it
is.
-/

namespace ContractLint.Solidity.Lowering

open Program

/-- The failure of making a part whose kind was not told. -/
def untold {α : Type} (record : String) : Outcome α :=
  throw (.missingParts record ["node_type"])

/-! ## Types -/

def typeNamed (name : String) : Ty :=
  if Text.startsWith name "uint" || Text.startsWith name "int"
      || ["bool", "address", "string", "bytes"].contains name then
    { name, isPrimitive := true }
  else if Text.contains name "[]" then
    let element : Ty := { name := Text.replace name "[]" "", isPrimitive := true }
    { name, isArray := true, element := some element }
  else if Text.contains name "mapping" then
    let unknown : Ty := { name := "unknown", isPrimitive := true }
    { name, isMapping := true, key := some unknown, item := some unknown }
  else { name, isStruct := true }

def type (description : Value) : Outcome Ty := do
  let name ← description.getOr "typeString" (.text "unknown")
  return typeNamed (← name.textFor "startswith")

def parameter (node : Value) : Outcome Parameter := do
  let name ← node.getOr "name" (.text "")
  return { name, type := some (← type (← node.getOr "typeDescriptions" (.object []))) }

/-! ## Expressions -/

/-- What is read from a field of an expression: an expression, or the expressions of a list. -/
structure Parts where
  one : Outcome Expr
  many : Outcome (List Expr)

/-- A call, its arguments having been read. -/
def callOf (node : Value) (arguments : Outcome (List Expr)) : Outcome Expr := do
  if ← node.has "expression" then
    let _ ← (← node.field "expression").get "nodeType"
  let _ ← arguments
  untold "IRFunctionCall"

/-- An expression, its parts having been read. -/
def expressionOf (fields : List (String × Value)) (parts : List (String × Parts)) : Outcome Expr := do
  let node := Value.object fields
  match ← node.getOr "nodeType" (.text "") with
  | .text "Literal" =>
    let _ ← type (← node.getOr "typeDescriptions" (.object []))
    untold "IRLiteral"
  | .text "BinaryOperation" =>
    match parts.lookup "left" with
    | some part => part.one
    | none => untold "IRIdentifier"
  | .text "FunctionCall" =>
    callOf node (((parts.lookup "arguments").map Parts.many).getD (pure []))
  | _ => untold "IRIdentifier"

mutual

def expression : Value → Outcome Expr
  | .object fields => expressionOf fields (expressionParts fields)
  | other => throw (.noMember other.kindName "get")
termination_by structural v => v

def expressionParts : List (String × Value) → List (String × Parts)
  | [] => []
  | field :: rest => expressionPart field :: expressionParts rest
termination_by structural fields => fields

def expressionPart : String × Value → String × Parts
  | (name, v) => (name, ⟨expression v, expressions v⟩)
termination_by structural field => field

def expressions : Value → Outcome (List Expr)
  | .list items => expressionItems items
  | other => do
    match ← other.elements with
    | [] => return []
    | item :: _ => throw (.noMember item.kindName "get")
termination_by structural v => v

def expressionItems : List Value → Outcome (List Expr)
  | [] => pure []
  | item :: rest => do
    let first ← expression item
    return first :: (← expressionItems rest)
termination_by structural items => items

end

def call (node : Value) : Outcome Expr := do
  let arguments ← if ← node.has "arguments" then
      pure (expressions (← node.field "arguments"))
    else pure (pure [])
  callOf node arguments

/-- The expression in a field; one that is missing is like an empty node. -/
def expressionIn (node : Value) (key : String) : Outcome Expr := do
  expression (← node.getOr key (.object []))

/-! ## Statements -/

def assignment (node : Value) : Outcome Stmt := do
  let _ ← expressionIn node "left"
  let _ ← expressionIn node "right"
  untold "IRAssignment"

def branch (node : Value) : Outcome Stmt := do
  let _ ← expressionIn node "condition"
  untold "IRIfStatement"

def loop (node : Value) : Outcome Stmt := do
  let _ ← expressionIn node "condition"
  untold "IRWhileLoop"

/-- A return. -/
def ret (node : Value) : Outcome Stmt := do
  if ← node.has "expression" then
    let _ ← expression (← node.field "expression")
  untold "IRReturn"

def statement (node : Value) : Outcome Stmt := do
  match ← node.getOr "nodeType" (.text "") with
  | .text "ExpressionStatement" =>
    let inner ← node.get "expression"
    if inner.truthy then
      match ← inner.get "nodeType" with
      | .text "Assignment" => assignment inner
      | .text "FunctionCall" => do
        let _ ← call inner
        untold "IRStatement"
      | _ => untold "IRStatement"
    else untold "IRStatement"
  | .text "IfStatement" => branch node
  | .text "WhileStatement" => loop node
  | .text "Return" => ret node
  | _ => untold "IRStatement"

def block (node : Value) : Outcome (List Stmt) := do
  if ← node.has "statements" then (← (← node.field "statements").elements).mapM statement
  else return []

/-! ## Declarations -/

def parametersIn (node : Value) (key : String) : Outcome (Option Value) := do
  if ← node.has key then
    let list ← node.field key
    if ← list.has "parameters" then return some (← list.field "parameters")
  return none

def function (node : Value) : Outcome Function := do
  let _ ← node.get "name"
  if let some parameters ← parametersIn node "parameters" then
    let _ ← (← parameters.elements).mapM parameter
  if let some results ← parametersIn node "returnParameters" then
    if results.truthy then
      let _ ← type (← (← results.itemAt 0).field "typeDescriptions")
  if ← node.has "body" then
    let body ← node.field "body"
    if body.truthy then
      let _ ← block body
  if ← node.has "modifiers" then
    let _ ← (← (← node.field "modifiers").elements).mapM fun modifier => do
      (← modifier.getOr "modifierName" (.object [])).getOr "name" (.text "")
  let _ ← (← node.getOr "stateMutability" (.text "")).has "payable"
  let _ ← (← node.getOr "src" (.text "0:0:0")).textFor "split"
  untold "IRFunction"

def stateVariable (node : Value) : Outcome Variable := do
  let _ ← type (← node.getOr "typeDescriptions" (.object []))
  untold "IRVariable"

def contract (tree : Value) : Outcome Program.Contract := do
  if tree.truthy then
    if ← tree.has "nodes" then
      for node in ← (← tree.field "nodes").elements do
        match ← node.get "nodeType" with
        | .text "FunctionDefinition" =>
          let _ ← function node
        | .text "VariableDeclaration" =>
          let _ ← stateVariable node
        | _ => pure ()
  untold "IRContract"

def module (contracts : List Solidity.Contract) : Outcome Module := do
  let _ ← contracts.mapM fun c => contract c.ast
  untold "IRModule"

def place (file line column : Value) : Value :=
  .object [
    ("file_path", file),
    ("line_start", line),
    ("line_end", line),
    ("column_start", column),
    ("column_end", column)]

end ContractLint.Solidity.Lowering
