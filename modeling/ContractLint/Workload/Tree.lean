import ContractLint.Solidity.Lowering
import ContractLint.Workload.Finding

/-! # Sample syntax trees

Nodes of every sort are read into parts of a program. Types and parameters can be read; the reading
of any other node fails, and the failure tells which part could not be made.
-/

namespace ContractLint.Workload

open Solidity

def node (sort : String) (fields : List (String × Value)) : Value :=
  .object (("nodeType", .text sort) :: fields)

def nameNode : Value := node "Identifier" [("name", .text "x")]

def literalNode : Value := node "Literal" [("value", .text "1")]

def callNode (arguments : List Value) : Value :=
  node "FunctionCall" [("expression", nameNode), ("arguments", .list arguments)]

def memberCallNode : Value :=
  node "FunctionCall" [("expression", node "MemberAccess" [("memberName", .text "send")])]

def sumNode (left right : Value) : Value :=
  node "BinaryOperation" [("operator", .text "+"), ("left", left), ("right", right)]

def blockNode (statements : List Value) : Value := .object [("statements", .list statements)]

def assignmentNode : Value := node "Assignment" [("left", nameNode), ("right", literalNode)]

def branchNode : Value :=
  node "IfStatement" [("condition", nameNode), ("trueBody", blockNode [])]

/-- A branch with two blocks. -/
def forkNode : Value :=
  node "IfStatement"
    [("condition", nameNode), ("trueBody", blockNode []), ("falseBody", blockNode [])]

def loopNode : Value := node "WhileStatement" [("condition", nameNode), ("body", blockNode [])]

/-- The end of a function with a result. -/
def returnNode : Value := node "Return" [("expression", nameNode)]

def endNode : Value := node "Return" []

def expressionStatement (inner : Value) : Value :=
  node "ExpressionStatement" [("expression", inner)]

def typeNode (name : String) : Value := .object [("typeString", .text name)]

def parameterNode : Value :=
  .object [("name", .text "p"), ("typeDescriptions", typeNode "uint256")]

def functionNode (i : Nat) : Value :=
  node "FunctionDefinition" [
    ("name", .text ("f" ++ Number.digitsText i)),
    ("parameters", .object [("parameters", .list [parameterNode])])]

def variableNode (i : Nat) : Value :=
  node "VariableDeclaration" [
    ("name", .text ("v" ++ Number.digitsText i)),
    ("typeDescriptions", typeNode "uint256")]

def contractNode : Value := node "ContractDefinition" [("nodes", .list [functionNode 0])]

/-- The types that are read. -/
def typeNames : List String := ["uint256", "int128", "bool", "address", "string", "bytes",
  "uint256[]", "mapping(address => uint256)", "MyStruct"]

def expressionNodes : List Value := [
  literalNode, callNode [], nameNode, sumNode (callNode []) nameNode, sumNode nameNode literalNode,
  callNode [callNode []], callNode [nameNode], node "Conditional" [], memberCallNode]

def statementNodes : List Value := [
  expressionStatement assignmentNode, expressionStatement (callNode []),
  expressionStatement nameNode, branchNode, loopNode, returnNode, endNode, node "Break" []]

def failureOf {α : Type} (outcome : Outcome α) : Value :=
  match outcome with
  | .ok _ => .null
  | .error fault => .ofTexts ["terr", Text.take 20 fault.message]

/-- What becomes of the types and nodes, with as many functions and variables as asked for. -/
def lowering (size : Int) : Outcome Value := do
  let types ← typeNames.mapM fun name => do return Value.of (← Lowering.type (typeNode name)).text
  let functions ← (below size).mapM fun i => do
    let parameter ← Lowering.parameter parameterNode
    return [failureOf (Lowering.function (functionNode i)), parameter.name]
  return .list (types
    ++ expressionNodes.map (failureOf ∘ Lowering.expression)
    ++ [memberCallNode, callNode [nameNode], callNode []].map (failureOf ∘ Lowering.call)
    ++ statementNodes.map (failureOf ∘ Lowering.statement)
    ++ [failureOf (Lowering.assignment assignmentNode), failureOf (Lowering.branch branchNode),
      failureOf (Lowering.branch forkNode), failureOf (Lowering.loop loopNode),
      failureOf (Lowering.ret returnNode), failureOf (Lowering.ret endNode)]
    ++ functions.flatten
    ++ (below size).map (fun i => failureOf (Lowering.stateVariable (variableNode i)))
    ++ [failureOf (Lowering.contract contractNode),
      failureOf (Lowering.function (functionNode 0)),
      failureOf (Lowering.module []),
      failureOf (Lowering.untold "IRModule" : Outcome Program.Module)])

end ContractLint.Workload
