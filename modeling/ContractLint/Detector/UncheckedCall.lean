import ContractLint.Detector.Basic
import ContractLint.Solidity.Contract
import ContractLint.Solidity.Span
import ContractLint.Solidity.Tree

/-! # Calls whose result is ignored

A low-level call tells by its result whether it succeeded. The detector reports the calls in a
function body whose result is neither a condition nor kept in a variable that a later statement
checks.
-/

namespace ContractLint.Detector.UncheckedCall

open Solidity

def profile : Profile where
  name := "ast_unchecked_calls_detector"
  description := "Detects unchecked external calls that may fail silently"
  kinds := ["unchecked_call", "silent_failure", "external_call_failure"]
  severity := .high

def callMembers : List String := ["call", "delegatecall", "staticcall", "send"]

def isLowLevelCall (node : Value) : Outcome Bool := do
  if isKind node "FunctionCall" then
    let expression := fieldOr node "expression" (.object [])
    if ← hasKind expression "MemberAccess" then
      return (← expression.getOr "memberName" (.text "")).isOneOf callMembers
    else return false
  else return false

def lowLevelCalls (tree : Value) : Outcome (List Value) := (nodes tree).filterM isLowLevelCall

/-- A low-level call and the position of the statement of the body it stands in, if it stands in
one. -/
structure PlacedCall where
  call : Value
  statement : Option Nat

/-- The low-level calls below a field of a body. -/
def callsInField (field : String × Value) : Outcome (List PlacedCall) := do
  match field with
  | ("statements", .list items) =>
    let found ← items.zipIdx.mapM fun (item, index) => do
      return (← lowLevelCalls item).map fun call => PlacedCall.mk call (some index)
    return found.flatten
  | (_, v) => return (← (nodesOfFields [("", v)]).filterM isLowLevelCall).map (PlacedCall.mk · none)

/-- The low-level calls of a function body, with the statements they stand in. -/
def callsInBody (body : Value) : Outcome (List PlacedCall) := do
  match body with
  | .object fields => return (← fields.mapM callsInField).flatten
  | _ => return []

def statementsOf (body : Value) : Outcome (List Value) := do
  (← body.getOr "statements" (.list [])).elements

def statementAt (body : Value) (position : Option Nat) : Outcome Value := do
  let statements ← statementsOf body
  return (position.bind fun index => statements[index]?).getD .null

def usesVariable (expression name : Value) : Bool :=
  (nodes expression).any fun node =>
    isKind node "Identifier" && (fieldOr node "name" .null).same name

def firstItem (v : Value) : Outcome Value := v.itemAt 0

def checksVariable (statement name : Value) : Outcome Bool := do
  if ← hasKind statement "IfStatement" then
    return usesVariable (← statement.getOr "condition" (.object [])) name
  else if ← hasKind statement "ExpressionStatement" then
    let expression ← statement.getOr "expression" (.object [])
    if ← hasKind expression "FunctionCall" then
      let callee ← expression.getOr "expression" (.object [])
      if (← callee.get "name").isText "require" then
        let arguments ← expression.getOr "arguments" (.list [])
        if arguments.truthy then return usesVariable (← firstItem arguments) name
        else return false
      else return false
    else return false
  else return false

/-- Some statement after a position makes execution depend on a variable. -/
def isCheckedAfter (body : Value) (position : Nat) (name : Value) : Outcome Bool := do
  ((← statementsOf body).drop (position + 1)).anyM fun statement =>
    checksVariable statement name

/-- The result of the call is ignored. -/
def isUnchecked (body : Value) (position : Option Nat) : Outcome Bool := do
  let statement ← statementAt body position
  match position with
  | none => return true
  | some index =>
    if !statement.truthy then return true
    else if ← hasKind statement "VariableDeclarationStatement" then
      let declarations ← statement.getOr "declarations" (.list [])
      if declarations.truthy then
        let name ← (← firstItem declarations).get "name"
        return !(← isCheckedAfter body index name)
      else return true
    else if ← hasKind statement "Assignment" then
      let left ← statement.getOr "left" (.object [])
      if ← hasKind left "Identifier" then
        return !(← isCheckedAfter body index (← left.get "name"))
      else return true
    else
      return !((← hasKind statement "IfStatement") || (← hasKind statement "RequireStatement"))

/-- What to do about an ignored result. -/
def advice (callType : Value) : String :=
  if callType.isText "send" then
    "Check the return value of send() calls:\n```solidity\nbool success = recipient.send(amount);"
      ++ "\nrequire(success, \"Send failed\");\n```\nOr better yet, use call() with proper checks:"
      ++ "\n```solidity\n(bool success, ) = recipient.call\x7bvalue: amount\x7d(\"\");\n"
      ++ "require(success, \"Transfer failed\");\n```"
  else
    "Check the return value of " ++ callType.display ++ "() calls:\n```solidity\n"
      ++ "(bool success, bytes memory data) = target." ++ callType.display ++ "(callData);\n"
      ++ "require(success, \"Call failed\");\n```"

def report (settings : DetectorSettings) (function : Value) (source file : String)
    (call : Value) : Outcome Finding := do
  let name ← function.getOr "name" (.text "unknown")
  let expression ← call.getOr "expression" (.object [])
  let callType ←
    if ← hasKind expression "MemberAccess" then expression.getOr "memberName" (.text "unknown")
    else pure (.text "unknown")
  let place ← nodeLocation call source file
  profile.report settings {
    title := "Unchecked External Call in Function '" ++ name.display ++ "'"
    description :=
      "Function '" ++ name.display ++ "' makes an external " ++ callType.display
        ++ "() call but does not check its return value. External calls can fail for various "
        ++ "reasons (out of gas, contract doesn't exist, etc.) and failing to check the return "
        ++ "value can lead to unexpected behavior or silent failures."
    location := place
    kind := "unchecked_call"
    confidence := .real 0.9
    severity := some (if callType.isOneOf ["call", "delegatecall"] then .high else .medium)
    snippet := some (snippet source place.lineStart place.lineEnd 3)
    recommendation := some (advice callType)
    references := .ofTexts [
      "https://consensys.github.io/smart-contract-best-practices/attacks/denial-of-service/",
      "https://swcregistry.io/docs/SWC-104"]
    metadata := .object [
      ("function_name", name),
      ("call_type", callType),
      ("call_method", callType)] }

def callsOf (function : Value) : Outcome (List (Value × PlacedCall)) := do
  let body ← function.getOr "body" (.object [])
  if !body.truthy then return []
  if !(← hasKind body "Block") then return []
  return (← callsInBody body).map fun placed => (body, placed)

def analyzeFunction (settings : DetectorSettings) (source file : String) (function : Value) :
    Outcome (List Finding) := do
  let found ← (← callsOf function).mapM fun (body, placed) => do
    if ← isUnchecked body placed.statement then
      return [← report settings function source file placed.call]
    else return []
  return found.flatten

def analyzeTree (settings : DetectorSettings) (source file : String) (tree : Value) : Outcome (List Finding) := do
  return (← (functions tree).mapM (analyzeFunction settings source file)).flatten

def detect (settings : DetectorSettings) (unit : Solidity.Unit) : Outcome (List Finding) := do
  let trees := (unit.contracts.map Contract.ast).filter Value.truthy
  return (← trees.mapM (analyzeTree settings unit.source unit.file)).flatten

/-- A place is asked for in a compiled file: there is a suspect before anything fails. -/
def asksPlace (unit : Solidity.Unit) : Outcome Bool :=
  ((unit.contracts.map Contract.ast).filter Value.truthy).anyM fun tree =>
    (functions tree).anyM fun function => do
      (← callsOf function).anyM fun (body, placed) => isUnchecked body placed.statement

end ContractLint.Detector.UncheckedCall
