import ContractLint.Detector.Basic
import ContractLint.Solidity.Contract
import ContractLint.Solidity.Span
import ContractLint.Solidity.Tree

/-! # Calls before state changes

A function that calls another contract and only afterwards records the effect can be called again
before the effect is recorded. The detector looks at the statements of a function body in order
and reports each call that has a change of state in a later statement.
-/

namespace ContractLint.Detector.Reentrancy

open Solidity

def profile : Profile where
  name := "ast_reentrancy_detector"
  description := "Detects potential reentrancy vulnerabilities using AST analysis"
  kinds := ["reentrancy", "state_change_after_call"]
  severity := .high

def isReadOnly (function : Value) : Outcome Bool := do
  for modifier in ← (← function.getOr "modifiers" (.list [])).elements do
    if (← modifier.get "name").isOneOf ["view", "pure", "constant"] then
      return true
  return (← function.get "stateMutability").isOneOf ["view", "pure"]

def callMembers : List String := ["call", "delegatecall", "staticcall", "send", "transfer"]

/-- A member of a plain name may be a function of another contract. -/
def isLikelyExternal (expression : Value) : Outcome Bool := do
  hasKind (← expression.getOr "expression" (.object [])) "Identifier"

def isExternalCall (node : Value) : Outcome Bool := do
  if isKind node "FunctionCall" then
    let expression := fieldOr node "expression" (.object [])
    if ← hasKind expression "MemberAccess" then
      let member ← expression.getOr "memberName" (.text "")
      if member.isOneOf callMembers then return true else isLikelyExternal expression
    else return false
  else return false

def externalCalls (tree : Value) : Outcome (List Value) := (nodes tree).filterM isExternalCall

/-- The node changes something with a name: by assignment, or by counting up or down. -/
def isStateChange (node : Value) : Outcome Bool :=
  if isKind node "Assignment" then isNamedAccess (fieldOr node "left" (.object []))
  else if isKind node "UnaryOperation" then
    if (fieldOr node "operator" .null).isOneOf ["++", "--"] then
      isNamedAccess (fieldOr node "subExpression" (.object []))
    else pure false
  else pure false

def stateChanges (tree : Value) : Outcome (List Value) := (nodes tree).filterM isStateChange

def callType (call : Value) : Outcome Value := do
  let expression ← call.getOr "expression" (.object [])
  if ← hasKind expression "MemberAccess" then expression.getOr "memberName" (.text "unknown")
  else return .text "function_call"

structure Occurrence where
  node : Value
  statement : Nat

def occurrences (statements : List Value) : Outcome (List Occurrence × List Occurrence) := do
  let found ← statements.zipIdx.mapM fun (statement, index) => do
    let calls ← externalCalls statement
    let changes ← stateChanges statement
    return (calls.map fun node => Occurrence.mk node index,
      changes.map fun node => Occurrence.mk node index)
  return ((found.map Prod.fst).flatten, (found.map Prod.snd).flatten)

/-- Each call with the first change of state in a later statement. -/
def callsBeforeChanges (calls changes : List Occurrence) : List (Occurrence × Occurrence) :=
  calls.filterMap fun call =>
    (changes.find? fun change => decide (call.statement < change.statement)).map fun change =>
      (call, change)

/-- The first line that a finding marks: two lines before the call or the change, but not before the
function. -/
def firstMarked (place : Location) (callLine changeLine : Int) : Int :=
  max place.lineStart (min callLine changeLine - 2)

/-- The last line that a finding marks: two lines after the call or the change, but not after the
function. A function of unknown end is taken to go on for ten lines from the first marked one. -/
def lastMarked (place : Location) (callLine changeLine : Int) : Int :=
  let guess := firstMarked place callLine changeLine + 10
  let functionEnd :=
    match place.lineEnd with
    | some line => if line = 0 then guess else line
    | none => guess
  min functionEnd (max callLine changeLine + 2)

def report (settings : DetectorSettings) (function : Value) (source file : String)
    (call change : Value) : Outcome Finding := do
  let callPlace ← nodeLocation call source file
  let changePlace ← nodeLocation change source file
  let place ← nodeLocation function source file
  let name ← function.getOr "name" (.text "unknown_function")
  let details ← callType call
  let callLine := callPlace.lineStart
  let changeLine := changePlace.lineStart
  profile.report settings {
    title := "Potential Reentrancy Vulnerability"
    description :=
      "In function '" ++ name.display ++ "', an external call is made on line "
        ++ Number.intText callLine ++ " before a state variable is updated on line "
        ++ Number.intText changeLine ++ ". This pattern can lead to reentrancy attacks if the "
        ++ "external call execution can be hijacked."
    location := place
    kind := "reentrancy"
    severity := some profile.severity
    snippet := some (snippet source (firstMarked place callLine changeLine)
      (some (lastMarked place callLine changeLine)) 1)
    recommendation := some
      ("Ensure that all state changes are made before external calls "
        ++ "(Checks-Effects-Interactions pattern). "
        ++ "Consider using reentrancy guards if necessary.")
    references := .ofTexts [
      "https://swcregistry.io/docs/SWC-107",
      "https://consensys.github.io/smart-contract-best-practices/attacks/reentrancy/"]
    metadata := .object [
      ("vulnerable_function_name", name),
      ("external_call_line", .int callLine),
      ("external_call_details", details),
      ("state_change_line", .int changeLine),
      ("interaction_pattern", .text "External Call Before State Update")] }

/-- The calls of a function that come before a change of state. -/
def suspects (function : Value) : Outcome (List (Occurrence × Occurrence)) := do
  if ← isReadOnly function then return []
  let body ← function.getOr "body" (.object [])
  if !body.truthy then return []
  if !(← hasKind body "Block") then return []
  let statements ← (← body.getOr "statements" (.list [])).elements
  let (calls, changes) ← occurrences statements
  return callsBeforeChanges calls changes

def analyzeFunction (settings : DetectorSettings) (source file : String) (function : Value) :
    Outcome (List Finding) := do
  (← suspects function).mapM fun (call, change) =>
    report settings function source file call.node change.node

def analyzeTree (settings : DetectorSettings) (source file : String) (tree : Value) : Outcome (List Finding) := do
  return (← (functions tree).mapM (analyzeFunction settings source file)).flatten

def detect (settings : DetectorSettings) (unit : Solidity.Unit) : Outcome (List Finding) := do
  let trees := (unit.contracts.map Contract.ast).filter Value.truthy
  return (← trees.mapM (analyzeTree settings unit.source unit.file)).flatten

/-- A place is asked for in a compiled file: there is a suspect before anything fails. -/
def asksPlace (unit : Solidity.Unit) : Outcome Bool :=
  ((unit.contracts.map Contract.ast).filter Value.truthy).anyM fun tree =>
    (functions tree).anyM fun function => do return !(← suspects function).isEmpty

end ContractLint.Detector.Reentrancy
