import ContractLint.Detector.Reentrancy
import ContractLint.Text.Case

/-! # Functions without access control

A function that anyone may call, and that changes state, moves value or has a name that suggests
such effects, should check who calls it. The detector reports those that neither carry a guarding
modifier nor contain a check.
-/

namespace ContractLint.Detector.AccessControl

open Solidity

def profile : Profile where
  name := "ast_access_control_detector"
  description := "Detects missing or weak access control mechanisms using AST analysis"
  kinds := ["missing_access_control", "weak_access_control", "privilege_escalation"]
  severity := .high

def modifiers (tree : Value) : List Value := nodesOfKind tree (.text "ModifierDefinition")

/-- The node makes execution depend on a condition. -/
def isGuard (node : Value) : Outcome Bool := do
  if isKind node "FunctionCall" then
    let expression := fieldOr node "expression" (.object [])
    if ← hasKind expression "Identifier" then
      return (← expression.get "name").isText "require"
    else return false
  else return isKind node "RevertStatement"

/-- Some node of a tree makes execution depend on a condition. -/
def containsGuard (tree : Value) : Outcome Bool := someNode isGuard tree

def containsStateChange (tree : Value) : Outcome Bool := someNode Reentrancy.isStateChange tree

def isPrivileged (node : Value) : Outcome Bool := do
  if isKind node "FunctionCall" then
    let expression := fieldOr node "expression" (.object [])
    if ← hasKind expression "Identifier" then
      return (← expression.getOr "name" (.text "")).isOneOf ["selfdestruct", "suicide"]
    else if ← hasKind expression "MemberAccess" then
      return (← expression.getOr "memberName" (.text "")).isOneOf
        ["transfer", "send", "call", "delegatecall"]
    else return false
  else return false

def containsPrivileged (tree : Value) : Outcome Bool := someNode isPrivileged tree

def bodyOf (definition : Value) : Outcome Value := definition.getOr "body" (.object [])

def guardWords : List String :=
  ["only", "require", "owner", "admin", "auth", "permission", "role"]

def standardGuards : List String := [
  "onlyOwner", "onlyAdmin", "onlyRole", "onlyAuthorized",
  "requireOwner", "requireAdmin", "auth", "authorized"]

/-- The definition is of a modifier that guards, by its name or by its body. -/
def isGuardModifier (modifier : Value) : Outcome Bool := do
  let name ← (← modifier.getOr "name" (.text "")).textFor "lower"
  if Text.containsAny (Text.lower name) guardWords then return true
  else containsGuard (← bodyOf modifier)

/-- The names of guarding modifiers: those defined, and those that guard by convention. -/
def guardNames (definitions : List Value) : Outcome (List String) := do
  let defined ← definitions.filterM isGuardModifier
  let names ← defined.mapM fun modifier => do
    (← modifier.getOr "name" (.text "")).textFor "lower"
  return names ++ standardGuards

/-- Parts of names that suggest an effect worth guarding. -/
def sensitiveWords : List String := [
  "withdraw", "transfer", "send", "mint", "burn", "destroy",
  "admin", "owner", "upgrade", "pause", "unpause", "emergency",
  "set", "update", "change", "modify", "configure"]

/-- The name suggests an effect worth guarding. -/
def isSensitiveName (name : Value) : Outcome Bool := do
  return Text.containsAny (Text.lower (← name.textFor "lower")) sensitiveWords

def isReadOnly (function : Value) : Outcome Bool := do
  return (← function.get "stateMutability").isOneOf ["view", "pure"]

def isGuarded (function : Value) (guards : List String) : Outcome Bool := do
  for modifier in ← (← function.getOr "modifiers" (.list [])).elements do
    let name ← (← modifier.getOr "modifierName" (.object [])).getOr "name" (.text "")
    name.hashable
    if name.isOneOf guards then
      return true
  containsGuard (← bodyOf function)

/-- Why a function should be guarded. -/
def reasons (name : Value) (changesState privileged : Bool) : Outcome (List String) := do
  let effects :=
    (if changesState then ["modifies contract state"] else [])
      ++ (if privileged then ["performs sensitive operations"] else [])
  if !effects.isEmpty then return effects
  else if ← isSensitiveName name then
    return ["is a function with a potentially sensitive name (e.g., init, set, transfer)"]
  else return ["is a public/external function that may require access control"]

def report (settings : DetectorSettings) (function : Value) (source file : String)
    (changesState privileged : Bool) : Outcome Finding := do
  let name ← function.getOr "name" (.text "unknown_function")
  let visibility ← function.getOr "visibility" (.text "internal")
  let place ← nodeLocation function source file
  let why := String.intercalate ", and " (← reasons name changesState privileged)
  let sensitive ← isSensitiveName name
  profile.report settings {
    title := "Missing Access Control in Function '" ++ name.display ++ "'"
    description :=
      "The " ++ visibility.display ++ " function '" ++ name.display
        ++ "' lacks explicit access control modifiers. This function " ++ why
        ++ ". Without proper access control, unauthorized users might be able to execute this "
        ++ "function, potentially leading to vulnerabilities."
    location := place
    kind := "missing_access_control"
    severity := some profile.severity
    snippet := some (snippet source place.lineStart place.lineEnd 3)
    recommendation := some
      ("Review the function's purpose and sensitivity. If it performs critical operations or "
        ++ "modifies state, ensure appropriate access control mechanisms are implemented, such "
        ++ "as: 1. Using modifiers (e.g., `onlyOwner`, custom role-based modifiers). 2. "
        ++ "Implementing `require` checks at the beginning of the function to validate "
        ++ "`msg.sender`.")
    references := .ofTexts [
      "https://swcregistry.io/docs/SWC-100",
      "https://consensys.github.io/smart-contract-best-practices/development-recommendations/"
        ++ "solidity-specific/access-control/"]
    metadata := .object [
      ("function_name", name),
      ("function_visibility", visibility),
      ("modifies_state", .bool changesState),
      ("has_privileged_operations", .bool privileged),
      ("is_potentially_sensitive_by_name", .bool sensitive),
      ("details", .text ("Function is " ++ visibility.display ++ " and " ++ why ++ "."))] }

/-- What a function without access control does: whether it changes state, and whether it moves
value. Other functions are no suspects. -/
def suspect? (guards : List String) (function : Value) : Outcome (Option (Bool × Bool)) := do
  let name ← function.getOr "name" (.text "unknown")
  let visibility ← function.getOr "visibility" (.text "internal")
  if visibility.isOneOf ["internal", "private"] then return none
  if ← isReadOnly function then return none
  if (← function.get "isConstructor").truthy then return none
  if name.isOneOf ["", "fallback", "receive"] then return none
  let changesState ← containsStateChange (← bodyOf function)
  let privileged ← containsPrivileged (← bodyOf function)
  let guarded ← isGuarded function guards
  let needsGuard ← if changesState || privileged then pure true else isSensitiveName name
  return if needsGuard && !guarded then some (changesState, privileged) else none

def analyzeFunction (settings : DetectorSettings) (guards : List String) (source file : String)
    (function : Value) : Outcome (List Finding) := do
  (← suspect? guards function).toList.mapM fun (changesState, privileged) =>
    report settings function source file changesState privileged

def analyzeTree (settings : DetectorSettings) (source file : String) (tree : Value) : Outcome (List Finding) := do
  let guards ← guardNames (modifiers tree)
  return (← (functions tree).mapM (analyzeFunction settings guards source file)).flatten

def detect (settings : DetectorSettings) (unit : Solidity.Unit) : Outcome (List Finding) := do
  let trees := (unit.contracts.map Contract.ast).filter Value.truthy
  return (← trees.mapM (analyzeTree settings unit.source unit.file)).flatten

/-- A place is asked for in a compiled file: there is a suspect before anything fails. -/
def asksPlace (unit : Solidity.Unit) : Outcome Bool :=
  ((unit.contracts.map Contract.ast).filter Value.truthy).anyM fun tree => do
    let guards ← guardNames (modifiers tree)
    (functions tree).anyM fun function => do return (← suspect? guards function).isSome

end ContractLint.Detector.AccessControl
