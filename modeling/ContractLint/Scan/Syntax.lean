import ContractLint.Document.Json.Reader
import ContractLint.Scan.Finding
import ContractLint.Scan.Run
import ContractLint.Solidity.Tree

/-! # Scanning syntax trees

The compiler is asked for the syntax tree of a file, and the functions and state variables of its
contracts are looked at. The last steps of the look at a contract, at modifiers and at events, are
not provided, so the look at any contract ends in a failure.
-/

namespace ContractLint.Scan.Syntax

def treeIn (output : String) : Outcome Value :=
  match (Text.lines output).find? fun line => Text.startsWith line "\x7b\"" with
  | none => pure .null
  | some line =>
    match Document.Json.parse? line with
    | some tree => pure tree
    | none => throw (.invalid "unreadable document")

/-- The syntax tree that the compiler gives for a file, or null. -/
def parseTree (content : Value) : Run Value :=
  try
    let _ ← fileText content
    let result ← runTool "solc" "solc" 30
    treeIn result.output
  catch fault =>
    say ("AST parsing error: " ++ fault.message)
    return .null

def contracts (tree : Value) : List Value :=
  Solidity.nodesOfKind tree (.text "ContractDefinition")

def members (contract : Value) (kind : String) : Outcome (List Value) := do
  (← (← contract.getOr "nodes" (.list [])).elements).filterM fun node =>
    Solidity.hasKind node kind

/-- The number that stands for the line of a node: its offset. -/
def lineOf (node : Value) : Outcome Int := do
  let position ← node.getOr "src" (.text "0:0:0")
  if ← position.has ":" then
    let parts := Text.splitOn (← position.textFor "split") ":"
    Value.integer (parts.headD "")
  else return 1

def guards : List String := ["onlyOwner", "onlyAdmin", "requireAuth"]

def isGuard (modifier : Value) : Outcome Bool := do
  return (← (← modifier.getOr "modifierName" (.object [])).get "name").isOneOf guards

def isGuarded (function : Value) : Outcome Bool := do
  (← (← function.getOr "modifiers" (.list [])).elements).anyM isGuard

def lineText (number : Nat) (line : String) : String :=
  "Line " ++ Number.digitsText number ++ ": " ++ Text.strip line

def signature (function : Value) (content : String) : Outcome String := do
  let name ← function.getOr "name" (.text "unknown")
  let head := "function " ++ name.display
  match (Excerpt.numbered (Text.lines content)).find? fun (_, line) => Text.contains line head with
  | some (number, line) => return lineText number line
  | none => return head ++ "(...)"

def declarationLine (name : Value) : List (Nat × String) → Outcome (Option (Nat × String))
  | [] => pure none
  | (number, line) :: rest => do
    match name with
    | .text s =>
      if Text.contains line s && Text.containsAny line ["uint", "address", "bool"] then
        return some (number, line)
      else declarationLine name rest
    | other => throw (.notPartOfText other.kindName)

def declaration (variableNode : Value) (content : String) : Outcome String := do
  let name ← variableNode.getOr "name" (.text "unknown")
  match ← declarationLine name (Excerpt.numbered (Text.lines content)) with
  | some (number, line) => return lineText number line
  | none => return name.display ++ " declaration"

def isAssigned (name : Value) (content : String) : Bool :=
  Text.contains content (name.display ++ " =")

/-- A variable that gets no value after the word for constructors could be a constant. -/
def couldBeConstant (name : Value) (content : String) : Bool :=
  match Text.splitOn content "constructor" with
  | _ :: after :: _ => !isAssigned name after
  | _ => true

def functionFindings (content : String) (function : Value) : Outcome (List Finding) := do
  let name ← function.getOr "name" (.text "unknown")
  let visibility ← function.getOr "visibility" (.text "internal")
  if visibility.isText "public" then
    if ← isGuarded function then return []
    return [{
      detector := .text "ast_access_control"
      severity := .medium
      title := .text "Missing Access Control in Public Function"
      description := .text ("Function '" ++ name.display ++ "' is public but lacks access control")
      line := .int (← lineOf function)
      snippet := .text (← signature function content)
      recommendation := .text "Add appropriate access control modifiers"
      category := .text "Access Control" }]
  else return []

def variableFindings (content : String) (node : Value) : Outcome (List Finding) := do
  let name ← node.getOr "name" (.text "unknown")
  let uninitialized ←
    if !(← node.get "value").truthy && !isAssigned name content then
      pure [({
        detector := .text "ast_uninitialized_state"
        severity := .medium
        title := .text "Uninitialized State Variable"
        description := .text ("State variable '" ++ name.display ++ "' is not initialized")
        line := .int (← lineOf node)
        snippet := .text (← declaration node content)
        recommendation :=
          .text "Initialize state variables or ensure they are set in constructor"
        category := .text "Initialization" } : Finding)]
    else pure []
  let visibility ← node.getOr "visibility" (.text "internal")
  let constant ←
    if visibility.isText "public" && !(← node.getOr "constant" (.bool false)).truthy
        && couldBeConstant name content then
      pure [({
        detector := .text "ast_constant_state"
        severity := .low
        title := .text "State Variable Could Be Constant"
        description :=
          .text ("State variable '" ++ name.display ++ "' could be declared as constant")
        line := .int (← lineOf node)
        snippet := .text (← declaration node content)
        recommendation := .text "Consider declaring as constant if value never changes"
        category := .text "Gas Optimization" } : Finding)]
    else pure []
  return uninitialized ++ constant

def functionsFindings (functions : List Value) (content : String) : Outcome (List Finding) := do
  return (← functions.mapM (functionFindings content)).flatten

def variablesFindings (declared : List Value) (content : String) : Outcome (List Finding) := do
  return (← declared.mapM (variableFindings content)).flatten

/-- The look at a contract, which fails at the step that is not provided. -/
def contractFindings (content : String) (contract : Value) : Outcome (List Finding) := do
  let functions ← members contract "FunctionDefinition"
  let declared ← members contract "VariableDeclaration"
  let _ ← members contract "ModifierDefinition"
  let _ ← members contract "EventDefinition"
  let _ ← functionsFindings functions content
  let _ ← variablesFindings declared content
  throw (.noMember "ASTAnalyzer" "_analyze_modifiers")

def analyze (content : Value) : Run (List Finding) :=
  try
    let tree ← parseTree content
    if !tree.truthy then return []
    let text ← fileText content
    return (← (contracts tree).mapM fun contract => contractFindings text contract).flatten
  catch fault =>
    say ("AST analysis failed: " ++ fault.message)
    return []

end ContractLint.Scan.Syntax
