import ContractLint.Pattern.Match
import ContractLint.Pattern.Parser
import ContractLint.Scan.Finding
import ContractLint.Scan.Run

/-! # The Slither analyzer

Slither is run once for a document with all its results, and once for each of some single checks.
When the document cannot be read, the output is searched line by line.
-/

namespace ContractLint.Scan.Slither

/-- The checks of Slither that are known, with their severity and meaning. -/
def checks : List (String × Severity × String) := [
  ("reentrancy-eth", .high, "Reentrancy vulnerabilities (theft of ethers)"),
  ("reentrancy-no-eth", .medium, "Reentrancy vulnerabilities (no theft of ethers)"),
  ("reentrancy-unlimited-gas", .medium, "Reentrancy vulnerabilities through send and transfer"),
  ("uninitialized-state", .high, "Uninitialized state variables"),
  ("uninitialized-storage", .high, "Uninitialized storage variables"),
  ("arbitrary-send-eth", .high, "Functions that send Ether to arbitrary destinations"),
  ("controlled-delegatecall", .high, "Controlled delegatecall destination"),
  ("delegatecall-loop", .high, "Payable functions using delegatecall inside a loop"),
  ("msg-value-loop", .high, "msg.value inside a loop"),
  ("contract-interface", .medium, "Missing inheritance from interface"),
  ("unchecked-lowlevel", .medium, "Unchecked low-level calls"),
  ("unchecked-send", .medium, "Unchecked send"),
  ("uninitialized-local", .medium, "Uninitialized local variables"),
  ("unused-return", .medium, "Unused return values"),
  ("incorrect-equality", .medium, "Dangerous strict equalities"),
  ("shadowing-abstract", .medium, "State variables shadowing from abstract contracts"),
  ("shadowing-state", .medium, "State variables shadowing"),
  ("shadowing-local", .medium, "Local variables shadowing"),
  ("shadowing-builtin", .medium, "Built-in symbol shadowing"),
  ("void-cst", .medium, "Constructor called not implemented"),
  ("calls-loop", .medium, "Multiple calls in a loop"),
  ("events-access", .medium, "Missing Events Access Control"),
  ("events-maths", .medium, "Missing Events Arithmetic"),
  ("incorrect-unary", .medium, "Dangerous unary expressions"),
  ("missing-zero-check", .medium, "Missing zero address validation"),
  ("pragma", .low, "Different pragma directives are used"),
  ("solc-version", .low, "Incorrect Solidity version"),
  ("low-level-calls", .low, "Low level calls"),
  ("naming-convention", .low, "Conformity to Solidity naming conventions"),
  ("external-function", .low, "Public function that could be declared external"),
  ("public-mappings", .low, "Public mappings"),
  ("too-many-digits", .low, "Conformance to numeric notation best practices"),
  ("constable-states", .low, "State variables that could be declared constant"),
  ("immutable-states", .low, "State variables that could be declared immutable"),
  ("var-read-using-this", .low, "Contract reads its own variable using this")]

/-- A name in words: blanks for hyphens and capitals in front. -/
def headline (check : String) : String := Text.title (Text.replace check "-" " ")

def impactSeverity (impact : Value) : Severity :=
  match impact with
  | .text "High" => .high
  | .text "Medium" => .medium
  | .text "Low" => .low
  | .text "Informational" => .info
  | _ => .medium

/-- The first line of the first element that says where it stands; the first line of the file if
none does. -/
def firstLine : List Value → Outcome Value
  | [] => pure (.int 1)
  | element :: rest => do
    if ← element.has "source_mapping" then
      let place ← element.field "source_mapping"
      if ← place.has "lines" then
        let lines ← place.field "lines"
        if lines.truthy then lines.itemAt 0 else return .int 1
      else return .int 1
    else firstLine rest

def readResult (entry : Value) : Outcome Finding := do
  let check ← entry.getOr "check" (.text "unknown")
  let impact ← entry.getOr "impact" (.text "Medium")
  let confidence ← entry.getOr "confidence" (.text "Medium")
  let description ← entry.getOr "description" (.text "Slither detection")
  impact.hashable
  let elements ← entry.getOr "elements" (.list [])
  let line ← if elements.truthy then firstLine (← elements.elements) else pure (.int 1)
  let name ← check.textFor "replace"
  return {
    detector := .text ("slither_" ++ name)
    severity := impactSeverity impact
    title := .text ("Slither: " ++ headline name)
    description
    line
    recommendation := .text ("Review and address the " ++ name ++ " issue")
    confidence
    category := .text "Slither Detection" }

/-- The finding that an entry of the results describes, if it can be read. -/
def parseResult (entry : Value) : Run (Option Finding) :=
  try
    return some (← readResult entry)
  catch fault =>
    say ("Error parsing detector result: " ++ fault.message)
    return none

def mentionedSeverity (line : String) : Severity :=
  if Text.contains line "High" then .high
  else if Text.contains line "Low" then .low
  else .medium

def parseText (detector output : String) : List Finding :=
  ((Text.lines output).filter fun line => Text.containsAny line ["High", "Medium", "Low"]).map
    fun line =>
      { detector := .text detector
        severity := mentionedSeverity line
        title := .text "Slither Detection"
        description := .text (Text.strip line)
        line := .int 1
        recommendation := .text "Review Slither output for details"
        category := .text "Slither" }

def linePattern : Pattern := Pattern.ofText .plain "#(\\d+)"

def mentionedLine (output : String) : Int :=
  match linePattern.search? output with
  | some found =>
    (((found.groups.lookup 1).bind fun digits => Text.parseInt? (String.ofList digits))).getD 1
  | none => 1

def mentionedCode (output : String) : String :=
  match (Text.lines output).find? fun line => Text.containsAny line ["->", "|"] with
  | some line => Text.strip line
  | none => ""

def entriesOf (document : Value) : Outcome (List Value) := do
  if ← document.has "results" then
    let results ← document.field "results"
    if ← results.has "detectors" then (← results.field "detectors").elements else return []
  else return []

def fullRun : Run (List Finding) :=
  try
    let result ← runTool "slither" "slither" 30
    if result.output = "" then return []
    match Document.Json.parse? result.output with
    | some document => do
      let found ← (← entriesOf document).mapM parseResult
      return found.filterMap id
    | none => return parseText "slither_text" result.output
  catch fault =>
    match fault with
    | .timedOut .. => say "Slither analysis timed out"
    | _ => say ("Slither JSON analysis error: " ++ fault.message)
    return []

def singleRun (check : String × Severity × String) : Run (List Finding) :=
  let (name, severity, description) := check
  try
    let result ← runTool ("slither:" ++ name) "slither" 10
    if result.output = "" || !Text.contains result.output name then return []
    return [{
      detector := .text ("slither_" ++ name)
      severity
      title := .text ("Slither: " ++ headline name)
      description := .text description
      line := .int (mentionedLine result.output)
      snippet := .text (mentionedCode result.output)
      recommendation := .text ("Review and fix " ++ name ++ " issues detected by Slither")
      references :=
        .ofTexts ["https://github.com/crytic/slither/wiki/Detector-Documentation#" ++ name]
      category := .text "Slither Detection" }]
  catch _ => return []

/-- The checks that are run on their own: the first five of a severity. -/
def singleChecks (severity : Severity) : List (String × Severity × String) :=
  (checks.filter fun check => check.2.1 == severity).take 5

def categoryRun (severity : Severity) : Run (List Finding) :=
  gather ((singleChecks severity).map singleRun)

def analyze (content : Value) : Run (List Finding) :=
  try
    let _ ← fileText content
    gather [fullRun, categoryRun .high, categoryRun .medium, categoryRun .low]
  catch fault =>
    say ("Enhanced Slither analysis failed: " ++ fault.message)
    return []

def summaryRun (content : Value) : Run (List Finding) :=
  try
    let _ ← fileText content
    let result ← runTool "slither" "slither" 30
    return parseText "slither_detector" result.output
  catch fault =>
    say ("Slither analysis error: " ++ fault.message)
    return []

end ContractLint.Scan.Slither
