import ContractLint.Scan.Source

/-! # Built-in rules for Solidity files -/

namespace ContractLint.Scan.Rules.Solidity

def handOver : Pattern := anyCase "\\.(call|send|transfer)\\s*\\("

def balanceChange : Pattern := anyCase "(balances?\\[|\\.balance\\s*=|state\\s*=)"

/-- Control is handed over before a balance changes on one of the next lines. -/
def reentrancy (source : Source) : List Finding :=
  let issue : Issue := {
    detector := "reentrancy_detector"
    severity := .high
    title := "Potential Reentrancy Vulnerability"
    description :=
      "External call followed by state change may be vulnerable to reentrancy attacks"
    recommendation := "Use the checks-effects-interactions pattern or add reentrancy guards"
    cwe := some 841
    references :=
      ["https://consensys.github.io/smart-contract-best-practices/attacks/reentrancy/"] }
  issue.onLines source fun number line =>
    handOver.occurs line && (source.between number (number + 10)).any balanceChange.occurs

def publicHead : Pattern := anyCase "function\\s+\\w+.*public"

def payableWord : Pattern := exactly "(payable|nonpayable)"

def assignment : Pattern := exactly "(=|\\+=|-=|\\*=|/=)"

def callerCheck : Pattern := anyCase "(onlyOwner|require\\s*\\(.*msg\\.sender|modifier)"

/-- A public function that changes state, with no check of the caller on the next lines. -/
def accessControl (source : Source) : List Finding :=
  let issue : Issue := {
    detector := "access_control_detector"
    severity := .medium
    title := "Missing Access Control"
    description := "Public function that modifies state lacks access control"
    recommendation := "Add appropriate access control modifiers or require statements"
    cwe := some 284 }
  issue.onLines source fun number line =>
    let body := source.between number (number + 20)
    publicHead.occurs line && (payableWord.occurs line || body.any assignment.occurs)
      && !callerCheck.occurs (Text.joinLines body)

def arithmetic : Pattern := exactly "[+\\-*/]\\s*=|[+\\-*/]\\s+\\w+"

/-- A guard against overflow, or its deliberate absence. -/
def overflowGuard : Pattern := exactly "SafeMath|unchecked"

/-- The first arithmetic operation of a file without a guard against overflow. -/
def integerOverflow (source : Source) : List Finding :=
  let issue : Issue := {
    detector := "integer_overflow_detector"
    severity := .medium
    title := "Potential Integer Overflow/Underflow"
    description := "Arithmetic operation without overflow protection"
    recommendation := "Use SafeMath library or Solidity 0.8+ built-in overflow protection"
    cwe := some 190 }
  if overflowGuard.occurs source.content then []
  else (issue.onLines source fun _ line => arithmetic.occurs line).take 1

def timeComparison : Pattern := anyCase "(block\\.timestamp|now)\\s*[<>=]"

def timestampDependence (source : Source) : List Finding :=
  let issue : Issue := {
    detector := "timestamp_dependence_detector"
    severity := .low
    title := "Timestamp Dependence"
    description := "Contract behavior depends on block timestamp which can be manipulated"
    recommendation :=
      "Avoid using block.timestamp for critical logic or use block numbers instead"
    cwe := some 829 }
  issue.onLines source fun _ line => timeComparison.occurs line

def lowLevelCall : Pattern := exactly "\\.call\\s*\\("

def requiredCall : Pattern := exactly "require\\s*\\(.*\\.call"

/-- Low-level calls whose result is not required. -/
def uncheckedCalls (source : Source) : List Finding :=
  let issue : Issue := {
    detector := "unchecked_call_detector"
    severity := .medium
    title := "Unchecked External Call"
    description := "External call return value is not checked"
    recommendation := "Check the return value of external calls"
    cwe := some 252 }
  issue.onLines source fun _ line => lowLevelCall.occurs line && !requiredCall.occurs line

def unboundedLoop : Pattern := exactly "for\\s*\\(.*;\\s*\\w+\\s*<\\s*\\w+\\.length"

/-- Loops over arrays of any length. -/
def gasIssues (source : Source) : List Finding :=
  let issue : Issue := {
    detector := "gas_limit_detector"
    severity := .medium
    title := "Potential Gas Limit Issue"
    description := "Loop over dynamic array may consume excessive gas"
    recommendation := "Consider pagination or limiting array size"
    cwe := some 400 }
  issue.onLines source fun _ line => unboundedLoop.occurs line

/-- The account that started a transaction. -/
def originUse : Pattern := anyCase "tx\\.origin"

/-- Uses of the account that started a transaction. -/
def txOrigin (source : Source) : List Finding :=
  let issue : Issue := {
    detector := "tx_origin_detector"
    severity := .medium
    title := "Use of tx.origin"
    description := "Using tx.origin for authorization is vulnerable to phishing attacks"
    recommendation := "Use msg.sender instead of tx.origin for authorization"
    cwe := some 346 }
  issue.onLines source fun _ line => originUse.occurs line

def storagePointer : Pattern := exactly "storage\\s+\\w+;"

def uninitializedStorage (source : Source) : List Finding :=
  let issue : Issue := {
    detector := "uninitialized_storage_detector"
    severity := .high
    title := "Uninitialized Storage Pointer"
    description := "Storage pointer is declared but not initialized"
    recommendation := "Initialize storage pointers before use"
    cwe := some 824 }
  issue.onLines source fun _ line =>
    storagePointer.occurs line && Text.countChar '=' line == 0

/-- Functions that should no longer be used, with the pattern of their call. -/
def deprecatedCalls : List (String × Pattern) :=
  ["suicide", "sha3", "callcode", "throw"].map fun name =>
    (name, anyCase ("\\b" ++ name ++ "\\s*\\("))

def deprecatedIssue (name : String) : Issue where
  detector := "deprecated_function_detector"
  severity := .low
  title := "Deprecated Function: " ++ name
  description := "Use of deprecated function " ++ name
  recommendation := "Replace " ++ name ++ " with modern equivalent"
  cwe := some 477

/-- Calls of functions that should no longer be used. -/
def deprecatedFunctions (source : Source) : List Finding :=
  source.numbered.flatMap fun (number, line) =>
    (deprecatedCalls.filter fun (_, call) => call.occurs line).map fun (name, _) =>
      (deprecatedIssue name).on source number

def functionHead : Pattern := exactly "function\\s+\\w+\\s*\\([^)]*\\)\\s*\\\x7b"

def visibilityWord : Pattern := exactly "(public|private|internal|external)"

/-- Functions that do not say who may call them. -/
def visibilityIssues (source : Source) : List Finding :=
  let issue : Issue := {
    detector := "visibility_detector"
    severity := .low
    title := "Missing Function Visibility"
    description := "Function lacks explicit visibility specifier"
    recommendation :=
      "Add explicit visibility specifier (public, private, internal, external)"
    cwe := some 710 }
  issue.onLines source fun _ line => functionHead.occurs line && !visibilityWord.occurs line

/-- All built-in rules by name, in the order in which they run. -/
def all : List (String × (Source → List Finding)) := [
  ("reentrancy", reentrancy),
  ("access_control", accessControl),
  ("integer_overflow", integerOverflow),
  ("timestamp_dependence", timestampDependence),
  ("unchecked_calls", uncheckedCalls),
  ("gas_issues", gasIssues),
  ("tx_origin", txOrigin),
  ("uninitialized_storage", uninitializedStorage),
  ("deprecated_functions", deprecatedFunctions),
  ("visibility_issues", visibilityIssues)]

end ContractLint.Scan.Rules.Solidity
