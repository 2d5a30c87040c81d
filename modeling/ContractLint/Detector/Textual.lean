import ContractLint.Detector.Basic
import ContractLint.Pattern.Match
import ContractLint.Pattern.Parser
import ContractLint.Solidity.Contract

/-! # Suspicious text

A detector that searches the lines of a source file for patterns. Each pattern has a name; a match
is reported if there is advice under that name. Lines that begin as comments are passed over.
-/

namespace ContractLint.Detector.Textual

def profile : Profile where
  name := "regex_detector"
  description := "Detects common vulnerability patterns using regular expressions"
  kinds := [
    "deprecated_constructs",
    "dangerous_functions",
    "weak_randomness",
    "tx_origin_usage",
    "timestamp_dependence",
    "hardcoded_addresses",
    "floating_pragma",
    "unsafe_math",
    "todo_fixme_comments"]
  severity := .medium

/-- The patterns by name, as they are written. -/
def patterns : List (String × String) := [
  ("deprecated_throw", "\\bthrow\\b"),
  ("deprecated_suicide", "\\bsuicide\\b"),
  ("deprecated_sha3", "\\bsha3\\b"),
  ("deprecated_callcode", "\\.callcode\\b"),
  ("selfdestruct_usage", "\\bselfdestruct\\b"),
  ("tx_origin_auth", "tx\\.origin\\s*==|require\\s*\\(\\s*tx\\.origin"),
  ("msg_sender_auth", "tx\\.origin\\s*==\\s*msg\\.sender"),
  ("block_timestamp", "\\b(block\\.timestamp|now)\\b"),
  ("block_number_time", "\\bblock\\.number\\b.*\\b(time|delay|period)\\b"),
  ("weak_randomness",
    "\\b(block\\.timestamp|block\\.difficulty|block\\.number|blockhash)\\b.*\\b(random|rand)\\b"),
  ("blockhash_randomness", "\\bblockhash\\b.*\\b(random|rand)\\b"),
  ("hardcoded_address", "0x[a-fA-F0-9]\x7b40\x7d"),
  ("floating_pragma", "pragma\\s+solidity\\s*\\^"),
  ("unchecked_math", "(\\+\\+|--|\\+=|-=|\\*=|/=|%=)"),
  ("transfer_send", "\\.(transfer|send)\\s*\\("),
  ("todo_security", "(TODO|FIXME|XXX|HACK).*\\b(security|vuln|exploit|attack|fix)\\b"),
  ("security_todo", "\\b(security|vuln|exploit|attack|fix)\\b.*(TODO|FIXME|XXX|HACK)"),
  ("inline_assembly", "\\bassembly\\s*\\\x7b"),
  ("unchecked_call", "\\.call\\s*\\([^)]*\\)\\s*;"),
  ("unchecked_delegatecall", "\\.delegatecall\\s*\\([^)]*\\)\\s*;"),
  ("external_call_pattern", "\\.call\\\x7bvalue:\\s*\\w+\\\x7d"),
  ("missing_modifier",
    "function\\s+\\w+\\s*\\([^)]*\\)\\s*(public|external)(?!.*\\b(onlyOwner|onlyAdmin|require)\\b)")]

/-- What is said about the matches of a pattern. -/
structure Advice where
  title : String
  description : String
  kind : String
  severity : Severity
  /-- How certain it is, if that is not the usual. -/
  confidence : Option Float := none
  recommendation : String
  references : Option (List String) := none

def advice : List (String × Advice) := [
  ("deprecated_throw", {
    title := "Deprecated 'throw' Statement"
    description := "The 'throw' statement is deprecated. Use 'require()' or 'revert()' instead."
    kind := "deprecated_constructs"
    severity := .low
    recommendation := "Replace 'throw' with 'require(condition)' or 'revert(\"message\")'"
    references := some [
      "https://docs.soliditylang.org/en/latest/control-structures.html#error-handling"] }),
  ("deprecated_suicide", {
    title := "Deprecated 'suicide' Function"
    description := "The 'suicide' function is deprecated. Use 'selfdestruct' instead."
    kind := "deprecated_constructs"
    severity := .low
    recommendation := "Replace 'suicide' with 'selfdestruct'" }),
  ("tx_origin_auth", {
    title := "tx.origin Used for Authorization"
    description := "Using tx.origin for authorization is vulnerable to phishing attacks."
    kind := "tx_origin_usage"
    severity := .high
    confidence := some 0.9
    recommendation := "Use msg.sender instead of tx.origin for authorization checks"
    references := some [
      "https://consensys.github.io/smart-contract-best-practices/attacks/tx-origin/"] }),
  ("block_timestamp", {
    title := "Block Timestamp Dependence"
    description := "Relying on block.timestamp or 'now' can be manipulated by miners."
    kind := "timestamp_dependence"
    severity := .medium
    recommendation := "Avoid using block.timestamp for critical logic or use block numbers instead"
    references := some [
      "https://consensys.github.io/smart-contract-best-practices/attacks/timestamp-dependence/"] }),
  ("weak_randomness", {
    title := "Weak Source of Randomness"
    description := "Using block properties for randomness is predictable and can be manipulated."
    kind := "weak_randomness"
    severity := .high
    recommendation := "Use a secure randomness source like Chainlink VRF or commit-reveal schemes"
    references := some [
      "https://consensys.github.io/smart-contract-best-practices/attacks/randomness/"] }),
  ("hardcoded_address", {
    title := "Hardcoded Address"
    description :=
      "Hardcoded addresses reduce contract flexibility and may indicate configuration issues."
    kind := "hardcoded_addresses"
    severity := .low
    confidence := some 0.5
    recommendation :=
      "Consider using configurable addresses or constants with clear documentation" }),
  ("floating_pragma", {
    title := "Floating Pragma"
    description := "Floating pragma allows compilation with different compiler versions."
    kind := "floating_pragma"
    severity := .info
    recommendation := "Lock pragma to a specific compiler version for production contracts" }),
  ("transfer_send", {
    title := "Use of transfer() or send()"
    description := "transfer() and send() have a fixed gas limit that may cause failures."
    kind := "dangerous_functions"
    severity := .medium
    recommendation := "Use call\x7bvalue: amount\x7d(\"\") with proper checks instead"
    references := some [
      "https://consensys.github.io/smart-contract-best-practices/attacks/denial-of-service/"
        ++ "#gas-limit-dos-on-the-network-via-block-stuffing"] }),
  ("todo_security", {
    title := "Security-Related TODO/FIXME Comment"
    description :=
      "Found a TODO/FIXME comment related to security that may indicate unresolved issues."
    kind := "todo_fixme_comments"
    severity := .medium
    recommendation :=
      "Review and resolve security-related TODO/FIXME comments before deployment" }),
  ("inline_assembly", {
    title := "Inline Assembly Usage"
    description :=
      "Inline assembly bypasses Solidity's safety features and should be used carefully."
    kind := "dangerous_functions"
    severity := .medium
    confidence := some 0.6
    recommendation := "Ensure assembly code is thoroughly reviewed and tested" }),
  ("unchecked_call", {
    title := "Unchecked External Call"
    description := "External call result is not checked, which may lead to silent failures."
    kind := "dangerous_functions"
    severity := .high
    recommendation :=
      "Check the return value of external calls and handle failures appropriately" }),
  ("selfdestruct_usage", {
    title := "selfdestruct Usage"
    description := "selfdestruct can be dangerous if not properly protected."
    kind := "dangerous_functions"
    severity := .high
    recommendation := "Ensure selfdestruct is properly protected with access controls" })]

def Advice.toValue (a : Advice) : Value :=
  .object ([
    ("title", .text a.title),
    ("description", .text a.description),
    ("vulnerability_type", .text a.kind),
    ("severity", .text a.severity.name),
    ("recommendation", .text a.recommendation)]
    ++ (match a.confidence with | some x => [("confidence", .real x)] | none => [])
    ++ (match a.references with | some urls => [("references", .ofTexts urls)] | none => []))

def isCommentLine (line : List Char) : Bool :=
  let line := Text.stripList line
  ['/', '/'].isPrefixOf line || ['*'].isPrefixOf line

def Advice.draft (a : Advice) (source file : String) (number : Nat) (found : Pattern.Found) : Draft where
  title := a.title
  description := a.description
  location := ⟨file, number, none, some (found.start + 1), some (found.stop + 1)⟩
  kind := a.kind
  confidence := .real (a.confidence.getD 0.7)
  severity := some a.severity
  snippet := some (snippet source number none 3)
  recommendation := some a.recommendation
  references := .ofTexts (a.references.getD [])

def onLine (settings : DetectorSettings) (pattern : Pattern) (a : Advice) (source file : String)
    (line : Nat × String) : Outcome (List Finding) :=
  if isCommentLine line.2.toList then pure []
  else (pattern.findAll line.2).mapM fun found =>
    profile.report settings (a.draft source file line.1 found)

/-- How patterns are read: letters of either case match, and line anchors hold inside the text. -/
def flags : Pattern.Flags := ⟨true, true, false, false⟩

/-- The patterns with advice, ready for matching. A pattern that is not well formed, or about which
there is nothing to say, is left out. -/
def compiled (patterns : List (String × String)) : List (Pattern × Advice) :=
  patterns.filterMap fun (name, written) =>
    match Pattern.parse? flags written, advice.lookup name with
    | some pattern, some a => some (pattern, a)
    | _, _ => none

/-- The patterns of the detector with advice, ready for matching. -/
def rules : List (Pattern × Advice) := compiled patterns

/-- The findings of some rules in a source file, rule by rule. -/
def detectWith (rules : List (Pattern × Advice)) (settings : DetectorSettings)
    (source file : String) : Outcome (List Finding) := do
  let lines := Excerpt.numbered (Text.splitNewlines source)
  let found ← rules.mapM fun (pattern, a) =>
    lines.mapM (onLine settings pattern a source file)
  return (found.map List.flatten).flatten

def detect (settings : DetectorSettings) (unit : Solidity.Unit) : Outcome (List Finding) :=
  detectWith rules settings unit.source unit.file

end ContractLint.Detector.Textual
