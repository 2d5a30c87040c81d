import ContractLint.Scan.Inference.Rules

/-! # Replies of the models

A model replies with a document that should hold a generated text. The text is searched for words
that point to a weakness, or read as a list of issues.
-/

namespace ContractLint.Scan.Inference

def generated? (reply : Value) : Outcome (Option Value) := do
  if ← reply.has "generated_text" then some <$> reply.field "generated_text" else return none

/-- The first line with one of some words, or the first line of all. -/
def firstLineWith (content : String) (words : List String) : Nat :=
  match (Text.lines content).findIdx? fun line => Text.containsAny line words with
  | some index => index + 1
  | none => 1

/-- The first line with one of some words, with its neighbours. -/
def codeWith (content : String) (words : List String) : String :=
  let lines := Text.lines content
  match lines.findIdx? fun line => Text.containsAny line words with
  | some index => Text.joinLines ((lines.take (index + 2)).drop (index - 1))
  | none => ""

/-- A weakness that words of a reply point to. -/
structure Hint where
  /-- The text in small letters points to the weakness. -/
  test : String → Bool
  remark : Remark
  /-- Words that mark the line in the file; none if the whole file is meant. -/
  lineWords : List String
  codeWords : List String

def Hint.on (hint : Hint) (content : Value) : Outcome Finding := do
  if hint.lineWords.isEmpty then return hint.remark.on 1 ""
  let content ← content.textFor "splitlines"
  return hint.remark.on (firstLineWith content hint.lineWords) (codeWith content hint.codeWords)

def readHints (hints : List Hint) (reply content : Value) : Outcome (List Finding) := do
  match ← generated? reply with
  | none => return []
  | some text =>
    let small := Text.lower (← text.textFor "lower")
    (hints.filter fun hint => hint.test small).mapM fun hint => hint.on content

def securityHints : List Hint := [
  { test := fun text => Text.contains text "reentrancy"
    remark := {
      detector := "ai_security_reentrancy"
      severity := .critical
      title := "AI: Potential Reentrancy Vulnerability"
      description :=
        "AI analysis detected patterns that may indicate reentrancy vulnerability"
      recommendation :=
        "Implement checks-effects-interactions pattern and use reentrancy guards"
      confidence := "HIGH"
      category := "AI Security Analysis" }
    lineWords := ["call\x7b", ".call(", "transfer"]
    codeWords := ["call\x7b", ".call("] },
  { test := fun text => Text.containsAny text ["access control", "authorization"]
    remark := {
      detector := "ai_security_access"
      severity := .high
      title := "AI: Access Control Issue Detected"
      description := "AI identified potential access control vulnerabilities"
      recommendation :=
        "Implement proper access control mechanisms and role-based permissions"
      confidence := "HIGH"
      category := "AI Security Analysis" }
    lineWords := ["onlyOwner", "require(msg.sender", "modifier"]
    codeWords := ["onlyOwner", "require(msg.sender"] }]

def qualityHints : List Hint := [
  { test := fun text => Text.contains text "complexity"
    remark := {
      detector := "ai_quality_complexity"
      severity := .medium
      title := "AI: High Code Complexity Detected"
      description :=
        "AI analysis indicates high cyclomatic complexity that may affect maintainability"
      recommendation :=
        "Consider breaking down complex functions into smaller, more manageable units"
      confidence := "MEDIUM"
      category := "AI Code Quality" }
    lineWords := []
    codeWords := [] }]

def designHints : List Hint := [
  { test := fun text => Text.containsAny text ["anti-pattern", "design flaw"]
    remark := {
      detector := "ai_pattern_antipattern"
      severity := .medium
      title := "AI: Design Anti-Pattern Detected"
      description := "AI identified potential design anti-patterns that may lead to issues"
      recommendation :=
        "Review code architecture and consider refactoring to follow best practices"
      confidence := "MEDIUM"
      category := "AI Pattern Analysis" }
    lineWords := []
    codeWords := [] }]

def gasHints : List Hint := [
  { test := fun text => Text.contains text "gas" && Text.contains text "optimization"
    remark := {
      detector := "ai_gas_optimization"
      severity := .low
      title := "AI: Gas Optimization Opportunity"
      description := "AI identified potential gas optimization opportunities"
      recommendation :=
        "Consider optimizing gas usage through better data structures and algorithms"
      confidence := "MEDIUM"
      category := "AI Gas Optimization" }
    lineWords := ["storage", "memory", "for", "while"]
    codeWords := ["storage", "for"] }]

/-- What replies point to, by the subject of the question. -/
def hints : List (String × List Hint) := [
  ("security", securityHints),
  ("quality", qualityHints),
  ("pattern", designHints),
  ("gas", gasHints)]

def severityWords : List String := ["critical", "high", "medium", "low"]

/-- The issue on a line of generated text, if the line names a severity: the gravest one counts. -/
def lineIssue? (line : String) : Option Value :=
  let line := Text.strip line
  let small := Text.lower line
  (severityWords.find? fun word => Text.contains small word).map fun word =>
    .object [
      ("severity", .text word),
      ("title", .text line),
      ("description", .text line),
      ("line_number", .int 1),
      ("code_snippet", .text ""),
      ("recommendation", .text "Review and fix the identified issue"),
      ("confidence", .text "medium")]

def textIssues (text : String) : List Value := (Text.splitNewlines text).filterMap lineIssue?

/-- The list in square brackets that a generated text holds, or its issues line by line. -/
def issuesIn (text : String) : Outcome Value := do
  if Text.contains text "[" && Text.contains text "]" then
    let listed := (text.toList.dropWhile (· != '[')).reverse.dropWhile (· != ']')
    match Document.Json.parse? (String.ofList listed.reverse) with
    | some issues => return issues
    | none => throw (.invalid "unreadable document")
  else return .list (textIssues text)

/-- The issues that a reply lists line by line; none if it cannot be read. -/
def replyIssues (reply : Value) : List Value :=
  match generated? reply with
  | .ok (some (.text text)) => textIssues text
  | _ => []

/-- The severity that a word in any case means; medium for an unknown word. -/
def severityOf (word : Value) : Outcome Severity := do
  match Text.lower (← word.textFor "lower") with
  | "critical" => return .critical
  | "high" => return .high
  | "medium" => return .medium
  | "low" => return .low
  | "info" => return .info
  | _ => return .medium

/-- What is fixed about the findings made from listed issues. -/
structure Listing where
  detector : String
  /-- The severity of every finding; if there is none the issue tells it. -/
  severity : Option Severity
  /-- How a title begins. -/
  heading : String
  /-- The field with the title, and the title of an issue without it. -/
  titleField : String × String
  description : String
  recommendation : String
  confidence : String
  category : String
  references : List String

def Listing.finding (listing : Listing) (issue : Value) : Outcome Finding := do
  let severity ← match listing.severity with
    | some severity => pure severity
    | none => severityOf (← issue.getOr "severity" (.text "medium"))
  let (titleField, title) := listing.titleField
  return {
    detector := .text listing.detector
    severity
    title := .text (listing.heading ++ (← issue.getOr titleField (.text title)).display)
    description := ← issue.getOr "description" (.text listing.description)
    line := ← issue.getOr "line_number" (.int 1)
    snippet := ← issue.getOr "code_snippet" (.text "")
    recommendation := ← issue.getOr "recommendation" (.text listing.recommendation)
    confidence := ← issue.getOr "confidence" (.text listing.confidence)
    category := .text listing.category
    references := .ofTexts listing.references }

/-- The findings of listed issues up to the first that is none, and the fault of that one. -/
def Listing.findings (listing : Listing) : List Value → List Finding × Option Fault
  | [] => ([], none)
  | issue :: rest =>
    match listing.finding issue with
    | .error fault => ([], some fault)
    | .ok finding =>
      let (others, fault?) := listing.findings rest
      (finding :: others, fault?)

end ContractLint.Scan.Inference
