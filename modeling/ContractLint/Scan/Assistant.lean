import ContractLint.Document.Json.Reader
import ContractLint.Scan.Finding
import ContractLint.Scan.Run

/-! # The assistant

A language model is asked about some weaknesses of a Solidity file, one question each. It answers
with a document. Without a key for the assistant, and without a local one, nothing is asked.
-/

namespace ContractLint.Scan.Assistant

/-- The question about calls before state changes. -/
def reentrancyPrompt (content : String) : String :=
  "\n        Analyze the following Solidity contract for reentrancy vulnerabilities:\n"
    ++ "        \n        " ++ content
    ++ "\n        \n        Look for:\n        1. External calls followed by state changes\n"
    ++ "        2. Missing reentrancy guards\n"
    ++ "        3. Checks-Effects-Interactions pattern violations\n        \n"
    ++ "        Respond in JSON format:\n        \x7b\n            \"has_issue\": boolean,\n"
    ++ "            \"title\": \"string\",\n            \"description\": \"string\", \n"
    ++ "            \"line_number\": number,\n            \"code_snippet\": \"string\",\n"
    ++ "            \"recommendation\": \"string\",\n"
    ++ "            \"confidence\": \"HIGH|MEDIUM|LOW\"\n        \x7d\n        "

def accessControlPrompt (content : String) : String :=
  "\n        Analyze the following smart contract for access control vulnerabilities:\n"
    ++ "        \n        " ++ content ++ "\n        \n        Look for:\n"
    ++ "        1. Missing access control on critical functions\n"
    ++ "        2. Improper use of tx.origin\n"
    ++ "        3. Missing onlyOwner or similar modifiers\n"
    ++ "        4. Privilege escalation possibilities\n        \n"
    ++ "        Respond in JSON format with vulnerability details.\n        "

def logicPrompt (content : String) : String :=
  "\n"
    ++ "        Analyze the following smart contract for logic bugs and business logic issues:\n"
    ++ "        \n        " ++ content
    ++ "\n        \n        Look for:\n        1. Integer overflow/underflow\n"
    ++ "        2. Incorrect calculations\n        3. Wrong conditional logic\n"
    ++ "        4. Edge case handling issues\n        \n"
    ++ "        Respond in JSON format with issue details.\n        "

def gasPrompt (content : String) : String :=
  "\n        Analyze the following smart contract for gas optimization opportunities:\n"
    ++ "        \n        " ++ content
    ++ "\n        \n        Look for:\n        1. Inefficient loops\n"
    ++ "        2. Unnecessary storage operations\n        3. Redundant computations\n"
    ++ "        4. Better data structure choices\n        \n"
    ++ "        Respond in JSON format with optimization suggestions.\n        "

def languageOf (filename : String) : String :=
  if Text.endsWith filename ".sol" then "sol"
  else if Text.endsWith filename ".rs" then "rs"
  else if Text.endsWith filename ".go" then "go"
  else "unknown"

def isSet (setting : Option String) : Bool :=
  match setting with
  | some s => s != ""
  | none => false

def isEnabled (around : Surroundings) : Bool :=
  isSet around.assistantKey || isSet around.localAssistant

/-- The answer of the local assistant, which never sees an issue. -/
def localAnswer : Value :=
  .object [
    ("has_issue", .bool false),
    ("title", .text "Local AI Analysis"),
    ("description", .text "Local AI model analysis completed"),
    ("line_number", .int 1),
    ("code_snippet", .text ""),
    ("recommendation", .text "No issues detected by local AI"),
    ("confidence", .text "MEDIUM")]

/-- The next reply of the assistant, read as a document. -/
def nextReply (prompt : String) : Run Value := do
  match (← surroundings).assistant with
  | none => throw (.notInstalled "No module named 'openai'")
  | some replies =>
    match replies[← recordQuestion prompt]? with
    | none => throw .outOfRange
    | some reply =>
      match ← reply with
      | .text reply =>
        match Document.Json.parse? reply with
        | some document => return document
        | none => throw (.invalid "unreadable document")
      | other =>
        throw (.mistyped
          ("the JSON object must be str, bytes or bytearray, not " ++ other.kindName))

/-- The answer of the assistant with the key, or null when there is none. -/
def askRemote (prompt : String) : Run Value :=
  try nextReply prompt
  catch fault =>
    say ("OpenAI query failed: " ++ fault.message)
    return .null

/-- The answer to a question, or null when there is none. -/
def ask (prompt : String) : Run Value := do
  let around ← surroundings
  if isSet around.assistantKey then askRemote prompt
  else if isSet around.localAssistant then return localAnswer
  else return .null

/-- The finding that an answer describes, if it sees an issue. -/
def findingOf (detector : String) (severity : Severity) (answer : Value) : Outcome (List Finding) := do
  if !answer.truthy then return []
  if !(← answer.getOr "has_issue" (.bool false)).truthy then return []
  return [{
    detector := .text detector
    severity
    title := ← answer.getOr "title" (.text "AI-Detected Issue")
    description := ← answer.getOr "description" (.text "AI detected a potential issue")
    line := ← answer.getOr "line_number" (.int 1)
    snippet := ← answer.getOr "code_snippet" (.text "")
    recommendation := ← answer.getOr "recommendation" (.text "Review the flagged code")
    confidence := ← answer.getOr "confidence" (.text "MEDIUM")
    category := .text "AI Analysis" }]

/-- A question and what is reported if the answer sees an issue. -/
structure Check where
  /-- The name under which it is reported. -/
  detector : String
  severity : Severity
  prompt : String

/-- Asks one question and reads the answer. -/
def Check.run (check : Check) : Run (List Finding) :=
  try
    let answer ← ask check.prompt
    findingOf check.detector check.severity answer
  catch fault =>
    say ("AI check " ++ check.detector ++ " failed: " ++ fault.message)
    return []

/-- The questions about a Solidity file. -/
def checks (content : String) : List Check := [
  ⟨"reentrancy_ai", .high, reentrancyPrompt content⟩,
  ⟨"access_control_ai", .medium, accessControlPrompt content⟩,
  ⟨"logic_bugs_ai", .medium, logicPrompt content⟩,
  ⟨"gas_optimization_ai", .low, gasPrompt content⟩]

def checkSolidity (content : String) : Run (List Finding) :=
  gather ((checks content).map Check.run)

def analyze (filename content : Value) : Run (List Finding) := do
  if !isEnabled (← surroundings) then return []
  try
    let name ← filename.textFor "endswith"
    if languageOf name = "sol" then checkSolidity content.display else return []
  catch fault =>
    say ("AI analysis failed: " ++ fault.message)
    return []

/-- The document about the assistant's availability. -/
def status (around : Surroundings) : Value :=
  .object [
    ("openai_available", .bool (isSet around.assistantKey)),
    ("local_model_available", .bool (isSet around.localAssistant)),
    ("supported_models",
      .ofTexts ["gpt-4", "gpt-3.5-turbo", "claude-3", "local-llama", "local-codellama"]),
    ("capabilities", .ofTexts [
      "Vulnerability Detection",
      "Code Quality Analysis",
      "Gas Optimization",
      "Logic Bug Detection",
      "Security Best Practices"])]

end ContractLint.Scan.Assistant
