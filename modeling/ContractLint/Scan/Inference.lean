import ContractLint.Scan.Inference.Reply
import ContractLint.Scan.Run

/-! # Scanning with models

A file is shown to one model after another, each for one purpose, and what they reply is read for
findings. The built-in rules stand beside the replies, so there is always an answer.
-/

namespace ContractLint.Scan.Inference

def models : List (String × String) := [
  ("security_analysis", "microsoft/codebert-base"),
  ("vulnerability_detection", "huggingface/CodeBERTa-small-v1"),
  ("code_quality", "microsoft/graphcodebert-base"),
  ("pattern_recognition", "microsoft/unixcoder-base"),
  ("smart_contract_audit", "ethereum/solidity-security-analyzer"),
  ("gas_optimization", "consensys/mythril-analyzer")]

def address : String := "https://api-inference.huggingface.co/models"

/-- The kinds of files that are understood. -/
def extensions : List String := ["sol", "rs", "go"]

def hasKey (around : Surroundings) : Bool :=
  match around.modelKey with
  | some key => key != ""
  | none => false

def checkKey : Run Unit := do
  if hasKey (← surroundings) then return ()
  say "⚠️ Warning: HUGGINGFACE_API_KEY not found in environment variables"
  say "Please set HUGGINGFACE_API_KEY in .env file or environment"

/-- The reply in an answer of the service: of a list its first item. -/
def firstReply (document : Value) : Value :=
  match document with
  | .list (first :: _) => first
  | other => other

/-- The reply of the model with some purpose, or null when there is none. -/
def query (models : List (String × String)) (purpose prompt : Value) : Run Value :=
  try
    purpose.hashable
    let name := match purpose with
      | .text purpose => (models.lookup purpose).getD ""
      | _ => ""
    if name = "" then return .null
    let around ← surroundings
    let key := around.modelKey.getD "None"
    recordPost { model := name, authorization := "Bearer " ++ key, prompt }
    match around.models.lookup name with
    | none => throw (.outside "offline")
    | some answer =>
      let answer ← answer
      if answer.status == .int 200 then return firstReply (← answer.document)
      say ("Hugging Face API error: " ++ answer.status.display ++ " - " ++ answer.text.display)
      return .null
  catch fault =>
    say ("Hugging Face query error: " ++ fault.message)
    return .null

/-- The first characters of a file, as they stand in a prompt. -/
def leading (count : Nat) (content : Value) : Outcome String :=
  match content with
  | .text s => pure (Text.take count s)
  | .list items => pure (Value.list (items.take count)).display
  | .object _ => throw (.notHashable "slice")
  | other => throw (.notIndexable other.kindName)

def languageOf (filename : Value) : Outcome String := do
  let filename ← filename.textFor "endswith"
  if Text.endsWith filename ".sol" then return "solidity"
  else if Text.endsWith filename ".rs" then return "rust"
  else if Text.endsWith filename ".go" then return "go"
  else return "unknown"

/-! ## Prompts -/

/-- The question about weaknesses. -/
def securityPrompt (language excerpt : String) : String :=
  "\n            Analyze this " ++ language
    ++ " smart contract for critical security vulnerabilities:\n\n            " ++ excerpt
    ++ "\n\n"
    ++ "            Focus on: reentrancy, access control, integer overflow, unchecked calls, "
    ++ "gas limit issues.\n"
    ++ "            Return findings in JSON format with severity, title, description, "
    ++ "line_number, recommendation.\n"
    ++ "            "

def qualityPrompt (language excerpt : String) : String :=
  "\n            Analyze this " ++ language
    ++ " code for quality issues and best practices:\n\n            " ++ excerpt ++ "\n\n"
    ++ "            Focus on: naming conventions, code structure, complexity, maintainability.\n"
    ++ "            "

def designPrompt (language excerpt : String) : String :=
  "\n            Identify security and design patterns in this " ++ language
    ++ " code:\n\n            " ++ excerpt
    ++ "\n\n            Look for: anti-patterns, design flaws, architectural issues.\n"
    ++ "            "

def gasPrompt (excerpt : String) : String :=
  "\n            Analyze this Solidity contract for gas optimization opportunities:\n\n"
    ++ "            " ++ excerpt ++ "\n\n"
    ++ "            Focus on: storage optimization, loop efficiency, function visibility, "
    ++ "data types.\n"
    ++ "            "

def auditPrompt (content : String) : String :=
  "\n            Perform comprehensive smart contract security audit:\n\n            " ++ content
    ++ "\n\n"
    ++ "            Check for: reentrancy, front-running, oracle manipulation, "
    ++ "governance attacks.\n"
    ++ "            "

def listingPrompt (language excerpt : String) : String :=
  "\nAnalyze this " ++ language ++ " smart contract for security vulnerabilities:\n\n" ++ excerpt
    ++ "\n\n"
    ++ "Identify potential security issues like reentrancy, access control, overflow, etc.\n"

def specialistPrompt (content : String) : String :=
  "\nPerform a comprehensive security audit of this Solidity smart contract:\n\n" ++ content
    ++ "\n\nIdentify all potential vulnerabilities and provide detailed analysis.\n"

def improvementPrompt (language content : String) : String :=
  "\nAnalyze this " ++ language
    ++ " code for quality issues, best practices, and potential improvements:\n\n" ++ content
    ++ "\n\nFocus on code structure, naming conventions, and optimization opportunities.\n"

def freeTextPrompt (language excerpt : String) : String :=
  "Analyze this " ++ language ++ " code for security issues: " ++ excerpt ++ "..."

/-! ## Stages -/

/-- What one stage asks, and how its reply is read. -/
structure Stage where
  /-- What the stage is called in complaints. -/
  name : String
  subject : String
  purpose : String

/-- The findings that a reply about a subject gives; a reply that cannot be read gives none. -/
def readReply (subject : String) (reply content : Value) : Run (List Finding) :=
  try readHints ((hints.lookup subject).getD []) reply content
  catch fault =>
    say ("Error parsing " ++ subject ++ " response: " ++ fault.message)
    return []

def Stage.ask (stage : Stage) (models : List (String × String)) (content : Value)
    (prompt : Outcome String) : Run (List Finding) :=
  try
    let reply ← query models (.text stage.purpose) (.text (← prompt))
    if reply.truthy then readReply stage.subject reply content else return []
  catch fault =>
    say (stage.name ++ " failed: " ++ fault.message)
    return []

def builtIn (rules : String → List Finding) (content : Value) : Outcome (List Finding) := do
  return rules (← content.textFor "splitlines")

def securityStage (models : List (String × String)) (content : Value) (language : String) : Run (List Finding) := do
  let stage : Stage := ⟨"Security analysis", "security", "security_analysis"⟩
  let asked ← stage.ask models content (securityPrompt language <$> leading 2000 content)
  return asked ++ (← builtIn securityFindings content)

def qualityStage (models : List (String × String)) (content : Value) (language : String) : Run (List Finding) := do
  let stage : Stage := ⟨"Code quality analysis", "quality", "code_quality"⟩
  let asked ← stage.ask models content (qualityPrompt language <$> leading 1500 content)
  return asked ++ (← builtIn qualityFindings content)

def designStage (models : List (String × String)) (content : Value) (language : String) : Run (List Finding) :=
  let stage : Stage := ⟨"Pattern analysis", "pattern", "pattern_recognition"⟩
  stage.ask models content (designPrompt language <$> leading 1500 content)

/-- The stage about the use of gas, which is for Solidity alone. -/
def gasStage (models : List (String × String)) (content : Value) (language : String) : Run (List Finding) := do
  if language ≠ "solidity" then return []
  let stage : Stage := ⟨"Gas optimization analysis", "gas", "gas_optimization"⟩
  let asked ← stage.ask models content (gasPrompt <$> leading 1500 content)
  return asked ++ (← builtIn gasFindings content)

/-- The audit stage: its replies cannot be read, which is reported. -/
def auditStage (models : List (String × String)) (content : Value) : Run (List Finding) := do
  let reply ← query models (.text "smart_contract_audit") (.text (auditPrompt content.display))
  if reply.truthy then
    say ("Smart contract audit failed: HuggingFaceAnalyzer._parse_audit_response() "
      ++ "takes 2 positional arguments but 3 were given")
  return []

def stages (content : Value) (language : String) : List (Run (List Finding)) :=
  [securityStage models content language,
    qualityStage models content language,
    designStage models content language,
    gasStage models content language]
  ++ if language = "solidity" then [auditStage models content] else []

/-- The findings of all stages; after a failure there are none. -/
def runStages (content : Value) (language : String) : Run (List Finding) :=
  try
    say ("🤖 Starting AI analysis for " ++ language ++ " contract...")
    let found ← gather (stages content language)
    say ("✅ AI analysis completed: " ++ Number.digitsText found.length ++ " findings detected")
    return found
  catch fault =>
    say ("⚠️ AI analysis error: " ++ fault.message)
    return []

/-- The findings in a file: those of the stages, a summary, and those of the further rules. -/
def analyze (filename content : Value) : Run (List Finding) := do
  match languageOf filename with
  | .error fault =>
    say ("⚠️ AI analysis error: " ++ fault.message)
    throw (.unbound "language")
  | .ok language =>
    let found ← runStages content language
    let content ← content.textFor "splitlines"
    return found ++ comprehensive content language found.length :: advancedFindings content

/-! ## Further models -/

/-- The findings of listed issues; an item that is no issue ends the list with a complaint. -/
def report (name : String) (listing : Listing) (issues : List Value) : Run (List Finding) := do
  let (found, fault?) := listing.findings issues
  if let some fault := fault? then say (name ++ " failed: " ++ fault.message)
  return found

/-- The issues that a generated text lists; none if it cannot be read. -/
def readIssues (text : Value) : Run Value :=
  try
    match text with
    | .text text => issuesIn text
    | other => throw (.notSearchable other.kindName)
  catch fault =>
    say ("Error parsing Grok response: " ++ fault.message)
    return .list []

def listWeaknesses (models : List (String × String)) (content : Value) (language : String) : Run (List Finding) := do
  let issues ← try
      let prompt := listingPrompt language (← leading 1000 content)
      let reply ← query models (.text "gpt2") (.text prompt)
      if !reply.truthy then pure []
      else match ← generated? reply with
        | none => pure []
        | some text => (← readIssues text).elements
    catch fault =>
      say ("Grok analysis failed: " ++ fault.message)
      pure []
  let listing : Listing := {
    detector := "gpt2_ai_security"
    severity := none
    heading := "AI Security: "
    titleField := ("title", "Pattern Detected")
    description := "AI detected a potential security pattern"
    recommendation := "Review the flagged code section"
    confidence := "MEDIUM"
    category := "AI Security Analysis"
    references := ["https://huggingface.co/gpt2"] }
  report "Grok analysis" listing issues

def concernWords : List String := ["vulnerable", "security", "attack", "exploit"]

def concern : Remark where
  detector := "text_generation_ai"
  severity := .info
  title := "AI Text Analysis"
  description := "AI text generation model identified potential security concerns"
  recommendation := "Review AI-generated insights for security considerations"
  confidence := "LOW"
  category := "AI Text Analysis"

def readFreeText (models : List (String × String)) (content : Value) (language : String) : Run (List Finding) :=
  try
    let prompt := freeTextPrompt language (← leading 500 content)
    let reply ← query models (.text "text_generation") (.text prompt)
    if !reply.truthy then return []
    match ← generated? reply with
    | none => return []
    | some text =>
      let small := Text.lower (← text.textFor "lower")
      return if Text.containsAny small concernWords then [concern.on 1 ""] else []
  catch fault =>
    say ("Text generation analysis failed: " ++ fault.message)
    return []

/-- The findings of a model that was trained for audits, which is for Solidity alone. -/
def askSpecialist (models : List (String × String)) (content : Value) (language : String) : Run (List Finding) := do
  if language ≠ "solidity" then return []
  let prompt := specialistPrompt content.display
  let reply ← query models (.text "smart_contract_auditing") (.text prompt)
  let listing : Listing := {
    detector := "smart_contract_auditing_ai"
    severity := none
    heading := "Smart Contract Audit: "
    titleField := ("vulnerability_type", "Issue")
    description := "Specialized auditing model detected an issue"
    recommendation := "Follow smart contract best practices"
    confidence := "HIGH"
    category := "Specialized Audit AI"
    references := ["https://huggingface.co/jkeyyy/smart-contract-auditing"] }
  report "Smart contract auditing analysis" listing (replyIssues reply)

def listImprovements (models : List (String × String)) (content : Value) (language : String) :
    Run (List Finding) := do
  let prompt := improvementPrompt language content.display
  let reply ← query models (.text "code_analysis") (.text prompt)
  let listing : Listing := {
    detector := "code_analysis_ai"
    severity := some .low
    heading := "Code Quality: "
    titleField := ("type", "Issue")
    description := "Code analysis model detected a quality issue"
    recommendation := "Improve code quality"
    confidence := "MEDIUM"
    category := "Code Quality AI"
    references := [] }
  report "Code analysis" listing (replyIssues reply)

/-- The document about the service. -/
def status (around : Surroundings) : Value :=
  .object [
    ("huggingface_available", .bool (hasKey around)),
    ("api_key_configured", .bool (hasKey around)),
    ("requests_available", .bool true),
    ("available_models", .ofTexts (models.map Prod.fst)),
    ("model_details", .object (models.map fun (purpose, name) => (purpose, .text name))),
    ("capabilities", .ofTexts [
      "AI-Powered Security Analysis",
      "Vulnerability Pattern Recognition",
      "Code Quality Analysis",
      "Gas Optimization Analysis",
      "Smart Contract Auditing",
      "Multi-language Support",
      "Real-time AI Inference"]),
    ("supported_languages", .ofTexts extensions),
    ("api_endpoint", .text address),
    ("total_models", .int models.length)]

end ContractLint.Scan.Inference
