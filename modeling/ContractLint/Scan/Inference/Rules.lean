import ContractLint.Scan.Source

/-! # What is said about a file without asking a model

The rules that stand beside the answers of the models: suspicious lines, a count of branches, and a
summary of the file in words.
-/

namespace ContractLint.Scan.Inference

/-- What is fixed about the findings of a rule or an answer. -/
structure Remark where
  detector : String
  severity : Severity
  title : String
  description : String
  recommendation : String
  confidence : String
  category : String

def Remark.on (remark : Remark) (line : Nat) (code : String) : Finding where
  detector := .text remark.detector
  severity := remark.severity
  title := .text remark.title
  description := .text remark.description
  line := .int line
  snippet := .text code
  recommendation := .text remark.recommendation
  confidence := .text remark.confidence
  category := .text remark.category

/-- A rule about a line in small letters without the blanks around it. -/
structure LineRule where
  remark : Remark
  /-- The rule holds for the line. -/
  test : String → Bool

def applyRules (rules : List LineRule) (content : String) : List Finding :=
  (Excerpt.numbered (Text.lines content)).flatMap fun (number, line) =>
    let small := Text.strip (Text.lower line)
    (rules.filter fun rule => rule.test small).map fun rule =>
      rule.remark.on number (Text.strip line)

def callBack : Remark where
  detector := "ai_pattern_reentrancy"
  severity := .critical
  title := "AI: Potential Reentrancy Pattern"
  description :=
    "AI detected external call pattern that may be vulnerable to reentrancy attacks"
  recommendation := "Use checks-effects-interactions pattern and reentrancy guards"
  confidence := "HIGH"
  category := "AI Security Pattern"

def originUse : Remark where
  detector := "ai_pattern_txorigin"
  severity := .high
  title := "AI: Dangerous tx.origin Usage"
  description := "AI detected tx.origin usage which can be exploited in phishing attacks"
  recommendation := "Replace tx.origin with msg.sender for proper access control"
  confidence := "HIGH"
  category := "AI Security Pattern"

/-- The rules about security. Calls count only in a file that speaks of balances or transfers. -/
def securityRules (content : String) : List LineRule :=
  let small := Text.lower content
  let movesValue := Text.containsAny small ["balance", "transfer"]
  [⟨callBack, fun line =>
      Text.containsAny line ["call\x7b", ".call(", "delegatecall"] && movesValue⟩,
    ⟨originUse, fun line => Text.contains line "tx.origin"⟩]

def securityFindings (content : String) : List Finding :=
  applyRules (securityRules content) content

def branchWords : List String := ["if ", "for ", "while ", "require("]

def branches (line : String) : Nat :=
  (branchWords.map fun word => Text.countOf line word).sum

def complexFunction (count : Nat) : Remark where
  detector := "ai_quality_complexity"
  severity := .medium
  title := "AI: High Function Complexity"
  description :=
    "AI detected high cyclomatic complexity (" ++ Number.digitsText count ++ ") in function"
  recommendation := "Consider breaking down complex functions into smaller units"
  confidence := "MEDIUM"
  category := "AI Code Quality"

/-- What is known about the lines before a line. -/
structure Reading where
  /-- The first line of the function that is read, without the blanks around it. -/
  head : Option String := none
  /-- The numbers of the first lines of functions, the latest first. -/
  starts : List (String × Nat) := []
  /-- The branches of the function so far. -/
  count : Nat := 0

/-- The finding about a function that ends before a line, if it has many branches. -/
def Reading.judged (reading : Reading) (next : Nat) : List Finding :=
  match reading.head with
  | some head =>
    if head ≠ "" ∧ 10 < reading.count then
      [(complexFunction reading.count).on ((reading.starts.lookup head).getD next) ""]
    else []
  | none => []

/-- The findings about functions with many branches. A function is judged when the next one begins,
so the last one is not judged. -/
def qualityFrom (reading : Reading) : List (Nat × String) → List Finding
  | [] => []
  | (number, line) :: rest =>
    let small := Text.strip (Text.lower line)
    if Text.contains small "function " then
      let head := Text.strip line
      reading.judged number
        ++ qualityFrom ⟨some head, (head, number) :: reading.starts, branches small⟩ rest
    else qualityFrom { reading with count := reading.count + branches small } rest

/-- The findings about functions with many branches. -/
def qualityFindings (content : String) : List Finding :=
  qualityFrom {} (Excerpt.numbered (Text.lines content))

def storageLoop : Remark where
  detector := "ai_gas_storage"
  severity := .low
  title := "AI: Potential Gas Optimization"
  description := "AI detected storage usage in loop that could be optimized with memory"
  recommendation := "Consider using memory for temporary variables in loops"
  confidence := "MEDIUM"
  category := "AI Gas Optimization"

def lengthLoop : Remark where
  detector := "ai_gas_loop"
  severity := .low
  title := "AI: Loop Gas Optimization"
  description := "AI detected loop pattern that could be gas-optimized"
  recommendation := "Cache array length outside loop to save gas"
  confidence := "MEDIUM"
  category := "AI Gas Optimization"

def gasRules : List LineRule := [
  ⟨storageLoop, fun line =>
    Text.contains line "storage" && !Text.contains line "memory"
      && Text.containsAny line ["for", "while", "loop"]⟩,
  ⟨lengthLoop, fun line => Text.contains line "for" && Text.contains line ".length"⟩]

def gasFindings (content : String) : List Finding := applyRules gasRules content

/-- A decision that miners can influence. -/
def oracleRisk : Remark where
  detector := "ai_advanced_oracle"
  severity := .medium
  title := "AI: Oracle Manipulation Risk"
  description :=
    "AI detected usage of blockchain variables that can be manipulated by miners"
  recommendation := "Use secure oracle services like Chainlink for external data"
  confidence := "HIGH"
  category := "AI Advanced Security"

/-- A payment that others can overtake. -/
def frontRunning : Remark where
  detector := "ai_advanced_frontrun"
  severity := .medium
  title := "AI: Front-Running Vulnerability"
  description := "AI identified pattern susceptible to front-running attacks"
  recommendation := "Implement commit-reveal schemes or use private mempools"
  confidence := "MEDIUM"
  category := "AI Advanced Security"

def advancedRules : List LineRule := [
  ⟨oracleRisk, fun line =>
    Text.containsAny line ["block.timestamp", "block.difficulty", "block.number"]⟩,
  ⟨frontRunning, fun line => Text.contains line "msg.value" && Text.contains line "require("⟩]

def advancedFindings (content : String) : List Finding := applyRules advancedRules content

def costlyLoop : Remark where
  detector := "ai_complexity_analysis"
  severity := .low
  title := "AI: Loop Complexity Detected"
  description := "AI analysis identified a potentially gas-expensive loop pattern"
  recommendation := "Consider implementing pagination or gas-efficient alternatives"
  confidence := "MEDIUM"
  category := "AI Code Quality"

/-- A low-level operation. -/
def criticalCall : Remark where
  detector := "ai_security_pattern"
  severity := .medium
  title := "AI: Critical Function Call Detected"
  description := "AI identified usage of potentially dangerous low-level operations"
  recommendation := "Ensure proper access control and error handling for critical operations"
  confidence := "HIGH"
  category := "AI Security Analysis"

def weakChance : Remark where
  detector := "ai_randomness_analysis"
  severity := .medium
  title := "AI: Weak Randomness Source"
  description := "AI detected usage of predictable blockchain variables for randomness"
  recommendation := "Use secure randomness sources like Chainlink VRF or commit-reveal schemes"
  confidence := "HIGH"
  category := "AI Security Analysis"

def patternRules : List LineRule := [
  ⟨costlyLoop, fun line =>
    Text.contains line "for" && Text.contains line "length" && Text.contains line "i++"⟩,
  ⟨criticalCall, fun line => Text.containsAny line ["call\x7b", "delegatecall", "selfdestruct"]⟩,
  ⟨weakChance, fun line => Text.containsAny line ["block.timestamp", "block.difficulty"]⟩]

/-- Words that make a file harder to follow. -/
def complexityWords : List String :=
  ["if ", "for ", "while ", "require(", "assert(", "modifier "]

/-- The number of words that make a file harder to follow. -/
def complexityScore (content : String) : Nat :=
  ((Text.lines content).map fun line =>
    let small := Text.lower line
    (complexityWords.map fun word => Text.countOf small word).sum).sum

def assessment (count score : Nat) : Remark where
  detector := "ai_overall_assessment"
  severity := .info
  title := "AI Security Assessment Summary"
  description :=
    "AI analysis completed with " ++ Number.digitsText count
      ++ " pattern-based insights. Code complexity analysis shows " ++ Number.digitsText score
      ++ " complexity points."
  recommendation :=
    "Review AI-identified patterns and consider implementing suggested improvements"
  confidence := "HIGH"
  category := "AI Analysis Summary"

/-- The overall assessment: its findings, and a summary if there are any. -/
def patternFindings (content : String) : List Finding :=
  let found := applyRules patternRules content
  if found.isEmpty then []
  else found ++ [(assessment found.length (complexityScore content)).on 1 ""]

def linesWith (lines : List String) (words : List String) : Nat :=
  lines.countP fun line => Text.containsAny line words

/-- Facts about a file in words. -/
def technicalAnalysis (content : String) : String :=
  let lines := Text.lines content
  let stateChanges := lines.countP fun line =>
    Text.contains line "=" && Text.containsAny line ["balance", "owner", "state"]
  let count (name : String) (n : Nat) : String := name ++ ": " ++ Number.digitsText n
  String.intercalate "; " [
    count "Cyclomatic complexity" (linesWith lines ["if", "for", "while", "require", "assert"]),
    count "External Calls" (linesWith lines [".call(", ".send(", ".transfer("]) ++ " instances",
    count "State Changes" stateChanges ++ " instances",
    count "Access Modifiers" (linesWith lines ["onlyOwner", "onlyAdmin", "require(msg.sender"])
      ++ " instances",
    count "Reentrancy Guards" (linesWith lines ["nonReentrant", "ReentrancyGuard"])
      ++ " instances",
    count "Gas optimization opportunities"
      (linesWith lines ["storage", "memory", "calldata", "view", "pure"])]

/-- Parts of lines worth a look. -/
def criticalWords : List String := [
  "call\x7b", "delegatecall", "selfdestruct", "suicide", "tx.origin", "block.timestamp",
  "block.number", "msg.value", "address(this).balance"]

def criticalLines (content : String) : String :=
  let found := (Excerpt.numbered (Text.lines content)).filter fun (_, line) =>
    Text.containsAny (Text.lower line) criticalWords
  Text.joinLines ((found.map fun (number, line) =>
    "Line " ++ Number.digitsText number ++ ": " ++ Text.strip line).take 5)

/-- What to do about a file, in words. -/
def recommendations (content : String) : String :=
  let has (word : String) : Bool := Text.contains content word
  let advice :=
    (if has "call\x7b" && has "balance" then
      ["Implement checks-effects-interactions pattern to prevent reentrancy"] else [])
    ++ (if has "tx.origin" then
      ["Replace tx.origin with msg.sender for proper access control"] else [])
    ++ (if has "block.timestamp" then
      ["Avoid using block.timestamp for critical logic due to miner manipulation"] else [])
    ++ (if has "onlyOwner" || has "require(msg.sender" then [] else
      ["Add access control modifiers to sensitive functions"])
    ++ (if has "selfdestruct" then
      ["Consider alternatives to selfdestruct as it will be deprecated"] else [])
    ++ (if has "storage" && !has "memory" then
      ["Consider using memory for temporary variables to save gas"] else [])
  if advice.isEmpty then "Code follows security best practices"
  else String.intercalate "; " advice

/-- The summary of a file of which `count` findings are known. -/
def comprehensive (content language : String) (count : Int) : Finding where
  detector := .text "ai_comprehensive_analysis"
  severity := .info
  title := .text "🤖 AI Comprehensive Security Analysis"
  description := .text
    ("Advanced AI analysis completed for " ++ language ++ " contract. Analyzed "
      ++ Number.digitsText (Text.lines content).length ++ " lines of code with complexity score "
      ++ Number.digitsText (complexityScore content) ++ ". Security assessment: "
      ++ Number.intText (max 0 (100 - count * 10)) ++ "/100. Technical insights: "
      ++ technicalAnalysis content)
  line := .int 1
  snippet := .text (criticalLines content)
  recommendation := .text (recommendations content)
  confidence := .text "HIGH"
  category := .text "AI Comprehensive Analysis"
  references := .ofTexts [
    "https://huggingface.co/models",
    "https://arxiv.org/abs/2108.07732",
    "https://consensys.github.io/smart-contract-best-practices/"]

end ContractLint.Scan.Inference
