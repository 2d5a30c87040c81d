import ContractLint.Scan.Source

/-! # Built-in rules for Rust files -/

namespace ContractLint.Scan.Rules.Rust

/-- Constructs that may stop the program, with what is said about them. -/
def panicPatterns : List (Pattern × String) := [
  (exactly "\\.unwrap\\(\\)", "unwrap() can panic if the value is None/Err"),
  (exactly "\\.expect\\(", "expect() can panic if the value is None/Err"),
  (exactly "panic!\\(", "Direct panic call"),
  (exactly "assert!\\(", "assert! can panic if condition is false"),
  (exactly "assert_eq!\\(", "assert_eq! can panic if values are not equal"),
  (exactly "\\[.*\\]", "Array indexing can panic on out-of-bounds access")]

/-- The issue of a construct that may stop the program. -/
def panicIssue (description : String) : Issue where
  detector := "panic_detector"
  severity := .medium
  title := "Potential Panic Condition"
  description := description
  recommendation := "Use proper error handling with Result<T, E> or Option<T>"
  cwe := some 248

/-- Constructs that may stop the program. -/
def panicConditions (source : Source) : List Finding :=
  source.numbered.flatMap fun (number, line) =>
    (panicPatterns.filter fun (pattern, _) => pattern.occurs line).map fun (_, description) =>
      (panicIssue description).on source number

def arithmetic : Pattern := exactly "[+\\-*/]\\s*=|[+\\-*/]\\s+\\w+"

def definedOverflow : Pattern := exactly "(checked_|saturating_|wrapping_)"

def integerArithmetic (source : Source) : List Finding :=
  let issue : Issue := {
    detector := "integer_arithmetic_detector"
    severity := .medium
    title := "Unchecked Integer Arithmetic"
    description := "Integer arithmetic without overflow protection"
    recommendation := "Use checked_add(), checked_sub(), etc. or saturating variants"
    cwe := some 190 }
  issue.onLines source fun _ line => arithmetic.occurs line && !definedOverflow.occurs line

/-- The start of the value that a constructor returns. -/
def selfLiteral : Pattern := exactly "Self\\s*\\\x7b"

def constructorIssue : Issue where
  detector := "ink_constructor_detector"
  severity := .high
  title := "Incomplete Storage Initialization"
  description := "ink! constructor may not properly initialize all storage fields"
  recommendation := "Ensure all storage fields are initialized in constructor"
  category := "ink!"

def messageIssue : Issue where
  detector := "ink_visibility_detector"
  severity := .low
  title := "ink! Message Visibility"
  description := "ink! message function should be public"
  recommendation := "Add 'pub' keyword to ink! message functions"
  category := "ink!"

def inkLine (source : Source) (number : Nat) (line : String) : List Finding :=
  (if Text.contains line "#[ink(constructor)]" && !selfLiteral.occurs (source.blockAfter number)
    then [constructorIssue.on source number] else [])
  ++ (if Text.contains line "#[ink(message)]" && !Text.contains line "pub"
    then [messageIssue.on source number] else [])

def inkPatterns (source : Source) : List Finding :=
  if Text.containsAny source.content ["#[ink::contract]", "#[ink(storage)]"] then
    source.numbered.flatMap fun (number, line) => inkLine source number line
  else []

def unsafeBlock : Pattern := exactly "unsafe\\s*\\\x7b"

def unsafeCode (source : Source) : List Finding :=
  let issue : Issue := {
    detector := "unsafe_code_detector"
    severity := .high
    title := "Unsafe Code Block"
    description := "Unsafe code block bypasses Rust's safety guarantees"
    recommendation := "Minimize unsafe code and ensure memory safety"
    cwe := some 119 }
  issue.onLines source fun _ line => unsafeBlock.occurs line

def defaulted : Pattern := exactly "\\.unwrap_or\\(.*\\);"

/-- A result that is thrown away. -/
def discarded : Pattern := exactly "let\\s+_\\s*=.*\\.unwrap"

def errorHandling (source : Source) : List Finding :=
  let issue : Issue := {
    detector := "error_handling_detector"
    severity := .low
    title := "Ignored Error Result"
    description := "Error result is being ignored or handled with default value"
    recommendation := "Properly handle error cases with match or if-let"
    cwe := some 252 }
  issue.onLines source fun _ line => defaulted.occurs line || discarded.occurs line

def fieldAssignment : Pattern := exactly "self\\.\\w+\\s*="

/-- Assignments to fields shortly after the head of a message. -/
def storagePatterns (source : Source) : List Finding :=
  let issue : Issue := {
    detector := "storage_access_detector"
    severity := .low
    title := "Direct Storage Access"
    description := "Direct storage field modification in message function"
    recommendation := "Consider using getter/setter methods for storage access"
    category := "Storage" }
  issue.onLines source fun number line =>
    fieldAssignment.occurs line
      && Text.contains (Text.joinLines (source.between (number - 10) number)) "#[ink(message)]"

def contractCall : Pattern := exactly "\\.call\\("

def contractRef : Pattern := exactly "ContractRef::"

def crossContractCalls (source : Source) : List Finding :=
  let issue : Issue := {
    detector := "cross_contract_detector"
    severity := .medium
    title := "Cross-Contract Call"
    description := "Cross-contract call detected - ensure proper error handling"
    recommendation := "Handle cross-contract call failures and validate return values"
    category := "Cross-Contract" }
  issue.onLines source fun _ line => contractCall.occurs line || contractRef.occurs line

/-- All built-in rules by name, in the order in which they run. -/
def all : List (String × (Source → List Finding)) := [
  ("panic_conditions", panicConditions),
  ("integer_arithmetic", integerArithmetic),
  ("ink_patterns", inkPatterns),
  ("unsafe_code", unsafeCode),
  ("error_handling", errorHandling),
  ("storage_patterns", storagePatterns),
  ("cross_contract_calls", crossContractCalls)]

end ContractLint.Scan.Rules.Rust
