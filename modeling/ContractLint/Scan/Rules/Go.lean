import ContractLint.Scan.Source

/-! # Built-in rules for Go files -/

namespace ContractLint.Scan.Rules.Go

/-- Two results that are thrown away. -/
def bothDiscarded : Pattern := exactly "_,\\s*_\\s*:="

def callDiscarded : Pattern := exactly "_\\s*:=.*\\(.*\\)"

/-- A deliberate stop. -/
def panicCall : Pattern := exactly "panic\\("

def ignoredIssue : Issue where
  detector := "error_handling_detector"
  severity := .medium
  title := "Ignored Error"
  description := "Error return value is being ignored"
  recommendation := "Properly handle error return values"
  cwe := some 252

def panicIssue : Issue where
  detector := "panic_detector"
  severity := .high
  title := "Panic Usage"
  description := "Using panic instead of proper error handling"
  recommendation := "Return errors instead of panicking"
  cwe := some 248

def errorHandling (source : Source) : List Finding :=
  source.numbered.flatMap fun (number, line) =>
    (if (bothDiscarded.occurs line || callDiscarded.occurs line) && Text.contains line "err"
      then [ignoredIssue.on source number] else [])
    ++ (if panicCall.occurs line then [panicIssue.on source number] else [])

def fieldCheck : Pattern := exactly "(len\\(|strings\\.TrimSpace|sdk\\.AccAddress)"

def storeAccess : Pattern := exactly "(ctx\\.KVStore|store\\.Set)"

def validationIssue : Issue where
  detector := "cosmos_validation_detector"
  severity := .medium
  title := "Incomplete Message Validation"
  description := "ValidateBasic() may not perform comprehensive validation"
  recommendation := "Validate all message fields including addresses and amounts"
  category := "Cosmos SDK"

def keeperIssue : Issue where
  detector := "cosmos_keeper_detector"
  severity := .low
  title := "Direct Keeper Usage"
  description := "Direct keeper method usage without store abstraction"
  recommendation := "Use proper store abstraction for state management"
  category := "Cosmos SDK"

def cosmosLine (source : Source) (number : Nat) (line : String) : List Finding :=
  (if Text.contains line "func (msg" && Text.contains line "ValidateBasic()"
      && !fieldCheck.occurs (source.blockAfter number)
    then [validationIssue.on source number] else [])
  ++ (if Text.contains line "keeper." && Text.contains line "Set"
      && !storeAccess.occurs source.content
    then [keeperIssue.on source number] else [])

def cosmosPatterns (source : Source) : List Finding :=
  if source.lines.any fun line => Text.contains line "github.com/cosmos/cosmos-sdk" then
    source.numbered.flatMap fun (number, line) => cosmosLine source number line
  else []

def keeperMethod : Pattern := exactly "func\\s+\\(k\\s+Keeper\\)"

def authorityCheck : Pattern := exactly "(ctx\\.IsCheckTx|ctx\\.IsReCheckTx|authority)"

def storeChange : Pattern := exactly "(Set|Delete|Store)"

/-- Methods of a keeper that change the store without a check. -/
def keeperSecurity (source : Source) : List Finding :=
  let issue : Issue := {
    detector := "keeper_security_detector"
    severity := .high
    title := "Unauthorized Keeper Access"
    description := "Keeper method modifies state without proper authorization checks"
    recommendation := "Add proper authorization checks before state modifications"
    category := "Keeper Security" }
  issue.onLines source fun number line =>
    keeperMethod.occurs line &&
      let body := source.blockAfter number
      !authorityCheck.occurs body && storeChange.occurs body

def handlerHead : Pattern := exactly "func\\s+.*Handle.*Msg"

def inputCheck : Pattern := exactly "(ValidateBasic|len\\(|strings\\.TrimSpace)"

def signerCheck : Pattern := exactly "(msg\\.GetSigners|sdk\\.AccAddress)"

def inputIssue : Issue where
  detector := "message_validation_detector"
  severity := .medium
  title := "Missing Input Validation"
  description := "Message handler lacks proper input validation"
  recommendation := "Add comprehensive input validation in message handlers"
  category := "Message Validation"

def signerIssue : Issue where
  detector := "authorization_detector"
  severity := .high
  title := "Missing Authorization Check"
  description := "Message handler lacks authorization verification"
  recommendation := "Verify message signer authorization before processing"
  category := "Authorization"

def messageValidation (source : Source) : List Finding :=
  source.numbered.flatMap fun (number, line) =>
    if handlerHead.occurs line then
      let body := source.blockAfter number
      (if inputCheck.occurs body then [] else [inputIssue.on source number])
        ++ (if signerCheck.occurs body then [] else [signerIssue.on source number])
    else []

def stateChange : Pattern := exactly "\\.SetState\\(|\\.UpdateState\\("

def stateCheck : Pattern := exactly "(if.*state|switch.*state|ValidateTransition)"

def stateMachine (source : Source) : List Finding :=
  let issue : Issue := {
    detector := "state_machine_detector"
    severity := .medium
    title := "Unvalidated State Transition"
    description := "State transition without proper validation"
    recommendation := "Validate state transitions before applying changes"
    category := "State Machine" }
  issue.onLines source fun number line =>
    stateChange.occurs line
      && !stateCheck.occurs (Text.joinLines (source.between (number - 5) (number + 5)))

def rangeLoop : Pattern := exactly "for\\s+.*range"

def countingLoop : Pattern := exactly "for\\s+.*;.*\\\x7b"

def gasCheck : Pattern := exactly "(ctx\\.GasMeter|ConsumeGas|OutOfGas)"

/-- Long loops that do not look at the gas that is left. -/
def gasMetering (source : Source) : List Finding :=
  let issue : Issue := {
    detector := "gas_metering_detector"
    severity := .medium
    title := "Potential Gas Limit Issue"
    description := "Loop without gas metering may cause out-of-gas errors"
    recommendation := "Add gas consumption checks in loops"
    category := "Gas Metering" }
  issue.onLines source fun number line =>
    (rangeLoop.occurs line || countingLoop.occurs line) &&
      let body := source.blockAfter number
      !gasCheck.occurs body && decide (5 < (Text.lines body).length)

def adminWord : Pattern := anyCase "(Admin|Gov|Authority|Owner)"

def permissionWord : Pattern := anyCase "(authority|admin|gov|owner|permission)"

/-- Administrative functions whose body does not speak of permission. -/
def permissionChecks (source : Source) : List Finding :=
  let issue : Issue := {
    detector := "permission_detector"
    severity := .high
    title := "Missing Permission Check"
    description := "Administrative function lacks permission verification"
    recommendation := "Add proper permission checks for administrative functions"
    category := "Access Control" }
  issue.onLines source fun number line =>
    adminWord.occurs line && Text.contains line "func"
      && !permissionWord.occurs (source.blockAfter number)

def indexAccess : Pattern := exactly "\\[\\d+\\]|\\[.*\\]"

def sizeCheck : Pattern := exactly "(len\\(|cap\\()"

/-- Accesses by index without a look at the size. -/
def panicConditions (source : Source) : List Finding :=
  let issue : Issue := {
    detector := "bounds_check_detector"
    severity := .medium
    title := "Potential Index Out of Bounds"
    description := "Array/slice access without bounds checking"
    recommendation := "Check array/slice bounds before accessing elements"
    cwe := some 125 }
  issue.onLines source fun _ line => indexAccess.occurs line && !sizeCheck.occurs line

/-- All built-in rules by name, in the order in which they run. -/
def all : List (String × (Source → List Finding)) := [
  ("error_handling", errorHandling),
  ("cosmos_sdk_patterns", cosmosPatterns),
  ("keeper_security", keeperSecurity),
  ("message_validation", messageValidation),
  ("state_machine", stateMachine),
  ("gas_metering", gasMetering),
  ("permission_checks", permissionChecks),
  ("panic_conditions", panicConditions)]

end ContractLint.Scan.Rules.Go
