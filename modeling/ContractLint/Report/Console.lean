import ContractLint.Report.Basic

/-! # Reports for a terminal -/

namespace ContractLint.Report.Console

def codes : List (String × String) := [
  ("red", "\x1b[91m"), ("green", "\x1b[92m"), ("yellow", "\x1b[93m"), ("blue", "\x1b[94m"),
  ("magenta", "\x1b[95m"), ("cyan", "\x1b[96m"), ("white", "\x1b[97m"), ("bold", "\x1b[1m"),
  ("reset", "\x1b[0m")]

/-- A text in a colour, if colours are wanted. A colour without a code changes nothing. -/
def paint (output : OutputSettings) (text color : String) : String :=
  if output.colorOutput.truthy then (codes.lookup color).getD "" ++ text ++ "\x1b[0m" else text

def colorOf : Severity → String
  | .critical => "red"
  | .high => "yellow"
  | .medium => "blue"
  | .low => "green"
  | .info => "cyan"

def indent (text indentation : String) : String :=
  Text.joinLines ((Text.splitNewlines text).map (indentation ++ ·))

/-- The report without findings. -/
def nothingFound (output : OutputSettings) : String :=
  paint output "✅ No security issues found!" "green" ++ "\n"
    ++ "Your smart contract appears to be free of the vulnerabilities "
    ++ "checked by ContractQuard's static analysis.\n"

def header (output : OutputSettings) (count : Nat) : String :=
  if count = 0 then ""
  else
    let issues := if count = 1 then "1 security issue"
      else Number.digitsText count ++ " security issues"
    "\n" ++ paint output "🔍 ContractQuard Security Analysis Report" "bold" ++ "\n"
      ++ Text.repeated "=" 50 ++ "\nFound " ++ paint output issues "yellow" ++ "\n"

/-- The numbers of a report. -/
def summarySection (output : OutputSettings) (s : Summary) : String :=
  let lines := s.present.map fun (severity, count) =>
    tag severity ++ " " ++ paint output severity.name (colorOf severity) ++ ": "
      ++ Number.digitsText count ++ "\n"
  "\n" ++ paint output "Summary" "bold" ++ "\n" ++ Text.repeated "-" 20 ++ "\n"
    ++ String.join lines ++ "\nFiles with issues: " ++ Number.digitsText s.files.length ++ "\n"

/-- The certainty of a finding in percent, unless it is certain. -/
def confidence (f : Finding) : Outcome (Option Int) := do
  if ← Value.less "<" f.confidence (.real 1.0) then
    match f.confidence.asNumber? with
    | some (.inl n) => return some (n * 100)
    | some (.inr x) => return some (((Number.decode (x * 100)).map Number.Parts.truncate).getD 0)
    | none => return none
  else return none

def entry (output : OutputSettings) (index : Nat) (e : Entry) : Outcome String := do
  let f := e.finding
  let certainty ← confidence f
  let snippet ← (shownSnippet output f).mapM (truncated output)
  let references ← if output.verbose.truthy then references f else pure []
  let metadata := if output.verbose.truthy && f.metadata.truthy then some f.metadata.display
    else none
  return "\n" ++ Number.digitsText index ++ ". " ++ tag f.severity ++ " "
    ++ paint output f.severity.name (colorOf f.severity) ++ " - " ++ f.title ++ "\n"
    ++ "   Location: " ++ placeText e ++ "\n"
    ++ (if f.description = "" then "" else "   Description: " ++ f.description ++ "\n")
    ++ whenSome certainty (fun n => "   Confidence: " ++ Number.intText n ++ "%\n")
    ++ whenSome snippet (fun s => "   💻 Code:\n" ++ indent s "      " ++ "\n")
    ++ whenSome (recommendation f) (fun s => "   💡 Recommendation: " ++ s ++ "\n")
    ++ (if references.isEmpty then ""
      else "   🔗 References:\n" ++ String.join (references.map fun s => "      - " ++ s ++ "\n"))
    ++ whenSome metadata (fun s => "   🏷️  Metadata: " ++ s ++ "\n")

def findingsSection (output : OutputSettings) (entries : List Entry) : Outcome String := do
  let heading (file : String) : String :=
    "\n" ++ paint output ("📄 " ++ file) "cyan" ++ "\n" ++ Text.repeated "-" file.length ++ "\n"
  return "\n" ++ paint output "🔍 Detailed Findings" "bold" ++ "\n" ++ Text.repeated "=" 30 ++ "\n"
    ++ (← byFile heading (entry output) none (numbered entries))

/-- The end of a report. -/
def footer (output : OutputSettings) (entries : List Entry) : String :=
  let has (severity : Severity) : Bool := entries.any fun e => e.finding.severity = severity
  if entries.isEmpty then ""
  else
    let verdict :=
      if has .critical then
        paint output "CRITICAL ISSUES FOUND - Immediate attention required!" "red"
      else if has .high then
        paint output "HIGH SEVERITY ISSUES FOUND - Review recommended" "yellow"
      else paint output "No critical or high severity issues found" "green"
    "\n" ++ Text.repeated "=" 50 ++ "\n" ++ paint output "ContractQuard Analysis Complete" "bold"
      ++ "\n" ++ verdict ++ "\n"
      ++ "\nFor more information, visit: https://github.com/quantlink/contractquard\n"

/-- The report. -/
def render (output : OutputSettings) (entries : List Entry) : Outcome String := do
  if entries.isEmpty then return nothingFound output
  return Text.joinLines [
    header output entries.length,
    summarySection output (summary entries),
    ← findingsSection output (sorted entries),
    footer output entries]

end ContractLint.Report.Console
