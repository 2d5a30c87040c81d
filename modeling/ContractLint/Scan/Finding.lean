import ContractLint.Excerpt
import ContractLint.Severity

/-! # Findings of a scan

What a scan of an uploaded file reports. Parts that may come from an outside service keep the value
that the service gave them.
-/

namespace ContractLint.Scan

/-- A weakness found in an uploaded file. -/
structure Finding where
  detector : Value
  severity : Severity
  title : Value
  description : Value
  line : Value
  column : Value := .int 0
  snippet : Value := .text ""
  recommendation : Value := .text ""
  confidence : Value := .text "HIGH"
  /-- How far it reaches. -/
  impact : Value := .text "MEDIUM"
  /-- The number in the catalogue of weaknesses, or null. -/
  cwe : Value := .null
  references : Value := .list []
  category : Value := .text "Security"
deriving BEq, Inhabited

namespace Finding

def toValue (f : Finding) : Value :=
  .object [
    ("detector", f.detector),
    ("severity", .text f.severity.name),
    ("title", f.title),
    ("description", f.description),
    ("line_number", f.line),
    ("column", f.column),
    ("code_snippet", f.snippet),
    ("recommendation", f.recommendation),
    ("confidence", f.confidence),
    ("impact", f.impact),
    ("cwe_id", f.cwe),
    ("references", f.references),
    ("category", f.category)]

def partNames : List String := [
  "detector", "severity", "title", "description", "line_number", "column", "code_snippet",
  "recommendation", "confidence", "impact", "cwe_id", "references", "category"]

/-- The parts that every finding has. -/
def requiredNames : List String := ["detector", "severity", "title", "description", "line_number"]

/-- The finding made from named parts: none may be unknown, and none of the required ones may be
missing. -/
def ofParts (parts : List (String × Value)) : Outcome Finding := do
  let severity ← Severity.ofValue (← (Value.object parts).field "severity")
  match parts.find? fun part => !partNames.contains part.1 with
  | some (name, _) => throw (.unknownPart "AnalysisFinding" name)
  | none =>
    let missing := requiredNames.filter fun name => (parts.lookup name).isNone
    if !missing.isEmpty then throw (.missingParts "AnalysisFinding" missing)
    let part (name : String) (default : Value) : Value := (parts.lookup name).getD default
    return {
      detector := part "detector" .null
      severity
      title := part "title" .null
      description := part "description" .null
      line := part "line_number" .null
      column := part "column" (.int 0)
      snippet := part "code_snippet" (.text "")
      recommendation := part "recommendation" (.text "")
      confidence := part "confidence" (.text "HIGH")
      impact := part "impact" (.text "MEDIUM")
      cwe := part "cwe_id" .null
      references := match part "references" .null with
        | .null => .list []
        | v => v
      category := part "category" (.text "Security") }

end Finding

instance : ToValue Finding := ⟨Finding.toValue⟩

def riskWeight : Severity → Nat
  | .critical => 25
  | .high => 15
  | .medium => 8
  | .low => 3
  | .info => 1

/-- The risk of some findings, from zero to one hundred. -/
def riskScore (findings : List Finding) : Nat :=
  min (findings.map fun f => riskWeight f.severity).sum 100

/-- How many findings there are of each severity. -/
structure Tally where
  critical : Nat := 0
  high : Nat := 0
  medium : Nat := 0
  low : Nat := 0
  info : Nat := 0
deriving DecidableEq

namespace Tally

def add (tally : Tally) : Severity → Tally
  | .critical => { tally with critical := tally.critical + 1 }
  | .high => { tally with high := tally.high + 1 }
  | .medium => { tally with medium := tally.medium + 1 }
  | .low => { tally with low := tally.low + 1 }
  | .info => { tally with info := tally.info + 1 }

/-- The numbers by name. -/
def parts (tally : Tally) : List (String × Value) := [
  ("critical_count", .int tally.critical),
  ("high_count", .int tally.high),
  ("medium_count", .int tally.medium),
  ("low_count", .int tally.low),
  ("info_count", .int tally.info)]

end Tally

def tally (findings : List Finding) : Tally :=
  findings.foldl (fun tally f => tally.add f.severity) {}

def severityCounts (findings : List Finding) : Value := .object (tally findings).parts

/-- The lines around a line, which is marked; nothing for an empty file or a line before the
first. -/
def snippet (content : String) (line context : Int) : String :=
  let lines := Text.lines content
  if lines.isEmpty ∨ line < 1 then "" else
    -- Positions count from zero, and the range is cut off at both ends of the file.
    let target := line - 1
    let start := max 0 (target - context)
    let stop := min (lines.length : Int) (target + context + 1)
    Text.joinLines (((lines.zipIdx.take stop.toNat).drop start.toNat).map fun (text, position) =>
      Excerpt.row (decide ((position : Int) = target)) (position + 1) text)

end ContractLint.Scan
