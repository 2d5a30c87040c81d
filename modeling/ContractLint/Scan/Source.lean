import ContractLint.Pattern.Match
import ContractLint.Pattern.Parser
import ContractLint.Scan.Finding

/-! # Scanning the lines of a file

The built-in detectors look at the lines of a file one by one, with the lines around them. A
detector is a function from a file to findings, so that it depends on nothing but the text.
-/

namespace ContractLint.Scan

structure Issue where
  detector : String
  severity : Severity
  title : String
  description : String
  recommendation : String
  /-- The number in the catalogue of weaknesses. -/
  cwe : Option Nat := none
  references : List String := []
  category : String := "Security"

/-- A file and its lines. -/
structure Source where
  content : String
  lines : List String

namespace Source

def ofContent (content : String) : Source := ⟨content, Text.lines content⟩

/-- The lines, numbered from one. -/
def numbered (source : Source) : List (Nat × String) := Excerpt.numbered source.lines

/-- The lines after the first `first` lines and up to the line `last`. -/
def between (source : Source) (first last : Nat) : List String :=
  (source.lines.take last).drop first

end Source

def Issue.on (issue : Issue) (source : Source) (line : Nat) : Finding where
  detector := .text issue.detector
  severity := issue.severity
  title := .text issue.title
  description := .text issue.description
  line := .int line
  snippet := .text (snippet source.content line 2)
  recommendation := .text issue.recommendation
  cwe := match issue.cwe with | some n => .int n | none => .null
  references := .ofTexts issue.references
  category := .text issue.category

/-- A pattern in which capital and small letters differ. -/
def exactly (written : String) : Pattern := Pattern.ofText .plain written

/-- A pattern in which capital and small letters are the same. -/
def anyCase (written : String) : Pattern := Pattern.ofText .anyCase written

def Issue.onLines (issue : Issue) (source : Source) (test : Nat → String → Bool) : List Finding :=
  (source.numbered.filter fun (number, line) => test number line).map fun (number, _) =>
    issue.on source number

/-- The lines of a block: up to the one where as many braces are closed as were opened. -/
def blockFrom (depth : Int) : List String → List String
  | [] => []
  | line :: rest =>
    let depth := depth + Text.countChar '\x7b' line - Text.countChar '\x7d' line
    if depth ≤ 0 then [line] else line :: blockFrom depth rest

def firstBlock : List String → List String
  | [] => []
  | line :: rest =>
    if Text.countChar '\x7b' line = 0 then firstBlock rest else blockFrom 0 (line :: rest)

/-- The lines from a position on; a negative position counts from the end, and the reading then
goes on from the first line. -/
def linesFrom (lines : List String) (start : Int) : Outcome (List String) :=
  if 0 ≤ start then pure (lines.drop start.toNat)
  else if lines.length < start.natAbs then throw .outOfRange
  else pure (lines.drop (lines.length - start.natAbs) ++ lines)

def blockText (lines : List String) (start : Int) : Outcome String := do
  return Text.joinLines (firstBlock (← linesFrom lines start))

/-- The text of the first block that is opened after a line of a file. -/
def Source.blockAfter (source : Source) (line : Nat) : String :=
  Text.joinLines (firstBlock (source.lines.drop line))

end ContractLint.Scan
