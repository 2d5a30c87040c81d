import ContractLint.Config
import ContractLint.Finding
import ContractLint.Text.Lines

/-! # What reports have in common

Reports are about findings whose places are known. They count findings, put them in order, and show
the lines concerned up to a limit.
-/

namespace ContractLint.Report

structure Entry where
  finding : Finding
  place : Location

/-- The entry of a finding, which must have a place. -/
def entryOf (f : Finding) : Outcome Entry :=
  match f.location with
  | some place => pure ⟨f, place⟩
  | none => throw (.noMember "NoneType" "file_path")

instance : OfValue Entry := ⟨fun v => do entryOf (← v.read)⟩

/-! ## Counting -/

def bump (counts : List (String × Nat)) (name : String) : List (String × Nat) :=
  match counts with
  | [] => [(name, 1)]
  | (other, count) :: rest =>
    if other = name then (name, count + 1) :: rest else (other, count) :: bump rest name

/-- How often each name occurs, in the order in which they first occur. -/
def counts (names : List String) : List (String × Nat) := names.foldl bump []

/-- What a report says about all findings together. -/
structure Summary where
  total : Nat
  severities : List (Severity × Nat)
  kinds : List (String × Nat)
  detectors : List (String × Nat)
  files : List (String × Nat)

def summary (entries : List Entry) : Summary where
  total := entries.length
  severities := Severity.all.map fun severity =>
    (severity, (entries.filter fun e => e.finding.severity = severity).length)
  kinds := counts (entries.map fun e => e.finding.kind)
  detectors := counts (entries.map fun e => e.finding.detector)
  files := counts (entries.map fun e => e.place.file)

namespace Summary

/-- The severities that occur, with their numbers, the gravest first. -/
def present (s : Summary) : List (Severity × Nat) := s.severities.filter fun (_, n) => 0 < n

def countsValue (list : List (String × Nat)) : Value :=
  .object (list.map fun (name, count) => (name, .of count))

/-- The document of a summary, without the time of the report. -/
def toFields (s : Summary) : List (String × Value) := [
  ("total_findings", .of s.total),
  ("severity_breakdown", countsValue (s.severities.map fun (severity, n) => (severity.name, n))),
  ("vulnerability_type_breakdown", countsValue s.kinds),
  ("detector_breakdown", countsValue s.detectors),
  ("file_breakdown", countsValue s.files),
  ("files_with_issues", .of s.files.length)]

end Summary

/-! ## Order -/

/-- The order of entries: the gravest first, then by file and line. -/
def inOrder (a b : Entry) : Bool :=
  let x := a.finding.severity.rank
  let y := b.finding.severity.rank
  x < y || (x = y && (decide (a.place.file < b.place.file)
    || (a.place.file = b.place.file && a.place.lineStart ≤ b.place.lineStart)))

def sorted (entries : List Entry) : List Entry := entries.mergeSort inOrder

/-! ## Parts of a report -/

def placeText (e : Entry) : String := e.place.text

def tag (severity : Severity) : String := "[" ++ severity.name ++ "]"

/-- The first lines up to a limit; a negative limit counts from the end. -/
def firstLines (limit : Int) (lines : List String) : List String :=
  lines.take (if limit < 0 then limit + lines.length else limit).toNat

/-- A snippet up to a limit of lines, which is an integer. -/
def truncatedTo (limit : Int) (snippet : String) : String :=
  let lines := Text.splitNewlines snippet
  if snippet = "" ∨ (lines.length : Int) ≤ limit then snippet
  else
    let rest := Number.intText (lines.length - limit)
    Text.joinLines (firstLines limit lines ++ ["... (" ++ rest ++ " more lines)"])

def truncated (output : OutputSettings) (snippet : String) : Outcome String :=
  if snippet = "" then pure ""
  else match output.maxSnippetLines with
    | .int limit => pure (truncatedTo limit snippet)
    | .bool limit => pure (truncatedTo (if limit then 1 else 0) snippet)
    | .real limit =>
      if Number.lessThanInt limit (Text.splitNewlines snippet).length then
        throw (.mistyped "slice indices must be integers or None or have an __index__ method")
      else pure snippet
    | other => throw (.notOrdered "<=" "int" other.kindName)

/-- With a limit that is an integer, every snippet can be shown. -/
theorem truncated_of_int {output : OutputSettings} {limit : Int} (lines : output.maxSnippetLines = .int limit)
    (snippet : String) : truncated output snippet = .ok (truncatedTo limit snippet) := by
  rw [truncated, lines]
  split
  next blank =>
    rw [truncatedTo, if_pos (.inl blank), blank]
    rfl
  next => rfl

/-- The snippet that a report shows, if it shows one: blank snippets are left out. -/
def shownSnippet (output : OutputSettings) (f : Finding) : Option String :=
  match f.snippet with
  | some snippet =>
    if output.includeSnippets.truthy && Text.strip snippet != "" then some snippet else none
  | none => none

def whenSome {α : Type} (item : Option α) (part : α → String) : String := (item.map part).getD ""

def recommendation (f : Finding) : Option String := f.recommendation.filter (· != "")

def references (f : Finding) : Outcome (List String) := do
  if f.references.truthy then return (← f.references.elements).map Value.display else return []

def numbered (entries : List Entry) : List (Nat × Entry) :=
  (List.range entries.length).zip entries |>.map fun (i, e) => (i + 1, e)

/-- The parts of entries in order, with a heading before each entry that is in another file than
the one before. -/
def byFile (heading : String → String) (part : Nat → Entry → Outcome String)
    (file : Option String) : List (Nat × Entry) → Outcome String
  | [] => pure ""
  | (i, e) :: rest => do
    let start := if file = some e.place.file then "" else heading e.place.file
    let text ← part i e
    return start ++ text ++ "\n" ++ (← byFile heading part (some e.place.file) rest)

end ContractLint.Report
