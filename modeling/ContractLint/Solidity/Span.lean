import ContractLint.Location
import ContractLint.Text.Lines

/-! # Spans of syntax nodes

A node of a syntax tree says where it stands by the offset and the length of its text. `Span.ofNode`
turns them into lines and columns, counted from one.
-/

namespace ContractLint.Solidity

/-- The lines and columns of the two ends of a piece of source. -/
structure Span where
  lineStart : Int
  columnStart : Int
  lineEnd : Int
  columnEnd : Int
deriving DecidableEq, Repr

namespace Span

/-- The span of a node that does not say where it stands. -/
def unknown : Span := ⟨1, 1, 1, 1⟩

/-- The position in a text of some length that an offset denotes: negative offsets count from the
end, and no offset goes beyond an end. -/
def clamp (length : Nat) (offset : Int) : Nat :=
  let position := if offset < 0 then offset + length else offset
  min length position.toNat

def slice (cs : List Char) (start stop : Int) : List Char :=
  let first := clamp cs.length start
  let last := clamp cs.length stop
  (cs.take last).drop first

/-- The offset of the last line feed between two offsets. -/
def lastNewline? (cs : List Char) (start stop : Int) : Option Nat :=
  let first := clamp cs.length start
  (Text.findLast? '\n' (slice cs start stop)).map (first + ·)

def ofOffsets (source : List Char) (start length : Int) : Span :=
  let stop := start + length
  let lineStart : Int := (slice source 0 start).count '\n' + 1
  let columnStart : Int :=
    match lastNewline? source 0 start with
    | some newline => start - newline
    | none => start + 1
  let inside := (slice source start stop).count '\n'
  let columnEnd : Int :=
    if inside = 0 then columnStart + length
    else match lastNewline? source start stop with
      | some newline => stop - newline
      | none => stop + 1
  ⟨lineStart, columnStart, lineStart + inside, columnEnd⟩

/-- The span that a written position denotes: an offset and a length, divided by a colon. -/
def ofPosition (source : String) (position : String) : Span :=
  match Text.splitOn position ":" with
  | first :: second :: _ =>
    match Text.parseInt? first, Text.parseInt? second with
    | some start, some length => ofOffsets source.toList start length
    | _, _ => unknown
  | _ => unknown

def ofNode (node : Value) (source : String) : Outcome Span := do
  if ← node.has "src" then
    return ofPosition source (← (← node.field "src").textFor "split")
  else return unknown

/-- The place of a span in a file; an end that equals the start is left out. -/
def location (span : Span) (file : String) : Location :=
  ⟨file, span.lineStart,
    if span.lineEnd = span.lineStart then none else some span.lineEnd,
    some span.columnStart,
    if span.columnEnd = span.columnStart then none else some span.columnEnd⟩

end Span

def nodeLocation (node : Value) (source file : String) : Outcome Location := do
  return (← Span.ofNode node source).location file

end ContractLint.Solidity
