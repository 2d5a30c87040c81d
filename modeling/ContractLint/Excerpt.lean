import ContractLint.Number.Shortest
import ContractLint.Text.Lines

/-! # Excerpts of source files

Some consecutive lines of a file with their numbers, of which those concerned are marked.
-/

namespace ContractLint

/-- A text filled up with blanks in front. -/
def Text.padLeft (width : Nat) (s : String) : String :=
  String.ofList (List.replicate (width - s.length) ' ') ++ s

namespace Excerpt

/-- A line of an excerpt: a mark, the number and the text. -/
def row (marked : Bool) (number : Nat) (line : String) : String :=
  (if marked then ">>> " else "    ") ++ Text.padLeft 3 (Number.digitsText number) ++ ": " ++ line

def numbered (lines : List String) : List (Nat × String) :=
  lines.zipIdx.map fun (line, index) => (index + 1, line)

/-- The numbered lines from `context` lines before the first to `context` lines after the last. -/
def around (lines : List String) (first last context : Int) : List (Nat × String) :=
  (numbered lines).filter fun (number, _) =>
    decide (first - context ≤ (number : Int) ∧ (number : Int) ≤ last + context)

/-- The lines from `first` to `last`, which are marked, with `context` lines around them. -/
def ofLines (lines : List String) (first last context : Int) : String :=
  Text.joinLines ((around lines first last context).map fun (number, line) =>
    row (decide (first ≤ (number : Int) ∧ (number : Int) ≤ last)) number line)

end Excerpt

end ContractLint
