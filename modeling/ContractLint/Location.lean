import ContractLint.Document.Codec

/-! # Places in source files -/

namespace ContractLint

/-- A range of lines of a file, with columns where they are known. -/
structure Location where
  file : String
  /-- The first line, from one. -/
  lineStart : Int
  lineEnd : Option Int
  columnStart : Option Int
  columnEnd : Option Int
deriving DecidableEq, Repr, Inhabited

namespace Location

def line (file : String) (number : Int) : Location := ⟨file, number, none, none, none⟩

/-- The written form: the path and the first line, and the last line if it is another one. A last
line of zero counts as unknown. -/
def text (place : Location) : String :=
  let start := place.file ++ ":" ++ Number.intText place.lineStart
  match place.lineEnd with
  | some last =>
    if last ≠ 0 ∧ last ≠ place.lineStart then start ++ "-" ++ Number.intText last else start
  | none => start

/-- The written form of a place that may be missing. -/
def text? : Option Location → String
  | some place => place.text
  | none => "None"

def toValue (place : Location) : Value :=
  .object [
    ("file_path", .text place.file),
    ("line_start", .int place.lineStart),
    ("line_end", .ofInt? place.lineEnd),
    ("column_start", .ofInt? place.columnStart),
    ("column_end", .ofInt? place.columnEnd)]

end Location

instance : ToValue Location := ⟨Location.toValue⟩

end ContractLint
