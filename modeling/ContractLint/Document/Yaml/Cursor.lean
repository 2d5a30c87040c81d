import ContractLint.Fault

/-! # Places in a YAML text

A cursor is a place in a text together with what follows it. A problem of the text tells the place
where it was met and the place where the unfinished part starts.
-/

namespace ContractLint.Document.Yaml

def endsLine (c : Char) : Bool :=
  c = '\n' || c = '\r' || c.toNat = 0x85 || c.toNat = 0x2028 || c.toNat = 0x2029

/-- A line and a column, both from zero. -/
structure Mark where
  /-- The number of lines before it. -/
  line : Nat
  /-- The number of characters before it on its line. -/
  column : Nat
deriving DecidableEq, Inhabited

/-- The wording of a place in a named file. -/
def Mark.message (name : String) (mark : Mark) : String :=
  let line := Number.digitsText (mark.line + 1)
  let column := Number.digitsText (mark.column + 1)
  s!"  in \"{name}\", line {line}, column {column}"

/-- What is wrong with a text. -/
structure Problem where
  level : FormatLevel
  /-- What was being read. -/
  context : Option String
  start : Option Mark
  text : String
  mark : Mark

namespace Problem

/-- The wording of a problem; a part that starts where the problem is met has its place told
once. -/
def message (name : String) (problem : Problem) : String :=
  let start := problem.start.filter (· != problem.mark)
  "\n".intercalate (problem.context.toList ++ start.toList.map (Mark.message name)
    ++ [problem.text, problem.mark.message name])

def fault (name : String) (problem : Problem) : Fault :=
  .malformed problem.level (problem.message name)

end Problem

/-- A place in a text and what follows it. -/
structure Cursor extends Mark where
  /-- The number of characters before it. -/
  index : Nat
  rest : List Char

namespace Cursor

def start (cs : List Char) : Cursor := ⟨⟨0, 0⟩, 0, cs⟩

def peek (cursor : Cursor) : Option Char := cursor.rest.head?

def peekAt (cursor : Cursor) (count : Nat) : Option Char := (cursor.rest.drop count).head?

/-- The place after the next character. A line feed after a carriage return ends the line, not the
carriage return before it, and a byte order mark takes no column. -/
def next (cursor : Cursor) : Cursor :=
  match cursor.rest with
  | [] => cursor
  | c :: rest =>
    let index := cursor.index + 1
    if endsLine c && !(c = '\r' && rest.head? = some '\n') then ⟨⟨cursor.line + 1, 0⟩, index, rest⟩
    else if c.toNat = 0xfeff then { cursor with index, rest }
    else { cursor with index, rest, column := cursor.column + 1 }

/-- The place after some characters. -/
def skip (cursor : Cursor) (count : Nat) : Cursor := Nat.repeat next count cursor

def run (cursor : Cursor) (p : Char → Bool) : List Char := cursor.rest.takeWhile p

def skipWhile (cursor : Cursor) (p : Char → Bool) : Cursor := cursor.skip (cursor.run p).length

def atLineEnd (cursor : Cursor) : Bool := (cursor.peek.map endsLine).getD true

/-- A character that separates, or the end of the text, stands some places further on. -/
def separated (cursor : Cursor) (count : Nat) : Bool :=
  ((cursor.peekAt count).map fun c => c = ' ' || c = '\t' || endsLine c).getD true

/-- The end of a line as it counts in a scalar, and the place after it. -/
def lineBreak (cursor : Cursor) : List Char × Cursor :=
  match cursor.rest with
  | '\r' :: '\n' :: _ => (['\n'], cursor.skip 2)
  | c :: _ =>
    if c.toNat = 0x2028 || c.toNat = 0x2029 then ([c], cursor.next)
    else if endsLine c then (['\n'], cursor.next)
    else ([], cursor)
  | [] => ([], cursor)

/-- A line that starts or ends a document begins here. -/
def atMarker (cursor : Cursor) : Bool :=
  (["---".toList, "...".toList].any (·.isPrefixOf cursor.rest)) && cursor.separated 3

def shown (cursor : Cursor) : String :=
  (Value.text (String.singleton (cursor.peek.getD (Char.ofNat 0)))).literal

def fail {α : Type} (cursor : Cursor) (context : String) (start : Mark) (text : String) : Except Problem α :=
  throw ⟨.tokens, some context, some start, text, cursor.toMark⟩

end Cursor

end ContractLint.Document.Yaml
