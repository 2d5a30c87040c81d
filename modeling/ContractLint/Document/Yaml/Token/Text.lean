import ContractLint.Document.Yaml.Cursor
import ContractLint.Document.Yaml.Scalar

/-! # Texts of scalars

Scalars between quotes, scalars without quotes, and the block scalars, whose lines are kept or
folded. Each reader gives the characters and the place after them. The number of steps bounds the
recursion; the characters left always suffice.
-/

namespace ContractLint.Document.Yaml.Cursor

abbrev Reading := Except Problem (List Char × Cursor)

/-! ## Scalars between quotes -/

def escapes : List (Char × Nat) := [
  ('0', 0), ('a', 7), ('b', 8), ('t', 9), ('\t', 9), ('n', 10), ('v', 11), ('f', 12), ('r', 13),
  ('e', 27), (' ', 32), ('"', 34), ('\\', 92), ('/', 47), ('N', 0x85), ('_', 0xa0), ('L', 0x2028),
  ('P', 0x2029)]

def codeLengths : List (Char × Nat) := [('x', 2), ('u', 4), ('U', 8)]

def isBlankOrTab (c : Char) : Bool := c = ' ' || c = '\t'

/-- The empty lines after the end of a line inside of quotes. -/
def quotedBreaks (start : Mark) : Nat → Cursor → Reading
  | 0, cursor => pure ([], cursor)
  | steps + 1, cursor => do
    if cursor.atMarker then
      cursor.fail "while scanning a quoted scalar" start "found unexpected document separator"
    let cursor := cursor.skipWhile isBlankOrTab
    match cursor.lineBreak with
    | ([], _) => return ([], cursor)
    | (ending, after) =>
      let (more, cursor) ← quotedBreaks start steps after
      return (ending ++ more, cursor)

/-- A run of blanks and ends of lines inside of quotes: one end of a line counts as a blank, and of
several one is dropped. -/
def quotedSpaces (start : Mark) (cursor : Cursor) : Reading := do
  let blanks := cursor.run isBlankOrTab
  let cursor := cursor.skip blanks.length
  if cursor.rest.isEmpty then
    cursor.fail "while scanning a quoted scalar" start "found unexpected end of stream"
  match cursor.lineBreak with
  | ([], _) => return (blanks, cursor)
  | (ending, after) =>
    let (more, cursor) ← quotedBreaks start (after.rest.length + 1) after
    let first := if ending != ['\n'] then ending else if more.isEmpty then [' '] else []
    return (first ++ more, cursor)

def escape (start : Mark) (cursor : Cursor) : Reading := do
  let context := "while scanning a double-quoted scalar"
  match cursor.peek with
  | none => cursor.fail context start ("found unknown escape character " ++ cursor.shown)
  | some c =>
    match escapes.lookup c, codeLengths.lookup c with
    | some code, _ => return ([Char.ofNat code], cursor.next)
    | none, some length =>
      let cursor := cursor.next
      let digits := (cursor.rest.take length).takeWhile fun d => d != '_' && isDigitOf 16 d
      if digits.length < length then
        let count := Number.digitsText length
        let found := (cursor.skip digits.length).shown
        cursor.fail context start
          s!"expected escape sequence of {count} hexadecimal numbers, but found {found}"
      return ([Char.ofNat (digitsIn 16 digits)], cursor.skip length)
    | none, none =>
      if endsLine c then
        let after := cursor.lineBreak.2
        quotedBreaks start (after.rest.length + 1) after
      else cursor.fail context start ("found unknown escape character " ++ cursor.shown)

/-- A scalar between quotes whose first one has been read. A quote between single quotes is
doubled. -/
def quotedText (double : Bool) (start : Mark) : Nat → Cursor → Reading
  | 0, cursor => cursor.fail "while scanning a quoted scalar" start "found unexpected end of stream"
  | steps + 1, cursor => do
    let join (part : List Char) (cursor : Cursor) : Reading := do
      let (more, cursor) ← quotedText double start steps cursor
      return (part ++ more, cursor)
    match cursor.rest with
    | '\'' :: rest =>
      if double then join ['\''] cursor.next
      else if rest.head? = some '\'' then join ['\''] (cursor.skip 2)
      else return ([], cursor.next)
    | '"' :: _ => if double then return ([], cursor.next) else join ['"'] cursor.next
    | '\\' :: _ =>
      if double then
        let (part, cursor) ← escape start cursor.next
        join part cursor
      else join ['\\'] cursor.next
    | _ =>
      if cursor.separated 0 then
        let (part, cursor) ← quotedSpaces start cursor
        join part cursor
      else join (cursor.rest.take 1) cursor.next

/-! ## Scalars without quotes -/

/-- The empty lines after the end of a line of a plain scalar, unless a marker of documents
follows. -/
def plainBreaks : Nat → Cursor → Option (List Char) × Cursor
  | 0, cursor => (some [], cursor)
  | steps + 1, cursor =>
    if cursor.peek = some ' ' then plainBreaks steps cursor.next
    else
      match cursor.lineBreak with
      | ([], _) => (some [], cursor)
      | (ending, after) =>
        if after.atMarker then (none, after)
        else
          let (more, cursor) := plainBreaks steps after
          (more.map (ending ++ ·), cursor)

/-- The spaces after a word of a plain scalar, whether they end a line, and the place after them;
there are none before a marker of documents. -/
def plainSpaces (cursor : Cursor) : List Char × Bool × Cursor :=
  let blanks := cursor.run (· = ' ')
  let cursor := cursor.skip blanks.length
  match cursor.lineBreak with
  | ([], _) => (blanks, false, cursor)
  | (ending, after) =>
    if after.atMarker then ([], true, after)
    else
      match plainBreaks (after.rest.length + 1) after with
      | (none, cursor) => ([], true, cursor)
      | (some more, cursor) =>
        let first := if ending != ['\n'] then ending else if more.isEmpty then [' '] else []
        (first ++ more, true, cursor)

/-- The characters with a meaning of their own inside of brackets and braces. -/
def flowIndicators : List Char := [',', '[', ']', '\x7b', '\x7d']

def plainWord (inFlow : Bool) : List Char → List Char
  | [] => []
  | c :: rest =>
    let after := rest.head?
    if c = ' ' || c = '\t' || endsLine c
        || (c = ':' && (after.map fun d =>
          d = ' ' || d = '\t' || endsLine d || (inFlow && flowIndicators.contains d)).getD true)
        || (inFlow && (c = '?' || flowIndicators.contains c)) then []
    else c :: plainWord inFlow rest

/-- A scalar without quotes, whether a line has ended since its last word, and the place after
it. Its lines are indented by at least a number of columns. -/
def plainText (inFlow : Bool) (indent : Int) (spaces : List Char) (ended : Bool) :
    Nat → Cursor → List Char × Bool × Cursor
  | 0, cursor => ([], ended, cursor)
  | steps + 1, cursor =>
    let word := if cursor.peek = some '#' then [] else plainWord inFlow cursor.rest
    if word.isEmpty then ([], ended, cursor)
    else
      let (after, broken, cursor) := plainSpaces (cursor.skip word.length)
      if after.isEmpty || cursor.peek = some '#' || (!inFlow && (cursor.column : Int) < indent) then
        (spaces ++ word, broken, cursor)
      else
        let (more, broken, cursor) := plainText inFlow indent after broken steps cursor
        (spaces ++ word ++ more, broken, cursor)

/-! ## Block scalars -/

/-- What becomes of the ends of lines at the end of a block scalar. -/
inductive Chomping where
  /-- One is kept. -/
  | clip
  /-- All are kept. -/
  | keep
  /-- None is kept. -/
  | strip
deriving DecidableEq

def blockContext : String := "while scanning a block scalar"

/-- The chomping at the place, if it is told. -/
def chomping (cursor : Cursor) : Option Chomping × Cursor :=
  match cursor.peek with
  | some '+' => (some .keep, cursor.next)
  | some '-' => (some .strip, cursor.next)
  | _ => (none, cursor)

/-- The indentation at the place, if it is told. -/
def indentation (start : Mark) (cursor : Cursor) : Except Problem (Option Nat × Cursor) :=
  match cursor.peek with
  | some c =>
    if c = '0' then
      cursor.fail blockContext start
        "expected indentation indicator in the range 1-9, but found 0"
    else if c.isDigit then pure (some (c.toNat - 48), cursor.next)
    else pure (none, cursor)
  | none => pure (none, cursor)

/-- The rest of the first line of a block scalar: chomping and indentation in any order, and a
comment. -/
def blockHeader (start : Mark) (cursor : Cursor) : Except Problem (Chomping × Option Nat × Cursor) := do
  let (early, cursor) := cursor.chomping
  let (indent, cursor) ← cursor.indentation start
  let (late, cursor) :=
    if early.isNone && indent.isSome then cursor.chomping else (none, cursor)
  unless cursor.atLineEnd || cursor.peek = some ' ' do
    cursor.fail blockContext start
      ("expected chomping or indentation indicators, but found " ++ cursor.shown)
  let cursor := cursor.skipWhile (· = ' ')
  let cursor :=
    if cursor.peek = some '#' then cursor.skipWhile fun c => !endsLine c else cursor
  unless cursor.atLineEnd do
    cursor.fail blockContext start
      ("expected a comment or a line break, but found " ++ cursor.shown)
  return ((early <|> late).getD .clip, indent, cursor.lineBreak.2)

/-- The ends of lines in front of the first line with content, and the largest indentation up to
there. -/
def leadingBreaks (largest : Nat) : Nat → Cursor → List Char × Nat × Cursor
  | 0, cursor => ([], largest, cursor)
  | steps + 1, cursor =>
    if cursor.peek = some ' ' then
      let cursor := cursor.next
      leadingBreaks (max largest cursor.column) steps cursor
    else
      match cursor.lineBreak with
      | ([], _) => ([], largest, cursor)
      | (ending, after) =>
        let (more, largest, cursor) := leadingBreaks largest steps after
        (ending ++ more, largest, cursor)

def indented (indent : Nat) (cursor : Cursor) : Cursor :=
  cursor.skip (min (indent - cursor.column) (cursor.run (· = ' ')).length)

/-- The empty lines at the place, and the place after the indentation of the line that follows
them. -/
def blockBreaks (indent : Nat) : Nat → Cursor → List Char × Cursor
  | 0, cursor => ([], cursor)
  | steps + 1, cursor =>
    let cursor := cursor.indented indent
    match cursor.lineBreak with
    | ([], _) => ([], cursor)
    | (ending, after) =>
      let (more, cursor) := blockBreaks indent steps after
      (ending ++ more, cursor)

/-- The lines of a block scalar, the end of the last one, and the empty lines after it. A folded
end of a line counts as a blank, unless a line next to it is indented further. -/
def blockLines (folded : Bool) (indent : Nat) (breaks : List Char) :
    Nat → Cursor → List Char × List Char × List Char × Cursor
  | 0, cursor => ([], [], breaks, cursor)
  | steps + 1, cursor =>
    if cursor.column != indent || cursor.rest.isEmpty then ([], [], breaks, cursor)
    else
      let flush := !((cursor.peek.map isBlankOrTab).getD false)
      let line := cursor.run fun c => !endsLine c
      let (ending, cursor) := (cursor.skip line.length).lineBreak
      let (after, cursor) := blockBreaks indent (cursor.rest.length + 1) cursor
      if cursor.column = indent && !cursor.rest.isEmpty then
        let joint :=
          if folded && ending = ['\n'] && flush && !((cursor.peek.map isBlankOrTab).getD false) then
            if after.isEmpty then [' '] else []
          else ending
        let (more, last, final, cursor) := blockLines folded indent after steps cursor
        (breaks ++ line ++ joint ++ more, last, final, cursor)
      else (breaks ++ line, ending, after, cursor)

/-- A block scalar whose indicator has been read, inside of an indentation. -/
def blockText (folded : Bool) (outer : Int) (start : Mark) (cursor : Cursor) : Reading := do
  let (chomping, told, cursor) ← cursor.blockHeader start
  let least := max 1 (outer + 1).toNat
  let steps := cursor.rest.length + 1
  let (breaks, indent, cursor) :=
    match told with
    | none =>
      let (breaks, largest, cursor) := leadingBreaks 0 steps cursor
      (breaks, max least largest, cursor)
    | some told =>
      let indent := least + told - 1
      let (breaks, cursor) := blockBreaks indent steps cursor
      (breaks, indent, cursor)
  let (text, ending, final, cursor) := blockLines folded indent breaks steps cursor
  let text := if chomping = .strip then text else text ++ ending
  return (if chomping = .keep then text ++ final else text, cursor)

end ContractLint.Document.Yaml.Cursor
