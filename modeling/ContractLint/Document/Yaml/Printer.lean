import ContractLint.Document.Yaml.Scalar

/-! # Writing YAML

Documents as block mappings and sequences with fields in ascending order. A text is written without
quotes if that reads back as the same text, else between single quotes, else between double quotes.
Texts are broken at blanks beyond the eightieth column.
-/

namespace ContractLint.Document.Yaml

/-- The column after which texts are broken. -/
def width : Nat := 80

def isBreak (c : Char) : Bool :=
  c = '\n' || c.toNat = 0x85 || c.toNat = 0x2028 || c.toNat = 0x2029

def isSpacing (c : Char) : Bool := c.toNat = 0 || c = ' ' || c = '\t' || c = '\r' || isBreak c

/-- Characters that can only be written as escapes. -/
def isSpecial (c : Char) : Bool := !(c = '\n' || (' ' ≤ c && c ≤ '~'))

/-- A character that, in the place between its neighbours, has a meaning of its own in a block. -/
def isIndicator (before : Option Char) (c : Char) (after : Option Char) : Bool :=
  let followed := (after.map isSpacing).getD true
  match before with
  | none =>
    "#,[]\x7b\x7d&*!|>'\"%@`".toList.contains c || (c = '?' && followed) || (c = ':' && followed)
      || (c = '-' && followed)
  | some b => (c = ':' && followed) || (c = '#' && isSpacing b)

def hasIndicator (before : Option Char) : List Char → Bool
  | [] => false
  | c :: rest => isIndicator before c rest.head? || hasIndicator (some c) rest

def hasPair (first second : Char → Bool) : List Char → Bool
  | c :: d :: rest => (first c && second d) || hasPair first second (d :: rest)
  | _ => false

/-- The text can be written without quotes. -/
def allowsPlain (s : String) : Bool :=
  let cs := s.toList
  let isEdge (c : Option Char) : Bool := (c.map fun c => c = ' ' || isBreak c).getD true
  !(isEdge cs.head? || isEdge cs.getLast? || cs.any isBreak || cs.any isSpecial
    || Text.startsWith s "---" || Text.startsWith s "..." || hasIndicator none cs)
    && (match resolve s with | .text _ => true | _ => false)

/-- The text can be written between single quotes. -/
def allowsSingle (s : String) : Bool :=
  let cs := s.toList
  !(cs.any isSpecial || hasPair (· = ' ') isBreak cs || hasPair isBreak (· = ' ') cs)

/-- Neighbouring characters that agree on being blank, being a line feed, or neither. -/
def runs (cs : List Char) : List (List Char) :=
  cs.splitBy fun a b => (a = ' ') == (b = ' ') && (a = '\n') == (b = '\n')

def newline (indent : Nat) : String := "\n" ++ Text.repeated " " indent

/-- Runs written from a column on; a single blank beyond the width becomes a line break, unless it
is the first run or the last and `edges` are kept. -/
def writeRuns (edges : Bool) (indent column : Nat) (isFirst : Bool) : List (List Char) → String
  | [] => ""
  | run :: rest =>
    let keep := edges && (isFirst || rest.isEmpty)
    if run.head? = some '\n' then
      Text.repeated "\n" (run.length + 1) ++ Text.repeated " " indent
        ++ writeRuns edges indent indent false rest
    else if run = [' '] && width < column && !keep then
      newline indent ++ writeRuns edges indent indent false rest
    else String.ofList run ++ writeRuns edges indent (column + run.length) false rest

/-- A text between single quotes, in which a quote is doubled. -/
def singleQuoted (indent column : Nat) (s : String) : String :=
  let body := (runs s.toList).map fun run => (Text.replace (String.ofList run) "'" "''").toList
  "'" ++ writeRuns true indent (column + 1) true body ++ "'"

def escape (c : Char) : String :=
  let n := c.toNat
  let letters := [(0, "0"), (7, "a"), (8, "b"), (9, "t"), (10, "n"), (11, "v"), (12, "f"),
    (13, "r"), (27, "e"), (34, "\""), (92, "\\"), (0x85, "N"), (0xa0, "_"), (0x2028, "L"),
    (0x2029, "P")]
  let code (mark : String) (digits : Nat) : String :=
    mark ++ String.ofList ((Text.hexText digits n).toList.map Char.toUpper)
  "\\" ++ (match letters.lookup n with
    | some letter => letter
    | none =>
      if n ≤ 0xff then code "x" 2 else if n ≤ 0xffff then code "u" 4 else code "U" 8)

/-- The characters of a text between double quotes; `held` are those not yet written, last first,
and `size` is the number of all characters. -/
def doubleBody (indent size index : Nat) (held : List Char) (column : Nat) : List Char → String
  | [] => String.ofList held.reverse
  | c :: rest =>
    let inside := 0 < index && index + 1 < size
    if c = '"' || c = '\\' || c = '\n' || isSpecial c then
      let text := String.ofList held.reverse ++ escape c
      let reached := column + text.length
      if inside && width + 1 < reached then
        let mark := if rest.head? = some ' ' then "\\" else ""
        text ++ "\\" ++ newline indent ++ mark
          ++ doubleBody indent size (index + 1) [] (indent + mark.length) rest
      else text ++ doubleBody indent size (index + 1) [] reached rest
    else if inside && (c = ' ' || held.isEmpty) && width < column + held.length then
      let mark := if c = ' ' then "\\" else ""
      String.ofList held.reverse ++ "\\" ++ newline indent ++ mark
        ++ doubleBody indent size (index + 1) [c] (indent + mark.length) rest
    else doubleBody indent size (index + 1) (c :: held) column rest

def doubleQuoted (indent column : Nat) (s : String) : String :=
  "\"" ++ doubleBody indent s.length 0 [] (column + 1) s.toList ++ "\""

/-- A text that starts at a column; its further lines have an indentation. -/
def textFrom (indent column : Nat) (s : String) : String :=
  if allowsPlain s then writeRuns false indent column true (runs s.toList)
  else if allowsSingle s then singleQuoted indent column s
  else doubleQuoted indent column s

/-- A key, which is never broken. -/
def keyText (s : String) : String :=
  if allowsPlain s && s != "" then s
  else if allowsSingle s && !s.toList.any isBreak then "'" ++ Text.replace s "'" "''" ++ "'"
  else "\"" ++ String.join (s.toList.map fun c =>
    if c = '"' || c = '\\' || c = '\n' || isSpecial c then escape c
    else String.ofList [c]) ++ "\""

def realText (x : Float) : String :=
  match Number.decode x with
  | none => if x < 0 then "-.inf" else if x > 0 then ".inf" else ".nan"
  | some _ =>
    let s := Number.floatText x
    if s.toList.contains '.' || !s.toList.contains 'e' then s else Text.replace s "e" ".0e"

/-- The lines of fields in ascending order of their names, after an indentation. -/
def arranged (indent : Nat) (lines : List (String × String)) : String :=
  String.join ((lines.mergeSort fun a b => decide (a.1 ≤ b.1)).map fun (_, line) =>
    Text.repeated " " indent ++ line)

mutual

/-- A value after a key whose mapping has an indentation; the key ends at a column. -/
def afterKey (indent column : Nat) : Value → String
  | .null => " null\n"
  | .bool flag => if flag then " true\n" else " false\n"
  | .int n => " " ++ Number.intText n ++ "\n"
  | .real x => " " ++ realText x ++ "\n"
  | .text s => " " ++ textFrom (indent + 2) (column + 1) s ++ "\n"
  | .list items => if items.isEmpty then " []\n" else "\n" ++ String.join (itemLines indent items)
  | .object fields =>
    if fields.isEmpty then " \x7b\x7d\n"
    else "\n" ++ arranged (indent + 2) (fieldLines (indent + 2) fields)
termination_by structural v => v

def itemLines (indent : Nat) : List Value → List String
  | [] => []
  | v :: rest => (Text.repeated " " indent ++ "-" ++ afterDash indent v) :: itemLines indent rest
termination_by structural items => items

def afterDash (indent : Nat) : Value → String
  | .null => " null\n"
  | .bool flag => if flag then " true\n" else " false\n"
  | .int n => " " ++ Number.intText n ++ "\n"
  | .real x => " " ++ realText x ++ "\n"
  | .text s => " " ++ textFrom (indent + 2) (indent + 2) s ++ "\n"
  | .list items =>
    if items.isEmpty then " []\n"
    else
      let lines := String.join (itemLines (indent + 2) items)
      " " ++ String.ofList (lines.toList.drop (indent + 2))
  | .object fields =>
    if fields.isEmpty then " \x7b\x7d\n"
    else
      let lines := arranged (indent + 2) (fieldLines (indent + 2) fields)
      " " ++ String.ofList (lines.toList.drop (indent + 2))
termination_by structural v => v

/-- The fields of a mapping with their lines, which still lack their indentation. -/
def fieldLines (indent : Nat) : List (String × Value) → List (String × String)
  | [] => []
  | (key, v) :: rest =>
    let name := keyText key
    (key, name ++ ":" ++ afterKey indent (indent + name.length + 1) v) :: fieldLines indent rest
termination_by structural fields => fields

end

/-- The text of a mapping. -/
def print (fields : List (String × Value)) : String :=
  if fields.isEmpty then "\x7b\x7d\n"
  else arranged 0 (fieldLines 0 fields)

end ContractLint.Document.Yaml
