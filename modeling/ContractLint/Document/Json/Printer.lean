import ContractLint.Document.Value

/-! # Writing JSON

Documents as JSON text, on one line with non-ASCII characters written by their code, or over
several lines with an indentation of two and characters as they are.
-/

namespace ContractLint.Document.Json

def unitEscape (n : Nat) : String := "\\u" ++ Text.hexText 4 n

def commonEscape? (c : Char) : Option String :=
  if c = '"' then some "\\\""
  else if c = '\\' then some "\\\\"
  else if c = '\n' then some "\\n"
  else if c = '\r' then some "\\r"
  else if c = '\t' then some "\\t"
  else if c.toNat = 8 then some "\\b"
  else if c.toNat = 12 then some "\\f"
  else if c.toNat < 32 then some (unitEscape c.toNat)
  else none

/-- A character in ASCII, one beyond the basic plane as two units. -/
def asciiChar (c : Char) : String :=
  match commonEscape? c with
  | some escape => escape
  | none =>
    let n := c.toNat
    if n < 127 then String.ofList [c]
    else if n < 0x10000 then unitEscape n
    else unitEscape (0xd800 + (n - 0x10000) / 0x400) ++ unitEscape (0xdc00 + (n - 0x10000) % 0x400)

/-- A character as it is, unless JSON forbids that. -/
def plainChar (c : Char) : String := (commonEscape? c).getD (String.ofList [c])

def quotedWith (write : Char → String) (s : String) : String :=
  "\"" ++ s.toList.foldl (fun acc c => acc ++ write c) "" ++ "\""

/-- The text of a double, with the words that JSON readers commonly take for the others. -/
def realText (x : Float) : String :=
  match Number.decode x with
  | some _ => Number.floatText x
  | none => if x < 0 then "-Infinity" else if x > 0 then "Infinity" else "NaN"

mutual

/-- The document on one line, items separated by a comma and a blank, in ASCII. -/
def line : Value → String
  | .null => "null"
  | .bool flag => if flag then "true" else "false"
  | .int n => Number.intText n
  | .real x => realText x
  | .text s => quotedWith asciiChar s
  | .list items => "[" ++ String.intercalate ", " (lineItems items) ++ "]"
  | .object fields => "\x7b" ++ String.intercalate ", " (lineFields fields) ++ "\x7d"
termination_by structural v => v

def lineItems : List Value → List String
  | [] => []
  | v :: rest => line v :: lineItems rest
termination_by structural items => items

/-- The fields of an object, each on its own. -/
def lineFields : List (String × Value) → List String
  | [] => []
  | (key, v) :: rest => (quotedWith asciiChar key ++ ": " ++ line v) :: lineFields rest
termination_by structural fields => fields

end

def breakTo (depth : Nat) : String := "\n" ++ String.ofList (List.replicate (2 * depth) ' ')

mutual

/-- The document over several lines, at a depth. -/
def pretty (depth : Nat) : Value → String
  | .null => "null"
  | .bool flag => if flag then "true" else "false"
  | .int n => Number.intText n
  | .real x => realText x
  | .text s => quotedWith plainChar s
  | .list items =>
    if items.isEmpty then "[]"
    else "[" ++ breakTo (depth + 1)
      ++ String.intercalate ("," ++ breakTo (depth + 1)) (prettyItems (depth + 1) items)
      ++ breakTo depth ++ "]"
  | .object fields =>
    if fields.isEmpty then "\x7b\x7d"
    else "\x7b" ++ breakTo (depth + 1)
      ++ String.intercalate ("," ++ breakTo (depth + 1)) (prettyFields (depth + 1) fields)
      ++ breakTo depth ++ "\x7d"
termination_by structural v => v

def prettyItems (depth : Nat) : List Value → List String
  | [] => []
  | v :: rest => pretty depth v :: prettyItems depth rest
termination_by structural items => items

def prettyFields (depth : Nat) : List (String × Value) → List String
  | [] => []
  | (key, v) :: rest =>
    (quotedWith plainChar key ++ ": " ++ pretty depth v) :: prettyFields depth rest
termination_by structural fields => fields

end

/-- The document over several lines. -/
def indented (v : Value) : String := pretty 0 v

end ContractLint.Document.Json
