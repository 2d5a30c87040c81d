import ContractLint.Document.Value

/-! # Reading JSON

A reader of JSON texts. Numbers with a point or an exponent become doubles and all others exact
integers; of two fields of one name the later value stays, at the place of the earlier. The words
for infinities and for what is no number are accepted. Each function gets a supply of steps that
the length of the text bounds.
-/

namespace ContractLint.Document.Json

/-- Drops the blanks that JSON allows between tokens. -/
def skipBlanks : List Char → List Char
  | [] => []
  | c :: rest => if c = ' ' ∨ c = '\t' ∨ c = '\n' ∨ c = '\r' then skipBlanks rest else c :: rest

def hexValue? (c : Char) : Option Nat :=
  if '0' ≤ c ∧ c ≤ '9' then some (c.toNat - 48)
  else if 'a' ≤ c ∧ c ≤ 'f' then some (c.toNat - 87)
  else if 'A' ≤ c ∧ c ≤ 'F' then some (c.toNat - 55)
  else none

/-- Four hexadecimal digits. -/
def hex4? : List Char → Option (Nat × List Char)
  | a :: b :: c :: d :: rest => do
    let a ← hexValue? a
    let b ← hexValue? b
    let c ← hexValue? c
    let d ← hexValue? d
    some (((a * 16 + b) * 16 + c) * 16 + d, rest)
  | _ => none

/-- The character of a unit escape, joining the two units of a character beyond the basic plane. -/
def unitChar (n : Nat) (rest : List Char) : Char × List Char :=
  if 0xd800 ≤ n ∧ n < 0xdc00 then
    match rest with
    | '\\' :: 'u' :: more =>
      match hex4? more with
      | some (m, after) =>
        if 0xdc00 ≤ m ∧ m < 0xe000 then
          (Char.ofNat (0x10000 + (n - 0xd800) * 0x400 + (m - 0xdc00)), after)
        else (Char.ofNat 0xfffd, rest)
      | none => (Char.ofNat 0xfffd, rest)
    | _ => (Char.ofNat 0xfffd, rest)
  else if 0xdc00 ≤ n ∧ n < 0xe000 then (Char.ofNat 0xfffd, rest)
  else (Char.ofNat n, rest)

/-- The characters up to the closing quotation mark, last first. -/
def stringBody? : Nat → List Char → List Char → Option (List Char × List Char)
  | 0, _, _ => none
  | _ + 1, _, [] => none
  | steps + 1, done, c :: rest =>
    if c = '"' then some (done, rest)
    else if c = '\\' then
      match rest with
      | '"' :: more => stringBody? steps ('"' :: done) more
      | '\\' :: more => stringBody? steps ('\\' :: done) more
      | '/' :: more => stringBody? steps ('/' :: done) more
      | 'b' :: more => stringBody? steps (Char.ofNat 8 :: done) more
      | 'f' :: more => stringBody? steps (Char.ofNat 12 :: done) more
      | 'n' :: more => stringBody? steps ('\n' :: done) more
      | 'r' :: more => stringBody? steps ('\r' :: done) more
      | 't' :: more => stringBody? steps ('\t' :: done) more
      | 'u' :: more =>
        match hex4? more with
        | some (n, after) =>
          let (c, after) := unitChar n after
          stringBody? steps (c :: done) after
        | none => none
      | _ => none
    else if c.toNat < 32 then none
    else stringBody? steps (c :: done) rest

def string? (cs : List Char) : Option (String × List Char) :=
  (stringBody? (cs.length + 1) [] cs).map fun (done, rest) => (String.ofList done.reverse, rest)

def isAsciiDigit (c : Char) : Bool := decide ('0' ≤ c ∧ c ≤ '9')

def digitsValue (digits : List Char) : Nat :=
  digits.foldl (fun acc c => acc * 10 + (c.toNat - 48)) 0

/-- The double `± digits · 10 ^ exponent`. -/
def scientific (negative : Bool) (digits : Nat) (exponent : Int) : Float :=
  let size : Int := Number.digitCount digits
  let magnitude : Float :=
    if digits = 0 then 0.0
    else if 400 < exponent + size then 1.0 / 0.0
    else if exponent + size < -400 then 0.0
    else if 0 ≤ exponent then Float.ofScientific digits false exponent.toNat
    else Float.ofScientific digits true (-exponent).toNat
  if negative then -magnitude else magnitude

/-- The digits after a point, if one follows with at least one digit. -/
def fraction (cs : List Char) : List Char × List Char :=
  match cs with
  | '.' :: rest =>
    let digits := rest.takeWhile isAsciiDigit
    if digits.isEmpty then ([], cs) else (digits, rest.dropWhile isAsciiDigit)
  | _ => ([], cs)

/-- Whether a minus sign stands at the front, and what follows the sign, if there is one. -/
def sign (cs : List Char) : Bool × List Char :=
  match cs with
  | '-' :: rest => (true, rest)
  | '+' :: rest => (false, rest)
  | _ => (false, cs)

/-- The exponent, if one follows with at least one digit. -/
def exponent? (cs : List Char) : Option Int × List Char :=
  match cs with
  | mark :: rest =>
    if mark = 'e' ∨ mark = 'E' then
      let digits := (sign rest).2.takeWhile isAsciiDigit
      if digits.isEmpty then (none, cs)
      else
        let n : Int := digitsValue digits
        (some (if (sign rest).1 then -n else n), (sign rest).2.dropWhile isAsciiDigit)
    else (none, cs)
  | [] => (none, cs)

/-- The digits before the point; a zero stands alone. -/
def wholeDigits (cs : List Char) : List Char :=
  match cs with
  | '0' :: _ => ['0']
  | _ => cs.takeWhile isAsciiDigit

/-- A number, its sign having been read. -/
def number? (negative : Bool) (cs : List Char) : Option (Value × List Char) :=
  let whole := wholeDigits cs
  if whole.isEmpty then none
  else
    let (places, rest) := fraction (cs.drop whole.length)
    let (power, rest) := exponent? rest
    if places.isEmpty && power.isNone then
      let n : Int := digitsValue whole
      some (.int (if negative then -n else n), rest)
    else
      let digits := digitsValue (whole ++ places)
      some (.real (scientific negative digits (power.getD 0 - places.length)), rest)

def afterWord? (word : String) (cs : List Char) : Option (List Char) :=
  if word.toList.isPrefixOf cs then some (cs.drop word.length) else none

mutual

/-- A value at the front of the characters, and the rest. -/
def value? : Nat → List Char → Option (Value × List Char)
  | 0, _ => none
  | steps + 1, cs =>
    match cs with
    | '"' :: rest => (string? rest).map fun (s, rest) => (.text s, rest)
    | '[' :: rest =>
      match skipBlanks rest with
      | ']' :: rest => some (.list [], rest)
      | rest => (items? steps [] rest).map fun (items, rest) => (.list items, rest)
    | '\x7b' :: rest =>
      match skipBlanks rest with
      | '\x7d' :: rest => some (.object [], rest)
      | rest => (fields? steps [] rest).map fun (fields, rest) => (Value.ofEntries fields, rest)
    | '-' :: rest =>
      match afterWord? "Infinity" rest with
      | some rest => some (.real (-(1.0 / 0.0)), rest)
      | none => number? true rest
    | 'n' :: _ => (afterWord? "null" cs).map fun rest => (.null, rest)
    | 't' :: _ => (afterWord? "true" cs).map fun rest => (.bool true, rest)
    | 'f' :: _ => (afterWord? "false" cs).map fun rest => (.bool false, rest)
    | 'N' :: _ => (afterWord? "NaN" cs).map fun rest => (.real (0.0 / 0.0), rest)
    | 'I' :: _ => (afterWord? "Infinity" cs).map fun rest => (.real (1.0 / 0.0), rest)
    | _ => number? false cs

/-- The items of a list up to its closing bracket; `done` holds the earlier ones, last first. -/
def items? : Nat → List Value → List Char → Option (List Value × List Char)
  | 0, _, _ => none
  | steps + 1, done, cs =>
    match value? steps cs with
    | none => none
    | some (v, rest) =>
      match skipBlanks rest with
      | ']' :: rest => some ((v :: done).reverse, rest)
      | ',' :: rest => items? steps (v :: done) (skipBlanks rest)
      | _ => none

/-- The fields of an object up to its closing brace; `done` holds the earlier ones, last first. -/
def fields? : Nat → List (String × Value) → List Char → Option (List (String × Value) × List Char)
  | 0, _, _ => none
  | steps + 1, done, cs =>
    match cs with
    | '"' :: rest =>
      match string? rest with
      | none => none
      | some (key, rest) =>
        match skipBlanks rest with
        | ':' :: rest =>
          match value? steps (skipBlanks rest) with
          | none => none
          | some (v, rest) =>
            match skipBlanks rest with
            | '\x7d' :: rest => some (((key, v) :: done).reverse, rest)
            | ',' :: rest => fields? steps ((key, v) :: done) (skipBlanks rest)
            | _ => none
        | _ => none
    | _ => none

end

/-- The document that a text holds, blanks around it aside. -/
def parse? (s : String) : Option Value :=
  let cs := s.toList
  match value? (cs.length + 1) (skipBlanks cs) with
  | some (v, rest) => if (skipBlanks rest).isEmpty then some v else none
  | none => none

end ContractLint.Document.Json
