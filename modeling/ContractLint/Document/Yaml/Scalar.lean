import ContractLint.Document.Json.Reader
import ContractLint.Text.Search

/-! # Plain scalars of YAML 1.1

A scalar without quotes stands for null, a truth value, a number, or else a text.
-/

namespace ContractLint.Document.Yaml

def nullWords : List String := ["", "~", "null", "Null", "NULL"]

def trueWords : List String :=
  ["yes", "Yes", "YES", "true", "True", "TRUE", "on", "On", "ON"]

def falseWords : List String :=
  ["no", "No", "NO", "false", "False", "FALSE", "off", "Off", "OFF"]

def signed : List Char → Bool × List Char
  | '-' :: rest => (true, rest)
  | '+' :: rest => (false, rest)
  | cs => (false, cs)

/-- A digit of a base, or an underscore. -/
def isDigitOf (base : Nat) (c : Char) : Bool :=
  c = '_' || (Nat.toDigits base (base - 1)).any fun top =>
    if base ≤ 10 then '0' ≤ c && c ≤ top
    else ('0' ≤ c && c ≤ '9') || ('a' ≤ c && c ≤ top) || ('A' ≤ c && c ≤ top.toUpper)

def digitValue (c : Char) : Nat :=
  if c ≤ '9' then c.toNat - 48 else c.toLower.toNat - 87

/-- The number that digits of a base denote; underscores do not count. -/
def digitsIn (base : Nat) (digits : List Char) : Nat :=
  (digits.filter (· != '_')).foldl (fun n c => n * base + digitValue c) 0

def colonParts (cs : List Char) : List (List Char) := Text.splitList [':'] cs

def isSixtieth : List Char → Bool
  | [c] => c.isDigit
  | [c, d] => '0' ≤ c && c ≤ '5' && d.isDigit
  | _ => false

/-- Digits and underscores, a digit first. -/
def isCount : List Char → Bool
  | c :: rest => c.isDigit && rest.all (isDigitOf 10)
  | [] => false

def sixties (parts : List (List Char)) : Nat :=
  parts.foldl (fun n part => n * 60 + digitsIn 10 part) 0

/-- The magnitude that an integer without its sign denotes. -/
def magnitude? : List Char → Option Nat
  | '0' :: 'b' :: rest =>
    if !rest.isEmpty && rest.all (isDigitOf 2) then some (digitsIn 2 rest) else none
  | '0' :: 'x' :: rest =>
    if !rest.isEmpty && rest.all (isDigitOf 16) then some (digitsIn 16 rest) else none
  | '0' :: rest => if rest.all (isDigitOf 8) then some (digitsIn 8 rest) else none
  | cs =>
    match colonParts cs with
    | first :: rest =>
      if isCount first && rest.all isSixtieth then some (sixties (first :: rest)) else none
    | [] => none

/-- The integer that a scalar denotes. -/
def int? (cs : List Char) : Option Int :=
  let (negative, body) := signed cs
  (magnitude? body).map fun n => if negative then -(n : Int) else n

/-- The exponent at the end of a number: a letter, a sign and digits. -/
def exponent? : List Char → Option Int
  | [] => some 0
  | mark :: sign :: digits =>
    if (mark = 'e' || mark = 'E') && (sign = '+' || sign = '-') && !digits.isEmpty
        && digits.all Char.isDigit then
      let n : Int := digitsIn 10 digits
      some (if sign = '-' then -n else n)
    else none
  | _ => none

def pointNumber? (negative : Bool) (before after : List Char) : Option Float :=
  let places := after.takeWhile (isDigitOf 10)
  (exponent? (after.drop places.length)).map fun exponent =>
    let digits := (before ++ places).filter (· != '_')
    let shift : Int := (places.filter (· != '_')).length
    Json.scientific negative (digitsIn 10 digits) (exponent - shift)

/-- The number with a point that a scalar denotes. -/
def real? (cs : List Char) : Option Float :=
  let (negative, body) := signed cs
  let before := body.takeWhile (· != '.')
  match body.drop before.length with
  | '.' :: after =>
    if before.isEmpty then
      if ["inf", "Inf", "INF"].contains (String.ofList after) then
        some (if negative then -(1.0 / 0.0) else 1.0 / 0.0)
      else if cs.head? = some '.' && ["nan", "NaN", "NAN"].contains (String.ofList after) then
        some (0.0 / 0.0)
      else if cs.head? = some '.' && (after.head?.map Char.isDigit).getD false then
        pointNumber? false [] after
      else none
    else
      match colonParts before with
      | [_] => if isCount before then pointNumber? negative before after else none
      | first :: rest =>
        if isCount first && rest.all isSixtieth && after.all (isDigitOf 10) then
          (pointNumber? false ['0'] after).map fun part =>
            let whole := Float.ofNat (sixties (first :: rest)) + part
            if negative then -whole else whole
        else none
      | [] => none
  | _ => none

/-- What a scalar without quotes stands for. -/
def resolve (s : String) : Value :=
  if nullWords.contains s then .null
  else if trueWords.contains s then .bool true
  else if falseWords.contains s then .bool false
  else
    match int? s.toList with
    | some n => .int n
    | none =>
      match real? s.toList with
      | some x => .real x
      | none => .text s

end ContractLint.Document.Yaml
