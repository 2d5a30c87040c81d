import ContractLint.Document.Codec

/-! # Severity of findings -/

namespace ContractLint

/-- How grave a finding is. -/
inductive Severity where
  | critical
  | high
  | medium
  | low
  | info
deriving DecidableEq, Repr, Inhabited

namespace Severity

/-- All severities, the gravest first. -/
def all : List Severity := [critical, high, medium, low, info]

def name : Severity → String
  | critical => "CRITICAL"
  | high => "HIGH"
  | medium => "MEDIUM"
  | low => "LOW"
  | info => "INFO"

def ofName? (s : String) : Option Severity := all.find? fun severity => severity.name == s

def ofValue (v : Value) : Outcome Severity :=
  match v with
  | .text s =>
    match ofName? s with
    | some severity => pure severity
    | none => throw (.notAMember "Severity" v)
  | _ => throw (.notAMember "Severity" v)

/-- The place of a severity, the gravest being zero. -/
def rank : Severity → Nat
  | critical => 0
  | high => 1
  | medium => 2
  | low => 3
  | info => 4

def color : Severity → String
  | critical => "\x1b[91m"
  | high => "\x1b[93m"
  | medium => "\x1b[94m"
  | low => "\x1b[92m"
  | info => "\x1b[96m"

def resetColor : String := "\x1b[0m"

end Severity

instance : ToValue Severity := ⟨fun severity => .text severity.name⟩

end ContractLint
