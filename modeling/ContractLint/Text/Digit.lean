import ContractLint.Text.Blank

/-! # Decimal digits

The standard has many sets of ten consecutive digits; a set is named by its zero. `parseInt?`
reads an integer as people write it: white space around it, a sign, and single low lines between digits.
-/

namespace ContractLint.Text

def digitZeros : List Nat :=
  [0x30,0x660,0x6f0,0x7c0,0x966,0x9e6,0xa66,0xae6,0xb66,0xbe6,0xc66,0xce6,0xd66,0xde6,0xe50,0xed0,0xf20,0x1040,0x1090,
   0x17e0,0x1810,0x1946,0x19d0,0x1a80,0x1a90,0x1b50,0x1bb0,0x1c40,0x1c50,0xa620,0xa8d0,0xa900,0xa9d0,0xa9f0,0xaa50,
   0xabf0,0xff10,0x104a0,0x10d30,0x11066,0x110f0,0x11136,0x111d0,0x112f0,0x11450,0x114d0,0x11650,0x116c0,0x11730,
   0x118e0,0x11950,0x11c50,0x11d50,0x11da0,0x16a60,0x16ac0,0x16b50,0x1d7ce,0x1d7d8,0x1d7e2,0x1d7ec,0x1d7f6,0x1e140,
   0x1e2f0,0x1e950,0x1fbf0]

def digitValue? (c : Char) : Option Nat :=
  (digitZeros.find? fun start => start ≤ c.toNat && c.toNat < start + 10).map (c.toNat - ·)

def isDigit (c : Char) : Bool := (digitValue? c).isSome

/-- The number written by digits with single low lines between them; `value` is what has been read
and `pending` says that a digit has to follow. -/
def digitsFrom? (value : Nat) (pending : Bool) : List Char → Option Nat
  | [] => if pending then none else some value
  | c :: rest =>
    if c = '_' then (if pending then none else digitsFrom? value true rest)
    else match digitValue? c with
      | some digit => digitsFrom? (value * 10 + digit) false rest
      | none => none

/-- The greatest number of digits of an integer that is read from a text. -/
def digitLimit : Nat := 4300

/-- The number of digits, if there are not too many of them. -/
def naturalFrom? (cs : List Char) : Option Nat :=
  if digitLimit < cs.countP (· != '_') then none else digitsFrom? 0 true cs

/-- The information separators: blanks that separate words, but are not skipped around a number. -/
def isSeparator (c : Char) : Bool := 28 ≤ c.toNat && c.toNat ≤ 31

/-- The integer that a text denotes: digits of any script, with an optional sign in front, single
low lines between them and white space around. -/
def parseInt? (s : String) : Option Int :=
  if s.toList.any isSeparator then none
  else match stripList s.toList with
    | '-' :: rest => (naturalFrom? rest).map fun n => -(n : Int)
    | '+' :: rest => (naturalFrom? rest).map fun n => (n : Int)
    | cs => (naturalFrom? cs).map fun n => (n : Int)

end ContractLint.Text
