/-! # Binary floating-point numbers as exact quantities

A finite double is `± mantissa · 2 ^ exponent`. `decode` gives these parts, and the comparisons
with integers are made on them, so that they are exact at every magnitude.
-/

namespace ContractLint.Number

-- A sum of numbers starts from the numeral, whatever other structure the numbers are given.
instance (priority := 1100) zeroNat : Zero Nat := Zero.ofOfNat0

instance (priority := 1100) zeroInt : Zero Int := Zero.ofOfNat0

/-- A finite double, taken apart. -/
structure Parts where
  /-- The sign bit. -/
  negative : Bool
  mantissa : Nat
  /-- The power of two that scales the significand. -/
  exponent : Int

/-- The parts of a finite double; infinities and the values that are not numbers have none. -/
def decode (x : Float) : Option Parts :=
  let bits : Nat := x.toBits.toNat
  let negative := decide (bits / Nat.pow 2 63 = 1)
  let biased : Nat := bits / Nat.pow 2 52 % Nat.pow 2 11
  let fraction : Nat := bits % Nat.pow 2 52
  if biased = 2047 then none
  else if biased = 0 then some ⟨negative, fraction, -1074⟩
  else some ⟨negative, fraction + Nat.pow 2 52, (biased : Int) - 1075⟩

/-- The magnitude as a fraction of natural numbers. -/
def Parts.ratio (parts : Parts) : Nat × Nat :=
  if 0 ≤ parts.exponent then (parts.mantissa * Nat.pow 2 parts.exponent.toNat, 1)
  else (parts.mantissa, Nat.pow 2 (-parts.exponent).toNat)

def Parts.signedRatio (parts : Parts) : Int × Nat :=
  let (top, bottom) := parts.ratio
  (if parts.negative then -(top : Int) else top, bottom)

/-- The integer part, toward zero. -/
def Parts.truncate (parts : Parts) : Int :=
  let (top, bottom) := parts.ratio
  let whole : Int := (top / bottom : Nat)
  if parts.negative then -whole else whole

/-- The double denotes exactly this integer. -/
def equalsInt (x : Float) (n : Int) : Bool :=
  match decode x with
  | none => false
  | some parts =>
    let (top, bottom) := parts.signedRatio
    top == n * bottom

/-- The double is smaller than the integer. -/
def lessThanInt (x : Float) (n : Int) : Bool :=
  match decode x with
  | none => x < 0
  | some parts =>
    let (top, bottom) := parts.signedRatio
    top < n * bottom

/-- The double is larger than the integer. -/
def greaterThanInt (x : Float) (n : Int) : Bool :=
  match decode x with
  | none => x > 0
  | some parts =>
    let (top, bottom) := parts.signedRatio
    n * bottom < top

end ContractLint.Number
