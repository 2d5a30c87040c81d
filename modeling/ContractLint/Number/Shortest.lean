import ContractLint.Number.Binary

/-! # The shortest decimal of a double

Among the decimals that read back as the same double, the text shows one with the fewest digits,
and of those the nearest. The search looks, for one digit, two digits and so on, at the two
neighbours of the value on the grid of decimals with that many digits, in exact arithmetic.
-/

namespace ContractLint.Number

/-- The decimal `digits · 10 ^ exponent`. -/
structure Decimal where
  /-- The significant digits, as an integer. -/
  digits : Nat
  exponent : Int

/-- The interval of reals that round to a positive double, as numerators over one denominator,
and whether its ends belong to it. -/
structure Interval where
  /-- Numerator of the lower end. -/
  low : Nat
  value : Nat
  /-- Numerator of the upper end. -/
  high : Nat
  denominator : Nat
  /-- The ends round to the value too. -/
  closed : Bool

def Parts.interval (parts : Parts) : Interval :=
  let m := parts.mantissa
  -- below a power of two the next smaller double is half a step nearer
  let narrow := m = Nat.pow 2 52 ∧ -1074 < parts.exponent
  let low := if narrow then 4 * m - 1 else 4 * m - 2
  let scale := parts.exponent - 2
  let (up, down) :=
    if 0 ≤ scale then (Nat.pow 2 scale.toNat, 1) else (1, Nat.pow 2 (-scale).toNat)
  { low := low * up, value := 4 * m * up, high := (4 * m + 2) * up, denominator := down,
    closed := m % 2 = 0 }

/-- The interval scaled so that a unit is `10 ^ exponent`. -/
def Interval.inUnits (i : Interval) (exponent : Int) : Interval :=
  if 0 ≤ exponent then { i with denominator := i.denominator * Nat.pow 10 exponent.toNat }
  else
    let up := Nat.pow 10 (-exponent).toNat
    { i with low := i.low * up, value := i.value * up, high := i.high * up }

/-- The whole number `n` lies in the interval. -/
def Interval.holds (i : Interval) (n : Nat) : Bool :=
  let scaled := n * i.denominator
  if i.closed then decide (i.low ≤ scaled ∧ scaled ≤ i.high)
  else decide (i.low < scaled ∧ scaled < i.high)

/-- The neighbour of the value on the grid of whole numbers that lies in the interval; of two, the
nearer, and of two equally near ones the even one. -/
def Interval.gridPoint? (i : Interval) : Option Nat :=
  let below := i.value / i.denominator
  let rest := i.value % i.denominator
  if rest = 0 then some below
  else match i.holds below, i.holds (below + 1) with
    | true, false => some below
    | false, true => some (below + 1)
    | false, false => none
    | true, true =>
      if 2 * rest < i.denominator then some below
      else if i.denominator < 2 * rest then some (below + 1)
      else if below % 2 = 0 then some below else some (below + 1)

def digitCount (n : Nat) : Nat := (Nat.toDigits 10 n).length

/-- The exponent of the leading decimal digit of `top / bottom`, both positive. -/
def leadingExponent (top bottom : Nat) : Int :=
  let guess : Int := (digitCount top : Int) - digitCount bottom
  let reached :=
    if 0 ≤ guess then decide (bottom * Nat.pow 10 guess.toNat ≤ top)
    else decide (bottom ≤ top * Nat.pow 10 (-guess).toNat)
  if reached then guess else guess - 1

/-- Tries grids of `count`, `count + 1`, … digits. -/
def shortestFrom (i : Interval) (leading : Int) (count : Nat) : Nat → Decimal
  | 0 => ⟨i.value / i.denominator, 0⟩
  | tries + 1 =>
    let exponent := leading + 1 - count
    match (i.inUnits exponent).gridPoint? with
    | some n => ⟨n, exponent⟩
    | none => shortestFrom i leading (count + 1) tries

/-- Removes zeros from the end of the digits. -/
def Decimal.trimmed (d : Decimal) : Nat → Decimal
  | 0 => d
  | steps + 1 =>
    if d.digits ≠ 0 ∧ d.digits % 10 = 0 then Decimal.trimmed ⟨d.digits / 10, d.exponent + 1⟩ steps
    else d

def Parts.shortest (parts : Parts) : Decimal :=
  if parts.mantissa = 0 then ⟨0, 0⟩
  else
    let (top, bottom) := parts.ratio
    (shortestFrom parts.interval (leadingExponent top bottom) 1 18).trimmed 20

def digitsText (n : Nat) : String := String.ofList (Nat.toDigits 10 n)

def intText (n : Int) : String :=
  if n < 0 then "-" ++ digitsText n.natAbs else digitsText n.natAbs

/-- Writes a decimal with a point, or with an exponent when the leading digit stands below the
fourth or beyond the sixteenth place. -/
def Decimal.text (d : Decimal) : String :=
  let digits := Nat.toDigits 10 d.digits
  let point : Int := digits.length + d.exponent
  if d.digits = 0 then "0.0"
  else if -4 < point ∧ point ≤ 16 then
    if point ≤ 0 then
      "0." ++ String.ofList (List.replicate (-point).toNat '0' ++ digits)
    else if point.toNat < digits.length then
      String.ofList (digits.take point.toNat) ++ "." ++ String.ofList (digits.drop point.toNat)
    else
      String.ofList (digits ++ List.replicate (point.toNat - digits.length) '0') ++ ".0"
  else
    let exponent := point - 1
    let fraction := digits.drop 1
    let magnitude := digitsText exponent.natAbs
    String.ofList (digits.take 1)
      ++ (if fraction.isEmpty then "" else "." ++ String.ofList fraction)
      ++ "e" ++ (if exponent < 0 then "-" else "+")
      ++ (if exponent.natAbs < 10 then "0" else "") ++ magnitude

/-- The text of a double: its shortest decimal, always with a point or an exponent. -/
def floatText (x : Float) : String :=
  match decode x with
  | none => if x < 0 then "-inf" else if x > 0 then "inf" else "nan"
  | some parts => (if parts.negative then "-" else "") ++ parts.shortest.text

/-- The quotient rounded to the nearest integer, a tie going to the even one. -/
def roundQuotient (top bottom : Nat) : Nat :=
  let whole := top / bottom
  let rest := top % bottom
  if 2 * rest < bottom then whole
  else if bottom < 2 * rest then whole + 1
  else if whole % 2 = 0 then whole else whole + 1

/-- A natural number written with the last `places` digits after a point. -/
def pointed (places : Nat) (n : Nat) : String :=
  if places = 0 then digitsText n
  else
    let digits := Nat.toDigits 10 n
    let padded := List.replicate (places + 1 - digits.length) '0' ++ digits
    let split := padded.length - places
    String.ofList (padded.take split) ++ "." ++ String.ofList (padded.drop split)

/-- The text of a double with a fixed number of places, rounded from its exact value. -/
def fixedText (places : Nat) (x : Float) : String :=
  match decode x with
  | none => if x < 0 then "-inf" else if x > 0 then "inf" else "nan"
  | some parts =>
    let (top, bottom) := parts.ratio
    (if parts.negative then "-" else "")
      ++ pointed places (roundQuotient (top * Nat.pow 10 places) bottom)

end ContractLint.Number
