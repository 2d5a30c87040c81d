/-! # Blanks

A small character class of the Unicode standard is kept as the list of its maximal intervals, in
increasing order. A large one is kept as the lengths of the stretches of code points that lie by
turns outside and inside of it. Membership walks the list up to the code point.

The characters that separate words: the white space of the Unicode standard and the four
information separators. `strip` removes them from both ends of a text.
-/

namespace ContractLint.Text

/-- The code point lies in one of the closed intervals of an increasing list. -/
def inRanges (code : Nat) : List (Nat × Nat) → Bool
  | [] => false
  | (low, high) :: rest => if code ≤ high then decide (low ≤ code) else inRanges code rest

/-- The code point, counted from the start of the first stretch, lies in a stretch inside the class; the first one is
inside or not, and nothing after the last one is. -/
def inStretches (inside : Bool) (code : Nat) : List Nat → Bool
  | [] => false
  | length :: rest =>
    if code < length then inside else inStretches (!inside) (code - length) rest

def blankRanges : List (Nat × Nat) :=
  [(9, 13), (28, 32), (0x85, 0x85), (0xa0, 0xa0), (0x1680, 0x1680), (0x2000, 0x200a),
   (0x2028, 0x2029), (0x202f, 0x202f), (0x205f, 0x205f), (0x3000, 0x3000)]

/-- White space and information separators. -/
def isBlank (c : Char) : Bool := inRanges c.toNat blankRanges

def stripFront (cs : List Char) : List Char := cs.dropWhile isBlank

/-- Drops the blanks at both ends. -/
def stripList (cs : List Char) : List Char :=
  (stripFront (stripFront cs).reverse).reverse

/-- The text without the blanks at its ends. -/
def strip (s : String) : String := String.ofList (stripList s.toList)

end ContractLint.Text
