/-! # Wildcard patterns

In a pattern `*` stands for any characters, `?` for one character, and a bracket for one character
of a set: `[a-c]` holds a range, `[!ab]` the complement of a set. A bracket that is never closed
stands for itself, and a range whose ends are in the wrong order is empty.
-/

namespace ContractLint.Text.Glob

inductive Part where
  /-- Any characters. -/
  | star
  /-- One character. -/
  | any
  | char (c : Char)
  /-- One character that is, or is not, in a set. -/
  | set (negated : Bool) (single : List Char) (ranges : List (Char × Char))

def Part.accepts : Part → Char → Bool
  | star, _ => false
  | any, _ => true
  | char c, d => c == d
  | set negated single ranges, d =>
    (single.contains d || ranges.any fun (first, last) => first ≤ d && d ≤ last) != negated

/-- The pieces of a set between the hyphens that make ranges; the next `skip` characters are no
such hyphens, and `held` is the current piece, last first. -/
def pieces (held : List Char) (skip : Nat) : List Char → List (List Char)
  | [] => [held.reverse]
  | c :: rest =>
    if skip = 0 ∧ c = '-' then held.reverse :: pieces [] 2 rest
    else pieces (c :: held) (skip - 1) rest

def closed : List (List Char) → List (List Char)
  | [piece, []] => [piece ++ ['-']]
  | piece :: rest => piece :: closed rest
  | [] => []

/-- Joins pieces between which the range would have its ends in the wrong order. -/
def ordered : List (List Char) → List (List Char)
  | [] => []
  | piece :: rest =>
    match piece.getLast?, ordered rest with
    | some last, (first :: tail) :: more =>
      if first < last then (piece.dropLast ++ tail) :: more
      else piece :: (first :: tail) :: more
    | _, rest => piece :: rest

def ranges : List (List Char) → List (Char × Char)
  | first :: second :: rest =>
    (match first.getLast?, second.head? with
      | some low, some high => [(low, high)]
      | _, _ => []) ++ ranges (second :: rest)
  | _ => []

def setOf (inside : List Char) : Part :=
  let found := ordered (closed (pieces [] (if inside.head? = some '!' then 2 else 1) inside))
  match found with
  | ('!' :: first) :: rest => .set true (first :: rest).flatten (ranges (first :: rest))
  | found => .set false found.flatten (ranges found)

/-- The number of characters inside of a bracket that has just been opened. -/
def insideLength? (cs : List Char) : Option Nat :=
  let mark := if cs.head? = some '!' then 1 else 0
  let start := if (cs.drop mark).head? = some ']' then mark + 1 else mark
  ((cs.drop start).findIdx? (· == ']')).map (start + ·)

/-- The parts of a pattern, of which the first `skip` characters have been dealt with. -/
def partsFrom (skip : Nat) : List Char → List Part
  | [] => []
  | c :: rest =>
    match skip with
    | more + 1 => partsFrom more rest
    | 0 =>
      if c = '*' then .star :: partsFrom 0 rest
      else if c = '?' then .any :: partsFrom 0 rest
      else if c = '[' then
        match insideLength? rest with
        | some size => setOf (rest.take size) :: partsFrom (size + 1) rest
        | none => .char c :: partsFrom 0 rest
      else .char c :: partsFrom 0 rest

def parts (pattern : String) : List Part := partsFrom 0 pattern.toList

def anyTail (condition : List Char → Bool) : List Char → Bool
  | [] => condition []
  | c :: rest => condition (c :: rest) || anyTail condition rest

def acceptsList : List Part → List Char → Bool
  | [], cs => cs.isEmpty
  | .star :: rest, cs => anyTail (acceptsList rest) cs
  | part :: rest, c :: cs => part.accepts c && acceptsList rest cs
  | _ :: _, [] => false

def accepts (pattern text : String) : Bool := acceptsList (parts pattern) text.toList

end ContractLint.Text.Glob
