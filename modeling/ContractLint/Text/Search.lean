/-! # Searching texts

Occurrences of one text in another. Occurrences that are counted, replaced or split at are found
from left to right and do not overlap.
-/

namespace ContractLint.Text

/-- The characters `needle` stand next to one another somewhere in the list. -/
def hasInfix (needle : List Char) : List Char → Bool
  | [] => needle.isEmpty
  | c :: rest => needle.isPrefixOf (c :: rest) || hasInfix needle rest

/-- The text occurs in the other. -/
def contains (hay needle : String) : Bool := hasInfix needle.toList hay.toList

/-- One of the texts occurs in the other. -/
def containsAny (hay : String) (needles : List String) : Bool := needles.any (contains hay)

def startsWith (s start : String) : Bool := start.toList.isPrefixOf s.toList

def endsWith (s ending : String) : Bool := ending.toList.reverse.isPrefixOf s.toList.reverse

/-- Splits at each occurrence of `separator`, which is not empty; `skip` characters of an
occurrence are still to be passed over, and `piece` holds the current piece, last first. -/
def splitFrom (separator : List Char) (skip : Nat) (piece : List Char) :
    List Char → List (List Char)
  | [] => [piece.reverse]
  | c :: rest =>
    match skip with
    | more + 1 => splitFrom separator more piece rest
    | 0 =>
      if separator.isPrefixOf (c :: rest) then
        piece.reverse :: splitFrom separator (separator.length - 1) [] rest
      else splitFrom separator 0 (c :: piece) rest

def splitList (separator cs : List Char) : List (List Char) := splitFrom separator 0 [] cs

/-- The pieces between the occurrences of a separator, which is not empty. -/
def splitOn (s separator : String) : List String :=
  (splitList separator.toList s.toList).map String.ofList

/-- The number of occurrences of a text, which is not empty. -/
def countOf (s needle : String) : Nat := (splitList needle.toList s.toList).length - 1

/-- The text with each occurrence of `old`, which is not empty, replaced. -/
def replace (s old new : String) : String := String.intercalate new (splitOn s old)

def countChar (c : Char) (s : String) : Nat := s.toList.count c

def findFrom? (needle : List Char) (position : Nat) : List Char → Option Nat
  | [] => if needle.isEmpty then some position else none
  | c :: rest =>
    if needle.isPrefixOf (c :: rest) then some position else findFrom? needle (position + 1) rest

def find? (c : Char) (cs : List Char) : Option Nat := findFrom? [c] 0 cs

def findLast? (c : Char) (cs : List Char) : Option Nat :=
  (find? c cs.reverse).map (cs.length - 1 - ·)

/-- The first characters of a text. -/
def take (count : Nat) (s : String) : String := String.ofList (s.toList.take count)

def repeated (s : String) (count : Nat) : String := String.join (List.replicate count s)

end ContractLint.Text
