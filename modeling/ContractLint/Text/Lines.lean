/-! # Lines of a text

`newlineLines` separates at line feeds only, so a text always has at least one line and a final
line feed is followed by an empty one. `lines` ends a line at any of the line boundaries of the
Unicode standard, a carriage return and its line feed being one, and a boundary at the very end
starts no further line.
-/

namespace ContractLint.Text

/-- The pieces between line feeds, `line` being the current one, last first. -/
def newlineLinesFrom (line : List Char) : List Char → List (List Char)
  | [] => [line.reverse]
  | c :: rest =>
    if c = '\n' then line.reverse :: newlineLinesFrom [] rest
    else newlineLinesFrom (c :: line) rest

/-- The pieces between line feeds; there is always at least one. -/
def newlineLines (cs : List Char) : List (List Char) := newlineLinesFrom [] cs

/-- The pieces of a text between line feeds. -/
def splitNewlines (s : String) : List String := (newlineLines s.toList).map String.ofList

def isBoundary (c : Char) : Bool :=
  let n := c.toNat
  (10 ≤ n && n ≤ 13) || (28 ≤ n && n ≤ 30) || n == 0x85 || n == 0x2028 || n == 0x2029

/-- The lines of the characters, `line` being the current one, last first. -/
def linesFrom (line : List Char) : List Char → List (List Char)
  | [] => if line.isEmpty then [] else [line.reverse]
  | '\r' :: '\n' :: rest => line.reverse :: linesFrom [] rest
  | c :: rest =>
    if isBoundary c then line.reverse :: linesFrom [] rest else linesFrom (c :: line) rest

def lines (s : String) : List String := (linesFrom [] s.toList).map String.ofList

def joinLines (lines : List String) : String := String.intercalate "\n" lines

end ContractLint.Text
