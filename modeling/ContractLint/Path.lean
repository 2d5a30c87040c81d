import ContractLint.Fault
import ContractLint.Text.Glob
import ContractLint.Text.Search

/-! # Paths

A path is a root, which is empty for a relative path, and the names below it. Empty names and
single dots are dropped when a path is read; two dots are kept as a name.
-/

namespace ContractLint

structure Path where
  /-- The slashes in front of an absolute path. -/
  root : String := ""
  names : List String := []
deriving DecidableEq, Inhabited

namespace Path

/-- The slashes at the start of a path: two of them are kept, any other number counts as one. -/
def rootOf : List Char → String
  | '/' :: '/' :: '/' :: _ => "/"
  | '/' :: '/' :: _ => "//"
  | '/' :: _ => "/"
  | _ => ""

def ofText (s : String) : Path where
  root := rootOf s.toList
  names := (Text.splitOn s "/").filter fun name => name != "" && name != "."

def text (p : Path) : String :=
  if p.root = "" ∧ p.names = [] then "." else p.root ++ String.intercalate "/" p.names

def parts (p : Path) : List String := if p.root = "" then p.names else p.root :: p.names

def name (p : Path) : String := p.names.getLast?.getD ""

/-- The end of the last name from its last dot on, unless that dot is its first or last
character. -/
def suffix (p : Path) : String :=
  let cs := p.name.toList
  match Text.findLast? '.' cs with
  | some i => if 0 < i ∧ i + 1 < cs.length then String.ofList (cs.drop i) else ""
  | none => ""

def child (p : Path) (name : String) : Path := { p with names := p.names ++ [name] }

def namesMatch (names patterns : List String) : Bool :=
  (names.zip patterns).all fun (name, pattern) => Text.Glob.accepts pattern name

/-- The path fits a pattern of wildcards. A relative pattern is compared with the last parts of the
path, an absolute one with all of them. -/
def fits (p : Path) (pattern : String) : Outcome Bool :=
  let wanted := ofText pattern
  let found := p.parts
  if wanted.parts.isEmpty then throw (.invalid "empty pattern")
  else if wanted.root != "" then
    return wanted.root == p.root && wanted.parts.length == found.length
      && namesMatch found.reverse wanted.names.reverse
  else
    return wanted.names.length ≤ found.length
      && namesMatch found.reverse wanted.names.reverse

end Path

end ContractLint
