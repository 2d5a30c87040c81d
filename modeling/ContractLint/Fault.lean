import ContractLint.Document.Value

/-! # Causes of failure

What can go wrong while documents of any shape are read and analysed. `Fault.message` is the one
place where the wording of an error is chosen.
-/

namespace ContractLint

/-- The levels at which a text can break the rules of its format. -/
inductive FormatLevel where
  | characters
  /-- Tokens that do not end, or stand where they may not. -/
  | tokens
  /-- Collections that do not end, or hold what they may not. -/
  | nesting
  /-- Names of nodes. -/
  | references
  | values
deriving DecidableEq, Inhabited

/-- The cause of a failure. -/
inductive Fault where
  /-- An object has no field of this name. -/
  | missingKey (key : Value)
  | noMember (kind member : String)
  /-- A value of this kind cannot be walked through. -/
  | notIterable (kind : String)
  | notSearchable (kind : String)
  | notIndexable (kind : String)
  | badListIndex (kind : String)
  | badTextIndex (kind : String)
  | notPartOfText (kind : String)
  /-- A value of this kind cannot stand in a set. -/
  | notHashable (kind : String)
  | notOrdered (relation left right : String)
  /-- Two kinds of values cannot be combined. -/
  | notCombined (operation left right : String)
  /-- A position lies beyond the end of a list. -/
  | outOfRange
  | notAMember (family : String) (value : Value)
  | missingParts (record : String) (names : List String)
  | unknownPart (record name : String)
  /-- A value has the wrong type; the text says how. -/
  | mistyped (text : String)
  /-- A value is unacceptable; the text says why. -/
  | invalid (text : String)
  /-- A file or program is not there. -/
  | absent (text : String)
  | alreadyExists (text : String)
  | refused (text : String)
  /-- A path is a directory where a file is expected. -/
  | isDirectory (text : String)
  | notDirectory (text : String)
  /-- An outside program ran for too long. -/
  | timedOut (program : String) (seconds : Option Nat)
  | undecodable (text : String)
  /-- A quantity is used before it is known. -/
  | unbound (name : String)
  /-- A failure of the surroundings, known by its text alone. -/
  | outside (text : String)
  /-- The other side of a connection has gone. -/
  | disconnected (text : String)
  | notInstalled (text : String)
  | malformed (level : FormatLevel) (text : String)
  | compiler (text : String)
deriving Inhabited

namespace Fault

/-- The names of missing parts, joined as in a sentence. -/
def partList : List String → String
  | [] => ""
  | [a] => Text.quoted a
  | [a, b] => Text.quoted a ++ " and " ++ Text.quoted b
  | names =>
    String.intercalate ", " (names.dropLast.map Text.quoted) ++ ", and "
      ++ Text.quoted (names.getLast?.getD "")

/-- The wording of a failure. -/
def message : Fault → String
  | missingKey key => key.literal
  | noMember kind member => s!"'{kind}' object has no attribute '{member}'"
  | notIterable kind => s!"'{kind}' object is not iterable"
  | notSearchable kind => s!"argument of type '{kind}' is not iterable"
  | notIndexable kind => s!"'{kind}' object is not subscriptable"
  | badListIndex kind => s!"list indices must be integers or slices, not {kind}"
  | badTextIndex kind => s!"string indices must be integers, not '{kind}'"
  | notPartOfText kind => s!"'in <string>' requires string as left operand, not {kind}"
  | notHashable kind => s!"unhashable type: '{kind}'"
  | notOrdered relation left right =>
    s!"'{relation}' not supported between instances of '{left}' and '{right}'"
  | notCombined operation left right =>
    s!"unsupported operand type(s) for {operation}: '{left}' and '{right}'"
  | outOfRange => "list index out of range"
  | notAMember family value => value.literal ++ " is not a valid " ++ family
  | missingParts record names =>
    let count := Number.digitsText names.length
    let plural := if names.length = 1 then "" else "s"
    let list := partList names
    s!"{record}.__init__() missing {count} required positional argument{plural}: {list}"
  | unknownPart record name =>
    s!"{record}.__init__() got an unexpected keyword argument '{name}'"
  | mistyped text => text
  | invalid text => text
  | absent text => text
  | alreadyExists text => text
  | refused text => text
  | isDirectory text => text
  | notDirectory text => text
  | timedOut program seconds =>
    let limit := (seconds.map Number.digitsText).getD "None"
    s!"Command '{program}' timed out after {limit} seconds"
  | undecodable text => text
  | unbound name =>
    s!"cannot access local variable '{name}' where it is not associated with a value"
  | outside text => text
  | disconnected text => text
  | notInstalled text => text
  | malformed _ text => text
  | compiler text => text

end Fault

abbrev Outcome (α : Type) := Except Fault α

end ContractLint
