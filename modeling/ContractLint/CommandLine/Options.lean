import ContractLint.Text.Search

/-! # Options and operands

The words of a command line are options, which start with a dash, and operands. Short options may
share a dash, the last of them with its value; a long option has its value after an equals sign or
in the next word. Two dashes alone make operands of all words after them.
-/

namespace ContractLint.CommandLine

/-- An option that may be given. -/
structure Flag where
  name : String
  letter : Option Char := none
  takesValue : Bool := false

structure Given where
  /-- The options by name in the order given; an option without a value has the empty one. -/
  options : List (String × String) := []
  operands : List String := []

namespace Given

def set (given : Given) (options : List (String × String)) : Given :=
  { given with options := given.options ++ options }

def has (given : Given) (name : String) : Bool := given.options.any fun option => option.1 = name

/-- The value of an option; the last one counts. -/
def get? (given : Given) (name : String) : Option String := given.options.reverse.lookup name

end Given

/-- The options behind one dash, and the one that has its value in the next word. -/
def lettered (flags : List Flag) : List Char → Option (List (String × String) × Option String)
  | [] => some ([], none)
  | c :: rest =>
    match flags.find? fun flag => flag.letter = some c with
    | none => none
    | some flag =>
      if !flag.takesValue then
        (lettered flags rest).map fun (options, open?) => ((flag.name, "") :: options, open?)
      else if rest.isEmpty then some ([], some flag.name)
      else some ([(flag.name, String.ofList rest)], none)

/-- The options of a word, and the one that has its value in the next word. -/
def optionsOf (flags : List Flag) : List Char → Option (List (String × String) × Option String)
  | '-' :: '-' :: word =>
    let name := String.ofList (word.takeWhile (· ≠ '='))
    match flags.find? fun flag => flag.name = name, word.dropWhile (· ≠ '=') with
    | none, _ => none
    | some flag, [] => if flag.takesValue then some ([], some name) else some ([(name, "")], none)
    | some flag, _ :: value =>
      if flag.takesValue then some ([(name, String.ofList value)], none) else none
  | '-' :: word => lettered flags word
  | _ => none

/-- The options and operands of a command line. Unless they may be `mixed`, all words from the
first operand on are operands. There are none if an option is unknown or its value is missing. -/
def readWords (flags : List Flag) (mixed : Bool) (given : Given) : List String → Option Given
  | [] => some given
  | word :: rest =>
    if word = "--" then some { given with operands := given.operands ++ rest }
    else if Text.startsWith word "-" && word ≠ "-" then
      match optionsOf flags word.toList with
      | none => none
      | some (options, none) => readWords flags mixed (given.set options) rest
      | some (options, some name) =>
        match rest with
        | [] => none
        | value :: rest =>
          readWords flags mixed (given.set (options ++ [(name, value)])) rest
    else if mixed then
      readWords flags mixed { given with operands := given.operands ++ [word] } rest
    else some { given with operands := given.operands ++ word :: rest }

end ContractLint.CommandLine
