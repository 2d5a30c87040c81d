import ContractLint.Document.Codec
import ContractLint.Scan.Run

/-! # Surveys of source files

A survey tells from the text of a file what it is built on and what it imports. Functions and types
are not read from the file: a survey shows one example of them.
-/

namespace ContractLint.Survey

open Scan

/-- A class of files. -/
structure Kind where
  name : String
  /-- The name of the contract in such a file. -/
  title : String
  /-- Each of these texts in a file shows the class. -/
  marks : List String

structure Framework where
  name : String
  /-- Each of these texts shows its use. -/
  marks : List String

structure Language where
  name : String
  compiler : String
  /-- The classes of files that are built on something, in the order in which they are tried. -/
  kinds : List Kind
  /-- The name of the contract in any other file. -/
  genericTitle : String
  frameworks : List Framework
  tree : Value
  parts : List (String × (Value → Outcome Value))

def shows (source : Value) (marks : List String) : Outcome Bool := marks.anyM source.has

def linesOf (source : Value) : Outcome (List String) := do
  return (Text.splitNewlines (← source.textFor "split")).map Text.strip

/-! ## Programs -/

def reply? (program : String) : Run (Option String) :=
  try
    let result ← runWithin none program program
    return if result.status == .int 0 then some (Text.strip result.output) else none
  catch _ => return none

namespace Language

def version (language : Language) : Run String :=
  return (← reply? language.compiler).getD "unknown"

/-- Whether the compiler accepts a source, and its complaints if not. -/
def check (language : Language) (source : Value) : Run (Bool × List String) :=
  try
    let _ ← fileText source
    let result ← runWithin none language.compiler language.compiler
    if result.status == .int 0 then return (true, [])
    return (false, (Text.splitNewlines result.complaints).filter fun line => Text.strip line ≠ "")
  catch fault => return (false, [fault.message])

/-! ## Sources -/

/-- The class of files without anything special. -/
def generic (language : Language) : Kind := ⟨"generic", language.genericTitle, []⟩

def kindOf (language : Language) (source : Value) : Outcome Kind := do
  return (← language.kinds.findM? fun kind => shows source kind.marks).getD language.generic

def usedFrameworks (language : Language) (source : Value) : Outcome (List String) := do
  return (← language.frameworks.filterM fun framework => shows source framework.marks).map
    Framework.name

def contract (language : Language) (kind : Kind) (source : Value) : Outcome Value := do
  let parts ← language.parts.mapM fun (name, part) => return (name, ← part source)
  return .object ([("name", .text kind.title), ("contract_type", .text kind.name)] ++ parts)

def contracts (language : Language) (source : Value) : Outcome (List Value) := do
  return [← language.contract (← language.kindOf source) source]

/-- The contract in a source of a class given by its name; the generic class has none. -/
def contractOf? (language : Language) (kind source : Value) : Outcome (Option Value) :=
  (language.kinds.find? fun known => kind.isText known.name).mapM fun known =>
    language.contract known source

end Language

/-! ## Surveys -/

structure Result where
  file : Value
  source : Value
  tree : Value
  contracts : List Value
  errors : List String
  version : String

/-- Surveys a source; a failure becomes an error of the result. -/
def Language.survey (language : Language) (source file : Value) : Run Result :=
  try
    let _ ← fileText source
    let contracts ← language.contracts source
    return ⟨file, source, language.tree, contracts, [], ← language.version⟩
  catch fault =>
    return ⟨file, source, .object [], [], [fault.message], ← language.version⟩

def Result.toValue (language : Language) (r : Result) : Value :=
  .object [
    ("file_path", r.file),
    ("source_code", r.source),
    ("contracts", .of r.contracts),
    ("ast_data", r.tree),
    ("compilation_errors", .of r.errors),
    ("warnings", .list []),
    (language.name ++ "_version", .of r.version)]

end ContractLint.Survey
