import ContractLint.Config
import ContractLint.Solidity.Contract

/-! # The compiler

Source files are compiled by an outside program, of which several versions may be installed. What
each version answers is given; this module chooses the version, reads the answer, and says what is
known about a file when the answer is a failure. The version that was selected last is in force, no
matter who selected it. Without a compiler every file counts as not compiled.
-/

namespace ContractLint.Solidity

inductive Action where
  | install (version : Value)
  | select (version : Value)
  | compile (unit : Unit)

def Action.selected? : Action → Option Value
  | select version => some version
  | _ => none

/-- The version in force after some actions: the one that was selected last. -/
def inForce (actions : List Action) : Option Value :=
  (actions.filterMap Action.selected?).getLast?

/-- Why the installed versions cannot be listed. -/
inductive ListingFailure where
  /-- There is no compiler at all. -/
  | nothingInstalled
  /-- Some other reason. -/
  | other

/-- A compiler program and its surroundings. -/
structure Toolchain where
  installed : Except ListingFailure (List String)
  canInstall : Bool
  /-- The version that the current compiler reports, if it does. -/
  reported : Option Value
  /-- The answer of the version in force to a source file. -/
  answer : Option Value → String → Outcome Value

/-- The compiler, which may be missing. -/
inductive Compiler where
  | missing
  | present (tools : Toolchain)

structure Prepared where
  compiler : Compiler
  settings : CompilerSettings
  /-- The version in use, or a word for why it is not known. -/
  active : Value
  /-- What was done with it so far, from choosing the version on. -/
  actions : List Action

def versionNumbers (version : String) : List Int :=
  (Text.splitOn version ".").map fun part => (Text.parseInt? part).getD 0

def olderNumbers : List Int → List Int → Bool
  | [], [] => false
  | [], _ :: _ => true
  | _ :: _, [] => false
  | a :: as, b :: bs => decide (a < b) || (a == b && olderNumbers as bs)

def newest? : List String → Option String
  | [] => none
  | version :: rest =>
    some (rest.foldl (fun best other =>
      if olderNumbers (versionNumbers best) (versionNumbers other) then other else best) version)

namespace Toolchain

/-- Installs a version, and makes it the current one if that succeeded; then goes on. -/
def installAnd (tools : Toolchain) (version : Value) (done : Value) : Value × List Action :=
  if tools.canInstall then (done, [.install version, .select version])
  else (.text "setup_error", [.install version])

/-- Chooses the version that the settings ask for, or else the newest one, and installs what is
missing. -/
def choose (tools : Toolchain) (settings : CompilerSettings) (installed : List String) : Value × List Action :=
  let wanted := settings.version
  if wanted.truthy then
    if wanted.isOneOf installed then (wanted, [.select wanted]) else tools.installAnd wanted wanted
  else match newest? installed with
    | some version => (.text version, [.select (.text version)])
    | none => tools.installAnd (.text "latest") (.text "unknown_fallback")

/-- Installs the latest version where there is none at all. -/
def bootstrap (tools : Toolchain) : Value × List Action :=
  let latest := Value.text "latest"
  if tools.canInstall then
    (tools.reported.getD (.text "installation_failed"), [.install latest, .select latest])
  else (.text "installation_failed", [.install latest])

/-- Chooses the version to use. -/
def prepare (tools : Toolchain) (settings : CompilerSettings) : Value × List Action :=
  match tools.installed with
  | .ok installed => tools.choose settings installed
  | .error .nothingInstalled => tools.bootstrap
  | .error .other => (.text "setup_error", [])

end Toolchain

/-- Chooses the version to use. -/
def Compiler.prepare (compiler : Compiler) (settings : CompilerSettings) : Prepared :=
  match compiler with
  | .missing => ⟨compiler, settings, .text "mock", []⟩
  | .present tools =>
    let (active, actions) := tools.prepare settings
    ⟨compiler, settings, active, actions⟩

/-- The name of a contract in the compiler's answer: what follows the first colon. -/
def contractName (key : String) : String :=
  match Text.find? ':' key.toList with
  | some position => String.ofList (key.toList.drop (position + 1))
  | none => key

/-- The value if it counts as present, else an empty object. -/
def orEmpty (v : Value) : Value := if v.truthy then v else .object []

/-- The syntax tree of a contract: its own, or else the one of the whole answer. -/
def treeOf (answer data : Value) : Outcome Value := do
  if ← data.has "ast" then data.field "ast"
  else return orEmpty (← answer.get "ast")

def contractOf (answer : Value) (source key : String) (data : Value) : Outcome Contract := do
  let tree ← treeOf answer data
  return {
    name := contractName key
    source
    ast := orEmpty tree
    bytecode := ← data.get "bin"
    abi := ← data.get "abi"
    sourceMap := ← data.get "srcmap" }

/-- The contracts of an answer up to the first that cannot be read, and why it cannot. -/
def contractsOf (answer : Value) (source : String) :
    List (String × Value) → List Contract × Option Fault
  | [] => ([], none)
  | (key, data) :: rest =>
    match contractOf answer source key data with
    | .ok contract =>
      let (contracts, fault) := contractsOf answer source rest
      (contract :: contracts, fault)
    | .error fault => ([], some fault)

/-- The contracts of a compiler's answer, and what went wrong. -/
def readAnswer (answer : Outcome Value) (source : String) : List Contract × Option Fault :=
  match answer with
  | .error fault => ([], some fault)
  | .ok v =>
    match v.entries with
    | .ok entries => contractsOf v source entries
    | .error fault => ([], some fault)

/-- The errors and the warnings that a failure gives rise to. A complaint of the compiler that
does not mention an error is a warning. -/
def complaints : Option Fault → List String × List String
  | none => ([], [])
  | some (.compiler text) => if Text.contains text "Error:" then ([text], []) else ([], [text])
  | some fault => (["Parser error: " ++ fault.message], [])

namespace Prepared

def version (prepared : Prepared) : Value :=
  if prepared.active.truthy then prepared.active
  else if prepared.settings.version.truthy then prepared.settings.version
  else .text "unknown_fallback_fetch"

def unitOf (prepared : Prepared) (source file : String) : Solidity.Unit :=
  match prepared.compiler with
  | .missing =>
    { file, source, contracts := []
      errors := ["Solidity compiler not available"]
      warnings := ["Running in mock mode without actual compilation"]
      version := .text "mock" }
  | .present tools =>
    let (contracts, fault) := readAnswer (tools.answer (inForce prepared.actions) source) source
    let (errors, warnings) := complaints fault
    { file, source, contracts, errors, warnings, version := prepared.version }

def compile (prepared : Prepared) (source file : String) : Solidity.Unit × Prepared :=
  let unit := prepared.unitOf source file
  match prepared.compiler with
  | .missing => (unit, prepared)
  | .present _ => (unit, { prepared with actions := prepared.actions ++ [.compile unit] })

/-- Asking for a place in a syntax tree chooses a version once more, by default settings. -/
def locating (prepared : Prepared) : Prepared :=
  { prepared with actions := prepared.actions ++ (prepared.compiler.prepare {}).actions }

end Prepared

def Contract.toValue (c : Contract) : Value :=
  .object [
    ("name", .text c.name),
    ("source_code", .text c.source),
    ("ast", c.ast),
    ("bytecode", c.bytecode),
    ("abi", c.abi),
    ("source_map", c.sourceMap)]

/-- The document of a compiled file. -/
def Unit.toValue (unit : Unit) : Value :=
  .object [
    ("file_path", .text unit.file),
    ("source_code", .text unit.source),
    ("contracts", .list (unit.contracts.map Contract.toValue)),
    ("compilation_errors", .ofTexts unit.errors),
    ("warnings", .ofTexts unit.warnings),
    ("solc_version", unit.version)]

end ContractLint.Solidity
