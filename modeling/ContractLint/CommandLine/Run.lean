import ContractLint.Audit.Session
import ContractLint.CommandLine.Command
import ContractLint.ConfigFile

/-! # Running commands

A command line works on files and ends with an exit status, with what was printed, and with the
files as the command leaves them.
-/

namespace ContractLint.CommandLine

structure Ending where
  status : Nat
  output : String
  files : Files
  /-- The failure that ended it, if nobody reported it. -/
  fault : Option Fault

namespace Ending

def printed (status : Nat) (files : Files) (lines : List String) : Ending :=
  ⟨status, String.join (lines.map (· ++ "\n")), files, none⟩

/-- The end of a command line that makes no sense. -/
def misused (files : Files) : Ending := printed 2 files []

/-- A failure that nobody reported is reported on the last line. -/
def reported (ending : Ending) : Ending :=
  match ending.fault with
  | none => ending
  | some fault =>
    { ending with
      output := ending.output ++ "❌ Unexpected error: " ++ fault.message ++ "\n"
      fault := none }

end Ending

/-- Something is at a path; a path that ends in a slash leads to a directory. -/
def exists? (files : Files) (path : String) : Bool :=
  path ≠ "" && files.contains (.ofText path)
    && (!Text.endsWith path "/" || files.isDirectory (.ofText path))

/-! ## Commands -/

def analysisConfig (config : Config) (given : Given) : Config :=
  { config with
    minSeverity := .text ((given.get? "severity").getD "INFO")
    includeTestFiles := .bool (given.has "include-tests")
    output := { config.output with
      format := .text ((given.get? "format").getD "console")
      outputFile := .of (given.get? "output") } }

/-- The exit status for the numbers of findings of each severity: 2 if there are critical ones, 1 if
the worst are high. -/
def statusFor (severities : List (String × Nat)) : Nat :=
  let count (severity : Severity) : Nat := (severities.lookup severity.name).getD 0
  if 0 < count .critical then 2
  else if 0 < count .high then 1
  else 0

/-- The files after a report file was emptied to be written. -/
def emptied (files : Files) (given : Given) : Outcome Files :=
  match given.get? "output" with
  | none | some "" => pure files
  | some path => files.write (.ofText path) path ""

/-- Analyses a file or a directory. The report is the text that the result of the run has under
that name; a run that has none ends as a failed one does. -/
def analyze (config : Config) (compiler : Solidity.Compiler) (files : Files) (given : Given)
    (target : String) : Ending :=
  let start := "Starting analysis of: " ++ target
  let failed (files : Files) (fault : Fault) : Ending :=
    .printed 3 files [start, "❌ Error: " ++ fault.message]
  match ((Audit.Session.new (analysisConfig config given) compiler).run files target).1 with
  | .error fault => failed files fault
  | .ok result =>
    match emptied files given with
    | .error fault => failed files fault
    | .ok files =>
      match result.toValue.field "report" with
      | .error fault => failed files fault
      | .ok report =>
        .printed (statusFor result.statistics.severities) files [start, report.display]

def initConfig (files : Files) (given : Given) : Ending :=
  let path := (given.get? "output").getD Config.defaultFile
  match ({} : Config).save files (.ofText path) with
  | .error fault => .printed 1 files ["❌ Error creating configuration: " ++ fault.message]
  | .ok files =>
    .printed 0 files ["✅ Default configuration saved to: " ++ path,
      "Edit this file to customize your analysis settings."]

def detectorLines (kept : Detector.Instance) : List String :=
  let profile := kept.detector.profile
  ["", "🔍 " ++ profile.name,
    "   Status: " ++ (if kept.enabled.truthy then "✅ Enabled" else "❌ Disabled"),
    "   Description: " ++ profile.description,
    "   Targets: " ++ String.intercalate ", " profile.kinds]

def listDetectors (files : Files) : Ending :=
  let (detectors, _) := (Detector.Registry.new {}).all
  .printed 0 files (["📋 Available Detectors:", Text.repeated "=" 50]
    ++ detectors.flatMap detectorLines)

/-- Compiles a file by the default settings. The file passes if there is an account of it. -/
def validate (compiler : Solidity.Compiler) (files : Files) (path : String) : Ending :=
  let prepared := compiler.prepare {}
  match files.read (.ofText path) with
  | .error fault => .printed 1 files ["❌ Validation error: " ++ fault.message]
  | .ok source =>
    let start := "Validating: " ++ path
    let (unit, _) := prepared.compile source path
    if unit.truthy then .printed 0 files [start, "✅ Syntax validation passed"]
    else .printed 1 files [start, "❌ Syntax validation failed"]

/-! ## Command lines -/

def suits (command : Command) (files : Files) (given : Given) : Bool :=
  given.operands.length = command.operands && given.operands.all (exists? files)
    && Command.choices.all fun (name, values) => (given.get? name).all values.contains

def Command.run (command : Command) (config : Config) (compiler : Solidity.Compiler)
    (files : Files) (words : List String) : Ending :=
  match readWords command.flags true {} words with
  | none => .misused files
  | some given =>
    if given.has "help" then .printed 0 files command.help
    else if !suits command files given then .misused files
    else
      let path := given.operands.headD ""
      match command with
      | .analyze => CommandLine.analyze config compiler files given path
      | .initConfig => CommandLine.initConfig files given
      | .listDetectors => CommandLine.listDetectors files
      | .validate => CommandLine.validate compiler files path

/-- The configuration that the options before the command ask for. -/
def globalConfig (files : Files) (given : Given) : Outcome Config := do
  let config ← match given.get? "config" with
    | none | some "" => pure {}
    | some path => Config.load files (.ofText path)
  if given.has "verbose" then
    return { config with output := { config.output with verbose := .bool true } }
  return config

/-- Runs a command line. The command is known before the configuration is read, and its own
options are looked at after that. -/
def run (compiler : Solidity.Compiler) (files : Files) (words : List String) : Ending :=
  match readWords globalFlags false {} words with
  | none => .misused files
  | some given =>
    match given.options.find? fun option => option.1 = "version" || option.1 = "help" with
    | some ("version", _) => .printed 0 files ["cli, version 0.1.0"]
    | some _ => .printed 0 files overview
    | none =>
      if !(given.get? "config").all (exists? files) then .misused files
      else match given.operands with
        | [] => .misused files
        | word :: words =>
          match Command.ofName? word, globalConfig files given with
          | none, _ => .misused files
          | some _, .error fault => ⟨1, "", files, some fault⟩
          | some command, .ok config => command.run config compiler files words

end ContractLint.CommandLine
