import ContractLint.Audit.Selection
import ContractLint.Audit.Statistics
import ContractLint.Detector.Registry
import ContractLint.Files
import ContractLint.Solidity.Compiler

/-! # Analysing files and directories

A session compiles files and shows them to the detectors, one file after the other. It keeps the
detectors and remembers what was done with the compiler.
-/

namespace ContractLint.Audit

/-- What is kept between files. -/
structure Session where
  config : Config
  compiler : Solidity.Prepared
  registry : Detector.Registry

namespace Session

def new (config : Config) (compiler : Solidity.Compiler) : Session :=
  ⟨config, compiler.prepare config.compiler, .new config⟩

def compile (s : Session) (source file : String) : Solidity.Unit × Session :=
  let (unit, compiler) := s.compiler.compile source file
  (unit, { s with compiler })

def afterAsking (s : Session) (detector : Detector) (unit : Solidity.Unit) : Session :=
  if detector.asksPlace unit then { s with compiler := s.compiler.locating } else s

/-- Shows a compiled file to detectors until one of them fails. -/
def runDetectors (s : Session) (unit : Solidity.Unit) (found : List Finding) :
    List Detector.Instance → List Finding × Option Fault × Session
  | [] => (found, none, s)
  | kept :: rest =>
    let s := s.afterAsking kept.detector unit
    match kept.detect unit with
    | .error fault => (found, some fault, s)
    | .ok more => s.runDetectors unit (found ++ more) rest

def inspect (s : Session) (unit : Solidity.Unit) : List Finding × Option Fault × Session :=
  let (instances, registry) := s.registry.enabled
  { s with registry }.runDetectors unit [] instances

/-! ## One file at a time -/

def failure (file : String) (severity : Severity) (kind description : String) : Finding :=
  ({ id := "", title := "Analysis Error", description, severity
     location := some (.line file 1), kind, confidence := .real 1.0, snippet := none
     recommendation := none, references := .list [], metadata := .object []
     detector := "analyzer", timestamp := none } : Finding).identified

/-- The size of a file does not exceed the limit. -/
def checkSize (s : Session) (files : Files) (path : Path) : Outcome Unit := do
  let megabytes := Float.ofNat (files.sizeOf path) / 1048576
  let limit := s.config.maxFileSizeMb
  if limit.asNumber?.isNone then throw (.notOrdered ">" "float" limit.kindName)
  if ← Value.less ">" limit (.real megabytes) then
    throw (.invalid ("File too large: " ++ Number.fixedText 1 megabytes ++ "MB > "
      ++ limit.display ++ "MB"))

/-- The findings in a file, or the failure to find them. -/
def findings (s : Session) (files : Files) (path : Path) : Outcome (List Finding) × Session :=
  match files.read path with
  | .error fault => (throw fault, s)
  | .ok source =>
    let (unit, s) := s.compile source path.text
    match s.inspect unit with
    | (_, some fault, s) => (throw fault, s)
    | (found, none, s) => (filterFindings s.config found, s)

/-- Analyses a file. Once it is clear that it is a file of the right kind and size, a failure
becomes a finding, which is reported whatever the settings say. -/
def analyzeFile (s : Session) (files : Files) (target : Path) : Outcome (List Finding) × Session :=
  let path := Files.resolve target
  if !files.contains path then (throw (.absent ("File not found: " ++ path.text)), s)
  else if path.suffix ≠ ".sol" then (throw (.invalid ("Not a Solidity file: " ++ path.text)), s)
  else match s.checkSize files path with
    | .error fault => (throw fault, s)
    | .ok _ =>
      match s.findings files path with
      | (.ok found, s) => (pure found, s)
      | (.error fault, s) =>
        (pure [failure path.text .info "analysis_error"
          ("Failed to analyze file: " ++ fault.message)], s)

/-- Analyses files one after the other; those that cannot be analysed are skipped. -/
def analyzeEach (s : Session) (files : Files) : List Path → List Finding × Session
  | [] => ([], s)
  | path :: rest =>
    let (outcome, s) := s.analyzeFile files path
    let (others, s) := s.analyzeEach files rest
    ((match outcome with | .ok found => found | .error _ => []) ++ others, s)

def analyzeDirectory (s : Session) (files : Files) (target : Path) (deep : Bool) : Outcome (List Finding) × Session :=
  let path := Files.resolve target
  if !files.contains path then (throw (.absent ("Directory not found: " ++ path.text)), s)
  else if !files.isDirectory path then
    (throw (.invalid ("Not a directory: " ++ path.text)), s)
  else match filterFiles s.config (files.search path deep "*.sol") with
    | .error fault => (throw fault, s)
    | .ok paths =>
      let (found, s) := s.analyzeEach files paths
      (pure found, s)

/-! ## Full runs -/

def compileError (file description : String) : Finding :=
  { failure file .critical "compilation_error" description with
    id := "", title := "Compilation Error", detector := "parser" }.identified

/-- What a full run finds in a file: complaints of the compiler, then the findings of the
detectors, then the failure of one of them. The version of the compiler is known if the file could
be read. -/
def runFile (s : Session) (files : Files) (path : Path) : List Finding × Option Value × Session :=
  let failed (fault : Fault) : Finding :=
    failure path.text .critical "analyzer_error" fault.message
  match files.read path with
  | .error fault => ([failed fault], none, s)
  | .ok source =>
    let (unit, s) := s.compile source path.text
    let (found, fault, s) := s.inspect unit
    (unit.errors.map (compileError path.text) ++ found ++ fault.toList.map failed,
      some unit.version, s)

def runEach (s : Session) (files : Files) : List Path → List Finding × Session
  | [] => ([], s)
  | path :: rest =>
    let (found, _, s) := s.runFile files path
    let (others, s) := s.runEach files rest
    (found ++ others, s)

def targets (s : Session) (files : Files) (directory : Path) : Outcome (List Path) :=
  filterFiles s.config (files.search directory s.config.output.verbose.truthy "*.sol")

/-- The result of a full run. -/
structure Report where
  findings : List Finding
  statistics : Statistics

def byFile (findings : List Finding) : List Finding :=
  let file (f : Finding) : String := (f.location.map Location.file).getD ""
  findings.mergeSort fun f g => decide (file f ≤ file g)

/-- The document of a result, findings in the order of their files. -/
def Report.toValue (r : Report) : Value :=
  .object [("findings", .of (byFile r.findings)), ("statistics", r.statistics.toValue)]

def conclude (s : Session) (version : Value) (found : List Finding) : Outcome Report := do
  let kept ← filterFindings s.config found
  return ⟨kept, ← Audit.statistics version kept⟩

/-- A full run over a file or a directory. -/
def run (s : Session) (files : Files) (target : String) : Outcome Report × Session :=
  let path := Path.ofText target
  if (files.file? path).isSome then
    let (found, version, s) := s.runFile files path
    (s.conclude (version.getD (.text "unknown")) found, s)
  else if files.isDirectory path then
    match s.targets files path with
    | .error fault => (throw fault, s)
    | .ok paths =>
      let (found, s) := s.runEach files paths
      (s.conclude s.compiler.version found, s)
  else (throw (.invalid ("Invalid target path: " ++ target)), s)

/-- Full runs over several targets, one after the other. -/
def runAll (s : Session) (files : Files) : List String → List (Outcome Report)
  | [] => []
  | target :: rest =>
    let (outcome, s) := s.run files target
    outcome :: s.runAll files rest

end Session

end ContractLint.Audit
