import ContractLint.Document.Access

/-! # Configuration

The settings of an analysis. A setting keeps the value that a configuration document gives it,
whatever its type, and has its default only where the document does not mention it.
-/

namespace ContractLint

structure DetectorSettings where
  enabled : Value := .bool true
  /-- The severity of all its findings, or null. -/
  severityOverride : Value := .null
  customParams : Value := .object []
deriving BEq, Inhabited

structure OutputSettings where
  format : Value := .text "console"
  /-- The file to write to, or null. -/
  outputFile : Value := .null
  /-- Reports show the lines concerned. -/
  includeSnippets : Value := .bool true
  maxSnippetLines : Value := .int 5
  colorOutput : Value := .bool true
  /-- Reports and searches go into detail. -/
  verbose : Value := .bool false
deriving BEq, Inhabited

structure CompilerSettings where
  /-- The version to use, or null for the newest. -/
  version : Value := .null
  optimize : Value := .bool false
  /-- How often deployed code is expected to run. -/
  optimizeRuns : Value := .int 200
  evmVersion : Value := .null
  /-- Directories that imports may come from. -/
  allowPaths : Value := .list []
deriving BEq, Inhabited

/-- The settings of an analysis. -/
structure Config where
  maxFileSizeMb : Value := .int 10
  timeoutSeconds : Value := .int 300
  /-- Files that the exclusion patterns name are analysed too. -/
  includeTestFiles : Value := .bool false
  minSeverity : Value := .text "INFO"
  excludeSeverities : Value := .list []
  /-- Names of files to analyse. -/
  includePatterns : Value := .list [.text "*.sol"]
  /-- Names of files to leave out. -/
  excludePatterns : Value := .list [.text "*test*", .text "*mock*"]
  detectors : List (String × DetectorSettings) := []
  output : OutputSettings := {}
  compiler : CompilerSettings := {}
deriving BEq, Inhabited

namespace DetectorSettings

/-- The settings that a document gives, with defaults for the others. -/
def ofValue (v : Value) : Outcome DetectorSettings := do
  return ⟨← v.getOr "enabled" (.bool true), ← v.get "severity_override",
    ← v.getOr "custom_params" (.object [])⟩

/-- The settings made from named parts, of which none may be unknown. -/
def ofParts (parts : List (String × Value)) : Outcome DetectorSettings :=
  parts.foldlM (fun settings part =>
    match part.1 with
    | "enabled" => pure { settings with enabled := part.2 }
    | "severity_override" => pure { settings with severityOverride := part.2 }
    | "custom_params" => pure { settings with customParams := part.2 }
    | name => throw (.unknownPart "DetectorConfig" name)) {}

def toValue (settings : DetectorSettings) : Value :=
  .object [
    ("enabled", settings.enabled),
    ("severity_override", settings.severityOverride),
    ("custom_params", settings.customParams)]

end DetectorSettings

namespace OutputSettings

/-- The settings that a document gives, with defaults for the others. -/
def ofValue (v : Value) : Outcome OutputSettings := do
  return ⟨← v.getOr "format" (.text "console"), ← v.get "output_file",
    ← v.getOr "include_code_snippets" (.bool true), ← v.getOr "max_snippet_lines" (.int 5),
    ← v.getOr "color_output" (.bool true), ← v.getOr "verbose" (.bool false)⟩

/-- The settings made from named parts, of which none may be unknown. -/
def ofParts (parts : List (String × Value)) : Outcome OutputSettings :=
  parts.foldlM (fun settings part =>
    match part.1 with
    | "format" => pure { settings with format := part.2 }
    | "output_file" => pure { settings with outputFile := part.2 }
    | "include_code_snippets" => pure { settings with includeSnippets := part.2 }
    | "max_snippet_lines" => pure { settings with maxSnippetLines := part.2 }
    | "color_output" => pure { settings with colorOutput := part.2 }
    | "verbose" => pure { settings with verbose := part.2 }
    | name => throw (.unknownPart "OutputConfig" name)) {}

def toValue (settings : OutputSettings) : Value :=
  .object [
    ("format", settings.format),
    ("output_file", settings.outputFile),
    ("include_code_snippets", settings.includeSnippets),
    ("max_snippet_lines", settings.maxSnippetLines),
    ("color_output", settings.colorOutput),
    ("verbose", settings.verbose)]

end OutputSettings

namespace CompilerSettings

/-- The settings that a document gives, with defaults for the others. -/
def ofValue (v : Value) : Outcome CompilerSettings := do
  return ⟨← v.get "version", ← v.getOr "optimize" (.bool false),
    ← v.getOr "optimize_runs" (.int 200), ← v.get "evm_version",
    ← v.getOr "allow_paths" (.list [])⟩

/-- The settings made from named parts, of which none may be unknown. -/
def ofParts (parts : List (String × Value)) : Outcome CompilerSettings :=
  parts.foldlM (fun settings part =>
    match part.1 with
    | "version" => pure { settings with version := part.2 }
    | "optimize" => pure { settings with optimize := part.2 }
    | "optimize_runs" => pure { settings with optimizeRuns := part.2 }
    | "evm_version" => pure { settings with evmVersion := part.2 }
    | "allow_paths" => pure { settings with allowPaths := part.2 }
    | name => throw (.unknownPart "SolcConfig" name)) {}

def toValue (settings : CompilerSettings) : Value :=
  .object [
    ("version", settings.version),
    ("optimize", settings.optimize),
    ("optimize_runs", settings.optimizeRuns),
    ("evm_version", settings.evmVersion),
    ("allow_paths", settings.allowPaths)]

end CompilerSettings

namespace Config

/-- The setting of a document, or the default where the document does not mention it. -/
def setting (v : Value) (key : String) (default : Value) : Outcome Value := do
  if ← v.has key then v.field key else return default

def detectorsOf (v : Value) : Outcome (List (String × DetectorSettings)) := do
  if ← v.has "detectors" then
    (← (← v.field "detectors").entries).mapM fun (name, settings) =>
      return (name, ← DetectorSettings.ofValue settings)
  else return []

def ofValue (v : Value) : Outcome Config := do
  let base : Config := {}
  let maxFileSizeMb ← setting v "max_file_size_mb" base.maxFileSizeMb
  let timeoutSeconds ← setting v "timeout_seconds" base.timeoutSeconds
  let includeTestFiles ← setting v "include_test_files" base.includeTestFiles
  let minSeverity ← setting v "min_severity" base.minSeverity
  let excludeSeverities ← setting v "exclude_severities" base.excludeSeverities
  let includePatterns ← setting v "include_patterns" base.includePatterns
  let excludePatterns ← setting v "exclude_patterns" base.excludePatterns
  let detectors ← detectorsOf v
  let output ←
    if ← v.has "output" then OutputSettings.ofValue (← v.field "output") else pure base.output
  let compiler ←
    if ← v.has "solc" then CompilerSettings.ofValue (← v.field "solc") else pure base.compiler
  return { maxFileSizeMb, timeoutSeconds, includeTestFiles, minSeverity, excludeSeverities,
           includePatterns, excludePatterns, detectors, output, compiler }

def toValue (config : Config) : Value :=
  .object [
    ("max_file_size_mb", config.maxFileSizeMb),
    ("timeout_seconds", config.timeoutSeconds),
    ("include_test_files", config.includeTestFiles),
    ("min_severity", config.minSeverity),
    ("exclude_severities", config.excludeSeverities),
    ("include_patterns", config.includePatterns),
    ("exclude_patterns", config.excludePatterns),
    ("detectors", .object (config.detectors.map fun (name, settings) => (name, settings.toValue))),
    ("output", config.output.toValue),
    ("solc", config.compiler.toValue)]

/-- The settings of a detector; a detector that is not mentioned has the defaults. -/
def detector (config : Config) (name : String) : DetectorSettings :=
  (config.detectors.lookup name).getD {}

/-- Whether a detector takes part; one that is not mentioned does. -/
def detectorEnabled (config : Config) (name : String) : Value :=
  match config.detectors.lookup name with
  | some settings => settings.enabled
  | none => .bool true

/-- Replaces the settings of a detector, or adds them at the end. -/
def setDetector (config : Config) (name : String) (settings : DetectorSettings) : Config :=
  { config with detectors := Entries.put config.detectors name settings }

/-- The name of the configuration file that is looked for when none is given. -/
def defaultFile : String := "contractquard.yaml"

end Config

end ContractLint
