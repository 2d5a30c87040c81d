import ContractLint.CommandLine.Options

/-! # Commands

What can be asked for on the command line, with the options of each command and its help page.
-/

namespace ContractLint.CommandLine

inductive Command where
  /-- Reports what is found in a file or directory. -/
  | analyze
  | initConfig
  | listDetectors
  /-- Checks a file without looking for anything. -/
  | validate
deriving DecidableEq

/-- The help page on the command line as a whole. -/
def overview : List String := [
  "Usage: cli [OPTIONS] COMMAND [ARGS]...",
  "",
  "  ContractQuard Static Analyzer MVP",
  "",
  "  AI-augmented smart contract security analysis tool by QuantLink.",
  "",
  "Options:",
  "  --version          Show the version and exit.",
  "  -c, --config PATH  Path to configuration file",
  "  -v, --verbose      Enable verbose output",
  "  --help             Show this message and exit.",
  "",
  "Commands:",
  "  analyze         Analyze Solidity smart contract files for security...",
  "  init-config     Generate a default configuration file.",
  "  list-detectors  List all available vulnerability detectors.",
  "  validate        Validate Solidity syntax without running security..."]

def helpFlag : Flag := ⟨"help", none, false⟩

/-- The options before the command. -/
def globalFlags : List Flag :=
  [⟨"version", none, false⟩, ⟨"config", some 'c', true⟩, ⟨"verbose", some 'v', false⟩, helpFlag]

namespace Command

def all : List Command := [analyze, initConfig, listDetectors, validate]

def name : Command → String
  | analyze => "analyze"
  | initConfig => "init-config"
  | listDetectors => "list-detectors"
  | validate => "validate"

def ofName? (word : String) : Option Command := all.find? fun command => command.name = word

def flags : Command → List Flag
  | analyze => [⟨"output", some 'o', true⟩, ⟨"format", some 'f', true⟩,
      ⟨"severity", some 's', true⟩, ⟨"recursive", some 'r', false⟩,
      ⟨"include-tests", none, false⟩, helpFlag]
  | initConfig => [⟨"output", some 'o', true⟩, helpFlag]
  | listDetectors | validate => [helpFlag]

/-- The values that an option may have, where they are limited. -/
def choices : List (String × List String) := [
  ("format", ["console", "json", "html", "markdown"]),
  ("severity", ["CRITICAL", "HIGH", "MEDIUM", "LOW", "INFO"])]

/-- The number of operands of a command, each the path of something that exists. -/
def operands : Command → Nat
  | analyze | validate => 1
  | initConfig | listDetectors => 0

def help : Command → List String
  | analyze => [
    "Usage: cli analyze [OPTIONS] TARGET",
    "",
    "  Analyze Solidity smart contract files for security vulnerabilities.",
    "",
    "  TARGET can be a single .sol file or a directory containing Solidity files.",
    "",
    "Options:",
    "  -o, --output PATH               Output file path (default: stdout)",
    "  -f, --format [console|json|html|markdown]",
    "                                  Output format",
    "  -s, --severity [CRITICAL|HIGH|MEDIUM|LOW|INFO]",
    "                                  Minimum severity level to report",
    "  -r, --recursive                 Recursively analyze subdirectories",
    "  --include-tests                 Include test files in analysis",
    "  --help                          Show this message and exit."]
  | initConfig => [
    "Usage: cli init-config [OPTIONS]",
    "",
    "  Generate a default configuration file.",
    "",
    "Options:",
    "  -o, --output PATH  Output configuration file path",
    "  --help             Show this message and exit."]
  | listDetectors => [
    "Usage: cli list-detectors [OPTIONS]",
    "",
    "  List all available vulnerability detectors.",
    "",
    "Options:",
    "  --help  Show this message and exit."]
  | validate => [
    "Usage: cli validate [OPTIONS] FILE_PATH",
    "",
    "  Validate Solidity syntax without running security analysis.",
    "",
    "Options:",
    "  --help  Show this message and exit."]

end Command

end ContractLint.CommandLine
