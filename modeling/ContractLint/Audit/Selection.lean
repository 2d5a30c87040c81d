import ContractLint.Config
import ContractLint.Finding
import ContractLint.Path
import ContractLint.Text.Case

/-! # Selecting files and findings

The configuration says which files are analysed and which findings are reported.
-/

namespace ContractLint.Audit

/-- A pattern of files to leave out stands in a name. The pattern is taken literally, stars and
all, and the case of letters does not matter. -/
def isExcluded (config : Config) (name : String) : Outcome Bool := do
  (← config.excludePatterns.elements).anyM fun pattern => do
    return Text.contains (Text.lower name) (Text.lower (← pattern.textFor "lower"))

def isIncluded (config : Config) (path : Path) : Outcome Bool := do
  (← config.includePatterns.elements).anyM fun pattern => do path.fits (← pattern.asText)

def keepsFile (config : Config) (path : Path) : Outcome Bool := do
  if (← isExcluded config path.name) && !config.includeTestFiles.truthy then return false
  isIncluded config path

/-- The files that are analysed, in their order. -/
def filterFiles (config : Config) (paths : List Path) : Outcome (List Path) :=
  paths.filterM (keepsFile config)

/-- The finding is reported: it is at least as grave as the least severity, and its severity is not
among those left out. -/
def keepsFinding (config : Config) (least : Severity) (f : Finding) : Outcome Bool := do
  if least.rank < f.severity.rank then return false
  return !(← config.excludeSeverities.has f.severity.name)

/-- The findings that are reported, in their order. -/
def filterFindings (config : Config) (findings : List Finding) : Outcome (List Finding) := do
  let least ← Severity.ofValue config.minSeverity
  findings.filterM (keepsFinding config least)

end ContractLint.Audit
