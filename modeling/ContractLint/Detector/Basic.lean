import ContractLint.Config
import ContractLint.Excerpt
import ContractLint.Finding

/-! # What detectors have in common

A detector is described by its profile. It hands in drafts of findings; `Profile.report` completes
them with the detector's name and severity, which the settings may override.
-/

namespace ContractLint.Detector

/-- The description of a detector. -/
structure Profile where
  name : String
  /-- What the detector looks for. -/
  description : String
  /-- The classes of weaknesses it can find. -/
  kinds : List String
  severity : Severity
deriving Inhabited

/-- A finding before the detector has put its name and severity on it. -/
structure Draft where
  title : String
  description : String
  location : Location
  kind : String
  confidence : Value := .real 1.0
  severity : Option Severity := none
  snippet : Option String := none
  recommendation : Option String := none
  references : Value := .list []
  metadata : Value := .object []
deriving Inhabited

/-- The severity of a finding: the one the settings demand, else the finding's own, else the
detector's. -/
def Profile.severityOf (profile : Profile) (settings : DetectorSettings) (own : Option Severity) : Outcome Severity :=
  if settings.severityOverride.truthy then Severity.ofValue settings.severityOverride
  else pure (own.getD profile.severity)

def Profile.report (profile : Profile) (settings : DetectorSettings) (draft : Draft) : Outcome Finding := do
  let severity ← profile.severityOf settings draft.severity
  let finding : Finding := {
    id := ""
    title := draft.title
    description := draft.description
    severity := severity
    location := some draft.location
    kind := draft.kind
    confidence := draft.confidence
    snippet := draft.snippet
    recommendation := draft.recommendation
    references := if draft.references.truthy then draft.references else .list []
    metadata := if draft.metadata.truthy then draft.metadata else .object []
    detector := profile.name
    timestamp := none }
  return finding.identified

/-- The lines from `first` to `last`, which are marked, with `context` lines around them. -/
def snippet (source : String) (first : Int) (last : Option Int) (context : Int) : String :=
  Excerpt.ofLines (Text.splitNewlines source) first (last.getD first) context

def customParam (settings : DetectorSettings) (name : String) (default : Value) : Outcome Value :=
  settings.customParams.getOr name default

end ContractLint.Detector
