import ContractLint.Detector.Registry
import ContractLint.Script

/-! # Scripts about the registry of detectors

Detectors are registered, configured and looked at step by step.
-/

namespace ContractLint.Detector

instance : ToValue Instance := ⟨Instance.toValue⟩

/-- The draft of a finding at a place, given by named parts. -/
def Draft.ofValue (place named : Value) : Outcome Draft := do
  let location ← Finding.locationOf place
  let severity ← match ← named.get "severity" with
    | .null => pure none
    | v => some <$> Severity.ofValue v
  return {
    title := ← named.need "title"
    description := ← named.need "description"
    location
    kind := ← named.need "vulnerability_type"
    confidence := ← named.getOr "confidence" (.real 1.0)
    severity
    snippet := ← named.maybe "code_snippet" none
    recommendation := ← named.maybe "recommendation" none
    references := ← named.get "references"
    metadata := ← named.get "metadata" }

def instanceNames (list : List Instance) : Value :=
  .ofTexts (list.map fun kept => kept.detector.profile.name)

def Plugin.ofName (name : String) : Outcome Plugin :=
  match ofName? name with
  | some detector => pure (.concrete detector)
  | none => throw (.missingKey (.text name))

/-- Steps about a registry; `special` names what is registered besides detectors. -/
def Registry.steps (special : List (String × Plugin)) : Steps Registry := [
  ("list", .ask Registry.names),
  ("enabled", .turn fun r : Registry => r.enabled.map instanceNames id),
  ("all", .turn fun r : Registry => r.all),
  ("get", .turn fun (r : Registry) (v : Value) => do
    match v with
    | .text name => return (r.create name)
    | v => v.hashable; return (none, r)),
  ("by_type", .turn fun (r : Registry) (kind : Value) => (r.ofKind kind).map instanceNames id),
  ("validate", .ask fun r : Registry => r.validate),
  ("stats", .turn fun r : Registry => r.statistics.map Registry.Statistics.toValue id),
  ("set_config", .turn fun (r : Registry) (name : String) (v : Value) => do
    let config := r.config.setDetector name (← DetectorSettings.ofParts v.parts)
    return (Value.null, { r with config })),
  ("register", .turn fun (r : Registry) (name what : String) => do
    let plugin ← match special.lookup what with
      | some plugin => pure plugin
      | none => Plugin.ofName what
    return (Value.null, ← r.register name plugin))]

/-- Whether each mentioned detector takes part, and the severity of its findings. -/
def Registry.switches (r : Registry) : Value :=
  .object (r.config.detectors.map fun (name, settings) =>
    (name, .list [settings.enabled, settings.severityOverride]))

end ContractLint.Detector
