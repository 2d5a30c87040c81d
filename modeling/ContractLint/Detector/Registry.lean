import ContractLint.Detector.AccessControl
import ContractLint.Detector.Textual
import ContractLint.Detector.UncheckedCall

/-! # The registry of detectors

Detectors are registered under names. The registry creates a detector when it is first asked for,
keeps it, and answers later questions with the one it keeps. What a detector may do depends on the
configuration, which the registry owns.
-/

namespace ContractLint

inductive Detector where
  | textual
  | reentrancy
  | accessControl
  | uncheckedCall
deriving DecidableEq, Repr, Inhabited

namespace Detector

def builtin : List Detector := [textual, reentrancy, accessControl, uncheckedCall]

def profile : Detector → Profile
  | textual => Textual.profile
  | reentrancy => Reentrancy.profile
  | accessControl => AccessControl.profile
  | uncheckedCall => UncheckedCall.profile

def detect : Detector → DetectorSettings → Solidity.Unit → Outcome (List Finding)
  | textual => Textual.detect
  | reentrancy => Reentrancy.detect
  | accessControl => AccessControl.detect
  | uncheckedCall => UncheckedCall.detect

/-- The detector asks for a place of a syntax tree in the source of a compiled file, whether or not
it fails afterwards. -/
def asksPlace (detector : Detector) (unit : Solidity.Unit) : Bool :=
  let asks := match detector with
    | textual => pure false
    | reentrancy => Reentrancy.asksPlace unit
    | accessControl => AccessControl.asksPlace unit
    | uncheckedCall => UncheckedCall.asksPlace unit
  match asks with
  | .ok asked => asked
  | .error _ => false

def ofName? (name : String) : Option Detector :=
  builtin.find? fun detector => detector.profile.name == name

/-- What can be registered under a name. -/
inductive Plugin where
  | concrete (detector : Detector)
  /-- The outline of a detector, which cannot be created. -/
  | outline
  /-- Something that is no detector. -/
  | foreign (description : String)
deriving DecidableEq, Repr, Inhabited

structure Instance where
  detector : Detector
  enabled : Value
  settings : DetectorSettings

structure Registry where
  config : Config
  /-- What is registered, by name. -/
  plugins : List (String × Plugin)
  /-- The detectors created so far, by name. -/
  instances : List (String × Instance)

namespace Registry

def new (config : Config) : Registry :=
  ⟨config, builtin.map fun detector => (detector.profile.name, .concrete detector), []⟩

/-- Registers a detector under a name; the last registration of a name counts. -/
def register (registry : Registry) (name : String) (plugin : Plugin) : Outcome Registry :=
  match plugin with
  | .foreign description =>
    throw (.invalid ("Detector class must inherit from BaseDetector: " ++ description))
  | _ => pure { registry with plugins := Entries.put registry.plugins name plugin }

def names (registry : Registry) : List String := registry.plugins.map Prod.fst

/-- The detector of a name, which is created when it is first asked for. There is none if the name
is unknown, switched off, or stands for an outline. -/
def create (registry : Registry) (name : String) : Option Instance × Registry :=
  match registry.plugins.lookup name with
  | none => (none, registry)
  | some plugin =>
    if !(registry.config.detectorEnabled name).truthy then (none, registry)
    else match registry.instances.lookup name with
      | some kept => (some kept, registry)
      | none =>
        match plugin with
        | .concrete detector =>
          let settings := registry.config.detector name
          let made : Instance := ⟨detector, settings.enabled, settings⟩
          (some made, { registry with instances := Entries.put registry.instances name made })
        | _ => (none, registry)

/-- The detectors of the given names that take part in analyses. -/
def enabledFrom (registry : Registry) : List String → List Instance × Registry
  | [] => ([], registry)
  | name :: rest =>
    let (made, registry) := registry.create name
    let (others, registry) := enabledFrom registry rest
    match made with
    | some kept => (if kept.enabled.truthy then kept :: others else others, registry)
    | none => (others, registry)

/-- The detectors that take part in analyses. -/
def enabled (registry : Registry) : List Instance × Registry :=
  registry.enabledFrom registry.names

/-- The detector of a name whether or not it is switched on, marked by what the configuration said
about it; afterwards the configuration mentions it. -/
def reveal (registry : Registry) (name : String) : Option Instance × Registry :=
  let before := registry.config.detectorEnabled name
  let settings := registry.config.detector name
  let opened := { registry with
    config := registry.config.setDetector name { settings with enabled := .bool true } }
  let (made, after) := opened.create name
  let marked := made.map fun kept => { kept with enabled := before }
  let instances :=
    match marked with
    | some kept => Entries.put after.instances name kept
    | none => after.instances
  let config :=
    after.config.setDetector name { settings with enabled := .bool before.truthy }
  (marked, { after with config, instances })

/-- The detectors of the given names, switched on or off. -/
def revealAll (registry : Registry) : List String → List Instance × Registry
  | [] => ([], registry)
  | name :: rest =>
    let (made, registry) := registry.reveal name
    let (others, registry) := revealAll registry rest
    (made.toList ++ others, registry)

/-- All detectors, switched on or off. -/
def all (registry : Registry) : List Instance × Registry := registry.revealAll registry.names

/-- The detectors taking part that can find a class of weakness. -/
def ofKind (registry : Registry) (kind : Value) : List Instance × Registry :=
  let (found, registry) := registry.enabled
  (found.filter fun kept => kind.isOneOf kept.detector.profile.kinds, registry)

def validate (registry : Registry) : List String :=
  let unknown := registry.config.detectors.filterMap fun (name, _) =>
    if registry.names.contains name then none
    else some ("Unknown detector in configuration: " ++ name)
  let invalid := registry.config.detectors.filterMap fun (name, settings) =>
    if settings.severityOverride.truthy
        && !settings.severityOverride.isOneOf (Severity.all.map Severity.name) then
      some ("Invalid severity override for " ++ name ++ ": " ++ settings.severityOverride.display)
    else none
  unknown ++ invalid

/-- How many detectors there are, and how many classes of weaknesses they cover. -/
structure Statistics where
  total : Nat
  enabled : Nat
  /-- The classes of weaknesses. -/
  kinds : Nat
deriving DecidableEq, Repr

def Statistics.toValue (s : Statistics) : Value :=
  .object [
    ("total_detectors", .int s.total),
    ("enabled_detectors", .int s.enabled),
    ("disabled_detectors", .int (s.total - s.enabled : Nat)),
    ("vulnerability_types_covered", .int s.kinds)]

/-- Counts the detectors. -/
def statistics (registry : Registry) : Statistics × Registry :=
  let (found, registry) := registry.all
  let kinds := (found.flatMap fun kept => kept.detector.profile.kinds).eraseDups
  (⟨found.length, found.countP fun kept => kept.enabled.truthy, kinds.length⟩, registry)

end Registry

def Instance.detect (kept : Instance) (unit : Solidity.Unit) : Outcome (List Finding) :=
  kept.detector.detect kept.settings unit

def Instance.toValue (kept : Instance) : Value :=
  let profile := kept.detector.profile
  .object [
    ("name", .text profile.name),
    ("enabled", kept.enabled),
    ("severity", .text profile.severity.name),
    ("description", .text profile.description),
    ("types", .ofTexts profile.kinds)]

end Detector

end ContractLint
