import ContractLint.Proofs.Detector.Query
import ContractLint.Proofs.Outcome

/-! # Findings under a severity that the settings demand

All findings of a detector are completed in one place, where the severity that the settings demand takes the place of
any other. So a detector whose settings demand a severity that there is finds what it finds without that demand, with
another severity, and fails where it fails without it. A registry whose configuration gives no cause for complaint has
no detectors with other demands.
-/

namespace ContractLint

variable {r : Registry} {settings : DetectorSettings}

/-- The settings without a demand for a severity. -/
def DetectorSettings.undemanding (settings : DetectorSettings) : DetectorSettings :=
  { settings with severityOverride := .null }

def Finding.graded (severity : Severity) (f : Finding) : Finding := { f with severity }

namespace Detector

open Outcome

/-! ## One change to every finding -/

section Changed

variable {settings other : DetectorSettings} {change : Finding → Finding}
  (changes : ∀ (profile : Profile) draft, profile.report settings draft = change <$> profile.report other draft)

include changes

private theorem Textual.detect_changed (unit : Solidity.Unit) :
    Textual.detect settings unit = List.map change <$> Textual.detect other unit := by
  have onLine (pattern : Pattern) (a : Textual.Advice) (line : Nat × String) :
      Textual.onLine settings pattern a unit.source unit.file line =
        List.map change <$> Textual.onLine other pattern a unit.source unit.file line := by
    unfold Textual.onLine
    split
    next => rfl
    next => exact mapM_changed (fun found => changes Textual.profile _) _
  have found := mapM_changed (fun rule : Pattern × Textual.Advice =>
    mapM_changed (onLine rule.1 rule.2) (Excerpt.numbered (Text.splitNewlines unit.source))) Textual.rules
  rw [Textual.detect, Textual.detectWith, found, Textual.detect, Textual.detectWith]
  generalize (Textual.rules.mapM _ : Outcome (List (List (List Finding)))) = outcome
  cases outcome with
  | error fault => rfl
  | ok lists => exact congrArg Except.ok (by simp [List.map_flatten, Function.comp_def])

private theorem Reentrancy.detect_changed (unit : Solidity.Unit) :
    Reentrancy.detect settings unit = List.map change <$> Reentrancy.detect other unit := by
  have report (function call changing : Value) :
      Reentrancy.report settings function unit.source unit.file call changing =
        change <$> Reentrancy.report other function unit.source unit.file call changing := by
    simp only [Reentrancy.report, map_bind, changes]
  have analyzeFunction (function : Value) :
      Reentrancy.analyzeFunction settings unit.source unit.file function =
        List.map change <$> Reentrancy.analyzeFunction other unit.source unit.file function := by
    rw [Reentrancy.analyzeFunction, Reentrancy.analyzeFunction, map_bind]
    refine bind_congr fun pairs => mapM_changed (fun pair => ?_) pairs
    obtain ⟨call, changing⟩ := pair
    exact report function call.node changing.node
  exact flatten_changed (fun tree => flatten_changed analyzeFunction (Solidity.functions tree)) _

private theorem AccessControl.detect_changed (unit : Solidity.Unit) :
    AccessControl.detect settings unit = List.map change <$> AccessControl.detect other unit := by
  have report (function : Value) (changesState privileged : Bool) :
      AccessControl.report settings function unit.source unit.file changesState privileged =
        change <$> AccessControl.report other function unit.source unit.file changesState privileged := by
    simp only [AccessControl.report, map_bind, changes]
  have analyzeFunction (guards : List String) (function : Value) :
      AccessControl.analyzeFunction settings guards unit.source unit.file function =
        List.map change <$> AccessControl.analyzeFunction other guards unit.source unit.file function := by
    rw [AccessControl.analyzeFunction, AccessControl.analyzeFunction, map_bind]
    refine bind_congr fun suspect => mapM_changed (fun does => ?_) suspect.toList
    obtain ⟨changesState, privileged⟩ := does
    exact report function changesState privileged
  refine flatten_changed (fun tree => ?_) _
  rw [AccessControl.analyzeTree, AccessControl.analyzeTree, map_bind]
  exact bind_congr fun guards => flatten_changed (analyzeFunction guards) (Solidity.functions tree)

private theorem UncheckedCall.detect_changed (unit : Solidity.Unit) :
    UncheckedCall.detect settings unit = List.map change <$> UncheckedCall.detect other unit := by
  have report (function call : Value) :
      UncheckedCall.report settings function unit.source unit.file call =
        change <$> UncheckedCall.report other function unit.source unit.file call := by
    simp only [UncheckedCall.report, map_bind, apply_ite (Functor.map change), changes]
  have analyzeFunction (function : Value) :
      UncheckedCall.analyzeFunction settings unit.source unit.file function =
        List.map change <$> UncheckedCall.analyzeFunction other unit.source unit.file function := by
    rw [UncheckedCall.analyzeFunction, UncheckedCall.analyzeFunction, map_bind]
    refine bind_congr fun calls => flatten_changed (fun placed => ?_) calls
    rw [map_bind]
    refine bind_congr fun ignored => ?_
    cases ignored with
    | false => rfl
    | true =>
      rw [if_pos rfl, if_pos rfl, report]
      cases UncheckedCall.report other function unit.source unit.file placed.2.call with
      | error fault => rfl
      | ok finding => rfl
  exact flatten_changed (fun tree => flatten_changed analyzeFunction (Solidity.functions tree)) _

/-- If settings change every finding in one way, they change all findings of a detector in that way and nothing else. -/
theorem detect_changed (detector : Detector) (unit : Solidity.Unit) :
    detector.detect settings unit = List.map change <$> detector.detect other unit := by
  cases detector with
  | textual => exact Textual.detect_changed changes unit
  | reentrancy => exact Reentrancy.detect_changed changes unit
  | accessControl => exact AccessControl.detect_changed changes unit
  | uncheckedCall => exact UncheckedCall.detect_changed changes unit

end Changed

/-! ## Severities that are demanded -/

private theorem Profile.report_demanded {severity : Severity}
    (demanded : settings.severityOverride = .text severity.name) (profile : Profile) (draft : Draft) :
    profile.report settings draft =
      Finding.graded severity <$> profile.report settings.undemanding draft := by
  have first : profile.severityOf settings draft.severity = .ok severity := by
    rw [Profile.severityOf, demanded]
    cases severity <;> rfl
  have second : profile.severityOf settings.undemanding draft.severity =
      .ok (draft.severity.getD profile.severity) := rfl
  rw [Profile.report, Profile.report, first, second, ok_bind, ok_bind]
  simp only [Finding.identified, if_true]
  rfl

private theorem detect_undemanding (free : settings.severityOverride.truthy = false) (detector : Detector)
    (unit : Solidity.Unit) : detector.detect settings unit = detector.detect settings.undemanding unit := by
  have same (profile : Profile) (draft : Draft) :
      profile.report settings draft = id <$> profile.report settings.undemanding draft := by
    have severity : profile.severityOf settings draft.severity =
        profile.severityOf settings.undemanding draft.severity := by
      rw [Profile.severityOf, free]
      rfl
    rw [id_map, Profile.report, Profile.report, severity]
  have unchanged := detect_changed same detector unit
  rwa [List.map_id_fun, id_map] at unchanged

private theorem exists_severity_of_isOneOf {v : Value} (known : v.isOneOf (Severity.all.map Severity.name)) :
    ∃ severity : Severity, v = .text severity.name := by
  cases v with
  | text s =>
    obtain ⟨severity, _, rfl⟩ := List.mem_map.mp (List.contains_iff_mem.mp known)
    exact ⟨severity, rfl⟩
  | _ => contradiction

/-- A configuration with nothing wrong demands only severities that there are. -/
theorem Registry.exists_severity (valid : r.validate = []) {name : String}
    (demanded : (r.config.setup name).severityOverride.truthy) :
    ∃ severity : Severity, (r.config.setup name).severityOverride = .text severity.name := by
  rw [validate_eq, List.append_eq_nil_iff, List.filterMap_eq_nil_iff, List.filterMap_eq_nil_iff] at valid
  rw [Config.setup_eq] at demanded ⊢
  cases found : r.config.setups.lookup name with
  | none =>
    rw [found] at demanded
    contradiction
  | some setup =>
    rw [found, Option.getD_some] at demanded
    have fit := valid.2 _ (mem_of_lookup found)
    rw [unfit?, demanded, Bool.true_and] at fit
    refine exists_severity_of_isOneOf ?_
    simpa using fit

/-- A registry that keeps what is described does so after all queries. -/
theorem Query.askAll_keeps (coherent : r.Coherent) (queries : List Query) : (askAll r queries).2.Coherent := by
  induction queries generalizing r with
  | nil => exact coherent
  | cons query rest ih => exact ih (ask_coherent coherent query).2.1

/-- A detector that takes part is registered, and its settings demand what the configuration says. -/
theorem Registry.Coherent.exists_name (coherent : r.Coherent) {kept : Instance} (member : kept ∈ r.enabled.1) :
    ∃ name, r.plugins.lookup name = some (.concrete kept.detector) ∧
      kept.settings.severityOverride = (r.config.setup name).severityOverride := by
  have shown : kept.shown ∈ r.enabled.1.map Instance.shown := List.mem_map_of_mem member
  rw [coherent.enabled_shown] at shown
  obtain ⟨name, _, found⟩ := List.mem_filterMap.mp shown
  have described := (Option.filter_eq_some_iff.mp found).1
  refine ⟨name, ?_, congrArg Setup.severityOverride (setup_of_described described)⟩
  obtain ⟨plugin, known, described⟩ := Option.bind_eq_some_iff.mp described
  cases plugin with
  | concrete detector =>
    have same : detector = kept.detector := congrArg Shown.detector (Option.some.inj described)
    rwa [← same]
  | _ => contradiction

/-- If nothing is wrong with a configuration, then whatever the registry was asked before, a detector that takes part
has the demand that the configuration makes under its name. A demand that counts as none changes nothing. Any other is
for a severity that there is: the detector finds what it finds without the demand, but with that severity, and fails
where it fails without it. -/
theorem override_regrades (config : Config) (plugins : List (String × Plugin)) (queries : List Query)
    (valid : Registry.validate ⟨config, plugins, []⟩ = []) :
    ∀ kept ∈ (Query.askAll ⟨config, plugins, []⟩ queries).2.enabled.1, ∃ name,
      plugins.lookup name = some (.concrete kept.detector) ∧
      kept.settings.severityOverride = (config.detector name).severityOverride ∧
      ∀ unit,
        (kept.settings.severityOverride.truthy = false →
          kept.detect unit = kept.detector.detect kept.settings.undemanding unit) ∧
        (kept.settings.severityOverride.truthy → ∃ severity : Severity,
          kept.settings.severityOverride = .text severity.name ∧
          kept.detect unit =
            List.map (Finding.graded severity) <$> kept.detector.detect kept.settings.undemanding unit) := by
  intro kept member
  have coherent : Registry.Coherent ⟨config, plugins, []⟩ := fun _ _ kept => by cases kept
  obtain ⟨_, follows⟩ := Query.askAll_coherent coherent queries
  obtain ⟨name, known, same⟩ := (Query.askAll_keeps coherent queries).exists_name member
  rw [follows.plugins] at known
  rw [follows.setup] at same
  refine ⟨name, known, same, fun unit => ⟨fun free => ?_, fun demanded => ?_⟩⟩
  · exact detect_undemanding free kept.detector unit
  · rw [same] at demanded
    obtain ⟨severity, named⟩ := Registry.exists_severity valid demanded
    rw [← same] at named
    exact ⟨severity, named, detect_changed (Profile.report_demanded named) kept.detector unit⟩

/-- Calls before changes of state are said to be of low severity. -/
def lenient : Config := { detectors := [(Reentrancy.profile.name, { severityOverride := .text "LOW" })] }

/-- The detector finds the same as without that, with a low severity. -/
theorem override_regrades_lenient :
    (Registry.new lenient).validate = [] ∧
      ∃ kept ∈ (Query.askAll (Registry.new lenient) [.all, .enabled]).2.enabled.1, kept.detector = .reentrancy ∧
        ∀ unit, kept.detect unit =
          List.map (Finding.graded .low) <$> Reentrancy.detect kept.settings.undemanding unit := by
  have valid : (Registry.new lenient).validate = [] := rfl
  have instances : (Query.askAll (Registry.new lenient) [.all, .enabled]).2.enabled.1 =
      [⟨.textual, .bool true, {}⟩, ⟨.reentrancy, .bool true, { severityOverride := .text "LOW" }⟩,
        ⟨.accessControl, .bool true, {}⟩, ⟨.uncheckedCall, .bool true, {}⟩] := rfl
  have member : ⟨.reentrancy, .bool true, { severityOverride := .text "LOW" }⟩ ∈
      (Query.askAll (Registry.new lenient) [.all, .enabled]).2.enabled.1 := by
    rw [instances]
    exact .tail _ (.head _)
  obtain ⟨_, _, _, regraded⟩ := override_regrades lenient _ _ valid _ member
  refine ⟨valid, _, member, rfl, fun unit => ?_⟩
  obtain ⟨severity, named, found⟩ := (regraded unit).2 rfl
  cases severity with
  | low => exact found
  | _ => simp [Severity.name] at named

end Detector

end ContractLint
