import ContractLint.Detector.Basic
import ContractLint.Proofs.Solidity.Tree
import ContractLint.Solidity.Contract

/-! # What the proofs about detectors have in common

A detector completes the draft of a finding by its name and a severity. That fails only if the settings demand
a severity that there is not, and it changes neither the class of the weakness nor its place. A detector that
goes through the functions of a compiled file finds in the file what it finds in each function.
-/

namespace ContractLint

open List

variable {analyze : Value → Outcome (List Finding)} {unit : Solidity.Unit}

/-- The settings demand no severity, or one that there is. -/
def DetectorSettings.Accepted (settings : DetectorSettings) : Prop :=
  settings.severityOverride.truthy → ∃ severity, Severity.ofValue settings.severityOverride = .ok severity

/-- The default settings are accepted. -/
theorem DetectorSettings.accepted_default : Accepted {} := by
  intro demanded
  contradiction

theorem Finding.identified_location (f : Finding) : f.identified.location = f.location := by
  unfold identified
  split <;> rfl

theorem Finding.identified_severity (f : Finding) : f.identified.severity = f.severity := by
  unfold identified
  split <;> rfl

namespace Detector

open Outcome

def Draft.finding (draft : Draft) (profile : Profile) (severity : Severity) : Finding where
  id := Finding.generatedId draft.title (some draft.location) draft.kind
  title := draft.title
  description := draft.description
  severity := severity
  location := some draft.location
  kind := draft.kind
  confidence := draft.confidence
  snippet := draft.snippet
  recommendation := draft.recommendation
  references := if draft.references.truthy then draft.references else .list []
  metadata := if draft.metadata.truthy then draft.metadata else .object []
  detector := profile.name
  timestamp := none

/-- Only the severity can make a report fail. -/
theorem Profile.report_eq (profile : Profile) (settings : DetectorSettings) (draft : Draft) :
    profile.report settings draft = draft.finding profile <$> profile.severityOf settings draft.severity := by
  rw [Profile.report]
  cases profile.severityOf settings draft.severity with
  | error fault => rfl
  | ok severity => rfl

variable {profile : Profile} {settings : DetectorSettings} {draft : Draft} {finding : Finding}

/-- With accepted settings every report is made. -/
theorem Profile.exists_report (accepted : settings.Accepted) (profile : Profile) (draft : Draft) :
    ∃ finding, profile.report settings draft = .ok finding := by
  suffices ∃ severity, profile.severityOf settings draft.severity = .ok severity by
    obtain ⟨severity, known⟩ := this
    rw [Profile.report_eq, known]
    exact ⟨_, rfl⟩
  unfold Profile.severityOf
  split
  next demanded => exact accepted demanded
  next => exact ⟨_, rfl⟩

/-- A draft keeps the class of the weakness and its place when it becomes a finding. -/
theorem Profile.report_keeps (done : profile.report settings draft = .ok finding) :
    finding.kind = draft.kind ∧ finding.location = some draft.location := by
  rw [Profile.report_eq] at done
  obtain ⟨severity, _, rfl⟩ := map_eq_ok.mp done
  exact ⟨rfl, rfl⟩

/-- A draft keeps the lines concerned and the further facts, if there are any. -/
theorem Profile.report_shows (done : profile.report settings draft = .ok finding) :
    finding.snippet = draft.snippet ∧ (draft.metadata.truthy → finding.metadata = draft.metadata) := by
  rw [Profile.report_eq] at done
  obtain ⟨severity, _, rfl⟩ := map_eq_ok.mp done
  exact ⟨rfl, fun present => if_pos present⟩

/-- Without accepted settings no report is made. -/
theorem Profile.accepted_of_report (done : profile.report settings draft = .ok finding) : settings.Accepted := by
  rw [Profile.report_eq] at done
  obtain ⟨severity, known, _⟩ := map_eq_ok.mp done
  intro demanded
  rw [Profile.severityOf, if_pos demanded] at known
  exact ⟨severity, known⟩

/-! ## Functions of a compiled file -/

/-- What is found in the functions of a compiled file, one function after the other. -/
def overFunctions (unit : Solidity.Unit) (analyze : Value → Outcome (List Finding)) : Outcome (List Finding) := do
  let trees := (unit.contracts.map Solidity.Contract.ast).filter Value.truthy
  return (← trees.mapM fun tree => do return (← (Solidity.functions tree).mapM analyze).flatten).flatten

/-- If every function can be analysed, all findings of one stand together in the result. -/
theorem exists_overFunctions
    (each : ∀ contract ∈ unit.contracts, ∀ function ∈ Solidity.functions contract.ast,
      ∃ own, analyze function = .ok own) :
    ∃ found, overFunctions unit analyze = .ok found ∧
      ∀ contract ∈ unit.contracts, ∀ function ∈ Solidity.functions contract.ast,
        ∃ own, analyze function = .ok own ∧ own <:+: found := by
  have trees : ∀ tree ∈ (unit.contracts.map Solidity.Contract.ast).filter Value.truthy,
      ∃ found, (do return (← (Solidity.functions tree).mapM analyze).flatten : Outcome (List Finding)) =
        .ok found := by
    intro tree member
    obtain ⟨contract, known, rfl⟩ := mem_map.mp (mem_filter.mp member).1
    obtain ⟨lists, done⟩ := exists_mapM (each contract known)
    exact ⟨lists.flatten, by rw [done]; rfl⟩
  obtain ⟨lists, done⟩ := exists_mapM trees
  refine ⟨lists.flatten, by rw [overFunctions, done]; rfl, fun contract known function member => ?_⟩
  have tree : contract.ast ∈ (unit.contracts.map Solidity.Contract.ast).filter Value.truthy :=
    mem_filter.mpr ⟨mem_map_of_mem known, Solidity.truthy_of_mem_functions member⟩
  obtain ⟨inTree, done, part⟩ := infix_of_mapM done tree
  obtain ⟨inFunctions, each, done⟩ := bind_eq_ok.mp done
  obtain rfl := Except.ok.inj done
  obtain ⟨own, done, inner⟩ := infix_of_mapM each member
  exact ⟨own, done, inner.trans part⟩

/-- The analysis of a unit fails exactly if that of some function does. -/
theorem failsIff_overFunctions {fault : Fault}
    {bad : Value → Prop}
    (each : ∀ contract ∈ unit.contracts, ∀ function ∈ Solidity.functions contract.ast,
      FailsIff fault (bad function) (analyze function)) :
    FailsIff fault (∃ contract ∈ unit.contracts, ∃ function ∈ Solidity.functions contract.ast, bad function)
      (overFunctions unit analyze) := by
  have trees : ∀ tree ∈ (unit.contracts.map Solidity.Contract.ast).filter Value.truthy,
      FailsIff fault (∃ function ∈ Solidity.functions tree, bad function)
        (do return (← (Solidity.functions tree).mapM analyze).flatten) := by
    intro tree member
    obtain ⟨contract, known, rfl⟩ := mem_map.mp (mem_filter.mp member).1
    exact (FailsIff.mapM (each contract known)).bind fun lists _ => ⟨lists.flatten, rfl⟩
  refine ((FailsIff.mapM trees).bind fun lists _ => ⟨lists.flatten, rfl⟩).congr ?_
  constructor
  · rintro ⟨tree, member, found⟩
    obtain ⟨contract, known, rfl⟩ := mem_map.mp (mem_filter.mp member).1
    exact ⟨contract, known, found⟩
  · rintro ⟨contract, known, function, member, found⟩
    have truthy := Solidity.truthy_of_mem_functions member
    exact ⟨contract.ast, mem_filter.mpr ⟨mem_map_of_mem known, truthy⟩, function, member, found⟩

end Detector

end ContractLint
