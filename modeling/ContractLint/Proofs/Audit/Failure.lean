import ContractLint.Proofs.Audit.LetThrough
import ContractLint.Proofs.Detector.AccessControl
import ContractLint.Proofs.Detector.UncheckedCall

/-! # Which trees make an analysis fail

On trees as the compiler emits them all detectors but one never fail. The search for unchecked calls fails on a
low-level call in a declaration that leaves out its first variable, such as `(, bytes memory data) = a.call(d)`. Then
nothing is reported about the file except that its analysis has failed, whatever other detectors have found in it.
-/

namespace ContractLint

open Outcome Solidity

variable {unit : Solidity.Unit}

namespace Detector

/-- A detector fails on trees as the compiler emits them exactly if it searches for unchecked calls and a low-level
call stands in a declaration that leaves out its first variable. -/
theorem detect_failsIff {settings : DetectorSettings} (accepted : settings.Accepted)
    (emitted : ∀ contract ∈ unit.contracts, Throughout Emitted contract.ast) (detector : Detector) :
    FailsIff (.noMember "NoneType" "get") (detector = .uncheckedCall ∧ UncheckedCall.omitsIn unit)
      (detector.detect settings unit) := by
  cases detector with
  | textual => exact .of_ok (by simp) (Textual.detect_succeeds accepted unit)
  | reentrancy => exact .of_ok (by simp) (Reentrancy.exists_detect accepted emitted)
  | accessControl => exact .of_ok (by simp) (AccessControl.exists_detect accepted emitted)
  | uncheckedCall => exact (UncheckedCall.detect_failsIff accepted emitted).congr (by simp)

end Detector

namespace Audit

/-- If the detectors that fail all fail in the same way, their run fails exactly if one of them does. -/
theorem foundBy_of_failsIff {fault : Fault} {bad : Detector.Instance → Prop}
    {instances : List Detector.Instance} (each : ∀ kept ∈ instances, FailsIff fault (bad kept) (kept.detect unit)) :
    ((∃ kept ∈ instances, bad kept) → (foundBy unit instances).2 = some fault) ∧
      ((¬ ∃ kept ∈ instances, bad kept) → (foundBy unit instances).2 = none) := by
  induction instances with
  | nil => simp [foundBy]
  | cons kept rest ih =>
    obtain ⟨one, others⟩ := List.forall_mem_cons.mp each
    rw [foundBy]
    by_cases failing : bad kept
    · rw [one.failing failing]
      exact ⟨fun _ => rfl, fun none => absurd ⟨kept, List.mem_cons_self, failing⟩ none⟩
    · obtain ⟨found, done⟩ := one.succeeding failing
      rw [done]
      simpa [failing] using ih others

namespace Session

variable {s : Session} {files : Files}

/-- The findings in a file are those of the detectors as far as the settings let them through, if no detector fails. -/
theorem findings_of_read {path : Path} {source : String} (read : files.read path = .ok source) {found : List Finding}
    {fault? : Option Fault}
    (ran : foundBy (s.compiler.unitOf source path.text) s.registry.enabled.1 = (found, fault?)) :
    (∀ fault, fault? = some fault → (s.findings files path).1 = .error fault) ∧
      (fault? = none → (s.findings files path).1 = filterFindings s.config found) := by
  have compiled : (s.compile source path.text).1 = s.compiler.unitOf source path.text :=
    s.compiler.compile_unit source path.text
  have before := s.compile_alike source path.text
  have alike := ((s.compile source path.text).2.inspect_alike (s.compiler.unitOf source path.text)).trans before
  have inspected := (s.compile source path.text).2.inspect_eq (s.compiler.unitOf source path.text)
  rw [before.registry.enabled, ran] at inspected
  unfold findings
  simp only [read, compiled]
  generalize (s.compile source path.text).2.inspect (s.compiler.unitOf source path.text) = ended at alike inspected ⊢
  obtain ⟨all, last, t⟩ := ended
  obtain ⟨rfl, rfl⟩ := inspected
  constructor
  · rintro fault rfl
    rfl
  · rintro rfl
    rw [← alike.config]

/-- If the trees of a file are as the compiler emits them, a detector fails on it exactly if it searches for unchecked
calls and a low-level call stands in a declaration that leaves out its first variable. If such a detector takes part,
the analysis of the file reports its own failure and nothing else. Otherwise no detector fails, and what they find is
reported as far as the settings let it through. -/
theorem fails_iff_variable_omitted (s : Session) (files : Files) (target : Path) {source : String}
    (present : files.contains (Files.resolve target)) (solidity : (Files.resolve target).suffix = ".sol")
    (read : files.read (Files.resolve target) = .ok source)
    (accepted : ∀ kept ∈ s.registry.enabled.1, kept.settings.Accepted)
    (emitted : ∀ contract ∈ (s.compiler.unitOf source (Files.resolve target).text).contracts,
      Throughout Emitted contract.ast) :
    let path := Files.resolve target
    let unit := s.compiler.unitOf source path.text
    let enabled := s.registry.enabled.1
    let fault := Fault.noMember "NoneType" "get"
    let fails := Detector.UncheckedCall.omitsIn unit ∧ ∃ kept ∈ enabled, kept.detector = .uncheckedCall
    (∀ (detector : Detector) (settings : DetectorSettings), settings.Accepted →
      FailsIff fault (detector = .uncheckedCall ∧ Detector.UncheckedCall.omitsIn unit)
        (detector.detect settings unit)) ∧
    (fails →
      (s.analyzeFile files target).1 = do
        s.checkSize files path
        return [analysisError path fault]) ∧
    (¬ fails →
      (foundBy unit enabled).2 = none ∧
        (s.findings files path).1 = filterFindings s.config (foundBy unit enabled).1) := by
  intro path unit enabled fault fails
  have each (detector : Detector) (settings : DetectorSettings) (accepted : settings.Accepted) :=
    Detector.detect_failsIff accepted emitted detector
  have same : (∃ kept ∈ enabled, kept.detector = .uncheckedCall ∧ Detector.UncheckedCall.omitsIn unit) ↔
      fails := by
    constructor
    · rintro ⟨kept, member, known, omitted⟩
      exact ⟨omitted, kept, member, known⟩
    · rintro ⟨omitted, kept, member, known⟩
      exact ⟨kept, member, known, omitted⟩
  obtain ⟨failing, succeeding⟩ := foundBy_of_failsIff fun kept member =>
    each kept.detector kept.settings (accepted kept member)
  rw [same] at failing succeeding
  obtain ⟨error, ok⟩ := findings_of_read read (s := s) rfl
  refine ⟨each, fun holds => ?_, fun good => ⟨succeeding good, ok (succeeding good)⟩⟩
  rw [analyzeFile_eq present solidity, analysisOf, error fault (failing holds)]

/-! ## A declaration of the second result only -/

/-- A function that makes a call, keeps only the second of its results and changes a variable afterwards. -/
def forgetful : Value :=
  functionOf [
    node "VariableDeclarationStatement" [
      ("declarations", .list [.null, node "VariableDeclaration" [("name", .text "data")]]),
      ("initialValue", memberCall "a" "call")],
    assigned "x"]

/-- A compiler that finds this function in every file. -/
def forgetfulTools : Toolchain where
  installed := .ok ["0.8.0"]
  canInstall := true
  reported := none
  answer _ _ := .ok (.object [("A", .object [("ast", forgetful)])])

/-- A file of which the compiler sees this function. -/
def forgetfulFile : Files := ⟨[(["a.sol"], .text "(, bytes memory data) = a.call(d);")]⟩

private theorem forgetfulFile_small :
    (Session.new {} (.present forgetfulTools)).checkSize forgetfulFile { names := ["a.sol"] } = .ok () := rfl

/-- The analysis of the function reports its failure and nothing else. -/
theorem fails_iff_variable_omitted_forgetful :
    let s := Session.new {} (.present forgetfulTools)
    let path : Path := { names := ["a.sol"] }
    let source := "(, bytes memory data) = a.call(d);"
    forgetfulFile.contains path ∧ path.suffix = ".sol" ∧ forgetfulFile.read path = .ok source ∧
      (∀ contract ∈ (s.compiler.unitOf source path.text).contracts, Throughout Emitted contract.ast) ∧
      (s.analyzeFile forgetfulFile path).1 = .ok [analysisError path (.noMember "NoneType" "get")] := by
  intro s path source
  have present : forgetfulFile.contains path := by decide
  have solidity : path.suffix = ".sol" := by decide
  have read : forgetfulFile.read path = .ok source := rfl
  have small : s.checkSize forgetfulFile (Files.resolve path) = .ok () := forgetfulFile_small
  have instances : s.registry.enabled.1 = [⟨.textual, .bool true, {}⟩, ⟨.reentrancy, .bool true, {}⟩,
    ⟨.accessControl, .bool true, {}⟩, ⟨.uncheckedCall, .bool true, {}⟩] := rfl
  have accepted : ∀ kept ∈ s.registry.enabled.1, kept.settings.Accepted := by
    simp [instances, DetectorSettings.accepted_default]
  have trees : (s.compiler.unitOf source path.text).contracts.map Contract.ast = [forgetful] := rfl
  have emitted : ∀ contract ∈ (s.compiler.unitOf source path.text).contracts, Throughout Emitted contract.ast := by
    intro contract member
    have only : contract.ast ∈ [forgetful] := trees ▸ List.mem_map_of_mem member
    rw [List.mem_singleton.mp only]
    decide
  obtain ⟨_, failing, _⟩ := fails_iff_variable_omitted s forgetfulFile path present solidity read accepted emitted
  refine ⟨present, solidity, read, emitted, ?_⟩
  rw [failing ⟨rfl, ⟨.uncheckedCall, .bool true, {}⟩, by simp [instances], rfl⟩, small]
  rfl

/-- The call before the change of state is found, and the search for unchecked calls fails. -/
theorem forgetful_not_searched :
    Throughout Emitted forgetful ∧ (∃ finding, Detector.Reentrancy.detect {} (fileOf forgetful) = .ok [finding]) ∧
      Detector.UncheckedCall.detect {} (fileOf forgetful) = .error (.noMember "NoneType" "get") :=
  ⟨by decide, ⟨_, rfl⟩, rfl⟩

end Session

end Audit

end ContractLint
