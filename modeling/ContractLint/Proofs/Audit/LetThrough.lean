import ContractLint.Proofs.Audit.Version
import ContractLint.Proofs.Audit.Selection

/-! # What an analysis lets through

The findings of an analysis pass the settings, except for one: if the analysis of a file fails, the failure is
reported as a finding of the least severity, whatever the settings say.
-/

namespace ContractLint.Audit

open Outcome

variable {path target : Path} {found : List Finding} {finding : Finding}

/-- The settings let everything through exactly if they let the least severity through. -/
theorem reported_info_iff {config : Config} :
    Reported config .info ↔
      Severity.ofValue config.minSeverity = .ok .info ∧ config.excludeSeverities.has "INFO" = .ok false := by
  constructor
  · rintro ⟨⟨least, valid, enough⟩, included⟩
    refine ⟨?_, included⟩
    rw [valid]
    cases least with
    | info => rfl
    | _ => simp [Severity.rank] at enough
  · rintro ⟨valid, included⟩
    exact ⟨⟨.info, valid, Nat.le_refl _⟩, included⟩

namespace Session

/-- The finding about a file whose analysis has failed. -/
def analysisError (path : Path) (fault : Fault) : Finding :=
  failure path.text .info "analysis_error" ("Failed to analyze file: " ++ fault.message)

/-- A failed analysis is reported as information only. -/
theorem analysisError_severity (path : Path) (fault : Fault) : (analysisError path fault).severity = .info := by
  rw [analysisError, failure, Finding.identified_severity]

/-- What the analysis of a file reports, be it a failure. -/
def analysisOf (s : Session) (files : Files) (path : Path) : List Finding :=
  match (s.findings files path).1 with
  | .ok found => found
  | .error fault => [analysisError path fault]

variable {s : Session} {files : Files}

/-- An analysis that does not fail gives findings that the settings let through. -/
theorem reported_of_findings (done : (s.findings files path).1 = .ok found) :
    ∀ finding ∈ found, Reported s.config finding.severity := by
  unfold findings at done
  cases read : files.read path with
  | error fault => simp [read] at done
  | ok source =>
    have alike := ((s.compile source path.text).2.inspect_alike (s.compile source path.text).1).trans
      (s.compile_alike source path.text)
    simp only [read] at done
    generalize (s.compile source path.text).2.inspect (s.compile source path.text).1 = ended at done alike
    obtain ⟨all, fault, t⟩ := ended
    cases fault with
    | some fault => cases done
    | none =>
      intro finding member
      rw [← alike.config]
      exact (mem_of_filterFindings done member).2

private theorem mem_analysisOf (member : finding ∈ s.analysisOf files path) :
    Reported s.config finding.severity ∨ ∃ fault, finding = analysisError path fault := by
  unfold analysisOf at member
  cases ended : (s.findings files path).1 with
  | ok found =>
    rw [ended] at member
    exact .inl (reported_of_findings ended finding member)
  | error fault =>
    rw [ended] at member
    exact .inr ⟨fault, List.mem_singleton.mp member⟩

private theorem analysisOf_reported_iff :
    (∀ finding ∈ s.analysisOf files path, Reported s.config finding.severity) ↔
      (∃ found, (s.findings files path).1 = .ok found) ∨ Reported s.config .info := by
  unfold analysisOf
  cases ended : (s.findings files path).1 with
  | ok found => simpa using reported_of_findings ended
  | error fault => simp [analysisError_severity]

/-! ## Files -/

/-- For a file of the right kind only its size is checked before it is analysed. -/
theorem analyzeFile_eq (present : files.contains (Files.resolve target))
    (solidity : (Files.resolve target).suffix = ".sol") :
    (s.analyzeFile files target).1 = do
      s.checkSize files (Files.resolve target)
      return s.analysisOf files (Files.resolve target) := by
  unfold analyzeFile analysisOf
  simp only [present, solidity, Bool.not_true, Bool.false_eq_true, if_false, ne_eq, not_true_eq_false]
  cases s.checkSize files (Files.resolve target) with
  | error fault => rfl
  | ok _ =>
    generalize s.findings files (Files.resolve target) = ended
    obtain ⟨outcome, t⟩ := ended
    cases outcome with
    | ok found => rfl
    | error fault => rfl

private theorem eq_analysisOf_of_analyzeFile
    (done : (s.analyzeFile files target).1 = .ok found) : found = s.analysisOf files (Files.resolve target) := by
  by_cases present : files.contains (Files.resolve target)
  · by_cases solidity : (Files.resolve target).suffix = ".sol"
    · rw [analyzeFile_eq present solidity] at done
      obtain ⟨_, _, done⟩ := bind_eq_ok.mp done
      exact (Except.ok.inj done).symm
    · simp [analyzeFile, present, solidity] at done
  · simp [analyzeFile, present] at done

/-! ## Directories -/

/-- What is reported about some files is reported about one of them. -/
theorem mem_analyzeEach {paths : List Path} (member : finding ∈ (s.analyzeEach files paths).1) :
    ∃ path ∈ paths, ∃ t, Alike t s ∧ finding ∈ t.analysisOf files (Files.resolve path) := by
  induction paths generalizing s with
  | nil => simp [analyzeEach] at member
  | cons path rest ih =>
    have alike := (s.analyzeFile_steps files path).alike
    simp only [analyzeEach, List.mem_append] at member
    obtain here | later := member
    · cases analyzed : (s.analyzeFile files path).1 with
      | error fault => simp [analyzed] at here
      | ok own =>
        simp only [analyzed] at here
        rw [eq_analysisOf_of_analyzeFile analyzed] at here
        exact ⟨path, List.mem_cons_self, s, .refl s, here⟩
    · obtain ⟨other, known, t, same, member⟩ := ih later
      exact ⟨other, List.mem_cons_of_mem _ known, t, same.trans alike, member⟩

private theorem analyzeDirectory_eq {deep : Bool} (directory : files.isDirectory (Files.resolve target)) :
    (s.analyzeDirectory files target deep).1 = do
      return (s.analyzeEach files
        (← filterFiles s.config (files.search (Files.resolve target) deep "*.sol"))).1 := by
  have present : files.contains (Files.resolve target) := by
    unfold Files.isDirectory at directory
    unfold Files.contains
    cases located : files.locate (Files.resolve target) with
    | none => simp [located] at directory
    | some place => rfl
  unfold analyzeDirectory
  simp only [present, directory, Bool.not_true, Bool.false_eq_true, if_false]
  cases filterFiles s.config (files.search (Files.resolve target) deep "*.sol") with
  | error fault => rfl
  | ok paths => rfl

/-- The analysis of a file gives findings that the settings let through exactly if it does not fail, or if the
settings let everything through. A finding from the analysis of a directory that the settings do not let through
is the failure of the analysis of one of its files. -/
theorem let_through_unless_failed (s : Session) (files : Files) (target : Path) :
    let path := Files.resolve target
    (files.contains path → path.suffix = ".sol" →
      ((s.analyzeFile files target).1 = do
        s.checkSize files path
        return s.analysisOf files path) ∧
      ((∀ finding ∈ s.analysisOf files path, Reported s.config finding.severity) ↔
        (∃ found, (s.findings files path).1 = .ok found) ∨
          Severity.ofValue s.config.minSeverity = .ok .info ∧ s.config.excludeSeverities.has "INFO" = .ok false)) ∧
    (∀ deep, files.isDirectory path →
      ((s.analyzeDirectory files target deep).1 = do
        return (s.analyzeEach files (← filterFiles s.config (files.search path deep "*.sol"))).1) ∧
      ∀ paths, ∀ finding ∈ (s.analyzeEach files paths).1,
        Reported s.config finding.severity ∨
          ∃ path ∈ paths, ∃ fault, finding = analysisError (Files.resolve path) fault) := by
  intro path
  refine ⟨fun present solidity => ⟨analyzeFile_eq present solidity, ?_⟩,
    fun deep directory => ⟨analyzeDirectory_eq directory, ?_⟩⟩
  · rw [analysisOf_reported_iff, reported_info_iff]
  · intro paths finding member
    obtain ⟨path, known, t, alike, member⟩ := mem_analyzeEach member
    obtain reported | ⟨fault, same⟩ := mem_analysisOf member
    · rw [alike.config] at reported
      exact .inl reported
    · exact .inr ⟨path, known, fault, same⟩

/-! ## A file that is no text -/

def garbled : Files := ⟨[(["a.sol"], .bytes [255])]⟩

/-- With settings that let everything through, its failure passes them. -/
theorem let_through_unless_failed_garbled :
    let s := Session.new {} .missing
    garbled.contains { names := ["a.sol"] } ∧ Path.suffix { names := ["a.sol"] } = ".sol" ∧
      ∀ finding ∈ s.analysisOf garbled { names := ["a.sol"] }, Reported s.config finding.severity := by
  intro s
  have present : garbled.contains { names := ["a.sol"] } := by decide
  have solidity : Path.suffix { names := ["a.sol"] } = ".sol" := by decide
  obtain ⟨_, reported⟩ := (let_through_unless_failed s garbled { names := ["a.sol"] }).1 present solidity
  exact ⟨present, solidity, reported.mpr (.inr ⟨rfl, rfl⟩)⟩

private theorem garbled_small :
    (Session.new { minSeverity := .text "HIGH" } .missing).checkSize garbled { names := ["a.sol"] } = .ok () := rfl

/-- With settings that ask for grave findings only, its failure is reported all the same. -/
theorem garbled_file_passes_settings :
    let s := Session.new { minSeverity := .text "HIGH" } .missing
    let path : Path := { names := ["a.sol"] }
    let failure := analysisError path
      (.undecodable "'utf-8' codec can't decode byte 0xff in position 0: invalid start byte")
    (s.analyzeFile garbled path).1 = .ok [failure] ∧ ¬ Reported s.config failure.severity := by
  intro s path failure
  have small : s.checkSize garbled (Files.resolve path) = .ok () := garbled_small
  have only : s.analysisOf garbled (Files.resolve path) = [failure] := rfl
  constructor
  · rw [analyzeFile_eq (by decide) (by decide), small, only]
    rfl
  · rw [analysisError_severity, reported_info_iff]
    rintro ⟨valid, _⟩
    cases valid

end Session

end ContractLint.Audit
