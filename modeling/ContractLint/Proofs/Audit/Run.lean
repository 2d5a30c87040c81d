import ContractLint.Proofs.Audit.Version
import ContractLint.Proofs.Audit.Selection
import ContractLint.Proofs.Detector.Identity
import ContractLint.Proofs.Files

/-! # Full runs

If all versions of the compiler answer alike, a full run over a directory finds in each file what a full run over
the file finds, whatever the session has done before. All findings have places, so they can be counted, and the
settings select them one by one.

If the settings make sense, a full run over something that exists ends with a report: no detector and no compiler can
prevent it. The numbers in a report are those of its findings.
-/

namespace ContractLint.Audit

open List Outcome Solidity

variable {found : List Finding} {s : Session} {files : Files}

private theorem foundBy_inFile {unit : Solidity.Unit} {instances : List Detector.Instance} :
    ∀ finding ∈ (foundBy unit instances).1, finding.InFile unit.file := by
  induction instances with
  | nil => simp [foundBy]
  | cons kept rest ih =>
    rw [foundBy]
    cases detected : kept.detect unit with
    | error fault => simp
    | ok more =>
      intro finding member
      obtain here | later := mem_append.mp member
      · exact Detector.detect_inFile detected finding here
      · exact ih finding later

namespace Session

/-! ## Findings about a file -/

/-- What a full run finds in a file, before the settings select what is reported. -/
def foundIn (s : Session) (files : Files) (path : Path) : List Finding := (s.runFile files path).1

/-- The finding about a file that could not be read, or in which a detector has failed. -/
def broken (path : Path) (fault : Fault) : Finding := failure path.text .critical "analyzer_error" fault.message

/-- A file that cannot be read gives one finding, which says so. -/
theorem foundIn_of_error (s : Session) {path : Path} {fault : Fault}
    (failed : files.read path = .error fault) : s.foundIn files path = [broken path fault] := by
  rw [foundIn, runFile, failed]
  rfl

/-- A file that is read gives the errors of the compiler and what the detectors find. -/
theorem foundIn_of_ok (s : Session) {path : Path} {source : String} (read : files.read path = .ok source) :
    let unit := s.compiler.unitOf source path.text
    let found := foundBy unit s.registry.enabled.1
    s.foundIn files path =
      unit.errors.map (compileError path.text) ++ found.1 ++ found.2.toList.map (broken path) := by
  intro unit found
  have compiled : (s.compile source path.text).1 = unit := s.compiler.compile_unit source path.text
  obtain ⟨inspected, fault⟩ := (s.compile source path.text).2.inspect_eq unit
  rw [(s.compile_alike source path.text).registry.enabled] at inspected fault
  rw [foundIn, runFile, read]
  dsimp only
  rw [compiled, inspected, fault]
  rfl

private theorem failure_inFile (file : String) (severity : Severity) (kind description : String) :
    (failure file severity kind description).InFile file :=
  ⟨.line file 1, Finding.identified_location _, rfl⟩

private theorem compileError_inFile (file description : String) : (compileError file description).InFile file :=
  ⟨.line file 1, (Finding.identified_location _).trans (Finding.identified_location _), rfl⟩

/-- What is found in a file is placed in that file. -/
theorem foundIn_inFile (s : Session) (files : Files) (path : Path) :
    ∀ finding ∈ s.foundIn files path, finding.InFile path.text := by
  intro finding member
  cases read : files.read path with
  | error fault =>
    rw [s.foundIn_of_error read, mem_singleton] at member
    rw [member]
    exact failure_inFile path.text .critical "analyzer_error" fault.message
  | ok source =>
    rw [s.foundIn_of_ok read] at member
    simp only [mem_append, mem_map] at member
    obtain (⟨text, _, rfl⟩ | found) | ⟨fault, _, rfl⟩ := member
    · exact compileError_inFile path.text text
    · have inside := foundBy_inFile finding found
      rwa [Prepared.unitOf_file] at inside
    · exact failure_inFile path.text .critical "analyzer_error" fault.message

/-- Where all versions of the compiler answer alike, sessions that are alike find the same. -/
theorem Alike.foundIn {t : Session} (alike : Alike s t) (uniform : t.compiler.compiler.Uniform) (files : Files)
    (path : Path) : s.foundIn files path = t.foundIn files path := by
  cases read : files.read path with
  | error fault => rw [s.foundIn_of_error read, t.foundIn_of_error read]
  | ok source => rw [s.foundIn_of_ok read, t.foundIn_of_ok read, alike.registry.enabled, alike.unitOf uniform]

private theorem runEach_eq (uniform : s.compiler.compiler.Uniform) (files : Files) (paths : List Path) :
    (s.runEach files paths).1 = paths.flatMap (s.foundIn files) := by
  induction paths generalizing s with
  | nil => rfl
  | cons path rest ih =>
    have alike := (s.runFile_steps files path).alike
    have uniform' : (s.runFile files path).2.2.compiler.compiler.Uniform := by
      rw [alike.compiler]
      exact uniform
    have others := ih uniform'
    rw [funext (alike.foundIn uniform files)] at others
    rw [flatMap_cons, ← others]
    rfl

private theorem exists_filesOf {findings : List Finding}
    (located : ∀ finding ∈ findings, ∃ file, finding.InFile file) :
    ∃ names, filesOf findings = .ok names := by
  refine exists_mapM fun finding member => ?_
  obtain ⟨file, place, known, _⟩ := located finding member
  simp only [known]
  exact ⟨place.file, rfl⟩

/-- Numbers can be given about findings that have places, so the findings that are selected are reported. -/
theorem conclude_findings (located : ∀ finding ∈ found, ∃ file, finding.InFile file)
    (version : Value) : Report.findings <$> s.conclude version found = filterFindings s.config found := by
  unfold conclude
  cases selected : filterFindings s.config found with
  | error fault => rfl
  | ok kept =>
    obtain ⟨names, known⟩ := exists_filesOf fun finding member =>
      located finding (mem_of_filterFindings selected member).1
    rw [ok_bind, statistics, known]
    rfl

/-! ## Files and directories -/

private theorem run_file {target : String} (present : (files.file? (Path.ofText target)).isSome) :
    Report.findings <$> (s.run files target).1 =
      filterFindings s.config (s.foundIn files (Path.ofText target)) := by
  have alike := (s.runFile_steps files (Path.ofText target)).alike
  have located := s.foundIn_inFile files (Path.ofText target)
  simp only [run, present, if_true]
  rw [← alike.config]
  exact conclude_findings (fun finding member => ⟨_, located finding member⟩) _

private theorem run_directory (uniform : s.compiler.compiler.Uniform) (proper : files.Proper)
    {target : String} (directory : files.isDirectory (Path.ofText target)) :
    Report.findings <$> (s.run files target).1 =
      s.targets files (Path.ofText target) >>= fun paths =>
        filterFindings s.config (paths.flatMap (s.foundIn files)) := by
  have file : (files.file? (Path.ofText target)).isSome = false := by
    rw [proper.file?_of_isDirectory directory]
    rfl
  simp only [run, file, directory, if_true, Bool.false_eq_true, if_false]
  cases s.targets files (Path.ofText target) with
  | error fault => rfl
  | ok paths =>
    have alike := (s.runEach_steps files paths).alike
    have found := runEach_eq uniform files paths
    have located : ∀ finding ∈ (s.runEach files paths).1, ∃ file, finding.InFile file := by
      intro finding member
      rw [found, mem_flatMap] at member
      obtain ⟨path, _, member⟩ := member
      exact ⟨path.text, s.foundIn_inFile files path finding member⟩
    rw [ok_bind, ← found, ← alike.config]
    exact conclude_findings located _

/-- If all versions of the compiler answer alike, a full run over a directory reports what full runs over the files
that the settings keep report, one after the other. It does not matter what the sessions have been asked for
before, and a fault of one of the runs over files is the fault of the run over the directory. -/
theorem run_directory_eq_files {config : Config} {least : Severity}
    (valid : Severity.ofValue config.minSeverity = .ok least) {compiler : Compiler} (uniform : compiler.Uniform)
    {files : Files} (proper : files.Proper) {target : String} (directory : files.isDirectory (Path.ofText target))
    (regular : ∀ path ∈ files.search (Path.ofText target) config.output.verbose.truthy "*.sol",
      keepsFile config path = .ok true → (files.file? path).isSome)
    (earlier : List Request) (before : Path → List Request) :
    let session := (Session.new config compiler).performAll
    Report.findings <$> ((session earlier).run files target).1 = do
      let paths ← filterFiles config (files.search (Path.ofText target) config.output.verbose.truthy "*.sol")
      let reports ← paths.mapM fun path => ((session (before path)).run files path.text).1
      return reports.flatMap Report.findings := by
  intro session
  let start := Session.new config compiler
  have alike (requests : List Request) : Alike (session requests) start := (start.performAll_steps requests).alike
  have uniform (requests : List Request) : (session requests).compiler.compiler.Uniform := by
    rw [(alike requests).compiler]
    exact (compiler.prepare_compiler config.compiler).symm ▸ uniform
  have same (requests : List Request) (path : Path) :
      (session requests).foundIn files path = start.foundIn files path :=
    (alike requests).foundIn (uniform []) files path
  have configured (requests : List Request) : (session requests).config = config := (alike requests).config
  rw [run_directory (uniform earlier) proper directory, targets, configured]
  cases selected : filterFiles config (files.search (Path.ofText target) config.output.verbose.truthy "*.sol") with
  | error fault => rfl
  | ok paths =>
    have each : ∀ path ∈ paths, filterFindings config ((session earlier).foundIn files path) =
        Report.findings <$> ((session (before path)).run files path.text).1 := by
      intro path member
      obtain ⟨found, keeps⟩ := mem_of_filterM selected member
      have read := proper.ofText_of_mem_search found
      have present : (files.file? (Path.ofText path.text)).isSome := by
        rw [read]
        exact regular path found keeps
      rw [run_file present, configured, read, same, same]
    rw [ok_bind, ok_bind, filterFindings_flatMap valid, mapM_congr each, map_mapM]
    cases paths.mapM fun path => ((session (before path)).run files path.text).1 with
    | error fault => rfl
    | ok reports => rfl

/-- A directory with a file that is empty and one that is no text. -/
def twoFiles : Files := ⟨[(["d", "a.sol"], .text ""), (["d", "b.sol"], .bytes [255])]⟩

/-- The two files of the directory are reported on as in runs over them, one of them by a session that has
analysed the file before. -/
theorem run_directory_eq_files_sample :
    twoFiles.Proper ∧ twoFiles.isDirectory (Path.ofText "d") ∧ (Compiler.present twoVersions).Uniform ∧
      let session := (Session.new pinned (.present twoVersions)).performAll
      Report.findings <$> ((session []).run twoFiles "d").1 = do
        let first ← ((session [.run twoFiles "d/a.sol"]).run twoFiles "d/a.sol").1
        let second ← ((session [.run twoFiles "d/a.sol"]).run twoFiles "d/b.sol").1
        return first.findings ++ second.findings := by
  have proper : twoFiles.Proper := by decide
  have directory : twoFiles.isDirectory (Path.ofText "d") := by decide
  have uniform : (Compiler.present twoVersions).Uniform := fun _ _ _ => rfl
  have found : twoFiles.search (Path.ofText "d") false "*.sol" =
      [{ names := ["d", "a.sol"] }, { names := ["d", "b.sol"] }] := by decide
  have kept : filterFiles pinned [{ names := ["d", "a.sol"] }, { names := ["d", "b.sol"] }] =
      .ok [{ names := ["d", "a.sol"] }, { names := ["d", "b.sol"] }] := by rfl
  have valid : Severity.ofValue pinned.minSeverity = .ok .info := rfl
  have regular : ∀ path ∈ twoFiles.search (Path.ofText "d") false "*.sol",
      keepsFile pinned path = .ok true → (twoFiles.file? path).isSome := by
    rw [found]
    have present : ∀ path ∈ [{ names := ["d", "a.sol"] }, { names := ["d", "b.sol"] }],
      (twoFiles.file? path).isSome := by decide
    exact fun path member _ => present path member
  refine ⟨proper, directory, uniform, ?_⟩
  intro session
  have whole := run_directory_eq_files valid uniform proper directory regular [] fun _ => [.run twoFiles "d/a.sol"]
  refine whole.trans ?_
  change (filterFiles pinned (twoFiles.search (Path.ofText "d") false "*.sol") >>= _) = _
  rw [found, kept, ok_bind, mapM_cons, mapM_cons, mapM_nil]
  simp only [bind_assoc, pure_bind, flatMap_cons, flatMap_nil, append_nil]
  rfl

end Session

/-! ## Runs that end with a report -/

/-- The settings select among all files and findings. -/
structure Selects (config : Config) : Prop where
  severity : ∃ least, Severity.ofValue config.minSeverity = .ok least
  findings : ∀ severity : Severity, ∃ b, config.excludeSeverities.has severity.name = .ok b
  files : ∀ path, ∃ b, keepsFile config path = .ok b

theorem exists_filterM {α : Type} {p : α → Outcome Bool} {xs : List α} (each : ∀ x, ∃ b, p x = .ok b) :
    ∃ kept, xs.filterM p = .ok kept :=
  ⟨_, filterM_eq_ok fun x _ => eq_ok_holds (each x)⟩

namespace Selects

variable {config : Config} (selects : Selects config)

include selects

private theorem exists_filterFiles (paths : List Path) : ∃ kept, filterFiles config paths = .ok kept :=
  exists_filterM selects.files

private theorem exists_filterFindings (findings : List Finding) :
    ∃ kept, filterFindings config findings = .ok kept := by
  obtain ⟨least, valid⟩ := selects.severity
  rw [filterFindings_eq valid]
  refine exists_filterM fun finding => ?_
  unfold keepsFinding
  split
  · exact ⟨false, rfl⟩
  · obtain ⟨b, known⟩ := selects.findings finding.severity
    rw [known, ok_bind]
    exact ⟨!b, rfl⟩

end Selects

namespace Session

variable {s : Session} {files : Files} {target : String}

/-- What a run finds in files has places, whatever was compiled before. -/
theorem runEach_located (paths : List Path) :
    ∀ finding ∈ (s.runEach files paths).1, ∃ file, finding.InFile file := by
  induction paths generalizing s with
  | nil => simp [runEach]
  | cons path rest ih =>
    intro finding member
    obtain here | later := mem_append.mp member
    · exact ⟨path.text, s.foundIn_inFile files path finding here⟩
    · exact ih finding later

private theorem exists_conclude (selects : Selects s.config)
    (located : ∀ finding ∈ found, ∃ file, finding.InFile file) (version : Value) :
    ∃ report, s.conclude version found = .ok report := by
  obtain ⟨kept, selected⟩ := selects.exists_filterFindings found
  have reported : Report.findings <$> s.conclude version found = .ok kept :=
    (conclude_findings located version).trans selected
  cases done : s.conclude version found with
  | error fault =>
    rw [done] at reported
    contradiction
  | ok report => exact ⟨report, rfl⟩

/-- A full run over something that exists ends with a report. -/
theorem exists_run (selects : Selects s.config) (present : files.contains (Path.ofText target)) :
    ∃ report, (s.run files target).1 = .ok report := by
  unfold run
  dsimp only
  split
  next =>
    have alike := (s.runFile_steps files (Path.ofText target)).alike
    have located := s.foundIn_inFile files (Path.ofText target)
    rw [← alike.config] at selects
    exact exists_conclude selects (fun finding member => ⟨_, located finding member⟩) _
  next file =>
    rw [if_pos ((Files.file_or_directory present).resolve_left file)]
    obtain ⟨paths, selected⟩ := selects.exists_filterFiles
      (files.search (Path.ofText target) s.config.output.verbose.truthy "*.sol")
    rw [targets, selected]
    have alike := (s.runEach_steps files paths).alike
    rw [← alike.config] at selects
    exact exists_conclude selects (runEach_located paths) _

private theorem conclude_severities {version : Value} {report : Report} (done : s.conclude version found = .ok report) :
    report.statistics.severities = severityCounts report.findings := by
  obtain ⟨kept, -, done⟩ := bind_eq_ok.mp done
  obtain ⟨numbers, counted, done⟩ := bind_eq_ok.mp done
  obtain ⟨names, -, counted⟩ := bind_eq_ok.mp counted
  cases counted
  cases done
  rfl

/-- The numbers of a report are those of its findings. -/
theorem run_severities {report : Report} (done : (s.run files target).1 = .ok report) :
    report.statistics.severities = severityCounts report.findings := by
  unfold run at done
  dsimp only at done
  split at done
  next => exact conclude_severities done
  next =>
    split at done
    next =>
      cases selected : s.targets files (Path.ofText target) with
      | error fault =>
        rw [selected] at done
        contradiction
      | ok paths =>
        rw [selected] at done
        exact conclude_severities done
    next => contradiction

end Session

end ContractLint.Audit
