import Mathlib.Logic.Relation
import ContractLint.Audit.Session
import ContractLint.Proofs.Detector.Place
import ContractLint.Proofs.Detector.Registry
import ContractLint.Proofs.Detector.Textual
import ContractLint.Proofs.Solidity.Version

/-! # The version that compiles the files of a session

Whatever a session is asked for, it changes in one way only: a file is compiled and shown to the detectors.
A property that this step keeps is kept by all requests.

A detector that asks for a place in a syntax tree has the compiler prepared once more, by default settings.
What that selects stays in force, so the first file in which a place is asked for is the last one that is
compiled by the version of the settings.

What a session has been asked for before changes the version of the compiler that is in force and the detectors
that are kept, but neither the settings nor what the detectors find.
-/

namespace ContractLint.Audit

open List

variable {s t : Session} {unit : Solidity.Unit} {tools : Toolchain} {instances : List Detector.Instance}

/-! ## What a session does -/

/-- What a session can be asked for. The files may be different each time. -/
inductive Request where
  | file (files : Files) (path : Path)
  | directory (files : Files) (path : Path) (deep : Bool)
  /-- A full run over a file or a directory. -/
  | run (files : Files) (target : String)

namespace Session

def perform (s : Session) : Request → Session
  | .file files path => (s.analyzeFile files path).2
  | .directory files path deep => (s.analyzeDirectory files path deep).2
  | .run files target => (s.run files target).2

def performAll (s : Session) (requests : List Request) : Session := requests.foldl perform s

theorem performAll_nil (s : Session) : s.performAll [] = s := rfl

theorem performAll_cons (s : Session) (request : Request) (rest : List Request) :
    s.performAll (request :: rest) = (s.perform request).performAll rest := rfl

/-- The session after a file has been compiled and shown to the detectors. -/
def after (s : Session) (source file : String) : Session :=
  ((s.compile source file).2.inspect (s.compile source file).1).2.2

/-- A session goes over into another by the analysis of one file. -/
def Step (s t : Session) : Prop := ∃ source file, t = s.after source file

/-- A session goes over into another by the analysis of some files. -/
def Steps : Session → Session → Prop := Relation.ReflTransGen Step

variable (s : Session) (files : Files)

private theorem findings_steps (path : Path) : Steps s (s.findings files path).2 := by
  unfold findings
  cases files.read path with
  | error fault => exact .refl
  | ok source =>
    have step : Step s (s.after source path.text) := ⟨source, path.text, rfl⟩
    rw [after] at step
    dsimp only
    generalize (s.compile source path.text).2.inspect (s.compile source path.text).1 = ended at step ⊢
    obtain ⟨found, fault, t⟩ := ended
    cases fault with
    | none => exact .single step
    | some fault => exact .single step

/-- Analysing a file is a sequence of steps. -/
theorem analyzeFile_steps (target : Path) : Steps s (s.analyzeFile files target).2 := by
  unfold analyzeFile
  dsimp only
  split
  next => exact .refl
  next =>
    split
    next => exact .refl
    next =>
      cases s.checkSize files (Files.resolve target) with
      | error fault => exact .refl
      | ok _ =>
        have steps := s.findings_steps files (Files.resolve target)
        dsimp only
        generalize s.findings files (Files.resolve target) = ended at steps ⊢
        obtain ⟨fault | found, t⟩ := ended
        · exact steps
        · exact steps

private theorem analyzeEach_steps (paths : List Path) : Steps s (s.analyzeEach files paths).2 := by
  induction paths generalizing s with
  | nil => exact .refl
  | cons path rest ih => exact (s.analyzeFile_steps files path).trans (ih _)

private theorem analyzeDirectory_steps (target : Path) (deep : Bool) :
    Steps s (s.analyzeDirectory files target deep).2 := by
  unfold analyzeDirectory
  dsimp only
  split
  next => exact .refl
  next =>
    split
    next => exact .refl
    next =>
      cases filterFiles s.config (files.search (Files.resolve target) deep "*.sol") with
      | error fault => exact .refl
      | ok paths => exact s.analyzeEach_steps files paths

/-- Running on a file is a sequence of steps. -/
theorem runFile_steps (path : Path) : Steps s (s.runFile files path).2.2 := by
  unfold runFile
  cases files.read path with
  | error fault => exact .refl
  | ok source => exact .single ⟨source, path.text, rfl⟩

private theorem run_of_file {target source : String} (present : (files.file? (Path.ofText target)).isSome)
    (read : files.read (Path.ofText target) = .ok source) :
    (s.run files target).2 = s.after source (Path.ofText target).text := by
  unfold run runFile
  simp only [if_pos present, read]
  rfl

theorem runEach_steps (paths : List Path) : Steps s (s.runEach files paths).2 := by
  induction paths generalizing s with
  | nil => exact .refl
  | cons path rest ih => exact (s.runFile_steps files path).trans (ih _)

private theorem run_steps (target : String) : Steps s (s.run files target).2 := by
  unfold run
  dsimp only
  split
  next => exact s.runFile_steps files (Path.ofText target)
  next =>
    split
    next =>
      cases s.targets files (Path.ofText target) with
      | error fault => exact .refl
      | ok paths => exact s.runEach_steps files paths
    next => exact .refl

private theorem perform_steps (request : Request) : Steps s (s.perform request) := by
  cases request with
  | file files path => exact s.analyzeFile_steps files path
  | directory files path deep => exact s.analyzeDirectory_steps files path deep
  | run files target => exact s.run_steps files target

/-- Every request is a sequence of analyses of files. -/
theorem performAll_steps (requests : List Request) : Steps s (s.performAll requests) := by
  induction requests generalizing s with
  | nil => exact .refl
  | cons request rest ih => exact (s.perform_steps request).trans (ih _)

end Session

/-! ## Versions -/

open Solidity

/-- The detectors that get to see a compiled file: all up to the first one that fails. -/
def shown (unit : Solidity.Unit) : List Detector.Instance → List Detector.Instance
  | [] => []
  | kept :: rest =>
    kept :: match kept.detect unit with
      | .ok _ => shown unit rest
      | .error _ => []

/-- Some detector asks for a place in a compiled file. -/
def asks (instances : List Detector.Instance) (unit : Solidity.Unit) : Bool :=
  (shown unit instances).any fun kept => kept.detector.asksPlace unit

/-- What is done with the compiler while detectors look at a compiled file. -/
def relocations (again : List Action) (instances : List Detector.Instance) (unit : Solidity.Unit) : List Action :=
  (shown unit instances).flatMap fun kept => if kept.detector.asksPlace unit then again else []

/-- What is done with the compiler while some files are compiled and shown to detectors. -/
def history (prepared : Prepared) (instances : List Detector.Instance) (units : List Solidity.Unit) : List Action :=
  prepared.actions ++ units.flatMap fun unit =>
    .compile unit :: relocations (prepared.compiler.prepare {}).actions instances unit

private theorem shown_eq_self
    (succeed : ∀ kept ∈ instances, ∃ found, kept.detect unit = .ok found) : shown unit instances = instances := by
  induction instances with
  | nil => rfl
  | cons kept rest ih =>
    obtain ⟨⟨found, done⟩, others⟩ := forall_mem_cons.mp succeed
    rw [shown, done]
    exact congrArg (kept :: ·) (ih others)

/-- If no detector fails, a place is asked for exactly if there are findings in the syntax trees. -/
theorem asks_iff_found (succeed : ∀ kept ∈ instances, ∃ found, kept.detect unit = .ok found) :
    asks instances unit ↔ ∃ kept ∈ instances, kept.detector ≠ .textual ∧ kept.detect unit ≠ .ok [] := by
  rw [asks, shown_eq_self succeed, any_eq_true]
  constructor
  · rintro ⟨kept, member, asked⟩
    have onTrees : kept.detector ≠ .textual := by
      intro textual
      rw [textual] at asked
      cases asked
    obtain ⟨found, done⟩ := succeed kept member
    refine ⟨kept, member, onTrees, ?_⟩
    rw [Detector.asksPlace_of_detect onTrees done] at asked
    rw [done]
    rintro ⟨⟩
    cases asked
  · rintro ⟨kept, member, onTrees, finds⟩
    obtain ⟨found, done⟩ := succeed kept member
    refine ⟨kept, member, ?_⟩
    rw [Detector.asksPlace_of_detect onTrees done]
    cases found with
    | nil => exact absurd done finds
    | cons first rest => rfl

private theorem relocations_inForce (again : List Action) (instances : List Detector.Instance) (unit : Solidity.Unit) :
    inForce (relocations again instances unit) = if asks instances unit then inForce again else none := by
  refine inForce_flatMap (fun kept => ?_) _
  split <;> rfl

/-- While detectors look at a file nothing is compiled. -/
theorem relocations_idle {again : List Action} (idle : compiled again = []) (instances : List Detector.Instance)
    (unit : Solidity.Unit) : compiled (relocations again instances unit) = [] := by
  rw [relocations, compiled_flatMap, flatMap_eq_nil_iff]
  intro kept _
  split
  next => exact idle
  next => rfl

section History

variable {prepared : Prepared} (instances : List Detector.Instance) (units : List Solidity.Unit)

/-- The version in force changes only where a detector asks for a place. -/
theorem history_inForce :
    inForce (history prepared instances units) =
      if units.any (asks instances) then
        (inForce (prepared.compiler.prepare {}).actions).or (inForce prepared.actions)
      else inForce prepared.actions := by
  have each (unit : Solidity.Unit) :
      inForce (.compile unit :: relocations (prepared.compiler.prepare {}).actions instances unit) =
        if asks instances unit then inForce (prepared.compiler.prepare {}).actions else none :=
    relocations_inForce _ instances unit
  rw [history, inForce_append, inForce_flatMap each]
  cases units.any (asks instances) <;> rfl

private theorem compiled_history (started : compiled prepared.actions = [])
    (again : compiled (prepared.compiler.prepare {}).actions = []) :
    compiled (history prepared instances units) = units := by
  rw [history, compiled_append, started, nil_append, compiled_flatMap]
  simp only [compiled_compile, relocations_idle again]
  exact flatMap_singleton' units

/-- A further file is compiled after all before it. -/
theorem history_append (unit : Solidity.Unit) :
    history prepared instances (units ++ [unit]) =
      history prepared instances units ++
        .compile unit :: relocations (prepared.compiler.prepare {}).actions instances unit := by
  simp [history]

/-- A file that is compiled is one of the files, and before it those before it have been compiled. -/
theorem split_history (started : compiled prepared.actions = [])
    (again : compiled (prepared.compiler.prepare {}).actions = []) {before after : List Action}
    (split : history prepared instances units = before ++ .compile unit :: after) :
    ∃ earlier later, units = earlier ++ unit :: later ∧ before = history prepared instances earlier := by
  obtain ⟨between, rfl, rest⟩ := split_after_idle started split
  suffices ∃ earlier later, units = earlier ++ unit :: later ∧ between = earlier.flatMap fun unit =>
      .compile unit :: relocations (prepared.compiler.prepare {}).actions instances unit by
    obtain ⟨earlier, later, same, rfl⟩ := this
    exact ⟨earlier, later, same, rfl⟩
  clear split
  -- Nothing is compiled while the detectors look at a file, so the split is where a file begins.
  induction units generalizing between with
  | nil => simp at rest
  | cons first units ih =>
    rw [flatMap_cons, cons_append] at rest
    cases between with
    | nil =>
      cases rest
      exact ⟨[], units, rfl, rfl⟩
    | cons action between =>
      obtain ⟨rfl, tail⟩ := List.cons.inj rest
      obtain ⟨between, rfl, others⟩ := split_after_idle (relocations_idle again instances first) tail
      obtain ⟨earlier, later, rfl, rfl⟩ := ih between others
      exact ⟨first :: earlier, later, rfl, rfl⟩

end History

namespace Session

/-- Running the detectors changes nothing but what was done with the compiler. -/
theorem runDetectors_session (s : Session) (unit : Solidity.Unit) (found : List Finding)
    (instances : List Detector.Instance) :
    (s.runDetectors unit found instances).2.2 = { s with compiler := { s.compiler with
      actions := s.compiler.actions ++
        relocations (s.compiler.compiler.prepare {}).actions instances unit } } := by
  induction instances generalizing s found with
  | nil => simp [runDetectors, relocations, shown]
  | cons kept rest ih =>
    have asked : s.afterAsking kept.detector unit = { s with compiler := { s.compiler with
        actions := s.compiler.actions ++
          if kept.detector.asksPlace unit then (s.compiler.compiler.prepare {}).actions else [] } } := by
      unfold afterAsking Prepared.locating
      split
      next => rfl
      next => simp
    rw [runDetectors, relocations, shown, flatMap_cons, asked]
    cases kept.detect unit with
    | error fault => simp
    | ok more =>
      dsimp only
      rw [ih, ← append_assoc]
      rfl

private theorem after_eq (present : s.compiler.compiler = .present tools) (source file : String) :
    let unit := s.compiler.unitOf source file
    s.after source file = { s with
      compiler := { s.compiler with
        actions := s.compiler.actions ++ .compile unit ::
          relocations (s.compiler.compiler.prepare {}).actions s.registry.enabled.1 unit }
      registry := s.registry.enabled.2 } := by
  intro unit
  have compiles : s.compile source file =
      (unit, { s with compiler := { s.compiler with actions := s.compiler.actions ++ [.compile unit] } }) := by
    rw [Session.compile, Prepared.compile_present present]
  rw [after, compiles]
  refine (runDetectors_session _ unit [] _).trans ?_
  simp only [append_assoc, singleton_append]
  rfl

/-- A session has compiled some files since another one, each by the version in force at its time. -/
structure Follows (start : Session) (units : List Solidity.Unit) (s : Session) : Prop where
  compiler : s.compiler = { start.compiler with
    actions := history start.compiler start.registry.enabled.1 units }
  registry : s.registry.SameView start.registry
  made : ∀ earlier unit later, units = earlier ++ unit :: later →
    unit = { start.compiler with
      actions := history start.compiler start.registry.enabled.1 earlier }.unitOf unit.source unit.file

theorem Follows.start (s : Session) : Follows s [] s where
  compiler := by simp [history]
  registry := .refl s.registry
  made := by simp

/-- With each file, one more unit is compiled. -/
theorem Follows.step {start : Session} {units : List Solidity.Unit}
    (follows : Follows start units s) (present : start.compiler.compiler = .present tools)
    (source file : String) : Follows start (units ++ [s.compiler.unitOf source file]) (s.after source file) := by
  have here : s.compiler.compiler = .present tools := by rw [follows.compiler, present]
  rw [after_eq here]
  refine ⟨?_, s.registry.enabled_view.trans follows.registry, ?_⟩
  · dsimp only
    rw [follows.registry.enabled, history_append, follows.compiler]
  · intro earlier unit later split
    -- The file is the new one, or it was there before.
    obtain rfl | ⟨init, last, rfl⟩ := eq_nil_or_concat later
    · obtain ⟨rfl, same⟩ := append_inj' split rfl
      cases same
      rw [Prepared.unitOf_source, Prepared.unitOf_file, follows.compiler]
    · rw [concat_eq_append, ← cons_append, ← append_assoc] at split
      exact follows.made earlier unit init (append_inj' split rfl).1

/-- A session that has gone over into another by the analysis of files follows it. -/
theorem exists_follows {start : Session} (present : start.compiler.compiler = .present tools)
    (steps : Steps start s) : ∃ units, Follows start units s := by
  induction steps with
  | refl => exact ⟨[], .start start⟩
  | tail _ step ih =>
    obtain ⟨units, follows⟩ := ih
    obtain ⟨source, file, rfl⟩ := step
    exact ⟨_, follows.step present source file⟩

/-- Whatever a session is asked for, a file is compiled by the version that was selected at the start if no
detector has asked for a place in an earlier file, and otherwise by the one that is selected by default. The
version that is recorded with the file is the one of the start in any case. As long as no detector fails, places
are asked for in the files in whose syntax trees something was found. -/
theorem version_in_force (config : Config) (tools : Toolchain) (requests : List Request)
    {before after : List Action} {unit : Solidity.Unit}
    (split : ((Session.new config (.present tools)).performAll requests).compiler.actions =
      before ++ .compile unit :: after) :
    let instances := (Detector.Registry.new config).enabled.1
    (inForce before =
      if (compiled before).any (asks instances) then
        (tools.selection {}).or (tools.selection config.compiler)
      else tools.selection config.compiler) ∧
    unit.contracts = (readAnswer (tools.answer (inForce before) unit.source) unit.source).1 ∧
    unit.version = ((Compiler.present tools).prepare config.compiler).version ∧
    ((∀ earlier ∈ compiled before, ∀ kept ∈ instances, ∃ found, kept.detect earlier = .ok found) →
      ((compiled before).any (asks instances) ↔ ∃ earlier ∈ compiled before, ∃ kept ∈ instances,
        kept.detector ≠ .textual ∧ kept.detect earlier ≠ .ok [])) := by
  intro instances
  let start := Session.new config (.present tools)
  have present : start.compiler.compiler = .present tools := rfl
  obtain ⟨units, follows⟩ := exists_follows present (start.performAll_steps requests)
  rw [follows.compiler] at split
  have started : compiled start.compiler.actions = [] := tools.prepare_idle config.compiler
  have again : compiled (start.compiler.compiler.prepare {}).actions = [] := tools.prepare_idle {}
  obtain ⟨earlier, later, same, rfl⟩ := split_history _ units started again split
  have made := follows.made earlier unit later same
  refine ⟨?_, congrArg Unit.contracts made, congrArg Unit.version made, fun succeed => ?_⟩
  · have first : inForce start.compiler.actions = tools.selection config.compiler :=
      tools.prepare_inForce config.compiler
    have second : inForce (start.compiler.compiler.prepare {}).actions = tools.selection {} :=
      tools.prepare_inForce {}
    rw [compiled_history _ earlier started again, history_inForce, first, second]
    rfl
  · rw [any_eq_true]
    exact exists_congr fun unit => and_congr_right fun member => asks_iff_found (succeed unit member)

/-! ## A session with two versions -/

/-- A function that makes a call and changes a variable afterwards. -/
def callFirst : Value :=
  let node (kind : String) (fields : List (String × Value)) : Value :=
    .object (("nodeType", .text kind) :: fields)
  node "FunctionDefinition" [("body", node "Block" [("statements", .list [
    node "FunctionCall" [("expression", node "MemberAccess" [("memberName", .text "call")])],
    node "Assignment" [("left", node "Identifier" [])]])])]

def pinned : Config := { compiler := { version := .text "0.7.6" } }

/-- A compiler all versions of which find one contract in every file. -/
def callFirstIn (installed : Except ListingFailure (List String)) : Toolchain where
  installed
  canInstall := true
  reported := none
  answer _ _ := .ok (.object [("A", .object [("ast", callFirst)])])

def twoVersions : Toolchain := callFirstIn (.ok ["0.7.6", "0.8.0"])

def noVersion : Toolchain := callFirstIn (.error .nothingInstalled)

def emptyFile : Files := ⟨[(["a.sol"], .text "")]⟩

theorem perform_emptyFile (s : Session) : s.perform (.run emptyFile "a.sol") = s.after "" "a.sol" :=
  s.run_of_file emptyFile (by decide +kernel) rfl

/-- The empty file as it is compiled first. -/
def firstUnit : Solidity.Unit := ((Compiler.present twoVersions).prepare pinned.compiler).unitOf "" "a.sol"

private theorem asks_firstUnit : asks (Detector.Registry.new pinned).enabled.1 firstUnit = true := by
  obtain ⟨found, searched⟩ := Detector.Textual.detect_succeeds DetectorSettings.accepted_default firstUnit
  have textual : (Detector.Instance.mk .textual (.bool true) {}).detect firstUnit = .ok found := searched
  have reentrancy : Detector.reentrancy.asksPlace firstUnit = true := by decide +kernel
  have instances : (Detector.Registry.new pinned).enabled.1 = [⟨.textual, .bool true, {}⟩,
    ⟨.reentrancy, .bool true, {}⟩, ⟨.accessControl, .bool true, {}⟩,
      ⟨.uncheckedCall, .bool true, {}⟩] := rfl
  simp [asks, instances, shown, textual, reentrancy]

theorem inForce_after_firstUnit :
    inForce (history ((Compiler.present twoVersions).prepare pinned.compiler)
      (Detector.Registry.new pinned).enabled.1 [firstUnit]) = some (.text "0.8.0") := by
  rw [history_inForce, any_cons, asks_firstUnit]
  rfl

theorem two_runs : ∃ unit after,
    ((Session.new pinned (.present twoVersions)).performAll
      [.run emptyFile "a.sol", .run emptyFile "a.sol"]).compiler.actions =
      history ((Compiler.present twoVersions).prepare pinned.compiler)
        (Detector.Registry.new pinned).enabled.1 [firstUnit] ++ .compile unit :: after := by
  have once : Follows (Session.new pinned (.present twoVersions)) [firstUnit] _ :=
    (Follows.start _).step rfl "" "a.sol"
  have again := once.step rfl "" "a.sol"
  rw [performAll_cons, performAll_cons, performAll_nil, perform_emptyFile, perform_emptyFile,
    again.compiler, history_append]
  exact ⟨_, _, rfl⟩

/-- The second file is compiled by another version than the one that is recorded with it. -/
theorem version_in_force_twice : ∃ before unit after,
    ((Session.new pinned (.present twoVersions)).performAll
      [.run emptyFile "a.sol", .run emptyFile "a.sol"]).compiler.actions = before ++ .compile unit :: after ∧
    inForce before = some (.text "0.8.0") ∧ unit.version = .text "0.7.6" := by
  obtain ⟨unit, after, split⟩ := two_runs
  exact ⟨_, unit, after, split, inForce_after_firstUnit, (version_in_force pinned twoVersions _ split).2.2.1⟩

/-- The settings ask for version 0.7.6, which is installed or can be installed. But the second of two files
is compiled by version 0.8.0 after a call before a change of state was found in the first one, and without
any installed version already the first file is compiled by the latest one. -/
theorem version_not_kept :
    (∃ before unit after,
      ((Session.new pinned (.present twoVersions)).performAll
        [.run emptyFile "a.sol", .run emptyFile "a.sol"]).compiler.actions = before ++ .compile unit :: after ∧
      inForce before = some (.text "0.8.0")) ∧
    ∃ before unit after,
      ((Session.new pinned (.present noVersion)).performAll [.run emptyFile "a.sol"]).compiler.actions =
        before ++ .compile unit :: after ∧
      inForce before = some (.text "latest") := by
  constructor
  · obtain ⟨unit, after, split⟩ := two_runs
    exact ⟨_, unit, after, split, inForce_after_firstUnit⟩
  · have once := (Follows.start (Session.new pinned (.present noVersion))).step rfl "" "a.sol"
    rw [performAll_cons, performAll_nil, perform_emptyFile, once.compiler, history_append]
    exact ⟨_, _, _, rfl, rfl⟩

end Session

/-! ## Sessions that find the same -/

/-- The findings of detectors in a compiled file up to the first that fails, and why it fails. -/
def foundBy (unit : Solidity.Unit) : List Detector.Instance → List Finding × Option Fault
  | [] => ([], none)
  | kept :: rest =>
    match kept.detect unit with
    | .error fault => ([], some fault)
    | .ok more => (more ++ (foundBy unit rest).1, (foundBy unit rest).2)

namespace Session

/-- The sessions differ at most in what was done with the compiler, and in the detectors that they keep. -/
structure Alike (s t : Session) : Prop where
  config : s.config = t.config
  compiler : s.compiler = { t.compiler with actions := s.compiler.actions }
  registry : s.registry.SameView t.registry

theorem Alike.refl (s : Session) : Alike s s := ⟨rfl, rfl, .refl s.registry⟩

theorem Alike.trans {u : Session} (one : Alike s t) (two : Alike t u) : Alike s u where
  config := one.config.trans two.config
  compiler := by rw [one.compiler, two.compiler]
  registry := one.registry.trans two.registry

/-- Compiling leaves a session that is alike. -/
theorem compile_alike (s : Session) (source file : String) : Alike (s.compile source file).2 s :=
  ⟨rfl, s.compiler.compile_keeps source file, .refl s.registry⟩

/-- Inspecting leaves a session that is alike. -/
theorem inspect_alike (s : Session) (unit : Solidity.Unit) : Alike (s.inspect unit).2.2 s := by
  rw [inspect, runDetectors_session]
  exact ⟨rfl, rfl, s.registry.enabled_view⟩

/-- The analysis of a file changes nothing that findings depend on. -/
theorem Step.alike (step : Step s t) : Alike t s := by
  obtain ⟨source, file, rfl⟩ := step
  exact (inspect_alike _ _).trans (s.compile_alike source file)

/-- Steps lead to a session that is alike. -/
theorem Steps.alike (steps : Steps s t) : Alike t s := by
  induction steps with
  | refl => exact .refl s
  | tail _ step ih => exact step.alike.trans ih

private theorem runDetectors_eq (s : Session) (unit : Solidity.Unit) (found : List Finding)
    (instances : List Detector.Instance) :
    (s.runDetectors unit found instances).1 = found ++ (foundBy unit instances).1 ∧
      (s.runDetectors unit found instances).2.1 = (foundBy unit instances).2 := by
  induction instances generalizing s found with
  | nil => simp [runDetectors, foundBy]
  | cons kept rest ih =>
    rw [runDetectors, foundBy]
    cases kept.detect unit with
    | error fault => simp
    | ok more =>
      obtain ⟨others, fault⟩ := ih (s.afterAsking kept.detector unit) (found ++ more)
      exact ⟨by rw [others, append_assoc], fault⟩

/-- An inspection gives what the enabled detectors find. -/
theorem inspect_eq (s : Session) (unit : Solidity.Unit) :
    (s.inspect unit).1 = (foundBy unit s.registry.enabled.1).1 ∧
      (s.inspect unit).2.1 = (foundBy unit s.registry.enabled.1).2 :=
  runDetectors_eq _ unit [] _

/-- Where all versions answer alike, sessions that are alike compile a file to the same unit. -/
theorem Alike.unitOf (alike : Alike s t) (uniform : t.compiler.compiler.Uniform)
    (source file : String) : s.compiler.unitOf source file = t.compiler.unitOf source file := by
  rw [alike.compiler]
  exact Prepared.unitOf_uniform uniform _ source file

end Session

end ContractLint.Audit
