import ContractLint.Audit.Selection
import ContractLint.Proofs.Outcome
import ContractLint.Proofs.Text.Glob

/-! # Which files are analysed and which findings are reported

A finding is reported if it is at least as grave as the settings demand and its severity is not left out. This is
decided for each finding by itself.

A file is analysed if it fits a pattern of files to analyse, and no pattern of files to leave out is written in its
name. The patterns of files to leave out are not read as patterns there, so that a file is analysed although one of
them accepts its name, or left out although none does (`selection_described_iff`).
-/

namespace ContractLint.Audit

open List Outcome

variable {finding : Finding}

/-- The settings let a finding through. -/
structure Reported (config : Config) (severity : Severity) : Prop where
  /-- The severity is at least the least one. -/
  grave : ∃ least, Severity.ofValue config.minSeverity = .ok least ∧ severity.rank ≤ least.rank
  included : config.excludeSeverities.has severity.name = .ok false

variable {config : Config} {least : Severity}

private theorem keepsFinding_iff :
    keepsFinding config least finding = .ok true ↔
      finding.severity.rank ≤ least.rank ∧ config.excludeSeverities.has finding.severity.name = .ok false := by
  unfold keepsFinding
  split
  next less => simp [pure, Except.pure, Nat.not_le.mpr less]
  next enough =>
    rw [and_iff_right (Nat.not_lt.mp enough)]
    cases config.excludeSeverities.has finding.severity.name with
    | error fault => simp [pure, Except.pure]
    | ok b => cases b <;> simp [pure, Except.pure]

/-- With a valid least severity, the filter asks about each finding by itself. -/
theorem filterFindings_eq (valid : Severity.ofValue config.minSeverity = .ok least) (findings : List Finding) :
    filterFindings config findings = findings.filterM (keepsFinding config least) := by
  rw [filterFindings, valid, ok_bind]

/-- The findings that are kept are some of those there are, and the settings let them through. -/
theorem mem_of_filterFindings {findings kept : List Finding} (done : filterFindings config findings = .ok kept)
    (member : finding ∈ kept) : finding ∈ findings ∧ Reported config finding.severity := by
  obtain ⟨least, valid, done⟩ := bind_eq_ok.mp done
  obtain ⟨inside, keeps⟩ := mem_of_filterM done member
  obtain ⟨grave, included⟩ := keepsFinding_iff.mp keeps
  exact ⟨inside, ⟨least, valid, grave⟩, included⟩

/-- Findings of several files are selected file by file. -/
theorem filterFindings_flatMap (valid : Severity.ofValue config.minSeverity = .ok least) {α : Type}
    (found : α → List Finding) (list : List α) :
    filterFindings config (list.flatMap found) =
      List.flatten <$> list.mapM fun a => filterFindings config (found a) := by
  simp only [filterFindings_eq valid, filterM_flatMap]

/-! ## Files -/

/-- The settings list patterns of files to analyse and patterns of files to leave out. -/
structure Lists (config : Config) (wanted unwanted : List String) : Prop where
  wanted : config.includePatterns.elements = .ok (wanted.map .text)
  unwanted : config.excludePatterns.elements = .ok (unwanted.map .text)

def fitsAny (patterns : List String) (path : Path) : Bool := patterns.any fun pattern => (path.fits pattern).holds

/-- The name of the path holds one of the patterns as it is written, whatever the case of letters. -/
def holdsAny (patterns : List String) (path : Path) : Bool :=
  patterns.any fun pattern => Text.contains (Text.lower path.name) (Text.lower pattern)

/-- One of the patterns accepts the name of the path, whatever the case of letters. -/
def acceptedByAny (patterns : List String) (path : Path) : Bool :=
  patterns.any fun pattern => Text.Glob.accepts (Text.lower pattern) (Text.lower path.name)

/-- No pattern of files to leave out is written in the name of the path, or such files are to be analysed as well. -/
def isSpared (config : Config) (unwanted : List String) (path : Path) : Bool :=
  config.includeTestFiles.truthy || !holdsAny unwanted path

/-- The files that the settings describe: they fit a pattern of files to analyse, and no pattern of files to leave out
accepts their names, unless such files are to be analysed as well. -/
def described (config : Config) (wanted unwanted : List String) (paths : List Path) : List Path :=
  paths.filter fun path =>
    fitsAny wanted path && (config.includeTestFiles.truthy || !acceptedByAny unwanted path)

/-- A pattern without any part is met before one that the path fits. -/
def Stalls (patterns : List String) (path : Path) : Prop :=
  ∃ before pattern after, patterns = before ++ pattern :: after ∧
    (∀ earlier ∈ before, path.fits earlier = .ok false) ∧
    (Path.ofText pattern).parts = []

private theorem fits_failsIff (path : Path) (pattern : String) :
    FailsIff (.invalid "empty pattern") ((Path.ofText pattern).parts = []) (path.fits pattern) := by
  rw [Path.fits]
  by_cases blank : (Path.ofText pattern).parts = []
  · refine ⟨fun _ => if_pos (by rw [blank]; rfl), fun good => absurd blank good⟩
  · refine .of_ok blank ?_
    simp only [isEmpty_eq_false_iff.mpr blank, Bool.false_eq_true, if_false]
    exact exists_ite ⟨_, rfl⟩ ⟨_, rfl⟩

section Files

variable {wanted unwanted : List String} (lists : Lists config wanted unwanted)

include lists

private theorem isExcluded_eq (path : Path) : isExcluded config path.name = .ok (holdsAny unwanted path) := by
  rw [isExcluded, lists.unwanted, ok_bind, anyM_map]
  exact anyM_pure

private theorem isIncluded_eq (path : Path) : isIncluded config path = wanted.anyM path.fits := by
  rw [isIncluded, lists.wanted, ok_bind, anyM_map]
  rfl

/-- A file is kept if it is spared and fits a pattern of files to analyse. -/
theorem keepsFile_eq (path : Path) :
    keepsFile config path =
      if isSpared config unwanted path then wanted.anyM path.fits else .ok false := by
  rw [keepsFile, isExcluded_eq lists, ok_bind, isIncluded_eq lists, isSpared]
  cases holdsAny unwanted path <;> cases config.includeTestFiles.truthy <;> rfl

/-- A file can be judged unless a pattern without any part is met. -/
theorem keepsFile_failsIff (path : Path) :
    FailsIff (.invalid "empty pattern") (isSpared config unwanted path ∧ Stalls wanted path)
      (keepsFile config path) := by
  rw [keepsFile_eq lists]
  split
  next spared => exact (FailsIff.anyM fun pattern _ => fits_failsIff path pattern).congr (by simp [spared, Stalls])
  next barred => exact .of_ok (fun bad => barred bad.1) ⟨false, rfl⟩

private theorem eq_of_keepsFile {path : Path} {kept : Bool} (done : keepsFile config path = .ok kept) :
    kept = (fitsAny wanted path && isSpared config unwanted path) := by
  rw [keepsFile_eq lists] at done
  split at done
  next spared => rw [spared, Bool.and_true, fitsAny, any_of_anyM done]
  next barred => rw [eq_false_of_ne_true barred, Bool.and_false, Except.ok.inj done]

end Files

private theorem filter_eq_filter_iff {α : Type} {p q : α → Bool} {xs : List α} :
    xs.filter p = xs.filter q ↔ ∀ x ∈ xs, p x = q x := by
  refine ⟨fun same x member => ?_, filter_congr⟩
  have kept : x ∈ xs.filter p ↔ x ∈ xs.filter q := by rw [same]
  rw [mem_filter, mem_filter, and_congr_right_iff] at kept
  exact Bool.eq_iff_iff.mpr (kept member)

/-! ### Words between stars -/

section Starred

variable {unwanted words : List String} (starred : unwanted.map Text.lower = words.map Text.Glob.starred) (path : Path)

include starred

private theorem acceptedByAny_starred (plain : ∀ word ∈ words, word.toList.all Text.Glob.isPlain) :
    acceptedByAny unwanted path = Text.containsAny (Text.lower path.name) words := by
  have rules : acceptedByAny unwanted path =
      (unwanted.map Text.lower).any (Text.Glob.accepts · (Text.lower path.name)) := by
    simp only [acceptedByAny, any_map, Function.comp_def]
  rw [rules, starred, any_map, Text.containsAny, Bool.eq_iff_iff, any_eq_true, any_eq_true]
  refine exists_congr fun word => and_congr_right fun member => ?_
  rw [Function.comp_apply, Text.Glob.accepts_starred (plain word member)]

/-- A pattern that is written in a name, stars and all, has its word in the name. -/
theorem contains_of_holdsAny (holds : holdsAny unwanted path) : Text.containsAny (Text.lower path.name) words := by
  have rules : holdsAny unwanted path = (unwanted.map Text.lower).any (Text.contains (Text.lower path.name)) := by
    simp only [holdsAny, any_map, Function.comp_def]
  rw [rules, starred, any_map] at holds
  obtain ⟨word, member, occurs⟩ := any_eq_true.mp holds
  rw [Function.comp_apply] at occurs
  have inside : word.toList <:+: (Text.Glob.starred word).toList := ⟨['*'], ['*'], by simp [Text.Glob.starred]⟩
  rw [Text.containsAny, any_eq_true]
  exact ⟨word, member, Text.contains_iff.mpr (inside.trans (Text.contains_iff.mp occurs))⟩

end Starred

/-- Whatever patterns the settings list, the files that are selected are those that fit a pattern of files to analyse
and do not have a pattern of files to leave out written in their names; selecting fails exactly if a pattern without any
part is met. These are the files that the settings describe exactly if, for each file that fits, a pattern to leave out
is written in its name just when one accepts it. Where these patterns are words between stars, the files that the
settings describe are the selected ones whose names hold none of the words. -/
theorem selection_described_iff {wanted unwanted : List String} (lists : Lists config wanted unwanted)
    (paths : List Path) :
    FailsIff (.invalid "empty pattern") (∃ path ∈ paths, isSpared config unwanted path ∧ Stalls wanted path)
      (filterFiles config paths) ∧
    ∀ kept, filterFiles config paths = .ok kept →
      kept = (paths.filter fun path => fitsAny wanted path && isSpared config unwanted path) ∧
      (kept = described config wanted unwanted paths ↔ config.includeTestFiles.truthy ∨
        ∀ path ∈ paths, fitsAny wanted path → holdsAny unwanted path = acceptedByAny unwanted path) ∧
      ∀ words, unwanted.map Text.lower = words.map Text.Glob.starred →
        (∀ word ∈ words, word.toList.all Text.Glob.isPlain) →
        described config wanted unwanted paths =
          if config.includeTestFiles.truthy then kept
          else kept.filter fun path => !Text.containsAny (Text.lower path.name) words := by
  refine ⟨.filterM fun path _ => keepsFile_failsIff lists path, fun kept done => ?_⟩
  have selected := filter_of_filterM done fun path b => eq_of_keepsFile lists
  refine ⟨selected, ?_, fun words starred plain => ?_⟩
  · rw [selected, described, filter_eq_filter_iff]
    simp only [isSpared]
    cases config.includeTestFiles.truthy with
    | true => simp
    | false =>
      simp only [Bool.false_or, Bool.false_eq_true, false_or]
      refine forall₂_congr fun path _ => ?_
      cases fitsAny wanted path with
      | true => simp
      | false => simp
  · rw [selected, described]
    simp only [isSpared, acceptedByAny_starred starred _ plain]
    cases config.includeTestFiles.truthy with
    | true => simp
    | false =>
      simp only [Bool.false_or, Bool.false_eq_true, if_false, filter_filter]
      refine filter_congr fun path _ => ?_
      cases held : holdsAny unwanted path with
      | true => simp [contains_of_holdsAny starred path held]
      | false => simp [Bool.and_comm]

private theorem lists_default : Lists {} ["*.sol"] ["*test*", "*mock*"] := ⟨rfl, rfl⟩

/-- By default a name that holds a pattern with its stars is passed over, and one that holds only the word is not. -/
theorem selection_described_iff_default :
    let paths : List Path := [.ofText "a.sol", .ofText "lib/x*Test*.sol", .ofText "MyTest.sol"]
    filterFiles {} paths = .ok [.ofText "a.sol", .ofText "MyTest.sol"] ∧
      described {} ["*.sol"] ["*test*", "*mock*"] paths = [.ofText "a.sol"] := by
  intro paths
  have done : filterFiles {} paths = .ok [.ofText "a.sol", .ofText "MyTest.sol"] := by rfl
  obtain ⟨-, -, starred⟩ := (selection_described_iff lists_default paths).2 _ done
  refine ⟨done, ?_⟩
  rw [starred ["test", "mock"] (by decide) (by decide)]
  decide

/-- The default settings ask for files without the word in their names, and such a file is selected. -/
theorem test_file_selected :
    let paths : List Path := [.ofText "a.sol", .ofText "MyTest.sol"]
    filterFiles {} paths = .ok paths ∧ Text.contains (Text.lower "MyTest.sol") "test" ∧
      described {} ["*.sol"] ["*test*", "*mock*"] paths = [.ofText "a.sol"] :=
  ⟨by rfl, by decide, by decide⟩

end ContractLint.Audit
