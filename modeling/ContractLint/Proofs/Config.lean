import ContractLint.Config
import ContractLint.Proofs.Solidity.Tree

/-! # Reading and writing a configuration

Reading completes a document: at every level a recognised name keeps the value that the document
gives it, be it null, empty or false, and has its default where the document does not mention it.
Nothing is lost by writing a configuration, so completing a document twice changes nothing more.
-/

namespace ContractLint

open List Outcome

variable {v : Value} {detectors : List (String × DetectorSettings)} {given : List (String × Value)}

/-- Each name of a table of defaults, with the value that some fields give it or else its default. -/
def completed (defaults given : List (String × Value)) : List (String × Value) :=
  defaults.map fun entry => (entry.1, (given.lookup entry.1).getD entry.2)

theorem isObject_of_getOr {default item : Value} {key : String} (known : v.getOr key default = .ok item) :
    v.isObject := by
  cases v with
  | object fields => rfl
  | _ => cases known

/-- A reader that accepts the objects only, and completes them, as its writer shows. -/
theorem read_eq_ok_iff {α : Type} {read : Value → Outcome α} {write : α → Value}
    {defaults : List (String × Value)} (injective : Function.Injective write)
    (accepts : ∀ v a, read v = .ok a → v.isObject)
    (completes : ∀ given, ∃ a, read (.object given) = .ok a ∧ write a = .object (completed defaults given))
    {a : α} :
    read v = .ok a ↔ ∃ given, v = .object given ∧ write a = .object (completed defaults given) := by
  constructor
  · intro done
    cases v with
    | object given =>
      obtain ⟨b, made, whole⟩ := completes given
      rw [made] at done
      cases done
      exact ⟨given, rfl, whole⟩
    | _ => exact absurd (accepts _ _ done) Bool.false_ne_true
  · rintro ⟨given, rfl, same⟩
    obtain ⟨b, made, whole⟩ := completes given
    rw [made, injective (whole.trans same.symm)]

namespace DetectorSettings

def defaults : List (String × Value) :=
  [("enabled", .bool true), ("severity_override", .null), ("custom_params", .object [])]

private theorem toValue_injective : Function.Injective toValue := by
  rintro ⟨⟩ ⟨⟩ same
  simpa [toValue] using same

private theorem ofValue_eq_ok_iff {settings : DetectorSettings} :
    ofValue v = .ok settings ↔ ∃ given, v = .object given ∧
      settings.toValue = .object (completed defaults given) := by
  apply read_eq_ok_iff toValue_injective
  · intro v settings read
    obtain ⟨enabled, known, _⟩ := bind_eq_ok.mp read
    exact isObject_of_getOr known
  · intro given
    exact ⟨_, rfl, rfl⟩

example : completed defaults [("enabled", .null), ("other", .int 1)] =
    [("enabled", .null), ("severity_override", .null), ("custom_params", .object [])] := rfl

end DetectorSettings

namespace OutputSettings

def defaults : List (String × Value) :=
  [("format", .text "console"), ("output_file", .null), ("include_code_snippets", .bool true),
    ("max_snippet_lines", .int 5), ("color_output", .bool true), ("verbose", .bool false)]

private theorem toValue_injective : Function.Injective toValue := by
  rintro ⟨⟩ ⟨⟩ same
  simpa [toValue] using same

private theorem ofValue_eq_ok_iff {settings : OutputSettings} :
    ofValue v = .ok settings ↔ ∃ given, v = .object given ∧
      settings.toValue = .object (completed defaults given) := by
  apply read_eq_ok_iff toValue_injective
  · intro v settings read
    obtain ⟨format, known, _⟩ := bind_eq_ok.mp read
    exact isObject_of_getOr known
  · intro given
    exact ⟨_, rfl, rfl⟩

end OutputSettings

namespace CompilerSettings

def defaults : List (String × Value) :=
  [("version", .null), ("optimize", .bool false), ("optimize_runs", .int 200), ("evm_version", .null),
    ("allow_paths", .list [])]

private theorem toValue_injective : Function.Injective toValue := by
  rintro ⟨⟩ ⟨⟩ same
  simpa [toValue] using same

private theorem ofValue_eq_ok_iff {settings : CompilerSettings} :
    ofValue v = .ok settings ↔ ∃ given, v = .object given ∧
      settings.toValue = .object (completed defaults given) := by
  apply read_eq_ok_iff toValue_injective
  · intro v settings read
    obtain ⟨version, known, _⟩ := bind_eq_ok.mp read
    exact isObject_of_getOr known
  · intro given
    exact ⟨_, rfl, rfl⟩

end CompilerSettings

namespace Config

/-- The settings that stand beside the sections, with their defaults. -/
def defaults : List (String × Value) :=
  [("max_file_size_mb", .int 10), ("timeout_seconds", .int 300), ("include_test_files", .bool false),
    ("min_severity", .text "INFO"), ("exclude_severities", .list []), ("include_patterns", .list [.text "*.sol"]),
    ("exclude_patterns", .list [.text "*test*", .text "*mock*"])]

theorem field_of_lookup {name : String}
    (found : given.lookup name = some v) : (Value.object given).field name = .ok v := by
  rw [Value.field, found]
  rfl

private theorem setting_object (given : List (String × Value)) (key : String) (default : Value) :
    setting (.object given) key default = .ok ((given.lookup key).getD default) := by
  rw [setting, Solidity.has_eq, ok_bind]
  cases found : given.lookup key with
  | none => rfl
  | some v => exact field_of_lookup found

/-! ## Sections -/

/-- The section of a document, which is empty where the document does not mention it. -/
def sectionOf (given : List (String × Value)) (name : String) : Value :=
  (given.lookup name).getD (.object [])

/-- A section that is not given is read as an empty one. -/
theorem section_bind {α β : Type} (read : Value → Outcome α) (default : α)
    (empty : read (.object []) = .ok default) (given : List (String × Value)) (name : String)
    (next : α → Outcome β) :
    ((Value.object given).has name >>= fun mentioned =>
      if mentioned = true then (Value.object given).field name >>= fun v => read v >>= next
      else pure default >>= next) = read (sectionOf given name) >>= next := by
  rw [Solidity.has_eq, ok_bind, sectionOf]
  cases found : given.lookup name with
  | none =>
    rw [Option.getD_none, empty]
    rfl
  | some v =>
    rw [Option.isSome_some, if_pos rfl, field_of_lookup found]
    rfl

def detectorsIn (v : Value) : Outcome (List (String × DetectorSettings)) := do
  (← v.entries).mapM fun entry => return (entry.1, ← DetectorSettings.ofValue entry.2)

private theorem detectorsOf_object (given : List (String × Value)) :
    detectorsOf (.object given) = detectorsIn (sectionOf given "detectors") := by
  have split := section_bind detectorsIn [] rfl given "detectors" pure
  simp only [bind_pure] at split
  exact split

def written (detectors : List (String × DetectorSettings)) : List (String × Value) :=
  detectors.map fun entry => (entry.1, entry.2.toValue)

private theorem mapM_ofValue_eq_ok_iff {fields : List (String × Value)} :
    (fields.mapM fun entry => do return (entry.1, ← DetectorSettings.ofValue entry.2)) = .ok detectors ↔
      ∃ parts : List (String × List (String × Value)), fields = parts.map (fun part => (part.1, .object part.2)) ∧
        written detectors =
          parts.map fun part => (part.1, .object (completed DetectorSettings.defaults part.2)) := by
  induction fields generalizing detectors with
  | nil =>
    constructor
    · intro read
      cases read
      exact ⟨[], rfl, rfl⟩
    · rintro ⟨parts, none, same⟩
      obtain rfl := map_eq_nil_iff.mp none.symm
      obtain rfl := map_eq_nil_iff.mp same
      rfl
  | cons field fields ih =>
    obtain ⟨name, v⟩ := field
    constructor
    · intro read
      rw [mapM_cons] at read
      obtain ⟨first, one, read⟩ := bind_eq_ok.mp read
      obtain ⟨rest, others, read⟩ := bind_eq_ok.mp read
      cases read
      obtain ⟨settings, known, one⟩ := bind_eq_ok.mp one
      cases one
      obtain ⟨given, rfl, whole⟩ := DetectorSettings.ofValue_eq_ok_iff.mp known
      obtain ⟨parts, rfl, wholes⟩ := ih.mp others
      refine ⟨(name, given) :: parts, rfl, ?_⟩
      rw [written, map_cons, ← written, whole, wholes]
      rfl
    · rintro ⟨parts, same, wholes⟩
      obtain ⟨⟨_, given⟩, parts, rfl, here, rfl⟩ := map_eq_cons_iff.mp same.symm
      cases here
      obtain ⟨⟨_, settings⟩, rest, rfl, whole, others⟩ := map_eq_cons_iff.mp wholes
      obtain ⟨rfl, whole⟩ := Prod.mk.injEq .. ▸ whole
      have known := DetectorSettings.ofValue_eq_ok_iff.mpr ⟨given, rfl, whole⟩
      rw [mapM_cons, known, ih.mpr ⟨parts, rfl, others⟩]
      rfl

private theorem detectorsIn_written (detectors : List (String × DetectorSettings)) :
    detectorsIn (.object (written detectors)) = .ok detectors := by
  change (written detectors).mapM _ = _
  induction detectors with
  | nil => rfl
  | cons entry detectors ih =>
    rw [written, map_cons, mapM_cons, ← written, ih]
    rfl

private theorem detectorsIn_eq_ok_iff :
    detectorsIn v = .ok detectors ↔
      ∃ parts :
        List (String × List (String × Value)), v = .object (parts.map fun part => (part.1, .object part.2)) ∧
        written detectors =
          parts.map fun part => (part.1, .object (completed DetectorSettings.defaults part.2)) := by
  constructor
  · intro read
    cases v with
    | object fields =>
      obtain ⟨parts, rfl, wholes⟩ := mapM_ofValue_eq_ok_iff.mp read
      exact ⟨parts, rfl, wholes⟩
    | _ => cases read
  · rintro ⟨parts, rfl, wholes⟩
    exact mapM_ofValue_eq_ok_iff.mpr ⟨parts, rfl, wholes⟩

/-! ## Whole configurations -/

/-- A configuration is read section by section. -/
theorem ofValue_object (given : List (String × Value)) :
    ofValue (.object given) = do
      let detectors ← detectorsIn (sectionOf given "detectors")
      let output ← OutputSettings.ofValue (sectionOf given "output")
      let compiler ← CompilerSettings.ofValue (sectionOf given "solc")
      let value := fun name default => (given.lookup name).getD default
      return {
        maxFileSizeMb := value "max_file_size_mb" (.int 10)
        timeoutSeconds := value "timeout_seconds" (.int 300)
        includeTestFiles := value "include_test_files" (.bool false)
        minSeverity := value "min_severity" (.text "INFO")
        excludeSeverities := value "exclude_severities" (.list [])
        includePatterns := value "include_patterns" (.list [.text "*.sol"])
        excludePatterns := value "exclude_patterns" (.list [.text "*test*", .text "*mock*"])
        detectors, output, compiler } := by
  simp only [ofValue, setting_object, ok_bind, detectorsOf_object]
  congr 1
  funext detectors
  rw [section_bind OutputSettings.ofValue {} rfl given "output"]
  congr 1
  funext output
  rw [section_bind CompilerSettings.ofValue {} rfl given "solc"]

/-- A document with its sections, all completed. -/
def whole (given : List (String × Value)) (detectors : List (String × List (String × Value)))
    (output compiler : List (String × Value)) : Value :=
  .object (completed defaults given ++ [
    ("detectors", .object (detectors.map fun part => (part.1, .object (completed DetectorSettings.defaults part.2)))),
    ("output", .object (completed OutputSettings.defaults output)),
    ("solc", .object (completed CompilerSettings.defaults compiler))])

private theorem ofValue_eq_ok_iff {config : Config} :
    ofValue (.object given) = .ok config ↔
      ∃ detectors output compiler,
        sectionOf given "detectors" = .object (detectors.map fun part => (part.1, .object part.2)) ∧
        sectionOf given "output" = .object output ∧ sectionOf given "solc" = .object compiler ∧
        config.toValue = whole given detectors output compiler := by
  rw [ofValue_object]
  constructor
  · intro read
    obtain ⟨detectors, named, read⟩ := bind_eq_ok.mp read
    obtain ⟨output, shown, read⟩ := bind_eq_ok.mp read
    obtain ⟨compiler, compiled, read⟩ := bind_eq_ok.mp read
    cases read
    obtain ⟨parts, first, wholes⟩ := detectorsIn_eq_ok_iff.mp named
    obtain ⟨outputs, second, shown⟩ := OutputSettings.ofValue_eq_ok_iff.mp shown
    obtain ⟨compilers, third, compiled⟩ := CompilerSettings.ofValue_eq_ok_iff.mp compiled
    refine ⟨parts, outputs, compilers, first, second, third, ?_⟩
    rw [whole, ← wholes, ← shown, ← compiled]
    rfl
  · rintro ⟨parts, outputs, compilers, first, second, third, same⟩
    obtain ⟨_, _, _, _, _, _, _, detectors, output, compiler⟩ := config
    simp only [toValue, whole, completed, defaults, map_cons, map_nil, cons_append, nil_append,
      Value.object.injEq, List.cons.injEq, Prod.mk.injEq, true_and, and_true] at same
    obtain ⟨rfl, rfl, rfl, rfl, rfl, rfl, rfl, wholes, shown, compiled⟩ := same
    rw [detectorsIn_eq_ok_iff.mpr ⟨parts, first, wholes⟩, ok_bind,
      OutputSettings.ofValue_eq_ok_iff.mpr ⟨outputs, second, shown⟩, ok_bind,
      CompilerSettings.ofValue_eq_ok_iff.mpr ⟨compilers, third, compiled⟩, ok_bind]
    rfl

/-- A configuration is read back from the value it is written as. -/
theorem ofValue_toValue (config : Config) : ofValue config.toValue = .ok config := by
  rw [toValue, ofValue_object]
  change (detectorsIn (.object (written config.detectors)) >>= _) = _
  rw [detectorsIn_written, ok_bind]
  rfl

/-- A document as it is written once it has been read. -/
def normal (v : Value) : Outcome Value := toValue <$> ofValue v

private theorem normal_normal (v : Value) : (normal v >>= normal) = normal v := by
  rw [normal]
  cases ofValue v with
  | error fault => rfl
  | ok config =>
    change normal config.toValue = .ok config.toValue
    rw [normal, ofValue_toValue]
    rfl

/-- Writing and reading a configuration gives it back. Reading accepts the documents whose sections and entries are
objects, and gives the configuration that is written as the document with each of these completed. -/
theorem reading_completes :
    (∀ config : Config, ofValue config.toValue = .ok config) ∧
    (∀ given config, ofValue (.object given) = .ok config ↔
      ∃ detectors output compiler,
        sectionOf given "detectors" = .object (detectors.map fun part => (part.1, .object part.2)) ∧
        sectionOf given "output" = .object output ∧ sectionOf given "solc" = .object compiler ∧
        config.toValue = whole given detectors output compiler) ∧
    ∀ v, (normal v >>= normal) = normal v :=
  ⟨ofValue_toValue, fun _ _ => ofValue_eq_ok_iff, normal_normal⟩

end Config

end ContractLint
