import ContractLint.Detector.Registry
import ContractLint.Proofs.Entries

/-! # What a registry stands for

A registry keeps the detectors that it has created. That is not visible from outside: a question for a
detector changes the answer to no other question, so the detectors that take part in analyses are the
same each time.
-/

namespace ContractLint.Detector.Registry

open Entries

variable {r : Registry}

/-- Two registries have the same configuration and answer every question for a detector alike. -/
structure SameView (r t : Registry) : Prop where
  config : r.config = t.config
  plugins : r.plugins = t.plugins
  create : ∀ name, (r.create name).1 = (t.create name).1

namespace SameView

variable {r t u : Registry}

theorem refl (r : Registry) : SameView r r := ⟨rfl, rfl, fun _ => rfl⟩

theorem trans (one : SameView r t) (two : SameView t u) : SameView r u :=
  ⟨one.config.trans two.config, one.plugins.trans two.plugins,
    fun name => (one.create name).trans (two.create name)⟩

private theorem names (same : SameView r t) : r.names = t.names := by
  rw [Registry.names, Registry.names, same.plugins]

end SameView

/-- A question for a detector either leaves the registry as it is, or the registry keeps a new detector,
which is the answer. -/
theorem create_cases (r : Registry) (name : String) :
    (r.create name).2 = r ∨
    ∃ made detector, r.plugins.lookup name = some (.concrete detector) ∧
      (r.config.detectorEnabled name).truthy ∧ r.instances.lookup name = none ∧
      r.create name = (some made, { r with instances := put r.instances name made }) := by
  unfold create
  cases plugin : r.plugins.lookup name with
  | none => exact .inl rfl
  | some found =>
    by_cases on : (r.config.detectorEnabled name).truthy
    · cases kept : r.instances.lookup name with
      | some one => simp [on]
      | none =>
        cases found with
        | concrete detector => simp [on]
        | outline => simp [on]
        | foreign description => simp [on]
    · simp [on]

private theorem create_kept {name : String} {plugin : Plugin} {one : Instance}
    (known : r.plugins.lookup name = some plugin) (on : (r.config.detectorEnabled name).truthy)
    (kept : r.instances.lookup name = some one) : r.create name = (some one, r) := by
  simp [create, known, on, kept]

/-- Only the detector kept under a name matters for a question for that name. -/
theorem create_congr {instances : List (String × Instance)} {name : String}
    (same : instances.lookup name = r.instances.lookup name) :
    ({ r with instances }.create name).1 = (r.create name).1 := by
  unfold create
  simp only [same]
  cases r.plugins.lookup name with
  | none => rfl
  | some plugin =>
    simp only
    split
    next => rfl
    next =>
      cases r.instances.lookup name with
      | some kept => rfl
      | none => cases plugin <;> rfl

/-- A question for a detector changes the answer to no question. -/
theorem create_view (r : Registry) (name : String) : SameView (r.create name).2 r := by
  obtain same | ⟨made, detector, known, on, _, step⟩ := r.create_cases name
  · rw [same]
    exact .refl r
  · rw [step]
    refine ⟨rfl, rfl, fun other => ?_⟩
    -- Only the name that was asked for has a new entry, and that is what was answered.
    by_cases equal : other = name
    · subst equal
      rw [step, create_kept (r := { r with instances := put r.instances other made }) known on
        (lookup_put_self r.instances other made)]
    · exact create_congr (lookup_put_of_ne equal r.instances made)

/-- The detector of a name, if it takes part in analyses. -/
def active? (r : Registry) (name : String) : Option Instance :=
  (r.create name).1.filter fun kept => kept.enabled.truthy

theorem SameView.active? {t : Registry} (same : SameView r t) : r.active? = t.active? := by
  funext name
  rw [Registry.active?, Registry.active?, same.create]

theorem enabledFrom_cons (r : Registry) (name : String) (rest : List String) :
    r.enabledFrom (name :: rest) =
      ((r.active? name).toList ++ ((r.create name).2.enabledFrom rest).1,
        ((r.create name).2.enabledFrom rest).2) := by
  simp only [enabledFrom, active?]
  cases (r.create name).1 with
  | none => rfl
  | some kept => by_cases on : kept.enabled.truthy <;> simp [Option.filter, on]

theorem enabledFrom_eq (r : Registry) (names : List String) :
    (r.enabledFrom names).1 = names.filterMap r.active? ∧ SameView (r.enabledFrom names).2 r := by
  induction names generalizing r with
  | nil => exact ⟨rfl, .refl r⟩
  | cons name rest ih =>
    have view := r.create_view name
    obtain ⟨others, later⟩ := ih (r.create name).2
    rw [enabledFrom_cons]
    refine ⟨?_, later.trans view⟩
    rw [others, view.active?, List.filterMap_cons]
    cases r.active? name <;> rfl

/-- Enabled are the active detectors, in order. -/
theorem enabled_eq (r : Registry) : r.enabled.1 = r.names.filterMap r.active? := (r.enabledFrom_eq r.names).1

/-- To ask for the enabled detectors leaves the view as it is. -/
theorem enabled_view (r : Registry) : SameView r.enabled.2 r := (r.enabledFrom_eq r.names).2

/-- The enabled detectors depend on the view only. -/
theorem SameView.enabled {t : Registry} (same : SameView r t) : r.enabled.1 = t.enabled.1 := by
  rw [enabled_eq, enabled_eq, same.names, same.active?]

end ContractLint.Detector.Registry
