import ContractLint.Proofs.Detector.Registry

/-! # Queries of a registry

To look at detectors that are switched off, a registry switches them on for a while, and afterwards its
configuration mentions them. It keeps the detectors that it has created, and marks the kept ones anew. Nobody
sees that: what the settings of each detector amount to, its `Setup`, is as at the beginning after every
query, so each query is answered as by a registry that has answered none.

A name can be registered again, and the last registration counts for what is created from then on. A
registry that has created the detector of a name keeps it, though, and answers with it whatever is registered
afterwards. So the first operation that asks for a name decides on the detector for good.
-/

namespace ContractLint

open List Entries

variable {r t : Registry} {one? : Option Instance} {current : Option Plugin}

/-- What the settings of a detector amount to. -/
structure Setup where
  enabled : Bool
  severityOverride : Value
  customParams : Value

def DetectorSettings.setup (settings : DetectorSettings) : Setup :=
  ⟨settings.enabled.truthy, settings.severityOverride, settings.customParams⟩

namespace Config

/-- What the settings of a detector amount to; those of a detector that is not mentioned are the defaults. -/
def setup (config : Config) (name : String) : Setup := (config.detector name).setup

/-- What the settings of the mentioned detectors amount to. -/
def setups (config : Config) : List (String × Setup) :=
  config.detectors.map fun entry => (entry.1, entry.2.setup)

theorem detectorEnabled_eq (config : Config) (name : String) :
    config.detectorEnabled name = (config.detector name).enabled := by
  rw [detectorEnabled, detector]
  cases config.detectors.lookup name <;> rfl

theorem setup_enabled (config : Config) (name : String) :
    (config.setup name).enabled = (config.detectorEnabled name).truthy := by
  rw [detectorEnabled_eq]
  rfl

private theorem lookup_setups (config : Config) (name : String) :
    config.setups.lookup name = (config.detectors.lookup name).map DetectorSettings.setup := by
  rw [setups]
  induction config.detectors with
  | nil => rfl
  | cons entry rest ih =>
    rw [map_cons, lookup_cons, lookup_cons, ih]
    cases name == entry.1 <;> rfl

/-- A detector that is not mentioned has the default setup. -/
theorem setup_eq (config : Config) (name : String) :
    config.setup name = (config.setups.lookup name).getD ({} : DetectorSettings).setup := by
  rw [lookup_setups, setup, detector]
  cases config.detectors.lookup name <;> rfl

end Config

namespace Detector

variable {r : Registry} {name : String}

/-- The detector of a plugin, unless it is only the outline of one. -/
def Plugin.detector? : Plugin → Option Detector
  | .concrete detector => some detector
  | _ => none

namespace Registry

/-! ## Settings that are put -/

private theorem setups_setDetector (config : Config) (name : String) (settings : DetectorSettings) :
    (config.setDetector name settings).setups = put config.setups name settings.setup := by
  rw [Config.setups, Config.setDetector, map_put, Config.setups]

/-- Settings are read back as they were set. -/
theorem detector_setDetector_self (config : Config) (name : String) (settings : DetectorSettings) :
    (config.setDetector name settings).detector name = settings := by
  rw [Config.detector, Config.setDetector, lookup_put_self]
  rfl

/-! ## Questions for one detector -/

/-- The detector that a registry has for a name: the one it keeps, or a new one. -/
def instance? (r : Registry) (name : String) : Option Instance :=
  (r.plugins.lookup name).bind fun plugin =>
    (r.instances.lookup name).or (plugin.detector?.map fun detector =>
      ⟨detector, (r.config.detector name).enabled, r.config.detector name⟩)

def keep (r : Registry) (name : String) : Option Instance → Registry
  | some one => { r with instances := put r.instances name one }
  | none => r

@[simp] theorem keep_config (r : Registry) (name : String) (one? : Option Instance) :
    (r.keep name one?).config = r.config := by
  cases one? <;> rfl

@[simp] theorem keep_plugins (r : Registry) (name : String) (one? : Option Instance) :
    (r.keep name one?).plugins = r.plugins := by
  cases one? <;> rfl

/-- A new instance takes the place of the one kept under its name. -/
theorem lookup_keep_self (r : Registry) (name : String) (one? : Option Instance) :
    (r.keep name one?).instances.lookup name = one?.or (r.instances.lookup name) := by
  cases one? with
  | none => rfl
  | some one => exact lookup_put_self r.instances name one

theorem lookup_keep_of_ne {name other : String} (differs : other ≠ name) (r : Registry)
    (one? : Option Instance) : (r.keep name one?).instances.lookup other = r.instances.lookup other := by
  cases one? with
  | none => rfl
  | some one => exact lookup_put_of_ne differs r.instances one

/-- A registry answers with the detector that it has for a name and keeps it, if the detector is switched on. -/
theorem create_eq (r : Registry) (name : String) :
    r.create name = if (r.config.detectorEnabled name).truthy then
      (r.instance? name, r.keep name (r.instance? name)) else (none, r) := by
  rw [create, instance?]
  cases r.plugins.lookup name with
  | none => simp [keep]
  | some plugin =>
    by_cases on : (r.config.detectorEnabled name).truthy
    · cases kept : r.instances.lookup name with
      | some one => simp [on, keep, put_of_lookup kept]
      | none => cases plugin <;> simp [on, keep, Plugin.detector?]
    · simp [on]

/-- The registry while a detector is switched on. -/
def opened (r : Registry) (name : String) : Registry :=
  { r with config := r.config.setDetector name { r.config.detector name with enabled := .bool true } }

/-- A detector is looked at by switching it on, and is then marked by what the configuration said before. -/
def marked? (r : Registry) (name : String) : Option Instance :=
  ((r.opened name).instance? name).map fun one => { one with enabled := r.config.detectorEnabled name }

/-- The configuration after a detector was looked at. -/
def closed (r : Registry) (name : String) : Config :=
  (r.opened name).config.setDetector name
    { r.config.detector name with enabled := .bool (r.config.detectorEnabled name).truthy }

/-- To reveal a detector is to keep it marked and to mention its settings. -/
theorem reveal_eq (r : Registry) (name : String) :
    r.reveal name = (r.marked? name, { r.keep name (r.marked? name) with config := r.closed name }) := by
  have on : ((r.opened name).config.detectorEnabled name).truthy := by
    rw [Config.detectorEnabled_eq, opened, detector_setDetector_self]
    rfl
  have made := (r.opened name).create_eq name
  rw [if_pos on] at made
  rw [marked?, closed]
  cases found : (r.opened name).instance? name with
  | none =>
    rw [found, opened] at made
    simp only [reveal, made, keep, opened, Option.map_none]
  | some one =>
    rw [found, opened] at made
    simp only [reveal, made, keep, opened, Option.map_some, put_put]

theorem setups_closed (r : Registry) (name : String) :
    (r.closed name).setups = put r.config.setups name (r.config.setup name) := by
  rw [closed, opened, setups_setDetector, setups_setDetector, put_put, Config.detectorEnabled_eq]
  rfl

end Registry

/-! ## What is seen of a registry -/

/-- What is seen of a detector. -/
structure Shown where
  detector : Detector
  setup : Setup

def Instance.shown (one : Instance) : Shown :=
  ⟨one.detector, one.enabled.truthy, one.settings.severityOverride, one.settings.customParams⟩

namespace Registry

/-- The detector of a name, switched on or off, as the registry and its configuration describe it. -/
def described? (r : Registry) (name : String) : Option Shown :=
  (r.plugins.lookup name).bind fun plugin =>
    plugin.detector?.map fun detector => ⟨detector, r.config.setup name⟩

/-- The kept detectors are as described. -/
def Coherent (r : Registry) : Prop :=
  ∀ name one, r.instances.lookup name = some one → r.described? name = some one.shown

/-- One registry comes from another one by queries: the configuration mentions more detectors at the most, and
what the settings amount to is the same. -/
structure Follows (r t : Registry) : Prop where
  plugins : t.plugins = r.plugins
  setups : ∃ added, t.config.setups = r.config.setups ++ added ∧
    ∀ entry ∈ added, entry.1 ∈ r.names ∧ entry.2 = ({} : DetectorSettings).setup

namespace Follows

variable {r t u : Registry}

theorem refl (r : Registry) : Follows r r := ⟨rfl, [], by simp, by simp⟩

theorem names (follows : Follows r t) : t.names = r.names := by
  rw [Registry.names, follows.plugins, Registry.names]

theorem trans (one : Follows r t) (two : Follows t u) : Follows r u := by
  refine ⟨two.plugins.trans one.plugins, ?_⟩
  obtain ⟨first, same, known⟩ := one.setups
  obtain ⟨second, later, alsoKnown⟩ := two.setups
  refine ⟨first ++ second, by rw [later, same, append_assoc], ?_⟩
  intro entry member
  obtain before | after := mem_append.mp member
  · exact known entry before
  · rw [← one.names]
    exact alsoKnown entry after

/-- Only the defaults of unmentioned detectors are written down. -/
theorem setup (follows : Follows r t) (name : String) : t.config.setup name = r.config.setup name := by
  obtain ⟨added, same, known⟩ := follows.setups
  rw [Config.setup_eq, Config.setup_eq, same, lookup_append]
  cases r.config.setups.lookup name with
  | some setup => rfl
  | none =>
    cases found : added.lookup name with
    | none => rfl
    | some setup => exact (known _ (mem_of_lookup found)).2

/-- Queries leave the descriptions of detectors as they are. -/
theorem described? (follows : Follows r t) : t.described? = r.described? := by
  funext name
  rw [Registry.described?, Registry.described?, follows.plugins, follows.setup]

end Follows

/-- The configuration is changed in nothing but that it mentions a registered detector. -/
theorem follows_put (plugins : t.plugins = r.plugins) (known : name ∈ r.names)
    (setups : t.config.setups = put r.config.setups name (r.config.setup name)) : Follows r t := by
  refine ⟨plugins, ?_⟩
  cases mentioned : r.config.setups.lookup name with
  | some setup =>
    refine ⟨[], ?_, by simp⟩
    rw [setups, Config.setup_eq, mentioned, append_nil]
    exact put_of_lookup mentioned
  | none =>
    refine ⟨[(name, ({} : DetectorSettings).setup)], ?_, by simpa using known⟩
    rw [setups, Config.setup_eq, mentioned]
    exact put_of_none mentioned _

/-- A registry stays coherent if it keeps what it describes. -/
theorem Coherent.keep (coherent : r.Coherent)
    (described : ∀ one, one? = some one → r.described? name = some one.shown) : (r.keep name one?).Coherent := by
  intro other kept found
  have same : (r.keep name one?).described? other = r.described? other := by
    rw [described?, described?, keep_plugins, keep_config]
  rw [same]
  by_cases equal : other = name
  · subst equal
    rw [lookup_keep_self] at found
    cases one? with
    | none => exact coherent other kept found
    | some one => exact described kept found
  · rw [lookup_keep_of_ne equal] at found
    exact coherent other kept found

/-- The detector that a registry has for a name is as described. -/
theorem Coherent.instance? (coherent : r.Coherent) (name : String) :
    (r.instance? name).map Instance.shown = r.described? name := by
  rw [Registry.instance?, described?]
  cases kept : r.instances.lookup name with
  | some one =>
    have described := coherent name one kept
    rw [described?] at described
    cases known : r.plugins.lookup name with
    | none =>
      rw [known] at described
      cases described
    | some plugin =>
      rw [known] at described
      exact described.symm
  | none =>
    cases r.plugins.lookup name with
    | none => rfl
    | some plugin => cases plugin <;> rfl

/-- A description shows the setup in force. -/
theorem setup_of_described {one : Shown} (described : r.described? name = some one) :
    one.setup = r.config.setup name := by
  obtain ⟨plugin, -, described⟩ := Option.bind_eq_some_iff.mp described
  obtain ⟨detector, -, rfl⟩ := Option.map_eq_some_iff.mp described
  rfl

/-- A registry answers with a detector as it is described, if that is switched on. -/
theorem Coherent.create_shown (coherent : r.Coherent) (name : String) :
    (r.create name).1.map Instance.shown = (r.described? name).filter (·.setup.enabled) := by
  have switched (one : Shown) (described : r.described? name = some one) :
      one.setup.enabled = (r.config.detectorEnabled name).truthy := by
    rw [setup_of_described described, Config.setup_enabled]
  rw [create_eq]
  split
  next on =>
    rw [coherent.instance?]
    cases described : r.described? name with
    | none => rfl
    | some one => simp [Option.filter, switched one described, on]
  next off =>
    cases described : r.described? name with
    | none => rfl
    | some one => simp [Option.filter, switched one described, off]

/-- A registry stays coherent if a detector is created. -/
theorem Coherent.create (coherent : r.Coherent) (name : String) :
    (r.create name).2.Coherent ∧ Follows r (r.create name).2 := by
  rw [create_eq]
  split
  next =>
    refine ⟨coherent.keep fun one found => ?_, ?_⟩
    · rw [← coherent.instance?, found]
      rfl
    · exact ⟨keep_plugins .., [], by simp, by simp⟩
  next => exact ⟨coherent, .refl r⟩

/-- A detector that is looked at is as described. -/
theorem Coherent.marked? (coherent : r.Coherent) (name : String) :
    (r.marked? name).map Instance.shown = r.described? name := by
  have opened_plugins : (r.opened name).plugins = r.plugins := rfl
  have opened_instances : (r.opened name).instances = r.instances := rfl
  rw [Registry.marked?, Registry.instance?, opened_plugins, opened_instances]
  cases kept : r.instances.lookup name with
  | some one =>
    have described := coherent name one kept
    have enabled : (r.config.detectorEnabled name).truthy = one.enabled.truthy := by
      rw [← Config.setup_enabled, ← setup_of_described described]
      rfl
    rw [described]
    rw [described?] at described
    cases known : r.plugins.lookup name with
    | none =>
      rw [known] at described
      cases described
    | some plugin => simp [Instance.shown, enabled]
  | none =>
    rw [described?]
    cases r.plugins.lookup name with
    | none => rfl
    | some plugin =>
      cases plugin with
      | concrete detector =>
        simp [Plugin.detector?, opened, detector_setDetector_self, Instance.shown, Config.detectorEnabled_eq]
        rfl
      | outline => rfl
      | foreign description => rfl

private theorem Coherent.reveal (coherent : r.Coherent) (known : name ∈ r.names) :
    (r.reveal name).1.map Instance.shown = r.described? name ∧ (r.reveal name).2.Coherent ∧
      Follows r (r.reveal name).2 := by
  rw [reveal_eq]
  have follows : Follows r { r.keep name (r.marked? name) with config := r.closed name } :=
    follows_put (keep_plugins ..) known (setups_closed r name)
  refine ⟨coherent.marked? name, ?_, follows⟩
  have kept : (r.keep name (r.marked? name)).Coherent := by
    refine coherent.keep fun one found => ?_
    rw [← coherent.marked?, found]
    rfl
  intro other one found
  rw [follows.described?]
  have described := kept other one found
  rwa [described?, keep_plugins, keep_config] at described

/-! ## Questions for several detectors -/

private theorem Coherent.enabledFrom (coherent : r.Coherent) (names : List String) :
    (r.enabledFrom names).2.Coherent ∧ Follows r (r.enabledFrom names).2 := by
  induction names generalizing r with
  | nil => exact ⟨coherent, .refl r⟩
  | cons name rest ih =>
    obtain ⟨next, first⟩ := coherent.create name
    obtain ⟨last, later⟩ := ih next
    rw [enabledFrom_cons]
    exact ⟨last, first.trans later⟩

/-- The detectors that take part are those described as taking part. -/
theorem Coherent.enabled_shown (coherent : r.Coherent) :
    r.enabled.1.map Instance.shown =
      r.names.filterMap fun name => (r.described? name).filter (·.setup.enabled) := by
  rw [enabled_eq, map_filterMap]
  congr 1
  funext name
  have shown := coherent.create_shown name
  rw [active?]
  cases made : (r.create name).1 with
  | none => rw [← shown, made]; rfl
  | some one =>
    rw [made] at shown
    have on : one.enabled.truthy := (Option.filter_eq_some_iff.mp shown.symm).2
    rw [← shown]
    simp [Option.filter, on]

private theorem Coherent.revealAll (coherent : r.Coherent) {names : List String}
    (known : ∀ name ∈ names, name ∈ r.names) :
    (r.revealAll names).1.map Instance.shown = names.filterMap r.described? ∧
      (r.revealAll names).2.Coherent ∧ Follows r (r.revealAll names).2 := by
  induction names generalizing r with
  | nil => exact ⟨rfl, coherent, .refl r⟩
  | cons name rest ih =>
    obtain ⟨first, others⟩ := forall_mem_cons.mp known
    obtain ⟨shown, next, follows⟩ := coherent.reveal first
    obtain ⟨shownLater, last, later⟩ := ih next (by rwa [follows.names])
    refine ⟨?_, last, follows.trans later⟩
    have step : (r.revealAll (name :: rest)).1 =
        (r.reveal name).1.toList ++ ((r.reveal name).2.revealAll rest).1 := rfl
    rw [step, map_append, shownLater, follows.described?, filterMap_cons, ← shown]
    cases (r.reveal name).1 <;> rfl

private theorem Coherent.all (coherent : r.Coherent) :
    r.all.1.map Instance.shown = r.names.filterMap r.described? ∧ r.all.2.Coherent ∧ Follows r r.all.2 :=
  coherent.revealAll fun _ member => member

/-! ## Queries -/

/-- The complaint about settings for a detector that is not registered. -/
def unknown? (names : List String) (entry : String × Setup) : Option String :=
  if names.contains entry.1 then none else some ("Unknown detector in configuration: " ++ entry.1)

/-- The complaint about settings with a severity that there is not. -/
def unfit? (entry : String × Setup) : Option String :=
  if entry.2.severityOverride.truthy
      && !entry.2.severityOverride.isOneOf (Severity.all.map Severity.name) then
    some ("Invalid severity override for " ++ entry.1 ++ ": " ++ entry.2.severityOverride.display)
  else none

/-- Unknown names are reported first, then unfit settings. -/
theorem validate_eq (r : Registry) :
    r.validate = r.config.setups.filterMap (unknown? r.names) ++ r.config.setups.filterMap unfit? := by
  rw [validate, Config.setups, filterMap_map, filterMap_map]
  rfl

/-- The registered detectors that are mentioned by their defaults give no cause for complaint. -/
theorem Follows.validate (follows : Follows r t) : t.validate = r.validate := by
  obtain ⟨added, same, known⟩ := follows.setups
  have first : added.filterMap (unknown? r.names) = [] := by
    refine filterMap_eq_nil_iff.mpr fun entry member => ?_
    rw [unknown?, if_pos (contains_iff_mem.mpr (known entry member).1)]
  have second : added.filterMap unfit? = [] := by
    refine filterMap_eq_nil_iff.mpr fun entry member => ?_
    rw [unfit?, (known entry member).2]
    rfl
  rw [validate_eq, validate_eq, follows.names, same, filterMap_append, filterMap_append, first, second,
    append_nil, append_nil]

end Registry

/-- What a registry can be asked. -/
inductive Query where
  /-- The detector of a name, if it is switched on. -/
  | create (name : String)
  /-- The detectors that take part in analyses. -/
  | enabled
  /-- All detectors, switched on or off. -/
  | all
  /-- The detectors taking part that can find a class of weakness. -/
  | ofKind (kind : Value)
  /-- What is wrong with the configuration. -/
  | validate
  /-- How many detectors there are. -/
  | statistics

/-- What is seen of the answer to a query. -/
inductive Answer where
  | detector (one : Option Shown)
  | detectors (list : List Shown)
  | complaints (list : List String)
  | numbers (numbers : Registry.Statistics)

namespace Query

def ask (r : Registry) : Query → Answer × Registry
  | create name => (r.create name).map (fun one => .detector (one.map Instance.shown)) id
  | enabled => r.enabled.map (fun list => .detectors (list.map Instance.shown)) id
  | all => r.all.map (fun list => .detectors (list.map Instance.shown)) id
  | ofKind kind => (r.ofKind kind).map (fun list => .detectors (list.map Instance.shown)) id
  | validate => (.complaints r.validate, r)
  | statistics => r.statistics.map .numbers id

/-- The answers to queries one after the other, and the registry afterwards. -/
def askAll (r : Registry) : List Query → List Answer × Registry
  | [] => ([], r)
  | query :: rest =>
    let (answer, next) := query.ask r
    let (answers, last) := askAll next rest
    (answer :: answers, last)

/-- The numbers about detectors as they are seen. -/
def count (list : List Shown) : Registry.Statistics :=
  ⟨list.length, list.countP (·.setup.enabled), (list.flatMap (·.detector.profile.kinds)).eraseDups.length⟩

/-- The answer to a query that the descriptions of the detectors give. -/
def expected (r : Registry) : Query → Answer
  | create name => .detector ((r.described? name).filter (·.setup.enabled))
  | enabled => .detectors (r.names.filterMap fun name => (r.described? name).filter (·.setup.enabled))
  | all => .detectors (r.names.filterMap r.described?)
  | ofKind kind => .detectors ((r.names.filterMap fun name => (r.described? name).filter (·.setup.enabled)).filter
      fun one => kind.isOneOf one.detector.profile.kinds)
  | validate => .complaints r.validate
  | statistics => .numbers (count (r.names.filterMap r.described?))

/-- A query is answered by the descriptions of the detectors, and nothing that is seen changes. -/
theorem ask_coherent (coherent : r.Coherent) (query : Query) :
    (query.ask r).1 = query.expected r ∧ (query.ask r).2.Coherent ∧ Registry.Follows r (query.ask r).2 := by
  cases query with
  | create name => exact ⟨congrArg Answer.detector (coherent.create_shown name), coherent.create name⟩
  | enabled => exact ⟨congrArg Answer.detectors coherent.enabled_shown, coherent.enabledFrom r.names⟩
  | all =>
    obtain ⟨shown, after⟩ := coherent.all
    exact ⟨congrArg Answer.detectors shown, after⟩
  | ofKind kind =>
    refine ⟨congrArg Answer.detectors ?_, coherent.enabledFrom r.names⟩
    rw [← coherent.enabled_shown, filter_map]
    rfl
  | validate => exact ⟨rfl, coherent, .refl r⟩
  | statistics =>
    obtain ⟨shown, after⟩ := coherent.all
    refine ⟨congrArg Answer.numbers ?_, after⟩
    rw [← shown, count, length_map, countP_map, flatMap_map]
    rfl

private theorem expected_of_follows (follows : Registry.Follows r t) (query : Query) :
    query.expected t = query.expected r := by
  cases query <;> simp only [expected, follows.names, follows.described?, follows.validate]

/-- A coherent registry answers all queries as expected. -/
theorem askAll_coherent (coherent : r.Coherent) (queries : List Query) :
    (askAll r queries).1 = queries.map (expected r) ∧ Registry.Follows r (askAll r queries).2 := by
  induction queries generalizing r with
  | nil => exact ⟨rfl, .refl r⟩
  | cons query rest ih =>
    obtain ⟨answered, next, follows⟩ := ask_coherent coherent query
    obtain ⟨others, later⟩ := ih next
    refine ⟨?_, follows.trans later⟩
    have step : (askAll r (query :: rest)).1 = (query.ask r).1 :: (askAll (query.ask r).2 rest).1 := rfl
    rw [step, answered, others, map_cons]
    congr 1
    exact map_congr_left fun later _ => expected_of_follows follows later

/-- Queries of a registry, whatever its configuration and whatever is registered, are answered as if each of them
were the first one. Afterwards the settings of each detector amount to the same as before. -/
theorem answers_as_fresh (config : Config) (plugins : List (String × Plugin)) (queries : List Query) :
    (askAll ⟨config, plugins, []⟩ queries).1 =
      queries.map (fun query => (query.ask ⟨config, plugins, []⟩).1) ∧
    ∀ name, (askAll ⟨config, plugins, []⟩ queries).2.config.setup name = config.setup name := by
  have coherent : Registry.Coherent ⟨config, plugins, []⟩ := fun _ _ kept => by cases kept
  obtain ⟨answered, follows⟩ := askAll_coherent coherent queries
  refine ⟨?_, follows.setup⟩
  rw [answered]
  exact map_congr_left fun query _ => (ask_coherent coherent query).1.symm

end Query

/-! ## Registering a name again -/

namespace Registry

def kept? (r : Registry) (name : String) : Option Detector :=
  (r.instances.lookup name).map Instance.detector

/-- The detector that can be created under a name. -/
def ready? (r : Registry) (name : String) : Option Detector :=
  (r.plugins.lookup name).bind Plugin.detector?

/-- An instance holds the detector that is kept, or else a new one. -/
theorem instance?_detector (r : Registry) (name : String) :
    (r.instance? name).map Instance.detector =
      (r.plugins.lookup name).bind fun plugin => (r.kept? name).or plugin.detector? := by
  rw [instance?, kept?]
  cases r.plugins.lookup name with
  | none => rfl
  | some plugin => cases r.instances.lookup name <;> cases plugin <;> rfl

/-- What operations other than registrations do about a name: if they ask for it, the detector that can be
created is kept, unless another one is kept already. -/
structure Touched (name : String) (asked : Bool) (r t : Registry) : Prop where
  plugins : t.plugins = r.plugins
  setup : t.config.setup name = r.config.setup name
  kept : t.kept? name = (r.kept? name).or (if asked then r.ready? name else none)

namespace Touched

variable {name : String} {r t u : Registry}

theorem refl (r : Registry) : Touched name false r r := ⟨rfl, rfl, by simp⟩

theorem trans {first second : Bool} (one : Touched name first r t) (two : Touched name second t u) :
    Touched name (first || second) r u := by
  have ready : t.ready? name = r.ready? name := by rw [ready?, ready?, one.plugins]
  refine ⟨two.plugins.trans one.plugins, two.setup.trans one.setup, ?_⟩
  rw [two.kept, one.kept, ready]
  cases first <;> cases second <;> cases r.kept? name <;> cases r.ready? name <;> rfl

/-- Nothing can be created under a name that is not registered. -/
theorem of_names (touched : Touched name (r.names.contains name) r t) : Touched name true r t := by
  refine ⟨touched.plugins, touched.setup, ?_⟩
  rw [touched.kept]
  cases known : r.names.contains name with
  | true => rfl
  | false =>
    have unknown : r.plugins.lookup name = none := by
      refine lookup_eq_none_iff.mpr fun entry member => bne_iff_ne.mpr ?_
      rintro rfl
      have listed : r.names.contains entry.1 := contains_iff_mem.mpr (mem_map_of_mem member)
      rw [known] at listed
      cases listed
    simp [ready?, unknown]

end Touched

/-- A detector is kept under a name, and is the one that was kept before or the one that can be created. -/
theorem touched_keep {name other : String}
    (plugins : t.plugins = r.plugins) (setup : t.config.setup name = r.config.setup name)
    (instances : t.instances = (r.keep other one?).instances)
    (made : one?.map Instance.detector =
      (r.plugins.lookup other).bind fun plugin => (r.kept? other).or plugin.detector?) :
    Touched name (other == name) r t := by
  refine ⟨plugins, setup, ?_⟩
  rw [kept?, instances]
  by_cases same : other = name
  · subst same
    rw [lookup_keep_self, beq_self_eq_true, if_pos rfl, ready?]
    cases known : r.plugins.lookup other with
    | none =>
      rw [known, Option.bind_none, Option.map_eq_none_iff] at made
      simp [made, kept?]
    | some plugin =>
      rw [known, Option.bind_some] at made
      rw [Option.bind_some, ← made]
      cases one? with
      | some one => rfl
      | none =>
        have nothing := (Option.or_eq_none_iff.mp made.symm).1
        exact nothing
  · rw [lookup_keep_of_ne (Ne.symm same), beq_false_of_ne same]
    simp [kept?]

/-- To create a detector asks for no other one. -/
theorem create_touched (on : (r.config.setup name).enabled) (other : String) :
    Touched name (other == name) r (r.create other).2 := by
  rw [create_eq]
  split
  next => exact touched_keep (keep_plugins ..) (by rw [keep_config]) rfl (r.instance?_detector other)
  next off =>
    have differs : other ≠ name := by
      rintro rfl
      rw [Config.setup_enabled] at on
      exact off on
    rw [beq_false_of_ne differs]
    exact .refl r

private theorem setup_closed (r : Registry) (name other : String) :
    (r.closed name).setup other = r.config.setup other := by
  rw [Config.setup_eq, setups_closed]
  by_cases same : other = name
  · subst same
    rw [lookup_put_self]
    rfl
  · rw [lookup_put_of_ne same, Config.setup_eq]

private theorem reveal_touched (r : Registry) (name other : String) :
    Touched name (other == name) r (r.reveal other).2 := by
  rw [reveal_eq]
  refine touched_keep (keep_plugins ..) (setup_closed r other name) rfl ?_
  -- The mark does not change the detector, and neither does switching it on.
  rw [marked?, Option.map_map]
  exact (r.opened other).instance?_detector other

private theorem enabledFrom_touched (on : (r.config.setup name).enabled)
    (names : List String) : Touched name (names.contains name) r (r.enabledFrom names).2 := by
  induction names generalizing r with
  | nil => exact .refl r
  | cons other rest ih =>
    have first := create_touched on other
    rw [enabledFrom_cons, contains_cons, Bool.beq_comm]
    exact first.trans (ih (by rwa [first.setup]))

private theorem revealAll_touched (r : Registry) (name : String) (names : List String) :
    Touched name (names.contains name) r (r.revealAll names).2 := by
  induction names generalizing r with
  | nil => exact .refl r
  | cons other rest ih =>
    rw [contains_cons, Bool.beq_comm]
    exact (reveal_touched r name other).trans (ih _)

end Registry

/-! ## Histories -/

def Plugin.accepted : Plugin → Bool
  | .foreign _ => false
  | _ => true

inductive Operation where
  | ask (query : Query)
  | register (name : String) (plugin : Plugin)

namespace Operation

/-- The registry after an operation; a registration that is refused changes nothing. -/
def perform (r : Registry) : Operation → Registry
  | ask query => (query.ask r).2
  | register name plugin => (r.register name plugin).toOption.getD r

def performAll (r : Registry) (operations : List Operation) : Registry := operations.foldl perform r

/-- The operation asks for the detector of a name, provided that it is switched on. -/
def asksFor (name : String) : Operation → Bool
  | ask (.create other) => other == name
  | ask .validate => false
  | ask _ => true
  | register .. => false

def registers? (name : String) : Operation → Option Plugin
  | register other plugin => if other = name ∧ plugin.accepted then some plugin else none
  | ask _ => none

/-- What is registered under a name after some operations, if it was `current` before. -/
def latest? (name : String) (current : Option Plugin) (operations : List Operation) : Option Plugin :=
  operations.foldl (fun current operation => (operation.registers? name).or current) current

/-- The detector that is registered under a name when it is first asked for and there is one to be created. -/
def firstUsed? (name : String) (current : Option Plugin) : List Operation → Option Detector
  | [] => none
  | operation :: rest =>
    (if operation.asksFor name then current.bind Plugin.detector? else none).or
      (firstUsed? name ((operation.registers? name).or current) rest)

private theorem ask_touched (on : (r.config.setup name).enabled) (query : Query) :
    Registry.Touched name ((ask query).asksFor name) r (query.ask r).2 := by
  cases query with
  | create other => exact Registry.create_touched on other
  | enabled => exact (Registry.enabledFrom_touched on r.names).of_names
  | all => exact (Registry.revealAll_touched r name r.names).of_names
  | ofKind kind => exact (Registry.enabledFrom_touched on r.names).of_names
  | validate => exact .refl r
  | statistics => exact (Registry.revealAll_touched r name r.names).of_names

private theorem register_perform (r : Registry) (name : String) (plugin : Plugin) :
    (register name plugin).perform r =
      if plugin.accepted then { r with plugins := put r.plugins name plugin } else r := by
  cases plugin <;> rfl

/-- What one operation does about a name. -/
theorem perform_name (on : (r.config.setup name).enabled) (operation : Operation) :
    (operation.perform r).config.setup name = r.config.setup name ∧
    (operation.perform r).plugins.lookup name = (operation.registers? name).or (r.plugins.lookup name) ∧
    (operation.perform r).kept? name =
      (r.kept? name).or (if operation.asksFor name then r.ready? name else none) := by
  cases operation with
  | ask query =>
    have touched := ask_touched on query
    exact ⟨touched.setup, congrArg (List.lookup name) touched.plugins, touched.kept⟩
  | register other plugin =>
    rw [register_perform]
    by_cases accepted : plugin.accepted
    · rw [if_pos accepted]
      refine ⟨rfl, ?_, by simp [asksFor, Registry.kept?]⟩
      by_cases same : other = name
      · subst same
        simp [registers?, accepted, lookup_put_self]
      · simp [registers?, same, lookup_put_of_ne (Ne.symm same)]
    · rw [if_neg accepted]
      exact ⟨rfl, by simp [registers?, accepted], by simp [asksFor]⟩

/-- What operations do about a name. -/
theorem performAll_name (on : (r.config.setup name).enabled) (operations : List Operation) :
    ((performAll r operations).config.setup name).enabled ∧
    (performAll r operations).plugins.lookup name = latest? name (r.plugins.lookup name) operations ∧
    (performAll r operations).kept? name =
      (r.kept? name).or (firstUsed? name (r.plugins.lookup name) operations) := by
  induction operations generalizing r with
  | nil => exact ⟨on, rfl, by simp [performAll, firstUsed?]⟩
  | cons operation rest ih =>
    obtain ⟨setup, plugin, kept⟩ := perform_name on operation
    obtain ⟨last, latest, used⟩ := ih (by rwa [setup])
    refine ⟨last, ?_, ?_⟩
    · rw [plugin] at latest
      exact latest
    · rw [plugin, kept, Option.or_assoc] at used
      exact used

private theorem latest?_isSome (known : current.isSome)
    (operations : List Operation) : (latest? name current operations).isSome := by
  induction operations generalizing current with
  | nil => exact known
  | cons operation rest ih => exact ih (by simp [known])

private theorem latest?_of_firstUsed? {operations : List Operation}
    (used : (firstUsed? name current operations).isSome) : (latest? name current operations).isSome := by
  induction operations generalizing current with
  | nil => cases used
  | cons operation rest ih =>
    rw [firstUsed?, Option.isSome_or, Bool.or_eq_true] at used
    obtain now | later := used
    · have known : current.isSome := by
        cases current with
        | none => simp at now
        | some plugin => rfl
      exact latest?_isSome known (operation :: rest)
    · exact ih later

/-- A registry answers a question for a detector that is switched on with the detector that was registered when
the name was first used, or with the one registered last if it was not used. So it is the one registered last
exactly if a name that was used is registered as it was at that time. -/
theorem created_is_first_used (config : Config) (operations : List Operation) (name : String)
    (on : (config.detectorEnabled name).truthy) :
    let first := (Registry.new config).plugins.lookup name
    let created := ((performAll (Registry.new config) operations).create name).1.map Instance.detector
    let last := (latest? name first operations).bind Plugin.detector?
    created = (firstUsed? name first operations).or last ∧
      (created = last ↔ ∀ detector, firstUsed? name first operations = some detector → last = some detector) := by
  intro first created last
  have fresh : ((Registry.new config).config.setup name).enabled := by
    rw [Config.setup_enabled]
    exact on
  obtain ⟨still, latest, kept⟩ := performAll_name fresh operations
  have answer : created = (firstUsed? name first operations).or last := by
    have made := (performAll (Registry.new config) operations).instance?_detector name
    rw [latest, kept] at made
    rw [Config.setup_enabled] at still
    simp only [created, last]
    rw [Registry.create_eq, if_pos still, made]
    -- A name of which nothing is registered at the end was not used.
    cases known : latest? name first operations with
    | some plugin => rfl
    | none =>
      cases used : firstUsed? name first operations with
      | none => rfl
      | some detector =>
        have registered := latest?_of_firstUsed? (Option.isSome_of_eq_some used)
        rw [known] at registered
        cases registered
  refine ⟨answer, ?_⟩
  rw [answer]
  cases firstUsed? name first operations with
  | none => simp
  | some detector => simp [eq_comm]

/-- A name that is registered again after it was used. -/
def registeredAgain : List Operation :=
  [ask (.create "regex_detector"), register "regex_detector" (.concrete .reentrancy)]

theorem created_is_first_used_sample :
    (({} : Config).detectorEnabled "regex_detector").truthy ∧
    let first := (Registry.new {}).plugins.lookup "regex_detector"
    let created := ((performAll (Registry.new {}) registeredAgain).create "regex_detector").1.map Instance.detector
    let last := (latest? "regex_detector" first registeredAgain).bind Plugin.detector?
    created = (firstUsed? "regex_detector" first registeredAgain).or last ∧
      (created = last ↔
        ∀ detector, firstUsed? "regex_detector" first registeredAgain = some detector → last = some detector) :=
  ⟨rfl, created_is_first_used {} registeredAgain "regex_detector" rfl⟩

/-- The registry answers with the detector that was registered first, not with the one registered last. -/
theorem created_is_outdated :
    let first := (Registry.new {}).plugins.lookup "regex_detector"
    (({} : Config).detectorEnabled "regex_detector").truthy ∧
    (latest? "regex_detector" first registeredAgain) = some (.concrete .reentrancy) ∧
    ((performAll (Registry.new {}) registeredAgain).create "regex_detector").1.map Instance.detector =
      some .textual := by
  decide

end Operation

end Detector

end ContractLint
