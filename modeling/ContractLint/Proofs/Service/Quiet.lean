import ContractLint.Proofs.Service.Connection
import ContractLint.Proofs.Service.Handler
import ContractLint.Service.Script

/-! # Handlers that store nothing

Only an upload stores an answer. Every other request leaves the answers that are remembered and the rows
that are saved as they are. This is shown for the basic handlers and carries over to the handlers that are put
together from them.
-/

namespace ContractLint.Service

variable {α β : Type} {next : Problem → Handler α} {first : Handler α}

/-! ## Effects of handlers put together -/

/-- A relation between what is there before and after some handlers, one after the other. -/
structure IsFrame (R : State → Journal → State → Journal → Prop) : Prop where
  refl : ∀ s j, R s j s j
  trans : ∀ {s t u j k l}, R s j t k → R t k u l → R s j u l

/-- Whatever the outcome of a handler, what is there afterwards is related to what was there before. -/
def Respects (R : State → Journal → State → Journal → Prop) (h : Handler α) : Prop :=
  ∀ setting s j, R s j (h setting s j).2.1 (h setting s j).2.2

namespace IsFrame

variable {R : State → Journal → State → Journal → Prop}

/-- A sequence respects a frame if both parts do. -/
theorem bind (frame : IsFrame R) {next : α → Handler β} (one : Respects R first)
    (two : ∀ a, Respects R (next a)) : Respects R (first >>= next) := by
  intro setting s j
  have before := one setting s j
  have step : (first >>= next) setting s j = Handler.andThen first next setting s j := rfl
  rw [step, Handler.andThen]
  rcases ended : first setting s j with ⟨problem | a, t, k⟩ <;> rw [ended] at before
  · exact before
  · exact frame.trans before (two a setting t k)

/-- What a rescue does comes after what was done before the failure. -/
theorem after_rescue (frame : IsFrame R) (first : Handler α)
    (two : ∀ problem, Respects R (next problem)) (setting : Setting) (s : State) (j : Journal) :
    R (first setting s j).2.1 (first setting s j).2.2 (MonadExcept.tryCatch first next setting s j).2.1
      (MonadExcept.tryCatch first next setting s j).2.2 := by
  have step : MonadExcept.tryCatch first next setting s j = Handler.orElse first next setting s j := rfl
  rw [step, Handler.orElse]
  rcases first setting s j with ⟨problem | a, t, k⟩
  · exact two problem setting t k
  · exact frame.refl t k

theorem rescue (frame : IsFrame R) (one : Respects R first)
    (two : ∀ problem, Respects R (next problem)) : Respects R (MonadExcept.tryCatch first next) :=
  fun setting s j => frame.trans (one setting s j) (frame.after_rescue first two setting s j)

theorem closed (frame : IsFrame R) : ClosedUnderBind fun α (h : Handler α) => Respects R h :=
  ⟨fun _ _ => frame.refl, frame.bind⟩

end IsFrame

/-! ## Handlers that store nothing -/

/-- The remembered answers and the saved rows are the same; identifiers may have been issued. -/
structure Untouched (s : State) (j : Journal) (t : State) (k : Journal) : Prop where
  results : t.results = s.results
  issued : s.issued ≤ t.issued
  saved : k.saved = j.saved

/-- To leave a state untouched is a frame. -/
theorem untouched_isFrame : IsFrame Untouched where
  refl _ _ := ⟨rfl, Nat.le_refl _, rfl⟩
  trans one two := ⟨two.results.trans one.results, Nat.le_trans one.issued two.issued,
    two.saved.trans one.saved⟩

/-- A handler neither remembers an answer nor saves a row. -/
def Quiet (h : Handler α) : Prop := Respects Untouched h

namespace Quiet

theorem pure (a : α) : Quiet (Pure.pure a : Handler α) := fun _ => untouched_isFrame.refl

theorem throw (problem : Problem) : Quiet (MonadExcept.throw problem : Handler α) :=
  fun _ => untouched_isFrame.refl

theorem setting : Quiet Service.setting := fun _ => untouched_isFrame.refl

theorem state : Quiet Service.state := fun _ => untouched_isFrame.refl

theorem update {change : State → State} (results : ∀ s, (change s).results = s.results)
    (issued : ∀ s, s.issued ≤ (change s).issued) : Quiet (Service.update change) :=
  fun _ s _ => ⟨results s, issued s, rfl⟩

theorem enter {entry : Journal → Journal} (saved : ∀ j, (entry j).saved = j.saved) : Quiet (Service.enter entry) :=
  fun _ _ j => ⟨rfl, Nat.le_refl _, saved j⟩

theorem scan (run : Scan.Run α) : Quiet (liftM run : Handler α) := fun _ _ _ => ⟨rfl, Nat.le_refl _, rfl⟩

theorem outcome (x : Outcome α) : Quiet (liftM x : Handler α) := fun _ => untouched_isFrame.refl

theorem bind {next : α → Handler β} (one : Quiet first) (two : ∀ a, Quiet (next a)) :
    Quiet (first >>= next) := untouched_isFrame.bind one two

theorem rescue (one : Quiet first)
    (two : ∀ problem, Quiet (next problem)) : Quiet (MonadExcept.tryCatch first next) :=
  untouched_isFrame.rescue one two

private theorem mapM {f : α → Handler β} (each : ∀ a, Quiet (f a)) (list : List α) : Quiet (list.mapM f) :=
  untouched_isFrame.closed.mapM fun a _ => each a

/-! ## Handlers of the service -/

theorem say (line : String) : Quiet (Service.say line) := scan _

theorem now : Quiet Service.now := bind setting fun _ => pure _

theorem reporting (what : String) (detail : String → String) {run : Handler α} (quiet : Quiet run) :
    Quiet (Service.reporting what detail run) :=
  rescue quiet fun _ => bind (say _) fun _ => throw _

/-- A computation that is shielded stores what it does without the shield. -/
theorem after_shielding (what detail : String) (run : Handler α) (setting : Setting) (s : State) (j : Journal) :
    Untouched (run setting s j).2.1 (run setting s j).2.2 (Service.shielding what detail run setting s j).2.1
      (Service.shielding what detail run setting s j).2.2 := by
  refine untouched_isFrame.after_rescue run (fun problem => ?_) setting s j
  cases problem with
  | refused status reason => exact throw _
  | fault cause => exact bind (say _) fun _ => throw _

private theorem shielding (what detail : String) {run : Handler α} (quiet : Quiet run) :
    Quiet (Service.shielding what detail run) :=
  fun setting s j => untouched_isFrame.trans (quiet setting s j) (after_shielding what detail run setting s j)

private theorem demand (d : Demand) : Quiet (Service.demand d) := by
  refine bind setting fun setting => ?_
  cases setting.database.failure d with
  | some fault => exact throw _
  | none => exact pure ()

theorem query (text : String) : Quiet (Service.query text) := bind (enter fun _ => rfl) fun _ => demand _

theorem first? (table : Table) (column : String) (v : Value) : Quiet (Service.first? table column v) :=
  bind (query _) fun _ => bind setting fun _ => pure _

theorem rowsWith (table : Table) (column : String) (v : Value) : Quiet (Service.rowsWith table column v) :=
  bind (query _) fun _ => bind setting fun _ => pure _

theorem count (text : String) : Quiet (Service.count text) := by
  refine bind (query _) fun _ => bind (fun _ => untouched_isFrame.refl) fun counted => ?_
  exact bind (enter fun _ => rfl) fun _ => bind setting fun _ => pure _

theorem send (name text : String) : Quiet (Service.send name text) :=
  bind state fun _ => bind (outcome _) fun _ => bind (update (fun _ => rfl) fun _ => Nat.le_refl _) fun _ =>
    enter fun _ => rfl

theorem connect (name : String) : Quiet (Service.connect name) :=
  bind (enter fun _ => rfl) fun _ => update (fun _ => rfl) fun _ => Nat.le_refl _

theorem disconnect (name : String) : Quiet (Service.disconnect name) := by
  refine bind state fun s => ?_
  split
  next => exact update (fun _ => rfl) fun _ => Nat.le_refl _
  next => exact throw _

theorem breakOff (name : String) : Quiet (Service.breakOff name) := update (fun _ => rfl) fun _ => Nat.le_refl _

private theorem remembered? (id : Value) : Quiet (Service.remembered? id) := by
  refine bind (outcome _) fun _ => ?_
  cases id with
  | text id => exact bind state fun _ => pure _
  | _ => exact pure none

theorem analysisOf (id : Value) : Quiet (Service.analysisOf id) := by
  refine shielding _ _ (bind (first? _ _ _) fun row => ?_)
  cases row with
  | some row =>
    refine bind (rowsWith _ _ _) fun findings => bind (outcome _) fun time => ?_
    exact bind (say _) fun _ => pure _
  | none =>
    refine bind (remembered? id) fun answer => ?_
    cases answer with
    | some answer => exact bind (say _) fun _ => pure _
    | none => exact throw _

theorem history (limit offset : Value) : Quiet (Service.history limit offset) := by
  refine reporting _ _ (bind (query _) fun _ => bind setting fun setting => ?_)
  refine bind (mapM (fun row => ?_) _) fun entries => pure _
  exact bind (outcome _) fun _ => pure _

theorem statistics : Quiet Service.statistics := by
  refine reporting _ _ (bind (count _) fun _ => bind (count _) fun _ => bind (count _) fun _ => ?_)
  exact bind (count _) fun _ => bind (query _) fun _ => bind setting fun _ => pure _

theorem sourceOf (id : Value) : Quiet (Service.sourceOf id) := by
  refine reporting _ _ (bind (first? _ _ _) fun row => ?_)
  cases row with
  | some row => exact pure _
  | none => exact throw _

theorem exportAnalysis (id format : Value) : Quiet (Service.exportAnalysis id format) := by
  refine reporting _ _ (bind (first? _ _ _) fun row => ?_)
  cases row with
  | none => exact throw _
  | some row =>
    refine bind (rowsWith _ _ _) fun findings => bind (first? _ _ _) fun metrics => ?_
    refine bind (outcome _) fun data => bind (outcome _) fun format => ?_
    split
    next => exact pure _
    next => exact bind (outcome _) fun _ => pure _
    next => exact bind (outcome _) fun _ => pure _
    next => exact throw _

theorem health : Quiet Service.health := bind (say _) fun _ => bind now fun _ => pure _

theorem assistants : Quiet Service.assistants := by
  refine bind (scan _) fun _ => bind setting fun setting => ?_
  refine bind (outcome _) fun _ => bind (outcome _) fun _ => bind (outcome _) fun _ => ?_
  exact bind (outcome _) fun _ => pure _

theorem logged (method url status : Value) : Quiet (Service.logged method url status) :=
  bind (say _) fun _ => pure _

/-! ## Conversations -/

theorem signal (kind : String) : Quiet (Service.signal kind) := bind now fun _ => pure _

private theorem reply (name : String) (message : Value) : Quiet (Service.reply name message) := by
  refine bind (outcome _) fun v => bind (outcome _) fun kind => ?_
  split
  next => exact bind (signal _) fun _ => send _ _
  next => exact send _ _

private theorem attempt {run : Handler Unit} (quiet : Quiet run) : Quiet (Service.attempt run) :=
  rescue (bind quiet fun _ => pure none) fun _ => pure _

private theorem converse (name : String) (received : List Received) : Quiet (Service.converse name received) := by
  induction received with
  | nil => exact say _
  | cons event rest ih =>
    cases event with
    | silence => exact bind (signal _) fun _ => bind (send _ _) fun _ => ih
    | failure fault => exact say _
    | message message =>
      refine bind (attempt (reply name message)) fun problem => ?_
      cases problem with
      | some problem => exact say _
      | none => exact ih

private theorem giveUp (name : String) (problem : Problem) : Quiet (Service.giveUp name problem) := by
  unfold Service.giveUp
  split
  next => exact disconnect name
  next => exact throw _

theorem serve (name : String) (received : List Received) : Quiet (Service.serve name received) :=
  bind (connect name) fun _ => rescue (converse name received) (giveUp name)

end Quiet

end ContractLint.Service
