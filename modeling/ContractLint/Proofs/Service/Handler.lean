import ContractLint.Proofs.Outcome
import ContractLint.Proofs.Text.Numeral
import ContractLint.Service.Handler

/-! # Handlers put together

The outcome of handlers in sequence, and of handlers whose problems are turned into others. A handler that
rescues its failures gives a result in every setting and state.

A handler that neither reads nor changes the connections gives the same answer whoever is connected. This
is a statement about two runs of a handler, from states that differ in their connections. It is shown for
the basic handlers and carries over to handlers that are put together from them.
-/

namespace ContractLint.Service

variable {α β : Type} {first : Handler α} {next : α → Handler β}

namespace Handler

theorem pure_bind (a : α) (next : α → Handler β) : pure a >>= next = next a := rfl

theorem throw_bind (problem : Problem) (next : α → Handler β) : throw problem >>= next = throw problem := rfl

theorem bind_of_ok {a : α} {setting : Setting} {s t : State} {j k : Journal}
    (done : first setting s j = (.ok a, t, k)) (next : α → Handler β) :
    (first >>= next) setting s j = next a setting t k := by
  have step : (first >>= next) setting s j = andThen first next setting s j := rfl
  rw [step, andThen, done]

theorem bind_of_error {problem : Problem} {setting : Setting} {s t : State}
    {j k : Journal} (failed : first setting s j = (.error problem, t, k)) (next : α → Handler β) :
    (first >>= next) setting s j = (.error problem, t, k) := by
  have step : (first >>= next) setting s j = andThen first next setting s j := rfl
  rw [step, andThen, failed]

theorem of_bind_ok {b : β} {setting : Setting} {s u : State}
    {j l : Journal} (done : (first >>= next) setting s j = (.ok b, u, l)) :
    ∃ a t k, first setting s j = (.ok a, t, k) ∧ next a setting t k = (.ok b, u, l) := by
  rcases ended : first setting s j with ⟨problem | a, t, k⟩
  · rw [bind_of_error ended] at done
    cases done
  · rw [bind_of_ok ended] at done
    exact ⟨a, t, k, rfl, done⟩

theorem of_scan_ok {run : Scan.Run α} {a : α} {setting : Setting} {s t : State} {j k : Journal}
    (done : (liftM run : Handler α) setting s j = (.ok a, t, k)) : (run setting.around j.trace).1 = .ok a := by
  have outcome : (run setting.around j.trace).1.mapError Problem.fault = .ok a := congrArg Prod.fst done
  generalize (run setting.around j.trace).1 = ended at outcome ⊢
  cases ended with
  | error fault => cases outcome
  | ok found =>
    cases outcome
    rfl

end Handler

theorem say_run (line : String) (setting : Setting) (s : State) (j : Journal) :
    say line setting s j =
      (.ok (), s, { j with trace := { j.trace with printed := j.trace.printed ++ [line] } }) := rfl

/-- What a computation that is shielded makes of a problem. -/
def shielded (detail : String) : Problem → Problem
  | .refused status reason => .refused status reason
  | .fault _ => .refused 500 detail

/-- Shielding changes the outcome of a failure only. -/
theorem shielding_outcome (what detail : String) (run : Handler α) (setting : Setting) (s : State) (j : Journal) :
    (shielding what detail run setting s j).1 = (run setting s j).1.mapError (shielded detail) := by
  have step : shielding what detail run setting s j = Handler.orElse run (fun
      | .refused status reason => refuse status reason
      | .fault cause => do
        say (what ++ ": " ++ cause.message)
        refuse 500 detail) setting s j := rfl
  rw [step, Handler.orElse]
  rcases run setting s j with ⟨problem | a, t, k⟩
  · cases problem <;> rfl
  · rfl

/-- A handler gives a result, whatever happens around it. -/
def Succeeds (h : Handler α) : Prop := ∀ setting s j, ∃ a t k, h setting s j = (.ok a, t, k)

namespace Succeeds

theorem pure (a : α) : Succeeds (Pure.pure a : Handler α) := fun _ s j => ⟨a, s, j, rfl⟩

theorem update (change : State → State) : Succeeds (Service.update change) :=
  fun _ _ _ => ⟨(), _, _, rfl⟩

theorem say (line : String) : Succeeds (Service.say line) := fun _ _ _ => ⟨(), _, _, rfl⟩

theorem now : Succeeds Service.now := fun _ _ _ => ⟨_, _, _, rfl⟩

theorem newId : Succeeds Service.newId := fun _ _ _ => ⟨_, _, _, rfl⟩

theorem bind (one : Succeeds first) (two : ∀ a, Succeeds (next a)) : Succeeds (first >>= next) := by
  intro setting s j
  obtain ⟨a, t, k, done⟩ := one setting s j
  rw [Handler.bind_of_ok done]
  exact two a setting t k

/-- A rescue that gives a result makes up for any failure. -/
theorem rescue (first : Handler α) {next : Problem → Handler α} (two : ∀ problem, Succeeds (next problem)) :
    Succeeds (MonadExcept.tryCatch first next) := by
  intro setting s j
  have step : MonadExcept.tryCatch first next setting s j = Handler.orElse first next setting s j := rfl
  rw [step, Handler.orElse]
  rcases first setting s j with ⟨problem | a, t, k⟩
  · exact two problem setting t k
  · exact ⟨a, t, k, rfl⟩

theorem closed : ClosedUnderBind @Succeeds := ⟨pure, bind⟩

end Succeeds

/-! ## Handlers that take no notice of the connections -/

/-- Two states differ in their connections and limits at most. -/
structure State.Alike (s t : State) : Prop where
  issued : s.issued = t.issued
  results : s.results = t.results

structure State.SameConnections (s t : State) : Prop where
  connections : s.connections = t.connections
  limits : s.limits = t.limits

theorem State.SameConnections.trans {s t u : State} (one : s.SameConnections t)
    (two : t.SameConnections u) : s.SameConnections u :=
  ⟨one.connections.trans two.connections, one.limits.trans two.limits⟩

/-- Two journals differ in what was sent at most. -/
structure Journal.Alike (j k : Journal) : Prop where
  trace : j.trace = k.trace
  queries : j.queries = k.queries
  counted : j.counted = k.counted
  saved : j.saved = k.saved

/-- Two runs have the same outcome and end alike. -/
structure EndAlike (first second : Except Problem α × State × Journal) : Prop where
  outcome : first.1 = second.1
  state : first.2.1.Alike second.2.1
  journal : first.2.2.Alike second.2.2

/-- A handler neither reads nor changes the connections, and does not read what was sent. -/
structure Unaware (h : Handler α) : Prop where
  alike : ∀ setting {s t : State} {j k : Journal}, s.Alike t → j.Alike k →
    EndAlike (h setting s j) (h setting t k)
  keeps : ∀ setting s j, (h setting s j).2.1.SameConnections s

/-- Identifiers are issued in turn. -/
theorem newId_run (setting : Setting) (s : State) (j : Journal) :
    newId setting s j =
      (.ok (identifier (s.issued + 1)), { s with issued := s.issued + 1 }, j) := rfl

theorem identifier_injective {number other : Nat} (same : identifier number = identifier other) : number = other := by
  have letters := congrArg String.toList same
  simp only [identifier, String.toList_append, List.append_cancel_left_eq] at letters
  exact Text.digitsText_injective (String.toList_injective letters)

namespace Unaware

theorem pure (a : α) : Unaware (Pure.pure a : Handler α) where
  alike _ _ _ _ _ states journals := ⟨rfl, states, journals⟩
  keeps _ _ _ := ⟨rfl, rfl⟩

theorem throw (problem : Problem) : Unaware (MonadExcept.throw problem : Handler α) where
  alike _ _ _ _ _ states journals := ⟨rfl, states, journals⟩
  keeps _ _ _ := ⟨rfl, rfl⟩

theorem setting : Unaware Service.setting where
  alike _ _ _ _ _ states journals := ⟨rfl, states, journals⟩
  keeps _ _ _ := ⟨rfl, rfl⟩

theorem update {change : State → State} (alike : ∀ {s t : State}, s.Alike t → (change s).Alike (change t))
    (keeps : ∀ s, (change s).SameConnections s) : Unaware (Service.update change) where
  alike _ _ _ _ _ states journals := ⟨rfl, alike states, journals⟩
  keeps _ s _ := keeps s

theorem enter {entry : Journal → Journal} (alike : ∀ {j k : Journal}, j.Alike k → (entry j).Alike (entry k)) :
    Unaware (Service.enter entry) where
  alike _ _ _ _ _ states journals := ⟨rfl, states, alike journals⟩
  keeps _ _ _ := ⟨rfl, rfl⟩

/-- Asking programs and services depends on what was printed and asked before, and on nothing else. -/
theorem scan (run : Scan.Run α) : Unaware (liftM run : Handler α) where
  alike setting s t j k states journals := by
    have first : (liftM run : Handler α) setting s j = ((run setting.around j.trace).1.mapError .fault, s,
      { j with trace := (run setting.around j.trace).2 }) := rfl
    have second : (liftM run : Handler α) setting t k = ((run setting.around k.trace).1.mapError .fault, t,
      { k with trace := (run setting.around k.trace).2 }) := rfl
    rw [first, second, journals.trace]
    exact ⟨rfl, states, rfl, journals.queries, journals.counted, journals.saved⟩
  keeps _ _ _ := ⟨rfl, rfl⟩

theorem outcome (x : Outcome α) : Unaware (liftM x : Handler α) where
  alike _ _ _ _ _ states journals := ⟨rfl, states, journals⟩
  keeps _ _ _ := ⟨rfl, rfl⟩

/-! ### Sequence and rescue -/

/-- One handler after another that is told its outcome. Sequence and rescue are both of this form. -/
def afterwards (first : Handler α) (next : Except Problem α → Handler β) : Handler β :=
  fun setting s j => next (first setting s j).1 setting (first setting s j).2.1 (first setting s j).2.2

theorem afterwards_unaware {next : Except Problem α → Handler β}
    (one : Unaware first) (two : ∀ outcome, Unaware (next outcome)) : Unaware (afterwards first next) where
  alike setting s t j k states journals := by
    have ends := one.alike setting states journals
    rw [afterwards, afterwards, ends.outcome]
    exact (two _).alike setting ends.state ends.journal
  keeps setting s j := ((two _).keeps setting _ _).trans (one.keeps setting s j)

theorem bind (one : Unaware first) (two : ∀ a, Unaware (next a)) : Unaware (first >>= next) := by
  have same : (first >>= next) = afterwards first fun
      | .ok a => next a
      | .error problem => MonadExcept.throw problem := by
    funext setting s j
    change Handler.andThen first next setting s j = _
    rw [Handler.andThen, afterwards]
    rcases first setting s j with ⟨outcome | outcome, t, k⟩ <;> rfl
  rw [same]
  refine afterwards_unaware one fun outcome => ?_
  cases outcome with
  | ok a => exact two a
  | error problem => exact throw problem

theorem rescue {next : Problem → Handler α} (one : Unaware first)
    (two : ∀ problem, Unaware (next problem)) : Unaware (MonadExcept.tryCatch first next) := by
  have same : MonadExcept.tryCatch first next = afterwards first fun
      | .ok a => Pure.pure a
      | .error problem => next problem := by
    funext setting s j
    change Handler.orElse first next setting s j = _
    rw [Handler.orElse, afterwards]
    rcases first setting s j with ⟨outcome | outcome, t, k⟩ <;> rfl
  rw [same]
  refine afterwards_unaware one fun outcome => ?_
  cases outcome with
  | ok a => exact pure a
  | error problem => exact two problem

theorem closed : ClosedUnderBind @Unaware := ⟨pure, bind⟩

/-! ### Handlers of the service -/

theorem say (line : String) : Unaware (Service.say line) := scan _

theorem now : Unaware Service.now := bind setting fun _ => pure _

theorem newId : Unaware Service.newId where
  alike setting s t j k states journals := by
    rw [newId_run, newId_run, states.issued]
    exact ⟨rfl, ⟨rfl, states.results⟩, journals⟩
  keeps _ _ _ := ⟨rfl, rfl⟩

theorem demand (d : Demand) : Unaware (Service.demand d) := by
  refine bind setting fun setting => ?_
  cases setting.database.failure d with
  | some fault => exact throw _
  | none => exact pure ()

theorem save (table : Table) (row : Row) : Unaware (Service.save table row) :=
  bind (demand _) fun _ =>
    enter fun journals => ⟨journals.trace, journals.queries, journals.counted, by rw [journals.saved]⟩

theorem commit : Unaware Service.commit :=
  bind (demand _) fun _ =>
    enter fun journals => ⟨journals.trace, journals.queries, journals.counted, by rw [journals.saved]⟩

end Unaware

end ContractLint.Service
