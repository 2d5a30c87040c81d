import Mathlib.Data.List.Forall2
import ContractLint.Fault

/-! # Outcomes in sequence

An operation that goes on with the result of another succeeds only if both do, and one that runs over
a list only if it succeeds on each member. What sequences inherit from their parts, runs over lists inherit
from what is done with each member, whatever the computations are.
-/

namespace ContractLint

open List

variable {fault : Fault} {bad : Prop}

/-- A property of computations that a sequence has if its parts have it. -/
structure ClosedUnderBind {m : Type → Type} [Monad m] (P : (α : Type) → m α → Prop) : Prop where
  pure : ∀ {α : Type} (a : α), P α (Pure.pure a)
  bind : ∀ {α β : Type} {first : m α} {next : α → m β}, P α first → (∀ a, P β (next a)) →
    P β (first >>= next)

namespace ClosedUnderBind

variable {m : Type → Type} [Monad m] {P : (α : Type) → m α → Prop} {α β : Type} {xs : List α}

/-- A traversal has a property that is closed under sequence if each step has it. -/
theorem mapM (closed : ClosedUnderBind P) {f : α → m β} (each : ∀ x ∈ xs, P _ (f x)) : P _ (xs.mapM f) := by
  suffices ∀ done, P _ (List.mapM.loop f xs done) from this []
  induction xs with
  | nil => exact fun done => closed.pure done.reverse
  | cons x xs ih =>
    obtain ⟨one, others⟩ := forall_mem_cons.mp each
    exact fun done => closed.bind one fun b => ih others (b :: done)

private theorem anyM (closed : ClosedUnderBind P) {p : α → m Bool} (each : ∀ x ∈ xs, P _ (p x)) :
    P _ (xs.anyM p) := by
  induction xs with
  | nil => exact closed.pure false
  | cons x xs ih =>
    obtain ⟨one, others⟩ := forall_mem_cons.mp each
    rw [List.anyM]
    refine closed.bind one fun found => ?_
    cases found with
    | true => exact closed.pure true
    | false => exact ih others

/-- A loop may end at any member. -/
theorem forIn (closed : ClosedUnderBind P) {f : α → β → m (ForInStep β)}
    (each : ∀ x ∈ xs, ∀ b, P _ (f x b)) (start : β) : P _ (ForIn.forIn xs start f) := by
  induction xs generalizing start with
  | nil => exact closed.pure start
  | cons x xs ih =>
    obtain ⟨one, others⟩ := forall_mem_cons.mp each
    rw [forIn_cons]
    refine closed.bind (one start) fun step => ?_
    cases step with
    | done b => exact closed.pure b
    | yield b => exact ih others b

end ClosedUnderBind

namespace Outcome

variable {α β γ : Type} {f : α → Outcome β} {p : α → Outcome Bool} {q : α → Bool} {xs : List α}
    {ys : List β}

@[simp] theorem ok_bind (a : α) (f : α → Outcome β) : ((.ok a : Outcome α) >>= f) = f a := rfl

@[simp] theorem error_bind (fault : Fault) (f : α → Outcome β) :
    ((.error fault : Outcome α) >>= f) = .error fault := rfl

/-- A sequence succeeds exactly if both of its parts do. -/
theorem bind_eq_ok {x : Outcome α} {b : β} : (x >>= f) = .ok b ↔ ∃ a, x = .ok a ∧ f a = .ok b := by
  cases x with
  | error fault => simp
  | ok a => simp

theorem map_eq_ok {x : Outcome α} {f : α → β} {b : β} : f <$> x = .ok b ↔ ∃ a, x = .ok a ∧ f a = b := by
  cases x with
  | error fault => simp
  | ok a => simp

theorem exists_bind {x : Outcome α} (first : ∃ a, x = .ok a) (rest : ∀ a, ∃ b, f a = .ok b) :
    ∃ b, (x >>= f) = .ok b := by
  obtain ⟨a, rfl⟩ := first
  exact rest a

theorem exists_ite {condition : Prop} [Decidable condition] {x y : Outcome α} (yes : ∃ a, x = .ok a)
    (no : ∃ a, y = .ok a) : ∃ a, (if condition then x else y) = .ok a := by
  split
  next => exact yes
  next => exact no

/-- The question is answered, and with yes. -/
def holds : Outcome Bool → Bool
  | .ok b => b
  | .error _ => false

theorem holds_iff {x : Outcome Bool} : x.holds ↔ x = .ok true := by
  cases x with
  | error fault => simp [holds]
  | ok b => simp [holds]

theorem eq_ok_holds {x : Outcome Bool} (answered : ∃ b, x = .ok b) : x = .ok x.holds := by
  obtain ⟨b, rfl⟩ := answered
  rfl

theorem exists_closed : ClosedUnderBind fun α (x : Outcome α) => ∃ a, x = .ok a :=
  ⟨fun a => ⟨a, rfl⟩, exists_bind⟩

/-- A traversal succeeds if each step does. -/
theorem exists_mapM (each : ∀ x ∈ xs, ∃ y, f x = .ok y) : ∃ ys, xs.mapM f = .ok ys := exists_closed.mapM each

theorem exists_forall₂_mapM {related : α → β → Prop} (each : ∀ x ∈ xs, ∃ y, f x = .ok y ∧ related x y) :
    ∃ ys, xs.mapM f = .ok ys ∧ List.Forall₂ related xs ys := by
  induction xs with
  | nil => exact ⟨[], rfl, .nil⟩
  | cons x xs ih =>
    obtain ⟨⟨first, one, fits⟩, others⟩ := forall_mem_cons.mp each
    obtain ⟨rest, done, fit⟩ := ih others
    exact ⟨first :: rest, by rw [mapM_cons, one, ok_bind, done]; rfl, .cons fits fit⟩

/-- The results of a traversal belong to its items one by one. -/
theorem forall₂_of_mapM (done : xs.mapM f = .ok ys) : List.Forall₂ (fun x y => f x = .ok y) xs ys := by
  induction xs generalizing ys with
  | nil =>
    cases done
    exact .nil
  | cons x xs ih =>
    rw [mapM_cons] at done
    obtain ⟨first, one, done⟩ := bind_eq_ok.mp done
    obtain ⟨rest, others, done⟩ := bind_eq_ok.mp done
    cases done
    exact .cons one (ih others)

theorem exists_mem_of_forall₂ {related : α → β → Prop}
    (each : List.Forall₂ related xs ys) {y : β} (member : y ∈ ys) : ∃ x ∈ xs, related x y := by
  induction each with
  | nil => contradiction
  | cons one _ ih =>
    obtain rfl | later := mem_cons.mp member
    · exact ⟨_, mem_cons_self, one⟩
    · obtain ⟨x, known, other⟩ := ih later
      exact ⟨x, mem_cons_of_mem _ known, other⟩

/-- What a successful run over a list gives comes from the members of the list. -/
theorem mem_of_mapM (done : xs.mapM f = .ok ys) {y : β} (member : y ∈ ys) : ∃ x ∈ xs, f x = .ok y :=
  exists_mem_of_forall₂ (forall₂_of_mapM done) member

/-- What a run over a list gives on a member is among what it gives on the list. -/
theorem exists_mem_of_mapM (done : xs.mapM f = .ok ys) {x : α} (member : x ∈ xs) : ∃ y ∈ ys, f x = .ok y :=
  exists_mem_of_forall₂ (forall₂_of_mapM done).flip member

/-- Where each member that one run succeeds on gives related results in both runs, the other run succeeds as well. -/
theorem exists_mapM_of_mapM {g : α → Outcome γ} {related : γ → β → Prop}
    (each : ∀ x y, f x = .ok y → ∃ z, g x = .ok z ∧ related z y)
    (done : xs.mapM f = .ok ys) : ∃ zs, xs.mapM g = .ok zs ∧ List.Forall₂ related zs ys := by
  have made := forall₂_of_mapM done
  clear done
  induction made with
  | nil => exact ⟨[], rfl, .nil⟩
  | @cons x y xs ys one _ ih =>
    obtain ⟨z, first, here⟩ := each x y one
    obtain ⟨zs, rest, there⟩ := ih
    exact ⟨z :: zs, by rw [mapM_cons, first, ok_bind, rest]; rfl, .cons here there⟩

theorem exists_flatten_of_flatten {f : α → Outcome (List β)} {g : α → Outcome (List γ)}
    {related : γ → β → Prop}
    (each : ∀ x ys, f x = .ok ys → ∃ zs, g x = .ok zs ∧ List.Forall₂ related zs ys)
    (done : (do return (← xs.mapM f).flatten) = Except.ok ys) :
    ∃ zs, (do return (← xs.mapM g).flatten) = Except.ok zs ∧ List.Forall₂ related zs ys := by
  obtain ⟨lists, run, done⟩ := bind_eq_ok.mp done
  cases done
  obtain ⟨marks, other, each⟩ := exists_mapM_of_mapM each run
  exact ⟨marks.flatten, by rw [other]; rfl, rel_flatten each⟩

/-- Members that are related one by one are in the same order. -/
theorem pairwise_of_forall₂ {related : α → β → Prop} {before : α → α → Prop}
    {before' : β → β → Prop}
    (kept : ∀ x x' y y', before x x' → related x y → related x' y' → before' y y')
    (each : List.Forall₂ related xs ys) (ordered : xs.Pairwise before) : ys.Pairwise before' := by
  induction each with
  | nil => exact .nil
  | @cons x y xs ys one others ih =>
    obtain ⟨first, rest⟩ := pairwise_cons.mp ordered
    refine pairwise_cons.mpr ⟨fun y' member => ?_, ih rest⟩
    obtain ⟨x', known, other⟩ := exists_mem_of_forall₂ others member
    exact kept x x' y y' (first x' known) one other

/-- A run over a list succeeds exactly if it succeeds on each member. -/
theorem exists_mapM_iff : (∃ ys, xs.mapM f = .ok ys) ↔ ∀ x ∈ xs, ∃ y, f x = .ok y := by
  constructor
  · rintro ⟨ys, done⟩ x member
    obtain ⟨y, _, same⟩ := exists_mem_of_mapM done member
    exact ⟨y, same⟩
  · exact exists_mapM

theorem eq_map_of_mapM {g : α → β} (done : xs.mapM f = .ok ys)
    (each : ∀ x y, f x = .ok y → g x = y) : ys = xs.map g := by
  have related : List.Forall₂ (fun x y => g x = y) xs ys := (forall₂_of_mapM done).imp each
  rw [← forall₂_map_left_iff, forall₂_eq_eq_eq] at related
  exact related.symm

/-- What an operation gives on a part of a list is a part of what it gives on the list. -/
theorem mapM_of_infix {xs part : List α} (inside : part <:+: xs)
    (done : xs.mapM f = .ok ys) : ∃ own, part.mapM f = .ok own ∧ own <:+: ys := by
  obtain ⟨before, after, rfl⟩ := inside
  rw [mapM_append, mapM_append] at done
  obtain ⟨_, first, done⟩ := bind_eq_ok.mp done
  obtain ⟨left, _, first⟩ := bind_eq_ok.mp first
  obtain ⟨own, here, first⟩ := bind_eq_ok.mp first
  obtain ⟨right, _, done⟩ := bind_eq_ok.mp done
  cases first
  cases done
  exact ⟨own, here, left, right, rfl⟩

/-- A search that looks for the members on which an operation gives something finds one exactly if the
operation gives something on the whole list. -/
theorem anyM_of_mapM {f : α → Outcome (List β)} {g : α → Outcome Bool}
    (each : ∀ x found, f x = .ok found → g x = .ok (!found.isEmpty)) {lists : List (List β)}
    (done : xs.mapM f = .ok lists) : xs.anyM g = .ok (!lists.flatten.isEmpty) := by
  induction xs generalizing lists with
  | nil =>
    cases done
    rfl
  | cons x xs ih =>
    rw [mapM_cons] at done
    obtain ⟨found, one, done⟩ := bind_eq_ok.mp done
    obtain ⟨rest, others, done⟩ := bind_eq_ok.mp done
    cases done
    rw [List.anyM, each x found one, ok_bind]
    cases found with
    | nil =>
      rw [flatten_cons]
      exact ih others
    | cons first found => rfl

theorem isEmpty_of_mapM (done : xs.mapM f = .ok ys) : ys.isEmpty = xs.isEmpty := by
  cases xs with
  | nil =>
    cases done
    rfl
  | cons x xs =>
    rw [mapM_cons] at done
    obtain ⟨first, _, done⟩ := bind_eq_ok.mp done
    obtain ⟨rest, _, done⟩ := bind_eq_ok.mp done
    cases done
    rfl

/-- What an operation gives on a member is a part of what it gives on the list. -/
theorem infix_of_mapM {f : α → Outcome (List β)} {lists : List (List β)} (done : xs.mapM f = .ok lists)
    {x : α} (member : x ∈ xs) : ∃ found, f x = .ok found ∧ found <:+: lists.flatten := by
  induction xs generalizing lists with
  | nil => contradiction
  | cons first xs ih =>
    rw [mapM_cons] at done
    obtain ⟨found, one, done⟩ := bind_eq_ok.mp done
    obtain ⟨rest, others, done⟩ := bind_eq_ok.mp done
    cases done
    rw [flatten_cons]
    obtain rfl | later := mem_cons.mp member
    · exact ⟨found, one, (prefix_append found _).isInfix⟩
    · obtain ⟨own, done, part⟩ := ih others later
      exact ⟨own, done, part.trans (suffix_append found _).isInfix⟩

/-! ## Operations that succeed on every member -/

/-- A traversal whose steps succeed is a map. -/
theorem mapM_eq_ok {g : α → β} (each : ∀ x ∈ xs, f x = .ok (g x)) : xs.mapM f = .ok (xs.map g) := by
  induction xs with
  | nil => rfl
  | cons x xs ih =>
    obtain ⟨one, others⟩ := forall_mem_cons.mp each
    rw [mapM_cons, one, ok_bind, ih others]
    rfl

theorem mapM_flatMap (f : β → Outcome γ) (g : α → List β) (xs : List α) :
    (xs.flatMap g).mapM f = List.flatten <$> xs.mapM fun x => (g x).mapM f := by
  induction xs with
  | nil => rfl
  | cons x xs ih =>
    simp only [flatMap_cons, mapM_append, mapM_cons, ih, map_eq_pure_bind, bind_assoc,
      pure_bind, flatten_cons]

theorem mapM_congr {f g : α → Outcome β} (each : ∀ x ∈ xs, f x = g x) : xs.mapM f = xs.mapM g := by
  induction xs with
  | nil => rfl
  | cons x xs ih =>
    obtain ⟨one, others⟩ := forall_mem_cons.mp each
    rw [mapM_cons, mapM_cons, one, ih others]

theorem map_mapM (f : α → Outcome β) (g : β → γ) (xs : List α) :
    (xs.mapM fun x => g <$> f x) = List.map g <$> xs.mapM f := by
  induction xs with
  | nil => rfl
  | cons x xs ih =>
    rw [mapM_cons, mapM_cons, ih]
    simp only [map_eq_pure_bind, bind_assoc, pure_bind, map_cons]

theorem mapM_changed {f : α → Outcome γ} {f' : α → Outcome β} {g : β → γ} (each : ∀ x, f x = g <$> f' x)
    (xs : List α) : xs.mapM f = List.map g <$> xs.mapM f' := by
  rw [funext each, map_mapM]

/-- What an operation gives on the members of a list can be changed before or after it is put together. -/
theorem flatten_changed {f : α → Outcome (List γ)} {f' : α → Outcome (List β)} {g : β → γ}
    (each : ∀ x, f x = List.map g <$> f' x) (xs : List α) :
    (do return (← xs.mapM f).flatten) = List.map g <$> (do return (← xs.mapM f').flatten : Outcome (List β)) := by
  rw [mapM_changed each]
  cases xs.mapM f' with
  | error fault => rfl
  | ok lists => exact congrArg Except.ok map_flatten.symm

/-- Members without a counterpart for which nothing is to be done can stay in the list. -/
theorem flatten_filterMap {g : α → Option γ} {f : γ → Outcome (List β)} {h : α → Outcome (List β)}
    (skipped : ∀ x, g x = none → h x = .ok []) (kept : ∀ x y, g x = some y → h x = f y) (xs : List α) :
    List.flatten <$> (xs.filterMap g).mapM f = List.flatten <$> xs.mapM h := by
  have cons (first : List β) (others : Outcome (List (List β))) :
      List.flatten <$> (do return first :: (← others)) = (first ++ ·) <$> (List.flatten <$> others) := by
    cases others <;> rfl
  induction xs with
  | nil => rfl
  | cons x xs ih =>
    rw [mapM_cons]
    cases same : g x with
    | none =>
      rw [filterMap_cons_none same, skipped x same, ok_bind, cons, ← ih]
      exact (id_map _).symm
    | some y =>
      rw [filterMap_cons_some same, mapM_cons, kept x y same]
      cases f y with
      | error fault => rfl
      | ok first => rw [ok_bind, ok_bind, cons, cons, ih]

theorem anyM_append (p : α → Outcome Bool) (xs ys : List α) :
    (xs ++ ys).anyM p = (do if ← xs.anyM p then return true else ys.anyM p) := by
  induction xs with
  | nil => rfl
  | cons x xs ih =>
    rw [cons_append, anyM_cons, anyM_cons, ih, bind_assoc]
    refine bind_congr fun found => ?_
    cases found <;> rfl

/-- A search succeeds if each question is answered. -/
theorem exists_anyM (each : ∀ x ∈ xs, ∃ b, p x = .ok b) : ∃ b, xs.anyM p = .ok b := exists_closed.anyM each

theorem anyM_eq_ok (each : ∀ x ∈ xs, p x = .ok (q x)) : xs.anyM p = .ok (xs.any q) := by
  induction xs with
  | nil => rfl
  | cons x xs ih =>
    obtain ⟨one, others⟩ := forall_mem_cons.mp each
    rw [anyM_cons, one, ok_bind, any_cons, ih others]
    cases q x <;> rfl

theorem anyM_map (p : β → Outcome Bool) (f : γ → β) (xs : List γ) :
    (xs.map f).anyM p = xs.anyM fun x => p (f x) := by
  induction xs with
  | nil => rfl
  | cons x xs ih => rw [map_cons, anyM_cons, anyM_cons, ih]

/-- A search tells whether some answer is yes. -/
theorem any_of_anyM {b : Bool} (done : xs.anyM p = .ok b) : b = xs.any fun x => (p x).holds := by
  induction xs with
  | nil => exact (Except.ok.inj done).symm
  | cons x xs ih =>
    rw [anyM_cons] at done
    obtain ⟨found, one, done⟩ := bind_eq_ok.mp done
    rw [any_cons, one, holds]
    cases found with
    | true => exact (Except.ok.inj done).symm
    | false => exact ih done

/-- A loop succeeds if each round does. -/
theorem exists_forIn {f : α → β → Outcome (ForInStep β)}
    (each : ∀ x ∈ xs, ∀ b, ∃ step, f x b = .ok step) (start : β) : ∃ b, forIn xs start f = .ok b :=
  exists_closed.forIn each start

/-! ## Exact failure -/

/-- The operation fails with a given fault if a condition holds, and succeeds if it does not. -/
structure FailsIff (fault : Fault) (bad : Prop) (x : Outcome α) : Prop where
  failing : bad → x = .error fault
  succeeding : ¬ bad → ∃ a, x = .ok a

namespace FailsIff

variable {fault : Fault} {x : Outcome α}

theorem of_ok (good : ¬ bad) (done : ∃ a, x = .ok a) : FailsIff fault bad x :=
  ⟨fun holds => absurd holds good, fun _ => done⟩

theorem congr {other : Prop} (exact : FailsIff fault bad x) (same : bad ↔ other) : FailsIff fault other x :=
  ⟨fun holds => exact.failing (same.mpr holds), fun good => exact.succeeding (mt same.mp good)⟩

/-- What goes on without failing fails exactly if its beginning does. -/
theorem bind (first : FailsIff fault bad x)
    (rest : ∀ a, x = .ok a → ∃ b, f a = .ok b) : FailsIff fault bad (x >>= f) := by
  refine ⟨fun holds => by rw [first.failing holds, error_bind], fun good => ?_⟩
  obtain ⟨a, done⟩ := first.succeeding good
  rw [done, ok_bind]
  exact rest a done

/-- A run over a list fails exactly if it fails on some member. -/
theorem mapM {bad : α → Prop} (each : ∀ x ∈ xs, FailsIff fault (bad x) (f x)) :
    FailsIff fault (∃ x ∈ xs, bad x) (xs.mapM f) := by
  induction xs with
  | nil => exact of_ok (by simp) ⟨[], rfl⟩
  | cons x xs ih =>
    obtain ⟨one, others⟩ := forall_mem_cons.mp each
    have later := ih others
    rw [mapM_cons]
    by_cases here : bad x
    · refine ⟨fun _ => ?_, fun good => absurd ⟨x, mem_cons_self, here⟩ good⟩
      rw [one.failing here, error_bind]
    · obtain ⟨first, done⟩ := one.succeeding here
      rw [done, ok_bind]
      refine (later.bind fun rest _ => ⟨first :: rest, rfl⟩).congr ?_
      simp [here]

/-- A search fails exactly if it fails on some member before which it finds nothing. -/
theorem anyM {bad : α → Prop} (each : ∀ x ∈ xs, FailsIff fault (bad x) (p x)) :
    FailsIff fault (∃ before x after, xs = before ++ x :: after ∧ (∀ y ∈ before, p y = .ok false) ∧ bad x)
      (xs.anyM p) := by
  induction xs with
  | nil => exact of_ok (by simp) ⟨false, rfl⟩
  | cons x xs ih =>
    obtain ⟨one, others⟩ := forall_mem_cons.mp each
    rw [anyM_cons]
    by_cases here : bad x
    · refine ⟨fun _ => by rw [one.failing here, error_bind], fun good => ?_⟩
      exact absurd ⟨[], x, xs, rfl, by simp, here⟩ good
    · obtain ⟨found, done⟩ := one.succeeding here
      rw [done, ok_bind]
      cases found with
      | true =>
        refine of_ok ?_ ⟨true, rfl⟩
        rintro ⟨before, y, after, same, nothing, bad⟩
        obtain ⟨rfl, rfl, -⟩ | ⟨rest, rfl, -⟩ := cons_eq_append_iff.mp same
        · exact here bad
        · exact absurd (done.symm.trans (nothing x mem_cons_self)) (by simp)
      | false =>
        refine (ih others).congr ⟨?_, ?_⟩
        · rintro ⟨before, y, after, rfl, nothing, bad⟩
          exact ⟨x :: before, y, after, rfl, forall_mem_cons.mpr ⟨done, nothing⟩, bad⟩
        · rintro ⟨before, y, after, same, nothing, bad⟩
          obtain ⟨rfl, later⟩ | ⟨rest, rfl, later⟩ := cons_eq_append_iff.mp same
          · cases later
            exact absurd bad here
          · exact ⟨rest, y, after, later, (forall_mem_cons.mp nothing).2, bad⟩

end FailsIff

/-! ## Selecting members -/

private theorem filterAuxM_eq (p : α → Outcome Bool) (xs kept : List α) :
    xs.filterAuxM p kept = do return (← xs.filterAuxM p []) ++ kept := by
  induction xs generalizing kept with
  | nil => rfl
  | cons x xs ih =>
    rw [List.filterAuxM, List.filterAuxM]
    cases p x with
    | error fault => rfl
    | ok b =>
      simp only [ok_bind]
      rw [ih, ih (cond b [x] [])]
      cases xs.filterAuxM p [] with
      | error fault => rfl
      | ok more => cases b <;> simp

theorem filterM_cons (p : α → Outcome Bool) (x : α) (xs : List α) :
    (x :: xs).filterM p = do
      let kept ← p x
      let rest ← xs.filterM p
      return if kept then x :: rest else rest := by
  rw [List.filterM, List.filterAuxM, List.filterM]
  cases p x with
  | error fault => rfl
  | ok b =>
    simp only [ok_bind]
    rw [filterAuxM_eq]
    cases xs.filterAuxM p [] with
    | error fault => rfl
    | ok more => cases b <;> simp

private theorem filterM_append (p : α → Outcome Bool) (xs ys : List α) :
    (xs ++ ys).filterM p = do
      let first ← xs.filterM p
      let second ← ys.filterM p
      return first ++ second := by
  induction xs with
  | nil => simp [List.filterM, List.filterAuxM]
  | cons x xs ih =>
    simp only [cons_append, filterM_cons, ih, bind_assoc, pure_bind]
    refine bind_congr fun b => ?_
    cases b <;> simp

/-- The members that are selected from lists put together are those selected from each list, put together. -/
theorem filterM_flatMap (p : β → Outcome Bool) (g : α → List β) (xs : List α) :
    (xs.flatMap g).filterM p = List.flatten <$> xs.mapM fun x => (g x).filterM p := by
  induction xs with
  | nil => rfl
  | cons x xs ih =>
    simp only [flatMap_cons, filterM_append, mapM_cons, ih, map_eq_pure_bind, bind_assoc, pure_bind,
      flatten_cons]

/-- A filter whose questions are answered is a plain one. -/
theorem filterM_eq_ok (each : ∀ x ∈ xs, p x = .ok (q x)) : xs.filterM p = .ok (xs.filter q) := by
  induction xs with
  | nil => rfl
  | cons x xs ih =>
    obtain ⟨one, others⟩ := forall_mem_cons.mp each
    rw [filterM_cons, one, ok_bind, ih others, filter_cons]
    rfl

/-- A filter keeps only what answers yes. -/
theorem mem_of_filterM {xs kept : List α} (done : xs.filterM p = .ok kept) {x : α}
    (member : x ∈ kept) : x ∈ xs ∧ p x = .ok true := by
  induction xs generalizing kept with
  | nil =>
    cases done
    contradiction
  | cons first xs ih =>
    rw [filterM_cons] at done
    obtain ⟨b, one, done⟩ := bind_eq_ok.mp done
    obtain ⟨rest, others, done⟩ := bind_eq_ok.mp done
    cases done
    cases b with
    | false =>
      obtain ⟨inside, selected⟩ := ih others member
      exact ⟨mem_cons_of_mem _ inside, selected⟩
    | true =>
      obtain rfl | later := mem_cons.mp member
      · exact ⟨mem_cons_self, one⟩
      · obtain ⟨inside, selected⟩ := ih others later
        exact ⟨mem_cons_of_mem _ inside, selected⟩

/-- The members that are selected are those that a rule selects, if the answers follow the rule. -/
theorem filter_of_filterM {xs kept : List α} (done : xs.filterM p = .ok kept)
    (each : ∀ x b, p x = .ok b → b = q x) : kept = xs.filter q := by
  induction xs generalizing kept with
  | nil =>
    cases done
    rfl
  | cons x xs ih =>
    rw [filterM_cons] at done
    obtain ⟨found, one, done⟩ := bind_eq_ok.mp done
    obtain ⟨rest, others, done⟩ := bind_eq_ok.mp done
    cases done
    rw [filter_cons, ← each x found one, ih others]

theorem filterM_eq_filter {xs kept : List α} (done : xs.filterM p = .ok kept) :
    kept = xs.filter fun x => (p x).holds :=
  filter_of_filterM done fun x b one => by rw [one, holds]

/-- Selecting fails exactly if it fails on some member. -/
theorem FailsIff.filterM {bad : α → Prop}
    (each : ∀ x ∈ xs, FailsIff fault (bad x) (p x)) : FailsIff fault (∃ x ∈ xs, bad x) (xs.filterM p) := by
  induction xs with
  | nil => exact of_ok (by simp) ⟨[], rfl⟩
  | cons x xs ih =>
    obtain ⟨one, others⟩ := forall_mem_cons.mp each
    rw [filterM_cons]
    by_cases here : bad x
    · refine ⟨fun _ => by rw [one.failing here, error_bind], fun good => ?_⟩
      exact absurd ⟨x, mem_cons_self, here⟩ good
    · obtain ⟨found, done⟩ := one.succeeding here
      rw [done, ok_bind]
      refine ((ih others).bind fun rest _ => ⟨if found then x :: rest else rest, rfl⟩).congr ?_
      simp [here]

/-- A search finds something exactly if something is selected. -/
theorem anyM_of_filterM {xs kept : List α} (done : xs.filterM p = .ok kept) : xs.anyM p = .ok (!kept.isEmpty) := by
  induction xs generalizing kept with
  | nil =>
    cases done
    rfl
  | cons x xs ih =>
    rw [filterM_cons] at done
    obtain ⟨found, one, done⟩ := bind_eq_ok.mp done
    obtain ⟨rest, others, done⟩ := bind_eq_ok.mp done
    cases done
    rw [anyM_cons, one, ok_bind]
    cases found with
    | true => rfl
    | false => exact ih others

/-- Selecting fails at the first member that it fails on. -/
theorem filterM_eq_error (failed : xs.filterM p = .error fault) :
    ∃ before x after kept, xs = before ++ x :: after ∧ before.filterM p = .ok kept ∧ p x = .error fault := by
  induction xs with
  | nil => contradiction
  | cons x xs ih =>
    rw [filterM_cons] at failed
    cases one : p x with
    | error other =>
      rw [one] at failed
      cases failed
      exact ⟨[], x, xs, [], rfl, rfl, one⟩
    | ok found =>
      rw [one, ok_bind] at failed
      cases others : xs.filterM p with
      | ok rest =>
        rw [others] at failed
        contradiction
      | error other =>
        rw [others] at failed
        cases failed
        obtain ⟨before, y, after, kept, rfl, done, last⟩ := ih others
        refine ⟨x :: before, y, after, if found then x :: kept else kept, rfl, ?_, last⟩
        rw [filterM_cons, one, ok_bind, done]
        rfl

/-- A search that meets a member that it fails on has the answer if it has found something before. -/
theorem anyM_of_failing {before kept : List α} {x : α}
    (done : before.filterM p = .ok kept) (failing : p x = .error fault) (after : List α) :
    (before ++ x :: after).anyM p = if kept.isEmpty then .error fault else .ok true := by
  rw [anyM_append, anyM_of_filterM done, ok_bind]
  cases kept.isEmpty with
  | true => simp [failing]
  | false => rfl

end Outcome

end ContractLint
