import ContractLint.Pattern.Match
import ContractLint.Pattern.Parser

/-! # What matches a pattern

`Spans` says, without a search, between which positions of a text a pattern matches. The matcher follows that relation
for every regular pattern: what it finds is a match, and it gives up only where there is none (`tries_run`). So all
matches in a text (`findAll`) are the leftmost match, the leftmost one after its end, and so on to the end of the text,
provided that no match is empty (`scanned_findAll`).
-/

namespace ContractLint.Pattern

variable {related : Nat → Nat → Prop} {high : Option Nat} {before after : List Char} {pattern : Pattern}
  {place : Place} {position low : Nat} {round following : Nat → Nat → Prop}

/-! ## Matches by positions -/

/-- A number of rounds, one after the other. -/
def Rounds (round : Nat → Nat → Prop) : Nat → Nat → Nat → Prop
  | 0, start, stop => start = stop
  | count + 1, start, stop => ∃ next, round start next ∧ Rounds round count next stop

/-- A number of rounds between two bounds. -/
def Times (round : Nat → Nat → Prop) (low : Nat) (high : Option Nat) (start stop : Nat) : Prop :=
  ∃ count, low ≤ count ∧ (∀ most, high = some most → count ≤ most) ∧ Rounds round count start stop

/-- The character at a position passes a test, and the match ends after it. -/
def OneChar (cs : List Char) (test : Char → Bool) (start stop : Nat) : Prop :=
  stop = start + 1 ∧ ∃ c, cs[start]? = some c ∧ test c

def Place.at (cs : List Char) (position : Nat) : Place :=
  ⟨(cs.take position).reverse, cs.drop position, position, []⟩

/-- The characters of a text between two positions match a pattern. Patterns that are not regular are left out. -/
def Spans (cs : List Char) : Pattern → Nat → Nat → Prop
  | empty, start, stop => start = stop
  | char test, start, stop => OneChar cs test.holds start stop
  | any newlines, start, stop => OneChar cs (fun c => newlines || c != '\n') start stop
  | anchor spot, start, stop => start = stop ∧ spot.holds (.at cs start)
  | seq first second, start, stop => ∃ next, Spans cs first start next ∧ Spans cs second next stop
  | alt first second, start, stop => Spans cs first start stop ∨ Spans cs second start stop
  | rep body low high _, start, stop => Times (Spans cs body) low high start stop
  | group _ body, start, stop => Spans cs body start stop
  | ahead positive body, start, stop => start = stop ∧ (positive ↔ ∃ next, Spans cs body start next)
  | _, _, _ => False

/-- The pattern has no back reference, no look behind, no part that is never given back, and its repetitions are greedy
with bounds in order: whether it matches between two positions is known without the way it was searched for. -/
def isRegular : Pattern → Bool
  | empty => true
  | char _ => true
  | any _ => true
  | anchor _ => true
  | seq first second => first.isRegular && second.isRegular
  | alt first second => first.isRegular && second.isRegular
  | rep body low high greed => greed == .greedy && high.all (low ≤ ·) && body.isRegular
  | group _ body => body.isRegular
  | ahead _ body => body.isRegular
  | _ => false

/-- The least number of characters that a pattern matches. -/
def least (pattern : Pattern) : Nat := (pattern.width []).1

section Rounds

variable {round : Nat → Nat → Prop} {low : Nat} {high : Option Nat} {start next stop : Nat}

private theorem Times.more (bounded : high ≠ some 0) (first : round start next)
    (others : Times round (low - 1) (high.map (· - 1)) next stop) : Times round low high start stop := by
  obtain ⟨count, enough, few, rounds⟩ := others
  refine ⟨count + 1, by omega, fun most same => ?_, next, first, rounds⟩
  have fewer := few (most - 1) (by rw [same]; rfl)
  have positive : most ≠ 0 := by
    rintro rfl
    exact bounded same
  omega

private theorem Times.eq_of_zero (times : Times round low (some 0) start stop) : start = stop := by
  obtain ⟨count, _, few, rounds⟩ := times
  obtain rfl : count = 0 := Nat.le_zero.mp (few 0 rfl)
  exact rounds

/-- A repetition that is required has a first round. -/
theorem Times.first (required : 0 < low) (times : Times round low high start stop) :
    ∃ next, round start next ∧ Times round (low - 1) (high.map (· - 1)) next stop := by
  obtain ⟨count, enough, few, rounds⟩ := times
  obtain _ | count := count
  · omega
  · obtain ⟨next, first, others⟩ := rounds
    refine ⟨next, first, count, by omega, fun most same => ?_, others⟩
    obtain ⟨bound, known, rfl⟩ := Option.map_eq_some_iff.mp same
    have := few bound known
    omega

/-- Rounds that consume nothing can be left out where none is required. -/
theorem Times.advance (times : Times round 0 high start stop) :
    start = stop ∨ ∃ next, next ≠ start ∧ round start next ∧ Times round 0 (high.map (· - 1)) next stop := by
  obtain ⟨count, _, few, rounds⟩ := times
  induction count with
  | zero => exact .inl rounds
  | succ count ih =>
    obtain ⟨next, first, others⟩ := rounds
    by_cases same : next = start
    · rw [same] at others
      exact ih (Nat.zero_le _) (fun most known => Nat.le_of_succ_le (few most known)) others
    · refine .inr ⟨next, same, first, count, Nat.zero_le _, fun most known => ?_, others⟩
      obtain ⟨bound, bounded, rfl⟩ := Option.map_eq_some_iff.mp known
      have := few bound bounded
      omega

end Rounds

/-! ## How long matches are -/

section Length

variable {cs : List Char} {start stop : Nat}

private theorem Rounds.le {size count : Nat} (each : ∀ i j, round i j → i + size ≤ j)
    (rounds : Rounds round count start stop) : start + size * count ≤ stop := by
  induction count generalizing start with
  | zero => exact Nat.le_of_eq rounds
  | succ count ih =>
    obtain ⟨next, first, others⟩ := rounds
    have := each start next first
    have := ih others
    rw [Nat.mul_succ]
    omega

private theorem Rounds.within {limit count : Nat} (each : ∀ i j, round i j → i = j ∨ j ≤ limit)
    (rounds : Rounds round count start stop) : start = stop ∨ stop ≤ limit := by
  induction count generalizing start with
  | zero => exact .inl rounds
  | succ count ih =>
    obtain ⟨next, first, others⟩ := rounds
    obtain rfl | inside := ih others
    · exact each start next first
    · exact .inr inside

/-- A match is at least as long as its pattern requires. -/
theorem Spans.le (spans : Spans cs pattern start stop) : start + pattern.least ≤ stop := by
  induction pattern generalizing start stop with
  | empty => exact Nat.le_of_eq spans
  | char test => exact Nat.le_of_eq spans.1.symm
  | any newlines => exact Nat.le_of_eq spans.1.symm
  | anchor spot => exact Nat.le_of_eq spans.1
  | seq first second ihFirst ihSecond =>
    obtain ⟨next, one, other⟩ := spans
    have := ihFirst one
    have := ihSecond other
    simp only [least, width, addWidths] at *
    omega
  | alt first second ihFirst ihSecond =>
    simp only [least, width, eitherWidth] at *
    obtain one | other := spans
    · have := ihFirst one
      omega
    · have := ihSecond other
      omega
  | rep body low high greed ih =>
    obtain ⟨count, enough, _, rounds⟩ := spans
    have whole := rounds.le (fun _ _ => ih)
    have := Nat.mul_le_mul_left body.least enough
    simp only [least, width] at *
    omega
  | group number body ih => exact ih spans
  | ahead positive body => exact Nat.le_of_eq spans.1
  | _ => exact spans.elim

/-- A match that is not empty ends inside the text. -/
theorem Spans.within (spans : Spans cs pattern start stop) : start = stop ∨ stop ≤ cs.length := by
  induction pattern generalizing start stop with
  | empty => exact .inl spans
  | char test =>
    obtain ⟨rfl, c, known, _⟩ := spans
    exact .inr (List.getElem?_eq_some_iff.mp known).1
  | any newlines =>
    obtain ⟨rfl, c, known, _⟩ := spans
    exact .inr (List.getElem?_eq_some_iff.mp known).1
  | anchor spot => exact .inl spans.1
  | seq first second ihFirst ihSecond =>
    obtain ⟨next, one, other⟩ := spans
    obtain rfl | inside := ihSecond other
    · exact ihFirst one
    · exact .inr inside
  | alt first second ihFirst ihSecond => exact spans.elim ihFirst ihSecond
  | rep body low high greed ih =>
    obtain ⟨count, _, _, rounds⟩ := spans
    exact rounds.within fun _ _ => ih
  | group number body ih => exact ih spans
  | ahead positive body => exact .inl spans.1
  | _ => exact spans.elim

end Length

/-! ## Places of a text -/

/-- The place is one of the text. -/
structure Place.Stands (cs : List Char) (place : Place) : Prop where
  whole : place.before.reverse ++ place.after = cs
  counted : place.position = place.before.length

namespace Place.Stands

variable {cs : List Char} {place next : Place}

theorem start (cs : List Char) : (Place.start cs).Stands cs := ⟨rfl, rfl⟩

private theorem position_le (stands : place.Stands cs) : place.position ≤ cs.length := by
  rw [← stands.whole, stands.counted, List.length_append, List.length_reverse]
  omega

theorem length_after (stands : place.Stands cs) : place.after.length = cs.length - place.position := by
  rw [← stands.whole, stands.counted, List.length_append, List.length_reverse]
  omega

theorem remembering (stands : place.Stands cs) (groups : List (Nat × List Char)) :
    { place with groups }.Stands cs := ⟨stands.whole, stands.counted⟩

private theorem holds_anchor (stands : place.Stands cs) (spot : Anchor) :
    spot.holds place = spot.holds (.at cs place.position) := by
  obtain ⟨before, after, position, groups⟩ := place
  obtain rfl : before.reverse ++ after = cs := stands.whole
  obtain rfl : position = before.length := stands.counted
  have same : Place.at (before.reverse ++ after) before.length = ⟨before, after, before.length, []⟩ := by
    simp [Place.at]
  rw [same]
  cases spot <;> rfl

/-- The next place is known by the character at the position. -/
theorem step?_eq_some_iff (stands : place.Stands cs) (test : Char → Bool) :
    (∃ next, place.step? test = some next) ↔ ∃ c, cs[place.position]? = some c ∧ test c := by
  obtain ⟨before, after, position, groups⟩ := place
  obtain rfl : before.reverse ++ after = cs := stands.whole
  obtain rfl : position = before.length := stands.counted
  cases after with
  | nil => simp [Place.step?]
  | cons c rest => simp [Place.step?]

theorem forth {c : Char} {groups : List (Nat × List Char)}
    (stands : Place.Stands cs ⟨before, c :: after, position, groups⟩) :
    Place.Stands cs ⟨c :: before, after, position + 1, groups⟩ := by
  obtain ⟨rfl, counted⟩ := stands
  exact ⟨by simp, congrArg (· + 1) counted⟩

private theorem step? (stands : place.Stands cs) {test : Char → Bool} (stepped : place.step? test = some next) :
    next.Stands cs ∧ next.position = place.position + 1 := by
  obtain ⟨before, after, position, groups⟩ := place
  cases after with
  | nil => cases stepped
  | cons c rest =>
    simp only [Place.step?] at stepped
    split at stepped
    next =>
      cases stepped
      exact ⟨stands.forth, rfl⟩
    next => cases stepped

end Place.Stands

/-! ## The matcher follows the relation -/

/-- A step of a search tries the positions that a relation gives. Where it ends, the rest of the match has accepted one
of them, and it goes back only if the rest accepts none. -/
structure Tries (cs : List Char) (step : Place → Rest → Option Place) (related : Nat → Nat → Prop) : Prop where
  sound : ∀ {place : Place} {rest : Rest} {last : Place}, place.Stands cs → step place rest = some last →
    ∃ next, next.Stands cs ∧ related place.position next.position ∧ rest next = some last
  complete : ∀ {place : Place} {rest : Rest} {position : Nat}, place.Stands cs → related place.position position →
    (∀ next, next.Stands cs → next.position = position → (rest next).isSome) → (step place rest).isSome

namespace Tries

variable {cs : List Char}

private theorem one (test : Char → Bool) :
    Tries cs (fun place rest => (place.step? test).bind rest) (OneChar cs test) where
  sound stands found := by
    obtain ⟨next, stepped, found⟩ := Option.bind_eq_some_iff.mp found
    obtain ⟨standing, moved⟩ := stands.step? stepped
    exact ⟨next, standing, ⟨moved, (stands.step?_eq_some_iff test).mp ⟨next, stepped⟩⟩, found⟩
  complete stands related accepts := by
    obtain ⟨rfl, known⟩ := related
    obtain ⟨next, stepped⟩ := (stands.step?_eq_some_iff test).mpr known
    obtain ⟨standing, moved⟩ := stands.step? stepped
    simpa [stepped] using accepts next standing moved

private theorem seq {first second : Place → Rest → Option Place}
    (one : Tries cs first related) (other : Tries cs second following) :
    Tries cs (fun place rest => first place fun next => second next rest)
      (fun start stop => ∃ next, related start next ∧ following next stop) where
  sound stands found := by
    obtain ⟨middle, standing, here, found⟩ := one.sound stands found
    obtain ⟨next, standing, there, found⟩ := other.sound standing found
    exact ⟨next, standing, ⟨middle.position, here, there⟩, found⟩
  complete stands related accepts := by
    obtain ⟨middle, here, there⟩ := related
    refine one.complete stands here fun next standing same => ?_
    exact other.complete standing (same ▸ there) accepts

private theorem alt {first second : Place → Rest → Option Place}
    (one : Tries cs first related) (other : Tries cs second following) :
    Tries cs (fun place rest => (first place rest).or (second place rest))
      (fun start stop => related start stop ∨ following start stop) where
  sound stands found := by
    obtain found | ⟨_, found⟩ := Option.or_eq_some_iff.mp found
    · obtain ⟨next, standing, here, found⟩ := one.sound stands found
      exact ⟨next, standing, .inl here, found⟩
    · obtain ⟨next, standing, there, found⟩ := other.sound stands found
      exact ⟨next, standing, .inr there, found⟩
  complete stands related accepts := by
    rw [Option.isSome_or, Bool.or_eq_true]
    exact related.imp (one.complete stands · accepts) (other.complete stands · accepts)

/-- Without a rest, a step succeeds exactly if the relation gives a position at all. -/
theorem isSome_iff {step : Place → Rest → Option Place} (tries : Tries cs step related)
    (stands : place.Stands cs) : (step place some).isSome ↔ ∃ stop, related place.position stop := by
  constructor
  · intro found
    obtain ⟨last, found⟩ := Option.isSome_iff_exists.mp found
    obtain ⟨next, _, here, _⟩ := tries.sound stands found
    exact ⟨next.position, here⟩
  · rintro ⟨stop, here⟩
    exact tries.complete stands here fun _ _ _ => rfl

/-! ### Rounds -/

section Greedy

variable {step : Place → Rest → Option Place} {related : Nat → Nat → Prop} (tries : Tries cs step related)

include tries

private theorem greedy_sound {rounds : Nat} (ordered : ∀ most, high = some most → low ≤ most) {last : Place}
    {rest : Rest} (stands : place.Stands cs) (found : greedyRounds step rounds low high place rest = some last) :
    ∃ next, next.Stands cs ∧ Times related low high place.position next.position ∧ rest next = some last := by
  induction rounds generalizing low high place with
  | zero =>
    simp only [greedyRounds] at found
    split at found
    next none =>
      exact ⟨place, stands, ⟨0, Nat.le_of_eq none, fun _ _ => Nat.zero_le _, rfl⟩, found⟩
    next => cases found
  | succ rounds ih =>
    have fewer : ∀ most, high.map (· - 1) = some most → low - 1 ≤ most := by
      intro most same
      obtain ⟨bound, known, rfl⟩ := Option.map_eq_some_iff.mp same
      have := ordered bound known
      omega
    simp only [greedyRounds] at found
    split at found
    next exhausted =>
      have none := ordered 0 exhausted
      exact ⟨place, stands, ⟨0, none, fun _ _ => Nat.zero_le _, rfl⟩, found⟩
    next bounded =>
      split at found
      next required =>
        obtain ⟨middle, standing, first, found⟩ := tries.sound stands found
        obtain ⟨next, standing, others, found⟩ := ih fewer standing found
        exact ⟨next, standing, others.more bounded first, found⟩
      next optional =>
        obtain rfl : low = 0 := by omega
        split at found
        next advanced =>
          cases found
          obtain ⟨middle, standing, first, found⟩ := tries.sound stands advanced
          split at found
          next => cases found
          next =>
            obtain ⟨next, standing, others, found⟩ := ih fewer standing found
            exact ⟨next, standing, others.more bounded first, found⟩
        next => exact ⟨place, stands, ⟨0, Nat.le_refl 0, fun _ _ => Nat.zero_le _, rfl⟩, found⟩

/-- The number of rounds is large enough: each one is required or consumes a character. -/
theorem greedy_complete (forward : ∀ i j, related i j → i ≤ j ∧ (i = j ∨ j ≤ cs.length)) {rounds : Nat}
    {rest : Rest} (stands : place.Stands cs) (enough : low + (cs.length - place.position) < rounds)
    (times : Times related low high place.position position)
    (accepts : ∀ next, next.Stands cs → next.position = position → (rest next).isSome) :
    (greedyRounds step rounds low high place rest).isSome := by
  induction rounds generalizing low high place with
  | zero => omega
  | succ rounds ih =>
    simp only [greedyRounds]
    split
    next exhausted =>
      rw [exhausted] at times
      exact accepts place stands times.eq_of_zero
    next =>
      split
      next required =>
        obtain ⟨middle, first, others⟩ := times.first required
        refine tries.complete stands first fun next standing same => ?_
        have := (forward _ _ first).1
        exact ih standing (by omega) (same ▸ others)
      next optional =>
        obtain rfl : low = 0 := by omega
        split
        next => rfl
        next failed =>
          obtain same | ⟨middle, moved, first, others⟩ := times.advance
          · exact accepts place stands same
          · -- A round that consumes something and can be followed by the others would have been found.
            have reached : (step place fun next => if next.position = place.position then none
                else greedyRounds step rounds 0 (high.map (· - 1)) next rest).isSome := by
              refine tries.complete stands first fun next standing same => ?_
              rw [if_neg (same ▸ moved)]
              obtain ⟨ahead, inside⟩ := forward _ _ first
              exact ih standing (by omega) (same ▸ others)
            rw [failed] at reached
            contradiction

private theorem greedy (forward : ∀ i j, related i j → i ≤ j ∧ (i = j ∨ j ≤ cs.length))
    (ordered : ∀ most, high = some most → low ≤ most) :
    Tries cs (fun place rest => greedyRounds step (low + place.after.length + 1) low high place rest)
      (Times related low high) where
  sound stands found := tries.greedy_sound ordered stands found
  complete stands times accepts := by
    refine tries.greedy_complete forward stands ?_ times accepts
    rw [stands.length_after]
    omega

end Greedy

end Tries

/-- A regular pattern tries exactly what it spans. -/
theorem tries_run (regular : pattern.isRegular) (cs : List Char) : Tries cs pattern.run (Spans cs pattern) := by
  induction pattern with
  | empty =>
    exact ⟨fun stands found => ⟨_, stands, rfl, found⟩, fun stands same accepts => accepts _ stands same⟩
  | char test =>
    have same : (char test).run = fun place rest => (place.step? test.holds).bind rest := by
      funext place rest
      rw [run]
      cases place.step? test.holds <;> rfl
    rw [same]
    exact Tries.one test.holds
  | any newlines =>
    have same : (any newlines).run = fun place rest => (place.step? fun c => newlines || c != '\n').bind rest := by
      funext place rest
      rw [run]
      cases place.step? fun c => newlines || c != '\n' <;> rfl
    rw [same]
    exact Tries.one _
  | anchor spot =>
    constructor
    · intro place rest last stands found
      rw [run] at found
      split at found
      next holds => exact ⟨place, stands, ⟨rfl, stands.holds_anchor spot ▸ holds⟩, found⟩
      next => cases found
    · intro place rest position stands spans accepts
      rw [run, if_pos (stands.holds_anchor spot ▸ spans.2)]
      exact accepts place stands spans.1
  | seq first second ihFirst ihSecond =>
    obtain ⟨one, other⟩ := Bool.and_eq_true_iff.mp regular
    exact (ihFirst one).seq (ihSecond other)
  | alt first second ihFirst ihSecond =>
    obtain ⟨one, other⟩ := Bool.and_eq_true_iff.mp regular
    have same : (alt first second).run = fun place rest => (first.run place rest).or (second.run place rest) := by
      funext place rest
      rw [run]
      cases first.run place rest <;> rfl
    rw [same]
    exact (ihFirst one).alt (ihSecond other)
  | rep body low high greed ih =>
    simp only [isRegular, Bool.and_eq_true, beq_iff_eq, Option.all_eq_true, decide_eq_true_eq] at regular
    obtain ⟨⟨rfl, ordered⟩, inner⟩ := regular
    refine (ih inner).greedy (fun i j spans => ⟨?_, spans.within⟩) ordered
    have := spans.le
    omega
  | group number body ih =>
    constructor
    · intro place rest last stands found
      obtain ⟨next, standing, spans, found⟩ := (ih regular).sound stands found
      exact ⟨_, standing.remembering ((number, lastChars next (next.position - place.position)) :: next.groups),
        spans,
        found⟩
    · intro place rest position stands spans accepts
      exact (ih regular).complete stands spans fun next standing same => accepts _ (standing.remembering _) same
  | ahead positive body ih =>
    constructor
    · intro place rest last stands found
      have looked := (ih regular).isSome_iff stands
      rw [run] at found
      cases outcome : body.run place some with
      | none =>
        rw [outcome] at found looked
        cases positive with
        | true => cases found
        | false => exact ⟨place, stands, ⟨rfl, looked⟩, found⟩
      | some next =>
        rw [outcome] at found looked
        cases positive with
        | true => exact ⟨_, stands.remembering next.groups, ⟨rfl, looked⟩, found⟩
        | false => cases found
    · intro place rest position stands spans accepts
      obtain ⟨here, looked⟩ := spans
      rw [← (ih regular).isSome_iff stands, Bool.coe_iff_coe] at looked
      rw [run, looked]
      cases body.run place some with
      | none => exact accepts place stands here
      | some next => exact accepts _ (stands.remembering _) here
  | _ => contradiction

/-! ## All matches in a text -/

/-- The match is the leftmost one from a position on. -/
structure Leftmost (cs : List Char) (pattern : Pattern) (start : Nat) (found : Found) : Prop where
  after : start ≤ found.start
  spans : Spans cs pattern found.start found.stop
  first : ∀ i j, start ≤ i → i < found.start → ¬ Spans cs pattern i j

/-- From a position on, the matches are the leftmost one, the leftmost one after its end, and so on to the last. -/
inductive Scanned (cs : List Char) (pattern : Pattern) : Nat → List Found → Prop
  | done {start : Nat} (none : ∀ i j, start ≤ i → ¬ Spans cs pattern i j) : Scanned cs pattern start []
  | next {start : Nat} {found : Found} {later : List Found} (first : Leftmost cs pattern start found)
      (others : Scanned cs pattern found.stop later) : Scanned cs pattern start (found :: later)

section Search

variable {cs : List Char} {pattern : Pattern} (regular : pattern.isRegular) {place last : Place} {advance : Bool}

include regular

/-- An end that is found is spanned. -/
theorem spans_of_endFrom? (stands : place.Stands cs) (found : pattern.endFrom? advance place = some last) :
    last.Stands cs ∧ Spans cs pattern place.position last.position := by
  obtain ⟨next, standing, spans, accepted⟩ := (tries_run regular cs).sound stands found
  split at accepted
  next => cases accepted
  next =>
    cases accepted
    exact ⟨standing, spans⟩

variable (solid : 0 < pattern.least)

include solid

/-- If no end is found, none is spanned. -/
theorem not_spans_of_endFrom? (stands : place.Stands cs) (missed : pattern.endFrom? advance place = none) (stop : Nat) :
    ¬ Spans cs pattern place.position stop := by
  intro spans
  have longer := spans.le
  have found : (pattern.endFrom? advance place).isSome := by
    refine (tries_run regular cs).complete stands spans fun next standing same => ?_
    rw [if_neg]
    · rfl
    · simp only [Bool.and_eq_true, beq_iff_eq, not_and]
      omega
  rw [missed] at found
  contradiction

omit solid in
private theorem leftmost_of_endFrom? (stands : place.Stands cs) (found : pattern.endFrom? advance place = some last) :
    Leftmost cs pattern place.position (.between place last) where
  after := Nat.le_refl _
  spans := (spans_of_endFrom? regular stands found).2
  first _ _ reached before := absurd before (Nat.not_lt.mpr reached)

private theorem leftmost_of_searchFrom? {found : Found} (stands : Place.Stands cs ⟨before, after, position, []⟩)
    (hit : pattern.searchFrom? advance before position after = some (found, last)) :
    Leftmost cs pattern position found ∧ last.Stands cs ∧ last.position = found.stop := by
  induction after generalizing before position advance with
  | nil =>
    obtain ⟨stop, ended, same⟩ := Option.map_eq_some_iff.mp hit
    cases same
    exact ⟨leftmost_of_endFrom? regular stands ended, (spans_of_endFrom? regular stands ended).1, rfl⟩
  | cons c rest ih =>
    simp only [searchFrom?] at hit
    split at hit
    next ended =>
      cases hit
      exact ⟨leftmost_of_endFrom? regular stands ended, (spans_of_endFrom? regular stands ended).1, rfl⟩
    next missed =>
      obtain ⟨leftmost, standing, same⟩ := ih (stands.forth) hit
      refine ⟨⟨Nat.le_of_succ_le leftmost.after, leftmost.spans, fun i j reached before => ?_⟩, standing, same⟩
      obtain rfl | later := Nat.eq_or_lt_of_le reached
      · exact not_spans_of_endFrom? regular solid stands missed j
      · exact leftmost.first i j later before

private theorem not_spans_of_searchFrom? (stands : Place.Stands cs ⟨before, after, position, []⟩)
    (missed : pattern.searchFrom? advance before position after = none) (i j : Nat) (reached : position ≤ i) :
    ¬ Spans cs pattern i j := by
  induction after generalizing before position advance with
  | nil =>
    intro spans
    have longer := spans.le
    have last := stands.length_after
    obtain rfl | later := Nat.eq_or_lt_of_le reached
    · exact not_spans_of_endFrom? regular solid stands (Option.map_eq_none_iff.mp missed) j spans
    · obtain same | inside := spans.within
      · omega
      · simp only [List.length_nil] at last
        omega
  | cons c rest ih =>
    simp only [searchFrom?] at missed
    split at missed
    next => cases missed
    next here =>
      obtain rfl | later := Nat.eq_or_lt_of_le reached
      · exact not_spans_of_endFrom? regular solid stands here j
      · exact ih stands.forth missed later

private theorem scanned_findFrom {limit : Nat} (enough : cs.length - place.position < limit)
    (stands : place.Stands cs) : Scanned cs pattern place.position (pattern.findFrom limit advance place) := by
  induction limit generalizing place advance with
  | zero => omega
  | succ limit ih =>
    simp only [findFrom]
    split
    next found last hit =>
      obtain ⟨leftmost, standing, same⟩ := leftmost_of_searchFrom? regular solid (stands.remembering []) hit
      have longer := leftmost.spans.le
      have after := leftmost.after
      have inside := standing.position_le
      refine .next leftmost (same ▸ ih ?_ standing)
      omega
    next missed => exact .done (not_spans_of_searchFrom? regular solid (stands.remembering []) missed)

/-- If no match of a regular pattern is empty, all matches in a text are the leftmost one, the leftmost one after its
end, and so on. -/
theorem scanned_findAll (s : String) : Scanned s.toList pattern 0 (pattern.findAll s) :=
  scanned_findFrom regular solid (by simp only [Place.start]; omega) (.start s.toList)

end Search

namespace Scanned

variable {cs : List Char} {pattern : Pattern} {start : Nat} {list : List Found}

/-- All matches of a scan are spanned. -/
theorem spans (scanned : Scanned cs pattern start list) :
    ∀ found ∈ list, start ≤ found.start ∧ Spans cs pattern found.start found.stop := by
  induction scanned with
  | done => simp
  | @next start found later first others ih =>
    intro other member
    obtain rfl | member := List.mem_cons.mp member
    · exact ⟨first.after, first.spans⟩
    · obtain ⟨after, spans⟩ := ih other member
      have := first.after
      have := first.spans.le
      exact ⟨by omega, spans⟩

/-- The matches of a scan do not overlap. -/
theorem apart (scanned : Scanned cs pattern start list) :
    list.Pairwise fun earlier later => earlier.stop ≤ later.start := by
  induction scanned with
  | done => exact .nil
  | next first others ih => exact .cons (fun other member => (others.spans other member).1) ih

/-- No match is passed over: each begins in one that is listed. -/
theorem covers (scanned : Scanned cs pattern start list) {i j : Nat} (reached : start ≤ i)
    (spans : Spans cs pattern i j) : ∃ found ∈ list, found.start ≤ i ∧ i < found.stop := by
  induction scanned with
  | done none => exact absurd spans (none i j reached)
  | @next start found later first others ih =>
    by_cases before : i < found.start
    · exact absurd spans (first.first i j reached before)
    · by_cases inside : i < found.stop
      · exact ⟨found, List.mem_cons_self, by omega, inside⟩
      · obtain ⟨other, member, covered⟩ := ih (by omega)
        exact ⟨other, List.mem_cons_of_mem _ member, covered⟩

end Scanned

end ContractLint.Pattern
