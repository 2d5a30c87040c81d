import ContractLint.Analysis.Engine
import ContractLint.Proofs.Entries
import Mathlib.Data.String.Basic

/-! # Merging findings

Findings with the same identifier give way to one of them. What decides is the name of the severity and
not the severity: `CRITICAL` comes before `HIGH`, and both come before all other names. So the finding
that is kept is the first whose name comes last in the alphabet, and it is one of the gravest exactly if
all have the same severity or none is critical or high (`merged_keeps_last_name`).

What is kept is put in order: the gravest first, then by headline, and findings that are equal in both in
the order in which their identifiers first appear. Merging such a list again changes nothing
(`merged_is_ranking`).
-/

namespace ContractLint.Analysis

open List

variable {findings : List Finding} {f kept : Finding} {a b : Severity}

/-- The findings with an identifier, in their order. -/
def withId (id : String) (findings : List Finding) : List Finding :=
  findings.filter fun f => f.id = id

@[simp] theorem mem_withId {id : String} : f ∈ withId id findings ↔ f ∈ findings ∧ f.id = id := by
  simp [withId]

theorem withId_append_singleton (id : String) (findings : List Finding) (f : Finding) :
    withId id (findings ++ [f]) = withId id findings ++ if f.id = id then [f] else [] := by
  simp [withId, filter_append, filter_cons]

/-- The one of two findings whose severity has the later name, the first if the names are the same. -/
def laterNamed (kept f : Finding) : Finding :=
  if kept.severity.name < f.severity.name then f else kept

/-- The survivor of findings that come one after the other. -/
def survivor? : List Finding → Option Finding
  | [] => none
  | first :: rest => some (rest.foldl laterNamed first)

theorem survivor?_append_singleton (findings : List Finding) (f : Finding) :
    survivor? (findings ++ [f]) = some (((survivor? findings).map (laterNamed · f)).getD f) := by
  cases findings with
  | nil => rfl
  | cons first rest => simp [survivor?, foldl_append]

/-- Of some findings one survives. -/
theorem survivor?_eq_none : survivor? findings = none ↔ findings = [] := by
  cases findings <;> simp [survivor?]

/-! ## One finding more -/

/-- What stands in the place of a kept finding when another one comes. -/
def yielding (f kept : Finding) : Finding :=
  if kept.id = f.id ∧ kept.severity.name < f.severity.name then f else kept

theorem yielding_id (f kept : Finding) : (yielding f kept).id = kept.id := by
  rw [yielding]
  split
  next same => exact same.1.symm
  next => rfl

private theorem yielding_of_ne (other : kept.id ≠ f.id) : yielding f kept = kept :=
  if_neg fun both => other both.1

private theorem yielding_of_eq (same : kept.id = f.id) : yielding f kept = laterNamed kept f := by
  simp only [yielding, laterNamed, same, true_and]

theorem withId_map_yielding (id : String) (f : Finding) (kept : List Finding) :
    withId id (kept.map (yielding f)) = (withId id kept).map (yielding f) := by
  simp only [withId, filter_map, Function.comp_def, yielding_id]

/-- A finding with another identifier leaves a group as it is. -/
theorem withId_addDistinct_of_ne {id : String} (other : f.id ≠ id) (kept : List Finding) :
    withId id (addDistinct kept f) = withId id kept := by
  rw [addDistinct]
  split
  next =>
    change withId id (kept.map (yielding f)) = withId id kept
    rw [withId_map_yielding]
    apply (map_congr_left fun k member => ?_).trans (map_id _)
    exact yielding_of_ne fun same => other (same.symm.trans (mem_withId.mp member).2)
  next => rw [withId_append_singleton, if_neg other, append_nil]

/-- A finding joins an empty group, and every member of another one either stays or yields to it. -/
theorem withId_addDistinct_self (f : Finding) (kept : List Finding) :
    withId f.id (addDistinct kept f) =
      if withId f.id kept = [] then [f] else (withId f.id kept).map (laterNamed · f) := by
  have known : (kept.any fun k => k.id = f.id) = true ↔ withId f.id kept ≠ [] := by
    simp [withId, filter_eq_nil_iff]
  rw [addDistinct]
  split
  next found =>
    change withId f.id (kept.map (yielding f)) = _
    rw [if_neg (known.mp found), withId_map_yielding]
    apply map_congr_left
    intro k member
    exact yielding_of_eq (mem_withId.mp member).2
  next absent =>
    have empty : withId f.id kept = [] := not_not.mp (mt known.mpr absent)
    rw [if_pos empty, withId_append_singleton, empty, if_pos rfl, nil_append]

/-! ## All findings -/

/-- After any number of findings a group has its survivor as the only member. -/
theorem withId_foldl_addDistinct (id : String) (findings : List Finding) :
    withId id (findings.foldl addDistinct []) = (survivor? (withId id findings)).toList := by
  induction findings using List.reverseRecOn with
  | nil => rfl
  | append_singleton findings f ih =>
    rw [foldl_append, foldl_cons, foldl_nil, withId_append_singleton]
    by_cases same : f.id = id
    · subst same
      rw [withId_addDistinct_self, ih, if_pos rfl, survivor?_append_singleton]
      cases survivor? (withId f.id findings) with
      | none => rfl
      | some kept => rfl
    · rw [withId_addDistinct_of_ne same, ih, if_neg same, append_nil]

/-- Sorting moves no finding to another group. -/
theorem withId_merged (id : String) (findings : List Finding) :
    withId id (merged findings) = (survivor? (withId id findings)).toList := by
  have sorted : (withId id (merged findings)).Perm (withId id (findings.foldl addDistinct [])) :=
    (mergeSort_perm _ _).filter _
  rw [withId_foldl_addDistinct] at sorted
  cases group : survivor? (withId id findings) with
  | none =>
    rw [group] at sorted
    exact perm_nil.mp sorted
  | some kept =>
    rw [group] at sorted
    exact perm_singleton.mp sorted

/-! ## The survivor -/

/-- The finding comes first among those of a list whose severity has the greatest name. -/
def IsFirstOfLastName (findings : List Finding) (kept : Finding) : Prop :=
  ∃ before after, findings = before ++ kept :: after ∧
    (∀ f ∈ before, f.severity.name < kept.severity.name) ∧
    ∀ f ∈ after, f.severity.name ≤ kept.severity.name

/-- No severity among the findings has a greater name. -/
theorem IsFirstOfLastName.le (first : IsFirstOfLastName findings kept) (member : f ∈ findings) :
    f.severity.name ≤ kept.severity.name := by
  obtain ⟨before, after, rfl, less, least⟩ := first
  obtain earlier | rfl | later := (mem_append.trans (or_congr_right mem_cons)).mp member
  · exact (less f earlier).le
  · exact le_rfl
  · exact least f later

/-- A finding that comes after all others takes the place of the first if its name is greater. -/
theorem IsFirstOfLastName.laterNamed (first : IsFirstOfLastName findings kept) (f : Finding) :
    IsFirstOfLastName (findings ++ [f]) (laterNamed kept f) := by
  rw [Analysis.laterNamed]
  split
  next greater =>
    refine ⟨findings, [], rfl, fun g member => (first.le member).trans_lt greater, ?_⟩
    simp
  next notGreater =>
    obtain ⟨before, after, rfl, less, least⟩ := first
    refine ⟨before, after ++ [f], by simp, less, fun g member => ?_⟩
    obtain later | last := mem_append.mp member
    · exact least g later
    · obtain rfl := mem_singleton.mp last
      exact not_lt.mp notGreater

/-- What survives comes first among the findings whose severity has the greatest name. -/
theorem isFirstOfLastName_of_survivor?
    (survives : survivor? findings = some kept) : IsFirstOfLastName findings kept := by
  induction findings using List.reverseRecOn generalizing kept with
  | nil => contradiction
  | append_singleton findings f ih =>
    rw [survivor?_append_singleton] at survives
    cases earlier : survivor? findings with
    | none =>
      have empty : findings = [] := survivor?_eq_none.mp earlier
      rw [earlier] at survives
      obtain rfl := Option.some.inj survives
      exact ⟨[], [], by simp [empty], by simp, by simp⟩
    | some first =>
      rw [earlier] at survives
      obtain rfl := Option.some.inj survives
      exact (ih earlier).laterNamed f

/-! ## Names and severities -/

/-- Critical and high are the severities whose names come first. -/
theorem grave_of_name_le (names : a.name ≤ b.name)
    (grave : b = .critical ∨ b = .high) : a = .critical ∨ a = .high := by
  revert names grave
  cases a <;> cases b <;> decide

/-- Among the other severities the later name is the graver one. -/
theorem rank_le_of_name_le (names : a.name ≤ b.name)
    (mild : ¬(a = .critical ∨ a = .high)) : b.rank ≤ a.rank := by
  revert names mild
  cases a <;> cases b <;> decide

/-- Nothing with a later name is as grave as a critical or high severity. -/
theorem eq_of_name_le_of_rank_le (names : a.name ≤ b.name) (ranks : b.rank ≤ a.rank)
    (grave : a = .critical ∨ a = .high) : a = b := by
  revert names ranks grave
  cases a <;> cases b <;> decide

/-- The first finding with the greatest name is one of the gravest exactly if all severities are the
same or none is critical or high. -/
theorem IsFirstOfLastName.gravest_iff (first : IsFirstOfLastName findings kept) :
    (∀ f ∈ findings, kept.severity.rank ≤ f.severity.rank) ↔
      (∀ f ∈ findings, f.severity = kept.severity) ∨
        ∀ f ∈ findings, f.severity ≠ .critical ∧ f.severity ≠ .high := by
  constructor
  · intro gravest
    rw [or_iff_not_imp_right]
    intro some
    obtain ⟨g, member, grave⟩ : ∃ g ∈ findings, g.severity = .critical ∨ g.severity = .high := by
      by_contra none
      exact some fun f member => not_or.mp fun grave => none ⟨f, member, grave⟩
    -- A grave finding pulls the kept one up to its severity, and that leaves no room for a later name.
    have same := eq_of_name_le_of_rank_le (first.le member) (gravest g member) grave
    rw [same] at grave
    intro f other
    exact eq_of_name_le_of_rank_le (first.le other) (gravest f other) (grave_of_name_le (first.le other) grave)
  · rintro (same | mild) f member
    · rw [same f member]
    · exact rank_le_of_name_le (first.le member) (not_or.mpr (mild f member))

/-- Of the findings with one identifier exactly one is kept, the first whose severity has the name that
comes last in the alphabet. It is one of the gravest exactly if all of them have the same severity or
none is critical or high. -/
theorem merged_keeps_last_name (findings : List Finding) (f : Finding) (member : f ∈ findings) :
    ∃ kept, withId f.id (merged findings) = [kept] ∧
      IsFirstOfLastName (withId f.id findings) kept ∧
      ((∀ g ∈ findings, g.id = f.id → kept.severity.rank ≤ g.severity.rank) ↔
        (∀ g ∈ findings, g.id = f.id → g.severity = kept.severity) ∨
          ∀ g ∈ findings, g.id = f.id → g.severity ≠ .critical ∧ g.severity ≠ .high) := by
  cases survives : survivor? (withId f.id findings) with
  | none =>
    have empty : withId f.id findings = [] := survivor?_eq_none.mp survives
    have present : f ∈ withId f.id findings := mem_withId.mpr ⟨member, rfl⟩
    rw [empty] at present
    contradiction
  | some kept =>
    have first := isFirstOfLastName_of_survivor? survives
    refine ⟨kept, by rw [withId_merged, survives]; rfl, first, ?_⟩
    simpa only [mem_withId, and_imp] using first.gravest_iff

def graded (id : String) (severity : Severity) : Finding :=
  { (default : Finding) with id, severity }

/-- Of a low, a medium and an info finding the medium one is kept, which is the gravest. -/
theorem merged_keeps_last_name_sample :
    let findings := [graded "a" .low, graded "b" .high, graded "a" .medium, graded "a" .info]
    ∃ kept, withId "a" (merged findings) = [kept] ∧
      ∀ g ∈ findings, g.id = "a" → kept.severity.rank ≤ g.severity.rank := by
  intro findings
  obtain ⟨kept, only, -, gravest⟩ :=
    merged_keeps_last_name findings (graded "a" .low) mem_cons_self
  refine ⟨kept, only, gravest.mpr (.inr ?_)⟩
  simp [findings, graded]

/-- A critical finding gives way to a low one with the same identifier. -/
theorem merged_drops_critical :
    merged [graded "a" .critical, graded "a" .low] = [graded "a" .low] ∧
      (graded "a" .critical).severity.rank < (graded "a" .low).severity.rank := by
  have kept : [graded "a" .critical, graded "a" .low].foldl addDistinct [] = [graded "a" .low] := by
    rfl
  rw [merged, kept]
  exact ⟨mergeSort_singleton _, by decide⟩

/-! ## Identifiers in the order of their first appearance -/

private theorem map_id_addDistinct (kept : List Finding) (f : Finding) :
    (addDistinct kept f).map Finding.id =
      if f.id ∈ kept.map Finding.id then kept.map Finding.id else kept.map Finding.id ++ [f.id] := by
  have known : (kept.any fun k => k.id = f.id) = true ↔ f.id ∈ kept.map Finding.id := by simp
  rw [addDistinct]
  split
  next found =>
    change (kept.map (yielding f)).map Finding.id = _
    rw [if_pos (known.mp found), map_map]
    exact map_congr_left fun k _ => yielding_id f k
  next absent =>
    rw [if_neg (mt known.mpr absent), map_append]
    rfl

/-- Identifiers are kept once, in the order in which they first occur. -/
theorem map_id_foldl_addDistinct (findings : List Finding) :
    (findings.foldl addDistinct []).map Finding.id = (findings.map Finding.id).eraseDups := by
  induction findings using List.reverseRecOn with
  | nil => rfl
  | append_singleton findings f ih =>
    rw [foldl_append, foldl_cons, foldl_nil, map_id_addDistinct, ih, map_append,
      map_singleton, eraseDups_append_singleton]
    simp only [mem_eraseDups]

/-- Findings with distinct identifiers are all kept as they are. -/
theorem foldl_addDistinct_of_distinct (distinct : (findings.map Finding.id).Nodup) :
    findings.foldl addDistinct [] = findings := by
  induction findings using List.reverseRecOn with
  | nil => rfl
  | append_singleton findings f ih =>
    rw [map_append, map_singleton, nodup_append] at distinct
    have new : ¬(findings.any fun k => k.id = f.id) = true := by
      simp only [any_eq_true, decide_eq_true_eq, not_exists, not_and]
      intro k member
      exact distinct.2.2 _ (mem_map_of_mem member) _ (mem_singleton_self _)
    rw [foldl_append, ih distinct.1, foldl_cons, foldl_nil, addDistinct, if_neg new]

/-- The number of findings before the first with the same identifier. -/
def firstPlace (findings : List Finding) (f : Finding) : Nat := (findings.map Finding.id).idxOf f.id

private theorem foldl_addDistinct_by_firstPlace (findings : List Finding) :
    (findings.foldl addDistinct []).Pairwise fun f g => firstPlace findings f < firstPlace findings g := by
  have ordered := eraseDups_pairwise_idxOf (findings.map Finding.id)
  rw [← map_id_foldl_addDistinct, pairwise_map] at ordered
  exact ordered

/-! ## Findings in order -/

/-- Findings are ordered by rank, then by title. -/
theorem inOrder_iff {g : Finding} : inOrder f g ↔
    f.severity.rank < g.severity.rank ∨ f.severity.rank = g.severity.rank ∧ f.title ≤ g.title := by
  simp [inOrder]

private theorem inOrder_trans (f g h : Finding) (one : inOrder f g) (two : inOrder g h) : inOrder f h := by
  rw [inOrder_iff] at one two ⊢
  obtain less | ⟨same, before⟩ := one
  · obtain more | ⟨equal, -⟩ := two
    · exact .inl (less.trans more)
    · exact .inl (equal ▸ less)
  · obtain more | ⟨equal, after⟩ := two
    · exact .inl (same ▸ more)
    · exact .inr ⟨same.trans equal, before.trans after⟩

private theorem inOrder_total (f g : Finding) : inOrder f g || inOrder g f := by
  rw [Bool.or_eq_true, inOrder_iff, inOrder_iff]
  obtain less | same | more := lt_trichotomy f.severity.rank g.severity.rank
  · exact .inl (.inl less)
  · obtain before | after := le_total f.title g.title
    · exact .inl (.inr ⟨same, before⟩)
    · exact .inr (.inr ⟨same.symm, after⟩)
  · exact .inr (.inl more)

/-- Sorting puts members in order, and keeps the order that they had where it does not matter. -/
theorem mergeSort_stable {α : Type} {le : α → α → Bool} {before : α → α → Prop}
    (trans : ∀ a b c, le a b → le b c → le a c) (total : ∀ a b, le a b || le b a)
    {list : List α} (ordered : list.Pairwise before) :
    (list.mergeSort le).Pairwise fun a b => le a b ∧ (le b a → before a b) := by
  induction list with
  | nil => simp
  | cons first rest ih =>
    obtain ⟨ahead, ordered⟩ := pairwise_cons.mp ordered
    -- The first member goes behind those that must stand before it and before all others.
    obtain ⟨less, more, whole, parts, strict⟩ := mergeSort_cons trans total first rest
    have sorted := pairwise_mergeSort trans total (first :: rest)
    have others := ih ordered
    rw [whole, pairwise_append, pairwise_cons] at sorted
    rw [parts, pairwise_append] at others
    rw [whole, pairwise_append, pairwise_cons]
    refine ⟨others.1, ⟨fun b after => ⟨sorted.2.1.1 b after, fun _ => ahead b ?_⟩, others.2.1⟩, ?_⟩
    · exact mem_mergeSort.mp (parts ▸ mem_append_right less after)
    · intro a earlier b later
      obtain rfl | after := mem_cons.mp later
      · refine ⟨sorted.2.2 a earlier b later, fun back => ?_⟩
        have apart := strict a earlier
        rw [back] at apart
        contradiction
      · exact others.2.2 a earlier b after

/-- A finding comes before another: it is graver, or as grave with a headline that comes first, or equal in both
and its identifier appears first. -/
def Precedes (findings : List Finding) (f g : Finding) : Prop :=
  f.severity.rank < g.severity.rank ∨ f.severity.rank = g.severity.rank ∧
    (f.title < g.title ∨ f.title = g.title ∧ firstPlace findings f < firstPlace findings g)

/-- Findings that tie in the order stand as they were found. -/
theorem precedes_iff {g : Finding} :
    Precedes findings f g ↔
      inOrder f g ∧ (inOrder g f → firstPlace findings f < firstPlace findings g) := by
  simp only [inOrder_iff, Precedes]
  rcases lt_trichotomy f.severity.rank g.severity.rank with less | same | more
  · simp [less, less.ne, less.ne', less.not_gt]
  · rcases lt_trichotomy f.title g.title with before | equal | after
    · simp [same, before, before.le, before.not_ge]
    · simp [same, equal]
    · simp [same, after.not_ge, after.ne', after.not_gt]
  · simp [more.not_gt, more.ne']

private theorem mem_of_mem_merged (member : f ∈ merged findings) : f ∈ findings := by
  have kept : f ∈ withId f.id (merged findings) := mem_withId.mpr ⟨member, rfl⟩
  rw [withId_merged, Option.mem_toList] at kept
  obtain ⟨before, after, group, -⟩ := isFirstOfLastName_of_survivor? kept
  have inGroup : f ∈ withId f.id findings := by simp [group]
  exact (mem_withId.mp inGroup).1

/-- Merging keeps each identifier once. -/
theorem map_id_merged_perm (findings : List Finding) :
    ((merged findings).map Finding.id).Perm (findings.map Finding.id).eraseDups := by
  rw [← map_id_foldl_addDistinct]
  exact (mergeSort_perm _ _).map _

/-- No identifier is left twice. -/
theorem merged_distinct (findings : List Finding) : ((merged findings).map Finding.id).Nodup :=
  (map_id_merged_perm findings).nodup_iff.mpr (nodup_eraseDups _)

/-- Merged findings are in order. -/
theorem merged_in_order (findings : List Finding) : (merged findings).Pairwise (Precedes findings) :=
  (mergeSort_stable inOrder_trans inOrder_total (foldl_addDistinct_by_firstPlace findings)).imp precedes_iff.mpr

/-- Findings that are in order already stay as they are. -/
theorem merged_eq_self (distinct : (findings.map Finding.id).Nodup)
    (ordered : findings.Pairwise fun f g => inOrder f g) : merged findings = findings := by
  rw [merged, foldl_addDistinct_of_distinct distinct, mergeSort_of_pairwise ordered]

/-- A list ranks findings: it has one of them for each identifier, and they stand in order. -/
structure IsRanking (findings ranking : List Finding) : Prop where
  /-- Nothing is made up. -/
  selected : ∀ f ∈ ranking, f ∈ findings
  /-- No identifier has two findings. -/
  distinct : (ranking.map Finding.id).Nodup
  /-- No identifier is lost. -/
  complete : ∀ f ∈ findings, ∃ kept ∈ ranking, kept.id = f.id
  /-- Graver findings come first, then those whose headline does, then those whose identifier appears first. -/
  ordered : ranking.Pairwise (Precedes findings)

/-- Merging ranks findings, and merging the ranking again gives the same list. -/
theorem merged_is_ranking (findings : List Finding) :
    IsRanking findings (merged findings) ∧ merged (merged findings) = merged findings := by
  have ordered := merged_in_order findings
  refine ⟨⟨fun f => mem_of_mem_merged, merged_distinct findings, fun f member => ?_, ordered⟩, ?_⟩
  · have known := (map_id_merged_perm findings).mem_iff.mpr (mem_eraseDups.mpr (mem_map_of_mem member))
    exact mem_map.mp known
  · exact merged_eq_self (merged_distinct findings) (ordered.imp fun before => (precedes_iff.mp before).1)

end ContractLint.Analysis
