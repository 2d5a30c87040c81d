import ContractLint.Text.Case
import Mathlib.Data.List.TakeWhile

/-! # Letters in small form

Two characters depend on their neighbours or become several when a text is lowered. A text without them is lowered
character by character, and blanks are left as they are.
-/

namespace ContractLint.Text

open List

variable {cs : List Char} {c : Char}

/-- The small form of a character is one character, whatever stands around it. -/
def LowersAlone (c : Char) : Prop := c.toNat ≠ 0x3a3 ∧ c.toNat ≠ 0x130

private theorem lowerBetween_eq (alone : LowersAlone c) (before after : List Char) :
    lowerBetween before c after = [lowerChar c] := by
  rw [lowerBetween, if_neg alone.1, if_neg alone.2]

/-- Characters that are lowered alone are lowered one by one. -/
theorem lowerAfter_eq_map (alone : ∀ c ∈ cs, LowersAlone c) (before : List Char) :
    lowerAfter before cs = cs.map lowerChar := by
  induction cs generalizing before with
  | nil => rfl
  | cons c rest ih =>
    obtain ⟨here, later⟩ := forall_mem_cons.mp alone
    rw [lowerAfter, lowerBetween_eq here, ih later, singleton_append, map_cons]

/-! ## Plain texts -/

private theorem exists_lowerBetween (member : c ∈ cs) (before : List Char) :
    ∃ front back, lowerBetween front c back ⊆ lowerAfter before cs := by
  induction cs generalizing before with
  | nil => cases member
  | cons first rest ih =>
    rw [lowerAfter]
    obtain rfl | later := mem_cons.mp member
    · exact ⟨before, rest, subset_append_left _ _⟩
    · obtain ⟨front, back, inside⟩ := ih later (first :: before)
      exact ⟨front, back, List.Subset.trans inside (subset_append_right _ _)⟩

/-- The characters of a text whose small form is plain are lowered one by one. -/
theorem lowersAlone_of_plain {before : List Char} (plain : ∀ c ∈ lowerAfter before cs, c.toNat < 128) :
    ∀ c ∈ cs, LowersAlone c := by
  intro c member
  obtain ⟨front, back, inside⟩ := exists_lowerBetween member before
  refine ⟨fun sigma => ?_, fun dotted => ?_⟩
  · rw [lowerBetween, if_pos sigma] at inside
    have small := plain _ (inside mem_cons_self)
    split at small
    · exact absurd small (by decide)
    · exact absurd small (by decide)
  · rw [lowerBetween, if_neg (by omega), if_pos dotted] at inside
    have small := plain _ (inside (mem_cons_of_mem _ mem_cons_self))
    exact absurd small (by decide)

theorem map_lowerChar_of_lower {s small : String} (same : lower s = small)
    (plain : small.toList.all fun c => c.toNat < 128) :
    (∀ c ∈ s.toList, LowersAlone c) ∧ s.toList.map lowerChar = small.toList := by
  have lowered : lowerAfter [] s.toList = small.toList := by
    simpa [lower, lowerList] using congrArg String.toList same
  have codes : ∀ c ∈ lowerAfter [] s.toList, c.toNat < 128 := by
    intro c member
    rw [lowered] at member
    exact of_decide_eq_true (all_eq_true.mp plain c member)
  have alone := lowersAlone_of_plain codes
  exact ⟨alone, (lowerAfter_eq_map alone []).symm.trans lowered⟩

/-! ## Blanks -/

private theorem exists_range_of_inRanges {code : Nat} {ranges : List (Nat × Nat)} (inside : inRanges code ranges) :
    ∃ range ∈ ranges, code ∈ List.range' range.1 (range.2 + 1 - range.1) := by
  induction ranges with
  | nil => contradiction
  | cons range rest ih =>
    rw [inRanges] at inside
    split at inside
    next below =>
      have above := of_decide_eq_true inside
      exact ⟨range, mem_cons_self, mem_range'_1.mpr (by omega)⟩
    next =>
      obtain ⟨other, member, within⟩ := ih inside
      exact ⟨other, mem_cons_of_mem range member, within⟩

private theorem lowerChar_of_isBlank (blank : isBlank c) : LowersAlone c ∧ lowerChar c = c := by
  have each : ∀ range ∈ blankRanges, ∀ code ∈ List.range' range.1 (range.2 + 1 - range.1),
      (code ≠ 0x3a3 ∧ code ≠ 0x130) ∧ lowerChar (Char.ofNat code) = Char.ofNat code := by decide +kernel
  obtain ⟨range, member, within⟩ := exists_range_of_inRanges blank
  obtain ⟨alone, same⟩ := each range member c.toNat within
  rw [Char.ofNat_toNat] at same
  exact ⟨alone, same⟩

private theorem lowerList_of_blank (blank : ∀ c ∈ cs, isBlank c) : lowerList cs = cs := by
  rw [lowerList, lowerAfter_eq_map fun c member => (lowerChar_of_isBlank (blank c member)).1]
  exact map_congr_left (fun c member => (lowerChar_of_isBlank (blank c member)).2) |>.trans (map_id cs)

private theorem stripList_eq_nil_iff : stripList cs = [] ↔ ∀ c ∈ cs, isBlank c := by
  have front (cs : List Char) : stripFront cs = [] ↔ ∀ c ∈ cs, isBlank c := dropWhile_eq_nil_iff
  rw [stripList, reverse_eq_nil_iff, front, ← front cs]
  constructor
  · intro blank
    cases rest : stripFront cs with
    | nil => rfl
    | cons c others =>
      -- What is left in front is no blank.
      have first := head?_dropWhile_not isBlank cs
      rw [show cs.dropWhile isBlank = c :: others from rest] at first
      have last := blank c (by simp [rest])
      simp [last] at first
  · intro none
    simp [none]

/-- A text of blanks stays one. -/
theorem strip_lower_of_strip {s : String} (blank : strip s = "") : strip (lower s) = "" := by
  have none : stripList s.toList = [] := by simpa [strip] using congrArg String.toList blank
  rw [strip, lower, String.toList_ofList, lowerList_of_blank (stripList_eq_nil_iff.mp none), none]

end ContractLint.Text
