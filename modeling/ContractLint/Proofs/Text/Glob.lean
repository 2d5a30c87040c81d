import ContractLint.Text.Glob
import ContractLint.Text.Search

/-! # What wildcard patterns accept

A pattern accepts a text if the text can be divided into what its parts stand for (`acceptsList_iff`). A word between
two stars accepts exactly the texts in which the word occurs (`accepts_starred`).
-/

namespace ContractLint.Text

variable {cs : List Char}

private theorem hasInfix_iff {needle hay : List Char} : hasInfix needle hay ↔ needle <:+: hay := by
  induction hay with
  | nil => rw [hasInfix, List.isEmpty_iff, List.infix_nil]
  | cons c rest ih => rw [hasInfix, Bool.or_eq_true, ih, List.isPrefixOf_iff_prefix, List.infix_cons_iff]

theorem contains_iff {hay needle : String} : contains hay needle ↔ needle.toList <:+: hay.toList := hasInfix_iff

namespace Glob

/-- The parts stand for the characters, one after the other. -/
inductive StandsFor : List Part → List Char → Prop
  /-- No part stands for no characters. -/
  | nil : StandsFor [] []
  /-- A star stands for any characters. -/
  | star (skipped : List Char) {parts : List Part} {cs : List Char} :
    StandsFor parts cs → StandsFor (.star :: parts) (skipped ++ cs)
  /-- Any other part stands for one character that it accepts. -/
  | one {part : Part} {parts : List Part} {c : Char} {cs : List Char} :
    part.accepts c → StandsFor parts cs → StandsFor (part :: parts) (c :: cs)

private theorem anyTail_iff {condition : List Char → Bool} :
    anyTail condition cs ↔ ∃ skipped rest, cs = skipped ++ rest ∧ condition rest := by
  induction cs with
  | nil =>
    constructor
    · intro holds
      exact ⟨[], [], rfl, holds⟩
    · rintro ⟨skipped, rest, same, holds⟩
      obtain ⟨rfl, rfl⟩ := List.append_eq_nil_iff.mp same.symm
      exact holds
  | cons c cs ih =>
    rw [anyTail, Bool.or_eq_true, ih]
    constructor
    · rintro (holds | ⟨skipped, rest, rfl, holds⟩)
      · exact ⟨[], c :: cs, rfl, holds⟩
      · exact ⟨c :: skipped, rest, rfl, holds⟩
    · rintro ⟨_ | ⟨first, skipped⟩, rest, same, holds⟩
      · obtain rfl : c :: cs = rest := same
        exact .inl holds
      · obtain ⟨rfl, rfl⟩ := List.cons.inj same
        exact .inr ⟨skipped, rest, rfl, holds⟩

/-- A star stands for any characters. -/
theorem standsFor_star {parts : List Part} :
    StandsFor (.star :: parts) cs ↔ ∃ skipped rest, cs = skipped ++ rest ∧ StandsFor parts rest := by
  constructor
  · intro stands
    generalize starting : Part.star :: parts = all at stands
    cases stands with
    | nil => contradiction
    | star skipped rest =>
      cases starting
      exact ⟨skipped, _, rfl, rest⟩
    | one first others =>
      cases starting
      contradiction
  · rintro ⟨skipped, rest, rfl, stands⟩
    exact .star skipped stands

/-- Parts accept exactly the characters that they stand for. -/
theorem acceptsList_iff {parts : List Part} : acceptsList parts cs ↔ StandsFor parts cs := by
  induction parts generalizing cs with
  | nil =>
    rw [acceptsList, List.isEmpty_iff]
    constructor
    · rintro rfl
      exact .nil
    · rintro ⟨⟩
      rfl
  | cons part parts ih =>
    cases part with
    | star =>
      rw [standsFor_star]
      refine anyTail_iff.trans ?_
      simp only [ih]
    | any | char | set =>
      cases cs with
      | nil =>
        constructor
        · intro accepted
          contradiction
        · rintro ⟨⟩
      | cons c cs =>
        refine Bool.and_eq_true_iff.trans ⟨fun accepted => .one accepted.1 (ih.mp accepted.2), ?_⟩
        rintro (_ | _ | ⟨first, others⟩)
        exact ⟨first, ih.mpr others⟩

/-! ## Words between stars -/

/-- The character stands for itself in every pattern. -/
def isPlain (c : Char) : Bool := c != '*' && c != '?' && c != '['

/-- A word between two stars. -/
def starred (word : String) : String := "*" ++ word ++ "*"

private theorem partsFrom_plain {word : List Char} (plain : word.all isPlain) (rest : List Char) :
    partsFrom 0 (word ++ rest) = word.map Part.char ++ partsFrom 0 rest := by
  induction word with
  | nil => rfl
  | cons c word ih =>
    obtain ⟨first, others⟩ := Bool.and_eq_true_iff.mp (List.all_cons.symm.trans plain)
    simp only [isPlain, Bool.and_eq_true, bne_iff_ne] at first
    obtain ⟨⟨star, any⟩, bracket⟩ := first
    rw [List.cons_append, partsFrom, if_neg star, if_neg any, if_neg bracket, ih others]
    rfl

private theorem parts_starred {word : String} (plain : word.toList.all isPlain) :
    parts (starred word) = .star :: (word.toList.map Part.char ++ [.star]) := by
  have chars : (starred word).toList = '*' :: (word.toList ++ ['*']) := by simp [starred]
  rw [parts, chars]
  exact congrArg (Part.star :: ·) (partsFrom_plain plain ['*'])

private theorem standsFor_chars {word : List Char} {parts : List Part} :
    StandsFor (word.map Part.char ++ parts) cs ↔ ∃ rest, cs = word ++ rest ∧ StandsFor parts rest := by
  induction word generalizing cs with
  | nil => simp
  | cons c word ih =>
    constructor
    · rintro (_ | _ | ⟨first, others⟩)
      obtain ⟨rest, rfl, stands⟩ := ih.mp others
      obtain rfl := eq_of_beq first
      exact ⟨rest, rfl, stands⟩
    · rintro ⟨rest, rfl, stands⟩
      exact .one (beq_self_eq_true c) (ih.mpr ⟨rest, rfl, stands⟩)

/-- A word between stars accepts the texts in which the word occurs. -/
theorem accepts_starred {word : String} (plain : word.toList.all isPlain) (text : String) :
    accepts (starred word) text = contains text word := by
  rw [Bool.eq_iff_iff, accepts, parts_starred plain, acceptsList_iff, contains_iff]
  rw [standsFor_star]
  constructor
  · rintro ⟨before, rest, whole, stands⟩
    obtain ⟨after, rfl, -⟩ := standsFor_chars.mp stands
    exact ⟨before, after, by rw [whole, List.append_assoc]⟩
  · rintro ⟨before, after, whole⟩
    have rest : StandsFor [.star] after := standsFor_star.mpr ⟨after, [], (List.append_nil after).symm, .nil⟩
    exact ⟨before, word.toList ++ after, by rw [← whole, List.append_assoc],
      standsFor_chars.mpr ⟨after, rfl, rest⟩⟩

end Glob

end ContractLint.Text
