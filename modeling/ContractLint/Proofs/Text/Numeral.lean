import ContractLint.Number.Shortest
import ContractLint.Text.Digit

/-! # Numerals

The decimal numeral of a number is read as that number, and what is read as a number has no other
characters than blanks, signs, digits and low lines.
-/

namespace ContractLint.Text

open List

variable {cs : List Char} {c : Char}

/-! ## Blanks -/

private theorem mem_stripFront (visible : isBlank c = false) (member : c ∈ cs) : c ∈ stripFront cs := by
  induction cs with
  | nil => contradiction
  | cons first rest ih =>
    rw [stripFront, dropWhile_cons]
    split
    next blank =>
      obtain rfl | later := mem_cons.mp member
      · simp [visible] at blank
      · exact ih later
    next => exact member

private theorem mem_stripList (visible : isBlank c = false) (member : c ∈ cs) : c ∈ stripList cs := by
  rw [stripList, mem_reverse]
  exact mem_stripFront visible (mem_reverse.mpr (mem_stripFront visible member))

private theorem stripFront_eq_self (visible : ∀ c ∈ cs, isBlank c = false) : stripFront cs = cs := by
  cases cs with
  | nil => rfl
  | cons first rest => rw [stripFront, dropWhile_cons_of_neg (by simp [visible])]

private theorem stripList_eq_self (visible : ∀ c ∈ cs, isBlank c = false) : stripList cs = cs := by
  have reversed : ∀ c ∈ cs.reverse, isBlank c = false :=
    fun c member => visible c (mem_reverse.mp member)
  rw [stripList, stripFront_eq_self visible, stripFront_eq_self reversed, reverse_reverse]

/-! ## Characters of numbers -/

/-- A character that stands in no number. -/
def isForeign (c : Char) : Bool :=
  !isBlank c && (digitValue? c).isNone && c != '_' && c != '-' && c != '+'

private theorem digitsFrom?_foreign (foreign : isForeign c) (member : c ∈ cs)
    (value : Nat) (pending : Bool) : digitsFrom? value pending cs = none := by
  induction cs generalizing value pending with
  | nil => contradiction
  | cons first rest ih =>
    rw [digitsFrom?]
    obtain rfl | later := mem_cons.mp member
    · simp only [isForeign, Bool.and_eq_true, bne_iff_ne, Option.isNone_iff_eq_none] at foreign
      simp [foreign]
    · simp only [ih later]
      split
      · split <;> rfl
      · split <;> rfl

private theorem naturalFrom?_foreign (foreign : isForeign c) (member : c ∈ cs) : naturalFrom? cs = none := by
  rw [naturalFrom?, digitsFrom?_foreign foreign member]
  split <;> rfl

/-- A text with a foreign character is not read as a number. -/
theorem parseInt?_foreign (foreign : isForeign c) {s : String} (member : c ∈ s.toList) : parseInt? s = none := by
  obtain ⟨⟨⟨⟨visible, -⟩, -⟩, minus⟩, plus⟩ : (((_ ∧ _) ∧ _) ∧ _) ∧ _ := by
    simpa only [isForeign, Bool.and_eq_true, bne_iff_ne, Bool.not_eq_true'] using foreign
  have inside := mem_stripList visible member
  rw [parseInt?]
  refine ite_eq_left_iff.mpr fun _ => ?_
  split
  next rest same =>
    rw [same] at inside
    rw [naturalFrom?_foreign foreign ((mem_cons.mp inside).resolve_left minus)]
    rfl
  next rest same =>
    rw [same] at inside
    rw [naturalFrom?_foreign foreign ((mem_cons.mp inside).resolve_left plus)]
    rfl
  next =>
    rw [naturalFrom?_foreign foreign inside]
    rfl

/-! ## Decimal numerals -/

section Digit

variable {c : Char} (digit : c.isDigit)

include digit

theorem toNat_of_isDigit : 48 ≤ c.toNat ∧ c.toNat ≤ 57 := Char.isDigit_iff_toNat.mp digit

private theorem digitValue?_of_isDigit : digitValue? c = some (c.toNat - '0'.toNat) := by
  have table : ∀ n ≤ 57, 48 ≤ n →
      (digitZeros.find? fun start => start ≤ n && n < start + 10) = some 48 := by decide
  have range := toNat_of_isDigit digit
  rw [digitValue?, table c.toNat range.2 range.1]
  rfl

private theorem isBlank_of_isDigit : isBlank c = false := by
  have table : ∀ n ≤ 57, 48 ≤ n → inRanges n blankRanges = false := by decide
  have range := toNat_of_isDigit digit
  exact table c.toNat range.2 range.1

private theorem isSeparator_of_isDigit : isSeparator c = false := by
  have range := toNat_of_isDigit digit
  simp only [isSeparator, Bool.and_eq_false_iff, decide_eq_false_iff_not]
  omega

theorem ne_of_isDigit {other : Char} (small : other.toNat < 48 ∨ 57 < other.toNat) : c ≠ other := by
  rintro rfl
  have range := toNat_of_isDigit digit
  omega

end Digit

private theorem digitsFrom?_digits (digits : ∀ c ∈ cs, c.isDigit) (value : Nat) {pending : Bool}
    (more : pending → cs ≠ []) : digitsFrom? value pending cs = some (Nat.ofDigitChars 10 cs value) := by
  induction cs generalizing value pending with
  | nil =>
    rw [digitsFrom?, if_neg fun pending => more pending rfl]
    rfl
  | cons first rest ih =>
    obtain ⟨digit, digits⟩ := forall_mem_cons.mp digits
    rw [digitsFrom?, if_neg (ne_of_isDigit digit (by decide)), digitValue?_of_isDigit digit,
      Nat.ofDigitChars_cons, Nat.mul_comm]
    exact ih digits _ (by simp)

/-- A number is read back from its digits. -/
theorem foldl_toDigits (n : Nat) : (Nat.toDigits 10 n).foldl (fun n c => n * 10 + (c.toNat - 48)) 0 = n := by
  have same : (Nat.toDigits 10 n).foldl (fun n c => n * 10 + (c.toNat - 48)) 0 =
      Nat.ofDigitChars 10 (Nat.toDigits 10 n) 0 := by
    simp only [Nat.ofDigitChars, Nat.mul_comm]
    rfl
  rw [same, Nat.ofDigitChars_toDigits (by decide) (by decide)]

theorem isDigit_of_mem_digitsText {n : Nat} (member : c ∈ (Number.digitsText n).toList) : c.isDigit := by
  rw [Number.digitsText, String.toList_ofList] at member
  exact Nat.isDigit_of_mem_toDigits (by decide) (by decide) member

theorem digitsText_injective : Function.Injective Number.digitsText := by
  intro m n same
  have digits : Nat.toDigits 10 m = Nat.toDigits 10 n := by
    simpa [Number.digitsText] using congrArg String.toList same
  rw [← foldl_toDigits m, digits, foldl_toDigits]

/-- The decimal numeral of a number is read as that number, unless it has too many digits. -/
theorem parseInt?_digitsText {n : Nat} (short : (Number.digitsText n).length ≤ digitLimit) :
    parseInt? (Number.digitsText n) = some (n : Int) := by
  have digits : ∀ c ∈ Nat.toDigits 10 n, c.isDigit :=
    fun c => Nat.isDigit_of_mem_toDigits (by decide) (by decide)
  have natural : naturalFrom? (Nat.toDigits 10 n) = some n := by
    have size : (Nat.toDigits 10 n).countP (· != '_') ≤ digitLimit := by
      refine Nat.le_trans countP_le_length ?_
      simpa [Number.digitsText] using short
    rw [naturalFrom?, if_neg (by omega), digitsFrom?_digits digits 0 (fun _ => ?_),
      Nat.ofDigitChars_toDigits (by decide) (by decide)]
    exact ne_nil_of_length_pos Nat.length_toDigits_pos
  have plain : ¬(Nat.toDigits 10 n).any isSeparator := by
    simpa using fun c member => isSeparator_of_isDigit (digits c member)
  rw [parseInt?, Number.digitsText, String.toList_ofList, if_neg plain,
    stripList_eq_self fun c member => isBlank_of_isDigit (digits c member)]
  split
  next rest same => exact absurd rfl (ne_of_isDigit (digits '-' (by simp [same])) (by decide))
  next rest same => exact absurd rfl (ne_of_isDigit (digits '+' (by simp [same])) (by decide))
  next =>
    rw [natural]
    rfl

end ContractLint.Text
