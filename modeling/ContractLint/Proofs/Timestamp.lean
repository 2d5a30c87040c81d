import ContractLint.Proofs.Text.Numeral
import ContractLint.Timestamp
import Mathlib.Data.List.Basic
import Mathlib.Data.List.TakeWhile

/-! # Times read back from their text

A time without an offset is read back from its written form, of which each part has a width of its own.
-/

namespace ContractLint.Timestamp

open List

variable {n : Nat}

/-- A time that exists, without an offset. -/
structure Naive (t : Timestamp) : Prop where
  year : 0 < t.year ∧ t.year ≤ 9999
  month : 0 < t.month ∧ t.month ≤ 12
  day : 0 < t.day ∧ t.day ≤ daysInMonth t.year t.month
  hour : t.hour ≤ 23
  minute : t.minute ≤ 59
  second : t.second ≤ 59
  micros : t.micros < 1000000
  offset : t.offset = none

/-! ## Numbers of a fixed width -/

section Padded

variable {width n : Nat}

theorem isDigit_of_mem_padded {c : Char} (member : c ∈ (padded width n).toList) : c.isDigit := by
  rw [padded, String.toList_ofList, mem_append] at member
  obtain zero | digit := member
  · rw [eq_of_mem_replicate zero]
    rfl
  · exact Nat.isDigit_of_mem_toDigits (by decide) (by decide) digit

/-- A padded number has the given width. -/
theorem length_padded (positive : 0 < width) (fits : n < Nat.pow 10 width) :
    (padded width n).toList.length = width := by
  have short := (Nat.length_toDigits_le_iff (b := 10) (by decide) positive).mpr fits
  rw [padded, String.toList_ofList, length_append, length_replicate]
  omega

private theorem foldl_padded (width n : Nat) :
    (padded width n).toList.foldl (fun n c => n * 10 + (c.toNat - 48)) 0 = n := by
  have zeros (count : Nat) : (List.replicate count '0').foldl (fun n c => n * 10 + (c.toNat - 48)) 0 = 0 := by
    induction count with
    | zero => rfl
    | succ count ih => exact ih
  rw [padded, String.toList_ofList, foldl_append, zeros, Text.foldl_toDigits]

/-- A number that fits its width is read back. -/
theorem digits?_padded (positive : 0 < width) (fits : n < Nat.pow 10 width) (rest : List Char) :
    digits? width ((padded width n).toList ++ rest) = some (n, rest) := by
  have size := length_padded positive fits
  have front : ((padded width n).toList ++ rest).take width = (padded width n).toList := take_left' size
  have digits : (padded width n).toList.all Char.isDigit := all_eq_true.mpr fun c => isDigit_of_mem_padded
  rw [digits?, front, drop_left' size, size, digits, foldl_padded]
  simp

end Padded

theorem padded_two (fits : n < 100) : ∃ a b, (padded 2 n).toList = [a, b] ∧ a.isDigit := by
  have size : (padded 2 n).toList.length = 2 := length_padded (by decide) fits
  obtain ⟨a, b, same⟩ := length_eq_two.mp size
  exact ⟨a, b, same, isDigit_of_mem_padded (by rw [same]; exact mem_cons_self)⟩

private theorem padded_four (fits : n < 10000) : ∃ a b c d, (padded 4 n).toList = [a, b, c, d] := by
  have size : (padded 4 n).toList.length = 4 := length_padded (by decide) fits
  obtain ⟨a, rest, same⟩ := exists_cons_of_length_eq_add_one size
  rw [same, length_cons] at size
  obtain ⟨b, c, d, rfl⟩ := length_eq_three.mp (Nat.succ.inj size)
  exact ⟨a, b, c, d, same⟩

theorem digits?_two (fits : n < 100) (rest : List Char) :
    digits? 2 ((padded 2 n).toList ++ rest) = some (n, rest) := digits?_padded (by decide) fits rest

/-! ## The day -/

private theorem date?_text {year month day : Nat} (four : year < 10000) (two : month < 100) (last : day < 100) :
    date? ((padded 4 year).toList ++ '-' :: ((padded 2 month).toList ++ '-' :: (padded 2 day).toList)) =
      some (year, month, day) := by
  have days : digits? 2 (padded 2 day).toList = some (day, []) := by simpa using digits?_two last []
  obtain ⟨a, b, same, digit⟩ := padded_two two
  have letter : a ≠ 'W' := Text.ne_of_isDigit digit (by decide)
  have months := digits?_two two ('-' :: (padded 2 day).toList)
  rw [same] at months ⊢
  rw [date?, digits?_padded (by decide) four]
  simp only [cons_append, nil_append] at months ⊢
  simp [letter, months, days]

/-! ## The time of day -/

/-- A part of a time of day that comes before another part. -/
theorem clockFrom?_colon (fits : n < 100) (parts : List Nat) (more : Nat) {rest : List Char} (some : rest ≠ []) :
    clockFrom? true parts (more + 1) ((padded 2 n).toList ++ ':' :: rest) =
      clockFrom? true (parts ++ [n]) more rest := by
  obtain ⟨c, tail, rfl⟩ := exists_cons_of_ne_nil some
  rw [clockFrom?, digits?_two fits]
  simp

private theorem clockFrom?_last (fits : n < 100) (parts : List Nat) (more : Nat) :
    clockFrom? true parts (more + 1) (padded 2 n).toList = some (⟨parts ++ [n], 0⟩, false) := by
  have read : digits? 2 (padded 2 n).toList = some (n, []) := by simpa using digits?_two fits []
  rw [clockFrom?, read]
  rfl

/-- The last part of a time of day and a fraction. -/
theorem clockFrom?_fraction {micros : Nat} (fits : n < 100) (six : micros < 1000000) {parts : List Nat}
    (some : parts ≠ []) (more : Nat) :
    clockFrom? true parts (more + 1) ((padded 2 n).toList ++ '.' :: (padded 6 micros).toList) =
      .some (⟨parts ++ [n], micros⟩, false) := by
  have size : (padded 6 micros).toList.length = 6 := length_padded (by decide) six
  have read : digits? 6 (padded 6 micros).toList = .some (micros, []) := by
    simpa using digits?_padded (by decide) six []
  have fraction : fraction? (parts ++ [n]) (padded 6 micros).toList = .some (⟨parts ++ [n], micros⟩, false) := by
    rw [fraction?, size]
    simp only [Nat.min_self, read]
    simp
  obtain ⟨c, tail, same⟩ := exists_cons_of_ne_nil (ne_nil_of_length_eq_add_one size)
  rw [clockFrom?, digits?_two fits]
  rw [same] at fraction ⊢
  simp [fraction, some]

/-- The written form of a time of day, with a fraction if there is one. -/
def clockChars (t : Timestamp) : List Char :=
  (padded 2 t.hour).toList ++ ':' :: ((padded 2 t.minute).toList ++ ':' :: ((padded 2 t.second).toList
    ++ if t.micros = 0 then [] else '.' :: (padded 6 t.micros).toList))

/-- No character of a time of day begins an offset. -/
theorem clockChars_zoneless (t : Timestamp) : ∀ c ∈ clockChars t, (!(c == '+' || c == '-' || c == 'Z')) = true := by
  intro c member
  have part : c.isDigit ∨ c = ':' ∨ c = '.' := by
    have digit {width n : Nat} (inside : c ∈ (padded width n).toList) := isDigit_of_mem_padded inside
    rw [clockChars] at member
    split at member <;> simp only [mem_append, mem_cons, not_mem_nil, or_false] at member <;> grind
  obtain digit | rfl | rfl := part
  · have ne {other : Char} (foreign : other.toNat < 48 ∨ 57 < other.toNat) := Text.ne_of_isDigit digit foreign
    simp [ne (by decide : '+'.toNat < 48 ∨ _), ne (by decide : '-'.toNat < 48 ∨ _),
      ne (by decide : 'Z'.toNat < 48 ∨ _)]
  · rfl
  · rfl

private theorem daysInMonth_le (year month : Nat) : daysInMonth year month ≤ 31 := by
  unfold daysInMonth
  split
  · split <;> decide
  all_goals decide

variable {t : Timestamp} (naive : Naive t)

include naive

private theorem clockFrom?_clockChars :
    clockFrom? true [] 3 (clockChars t) = some (⟨[t.hour, t.minute, t.second], t.micros⟩, false) := by
  have hour := naive.hour
  have minute := naive.minute
  have second := naive.second
  obtain ⟨a, b, same, -⟩ := padded_two (n := t.second) (by omega)
  rw [clockChars, clockFrom?_colon (by omega) [] 2 (by simp), clockFrom?_colon (by omega) _ 1 (by simp [same])]
  split
  next none =>
    rw [append_nil, clockFrom?_last (by omega), none]
    rfl
  next =>
    rw [clockFrom?_fraction (by omega) naive.micros (by simp)]
    rfl

private theorem timeOfDay?_clockChars :
    timeOfDay? (clockChars t) = some (⟨[t.hour, t.minute, t.second], t.micros⟩, none) := by
  rw [timeOfDay?]
  simp only [takeWhile_eq_self_iff.mpr (clockChars_zoneless t), drop_length, clockFrom?_clockChars naive]
  rfl

private theorem text_toList : t.text.toList = (padded 4 t.year).toList ++ '-' :: ((padded 2 t.month).toList
    ++ '-' :: ((padded 2 t.day).toList ++ 'T' :: clockChars t)) := by
  rw [text, naive.offset]
  by_cases none : t.micros = 0
  · simp [dayText, clockText, clockChars, none]
  · simp [dayText, clockText, clockChars, none]

private theorem checked_eq : checked t = .ok t := by
  obtain ⟨⟨_, _⟩, ⟨_, _⟩, ⟨_, _⟩, _, _, _, _, _⟩ := naive
  rw [checked, if_neg (by omega), if_neg (by omega), if_neg (by omega), if_neg (by omega), if_neg (by omega),
    if_neg (by omega)]
  rfl

/-- A time without an offset is read back from its written form. -/
theorem parse_text : parse t.text = .ok t := by
  have year : t.year < 10000 := Nat.lt_succ_of_le naive.year.2
  have month : t.month < 100 := Nat.lt_of_le_of_lt naive.month.2 (by decide)
  have day : t.day < 100 := Nat.lt_of_le_of_lt (Nat.le_trans naive.day.2 (daysInMonth_le _ _)) (by decide)
  have date := date?_text year month day
  have chars := text_toList naive
  obtain ⟨y₁, y₂, y₃, y₄, years⟩ := padded_four year
  obtain ⟨m₁, m₂, months, digit⟩ := padded_two month
  obtain ⟨d₁, d₂, days, -⟩ := padded_two day
  have letter : m₁ ≠ 'W' := Text.ne_of_isDigit digit (by decide)
  rw [years, months, days] at date chars
  simp only [cons_append, nil_append] at date chars
  have size : dateLength t.text.toList = some 10 := by simp [chars, dateLength, letter]
  have front : date? (t.text.toList.take 10) = some (t.year, t.month, t.day) := by rw [chars, ← date]; rfl
  have back : timeOfDay? (t.text.toList.drop (10 + 1)) = some (⟨[t.hour, t.minute, t.second], t.micros⟩, none) := by
    rw [chars, ← timeOfDay?_clockChars naive]
    rfl
  have long : 10 < t.text.toList.length := by simp [chars]
  have same : (⟨t.year, t.month, t.day, t.hour, t.minute, t.second, t.micros, none⟩ : Timestamp) = t := by
    rw [← naive.offset]
  rw [parse]
  simp only [size, front, back]
  rw [if_neg (by omega), if_neg (by omega)]
  calc checked ⟨t.year, t.month, t.day, t.hour, t.minute, t.second, t.micros, none⟩
    _ = checked t := by rw [same]
    _ = .ok t := checked_eq naive

end ContractLint.Timestamp
