import ContractLint.Document.Json.Printer
import ContractLint.Document.Json.Reader
import ContractLint.Proofs.Entries
import ContractLint.Proofs.Text.Numeral
import Mathlib.Data.List.TakeWhile

/-! # Documents read back from their text

A document that is written over several lines is read back as it was (`parse?_indented`). What comes after a value in a
document, a comma or a line break, does not go on with a number, and the characters of the text are enough steps for
the reader. Texts, integers and truth values always come back. Doubles are written by their shortest decimals, and
that these are read as the same doubles is a condition on them (`Legible`).
-/

namespace ContractLint.Document.Json

open List

variable {fields : List (String × Value)} {cs : List Char} {v : Value} {items : List Value} {c : Char}
  {n : Nat} {read : Value × List Char} {front : List Char}

/-! ## Blanks -/

private theorem skipBlanks_replicate (count : Nat) (rest : List Char) :
    skipBlanks (List.replicate count ' ' ++ rest) = skipBlanks rest := by
  induction count with
  | zero => rfl
  | succ count ih => rw [replicate_succ, cons_append, skipBlanks, if_pos (.inl rfl), ih]

theorem breakTo_toList (depth : Nat) : (breakTo depth).toList = '\n' :: List.replicate (2 * depth) ' ' := by
  simp [breakTo]

theorem skipBlanks_breakTo (depth : Nat) (rest : List Char) :
    skipBlanks ((breakTo depth).toList ++ rest) = skipBlanks rest := by
  rw [breakTo_toList, cons_append, skipBlanks, if_pos (by decide), skipBlanks_replicate]

/-- A character that neither is a blank nor closes a list. -/
def Solid (c : Char) : Prop := c ≠ ' ' ∧ c ≠ '\t' ∧ c ≠ '\n' ∧ c ≠ '\r' ∧ c ≠ ']'

instance (c : Char) : Decidable (Solid c) :=
  inferInstanceAs (Decidable (c ≠ ' ' ∧ c ≠ '\t' ∧ c ≠ '\n' ∧ c ≠ '\r' ∧ c ≠ ']'))

theorem skipBlanks_of_solid (solid : Solid c) (rest : List Char) : skipBlanks (c :: rest) = c :: rest := by
  obtain ⟨space, tab, feed, carriage, -⟩ := solid
  rw [skipBlanks, if_neg (by simp [space, tab, feed, carriage])]

/-! ## Texts -/

/-- The characters of a text as they stand between quotation marks. -/
def written (cs : List Char) : List Char := cs.flatMap fun c => (plainChar c).toList

private theorem toList_foldl_append (write : Char → String) (cs : List Char) (done : String) :
    (cs.foldl (fun acc c => acc ++ write c) done).toList = done.toList ++ cs.flatMap fun c => (write c).toList := by
  induction cs generalizing done with
  | nil => simp
  | cons c rest ih => rw [foldl_cons, ih, String.toList_append, flatMap_cons, append_assoc]

theorem quoted_toList (s : String) : (quotedWith plainChar s).toList = '"' :: (written s.toList ++ ['"']) := by
  rw [quotedWith, String.toList_append, String.toList_append, toList_foldl_append]
  rfl

private theorem hex4?_cons (a b c d : Char) (rest : List Char) :
    hex4? (a :: b :: c :: d :: rest) = (hex4? [a, b, c, d]).map fun read => (read.1, rest) := by
  rw [hex4?, hex4?]
  cases hexValue? a with
  | none => rfl
  | some a =>
    cases hexValue? b with
    | none => rfl
    | some b =>
      cases hexValue? c with
      | none => rfl
      | some c => cases hexValue? d <;> rfl

private theorem hex4?_append (read : hex4? cs = some (n, [])) (rest : List Char) :
    hex4? (cs ++ rest) = some (n, rest) := by
  obtain _ | ⟨a, _ | ⟨b, _ | ⟨c, _ | ⟨d, more⟩⟩⟩⟩ := cs
  · cases read
  · cases read
  · cases read
  · cases read
  · rw [hex4?_cons] at read
    obtain ⟨⟨m, after⟩, digits, same⟩ := Option.map_eq_some_iff.mp read
    cases same
    rw [cons_append, cons_append, cons_append, cons_append, hex4?_cons, digits]
    rfl

/-- The code of a control character, as it is written, is read back. -/
theorem hex4?_hexText (small : n < 32) (rest : List Char) :
    hex4? ((Text.hexText 4 n).toList ++ rest) = some (n, rest) := by
  have all : ∀ n < 32, hex4? (Text.hexText 4 n).toList = some (n, []) := by decide +kernel
  exact hex4?_append (all n small) rest

/-- One character, however it is written, is read in one step. -/
theorem stringBody?_plainChar (c : Char) (steps : Nat) (done rest : List Char) :
    stringBody? (steps + 1) done ((plainChar c).toList ++ rest) = stringBody? steps (c :: done) rest := by
  have code {n : Nat} (same : c.toNat = n) : Char.ofNat n = c := by rw [← same, Char.ofNat_toNat]
  rw [plainChar, commonEscape?]
  -- Seven characters have an escape of one letter, the other control characters are written by their codes.
  split
  next same => subst same; rfl
  split
  next same => subst same; rfl
  split
  next same => subst same; rfl
  split
  next same => subst same; rfl
  split
  next same => subst same; rfl
  split
  next same => rw [← code same]; rfl
  split
  next same => rw [← code same]; rfl
  split
  next small =>
    have escape : (unitEscape c.toNat).toList = '\\' :: 'u' :: (Text.hexText 4 c.toNat).toList := by
      rw [unitEscape, String.toList_append]
      rfl
    have unit : unitChar c.toNat rest = (c, rest) := by
      unfold unitChar
      rw [if_neg (by omega), if_neg (by omega), Char.ofNat_toNat]
    rw [Option.getD_some, escape, cons_append, cons_append, stringBody?, if_neg (by decide), if_pos rfl,
      hex4?_hexText small]
    exact congrArg (fun read : Char × List Char => stringBody? steps (read.1 :: done) read.2) unit
  next quote slash _ _ _ _ _ large =>
    rw [Option.getD_none, String.toList_ofList, cons_append, nil_append, stringBody?.eq_def]
    simp only [quote, slash, large, if_false]

private theorem stringBody?_written (cs : List Char) {steps : Nat} (enough : cs.length < steps)
    (done rest : List Char) :
    stringBody? steps done (written cs ++ '"' :: rest) = some (cs.reverse ++ done, rest) := by
  induction cs generalizing steps done with
  | nil =>
    obtain ⟨steps, rfl⟩ := Nat.exists_eq_add_one_of_ne_zero (Nat.ne_zero_of_lt enough)
    rfl
  | cons c cs ih =>
    obtain ⟨steps, rfl⟩ := Nat.exists_eq_add_one_of_ne_zero (Nat.ne_zero_of_lt enough)
    rw [written, flatMap_cons, append_assoc, stringBody?_plainChar]
    rw [length_cons] at enough
    rw [← written, ih (by omega), reverse_cons, append_assoc]
    rfl

private theorem plainChar_ne_nil (c : Char) : (plainChar c).toList ≠ [] := by
  intro empty
  have read := stringBody?_plainChar c 0 [] ['"']
  rw [empty] at read
  cases read

private theorem length_le_written (cs : List Char) : cs.length ≤ (written cs).length := by
  induction cs with
  | nil => exact Nat.le_refl _
  | cons c cs ih =>
    have one := length_pos_iff.mpr (plainChar_ne_nil c)
    rw [written, flatMap_cons, length_append, length_cons, ← written]
    omega

/-- A string is read back as it was written. -/
theorem string?_written (s : String) (rest : List Char) :
    string? (written s.toList ++ '"' :: rest) = some (s, rest) := by
  have size := length_le_written s.toList
  rw [string?, stringBody?_written s.toList (by rw [length_append]; omega)]
  simp only [Option.map_some, append_nil, reverse_reverse, String.ofList_toList]

/-! ## Numbers -/

/-- What can follow a value in a document. -/
def Ends (rest : List Char) : Prop := ∀ c, rest.head? = some c → c = ',' ∨ c = '\n'

theorem wholeDigits_of_ne (zero : c ≠ '0') (cs : List Char) :
    wholeDigits (c :: cs) = (c :: cs).takeWhile isAsciiDigit := by
  unfold wholeDigits
  split
  next same => cases same; contradiction
  next => rfl

private theorem length_wholeDigits (cs : List Char) : (wholeDigits cs).length ≤ cs.length := by
  unfold wholeDigits
  split
  · simp
  · exact (takeWhile_sublist _).length_le

section Ends

variable {rest : List Char} (ends : Ends rest)

include ends

theorem Ends.cases : rest = [] ∨ ∃ more, rest = ',' :: more ∨ rest = '\n' :: more := by
  cases rest with
  | nil => exact .inl rfl
  | cons c more =>
    obtain rfl | rfl := ends c rfl
    · exact .inr ⟨more, .inl rfl⟩
    · exact .inr ⟨more, .inr rfl⟩

theorem takeWhile_append_ends (cs : List Char) : (cs ++ rest).takeWhile isAsciiDigit = cs.takeWhile isAsciiDigit := by
  induction cs with
  | nil => obtain rfl | ⟨more, rfl | rfl⟩ := ends.cases <;> rfl
  | cons c cs ih => rw [cons_append, takeWhile_cons, takeWhile_cons, ih]

theorem dropWhile_append_ends (cs : List Char) :
    (cs ++ rest).dropWhile isAsciiDigit = cs.dropWhile isAsciiDigit ++ rest := by
  induction cs with
  | nil => obtain rfl | ⟨more, rfl | rfl⟩ := ends.cases <;> rfl
  | cons c cs ih =>
    rw [cons_append, dropWhile_cons, dropWhile_cons, ih]
    split <;> rfl

private theorem fraction_append (cs : List Char) :
    fraction (cs ++ rest) = ((fraction cs).1, (fraction cs).2 ++ rest) := by
  have none {c : Char} (point : c ≠ '.') (cs : List Char) : fraction (c :: cs) = ([], c :: cs) := by
    unfold fraction
    split
    next same => cases same; contradiction
    next => rfl
  cases cs with
  | nil => obtain rfl | ⟨more, rfl | rfl⟩ := ends.cases <;> rfl
  | cons c cs =>
    by_cases point : c = '.'
    · subst point
      simp only [fraction, cons_append, takeWhile_append_ends ends, dropWhile_append_ends ends]
      split <;> rfl
    · rw [cons_append, none point, none point]
      rfl

private theorem sign_append (cs : List Char) : sign (cs ++ rest) = ((sign cs).1, (sign cs).2 ++ rest) := by
  have none {c : Char} (minus : c ≠ '-') (plus : c ≠ '+') (cs : List Char) : sign (c :: cs) = (false, c :: cs) := by
    unfold sign
    split
    next same => cases same; contradiction
    next same => cases same; contradiction
    next => rfl
  cases cs with
  | nil => obtain rfl | ⟨more, rfl | rfl⟩ := ends.cases <;> rfl
  | cons c cs =>
    by_cases minus : c = '-'
    · subst minus; rfl
    by_cases plus : c = '+'
    · subst plus; rfl
    rw [cons_append, none minus plus, none minus plus]
    rfl

private theorem exponent?_append (cs : List Char) :
    exponent? (cs ++ rest) = ((exponent? cs).1, (exponent? cs).2 ++ rest) := by
  cases cs with
  | nil => obtain rfl | ⟨more, rfl | rfl⟩ := ends.cases <;> rfl
  | cons mark cs =>
    simp only [exponent?, cons_append, sign_append ends, takeWhile_append_ends ends, dropWhile_append_ends ends]
    split
    · split <;> rfl
    · rfl

private theorem wholeDigits_append (cs : List Char) : wholeDigits (cs ++ rest) = wholeDigits cs := by
  cases cs with
  | nil => obtain rfl | ⟨more, rfl | rfl⟩ := ends.cases <;> rfl
  | cons c cs =>
    by_cases zero : c = '0'
    · subst zero; rfl
    · rw [cons_append, wholeDigits_of_ne zero, wholeDigits_of_ne zero, ← cons_append,
        takeWhile_append_ends ends]

/-- A number is read alike whatever follows it. -/
theorem number?_append (negative : Bool) (cs : List Char) :
    number? negative (cs ++ rest) = (number? negative cs).map fun read => (read.1, read.2 ++ rest) := by
  simp only [number?, wholeDigits_append ends, drop_append_of_le_length (length_wholeDigits cs),
    fraction_append ends, exponent?_append ends]
  split
  · rfl
  · split <;> rfl

end Ends

private theorem isAsciiDigit_eq (c : Char) : isAsciiDigit c = c.isDigit := by
  rw [isAsciiDigit, Char.isDigit, Bool.decide_and]
  rfl

theorem isAsciiDigit_of_mem (member : c ∈ Nat.toDigits 10 n) : isAsciiDigit c := by
  rw [isAsciiDigit_eq]
  exact Nat.isDigit_of_mem_toDigits (by decide) (by decide) member

private theorem digitsValue_toDigits (n : Nat) : digitsValue (Nat.toDigits 10 n) = n := Text.foldl_toDigits n

/-- No zero leads the digits of a positive number. -/
theorem toDigits_leading (n : Nat) (positive : 0 < n) : ∃ c cs, Nat.toDigits 10 n = c :: cs ∧ c ≠ '0' := by
  by_cases small : n < 10
  · have digit : ∀ n < 10, 0 < n → n.digitChar ≠ '0' := by decide
    exact ⟨n.digitChar, [], Nat.toDigits_of_lt_base small, digit n small positive⟩
  · obtain ⟨c, cs, front, leading⟩ := toDigits_leading (n / 10) (by omega)
    refine ⟨c, cs ++ [(n % 10).digitChar], ?_, leading⟩
    rw [Nat.toDigits_of_base_le (by decide) (by omega), front, cons_append]
termination_by n

private theorem wholeDigits_toDigits (n : Nat) : wholeDigits (Nat.toDigits 10 n) = Nat.toDigits 10 n := by
  cases n with
  | zero => rfl
  | succ n =>
    obtain ⟨c, cs, same, leading⟩ := toDigits_leading (n + 1) (by omega)
    have digits : ∀ c ∈ Nat.toDigits 10 (n + 1), isAsciiDigit c := fun c => isAsciiDigit_of_mem
    rw [same] at digits ⊢
    rw [wholeDigits_of_ne leading, takeWhile_eq_self_iff.mpr digits]

private theorem number?_toDigits (negative : Bool) (n : Nat) :
    number? negative (Nat.toDigits 10 n) = some (.int (if negative then -n else n), []) := by
  have some : (Nat.toDigits 10 n).isEmpty = false := by simp [Nat.toDigits_ne_nil]
  simp only [number?, wholeDigits_toDigits, some, drop_length, digitsValue_toDigits]
  rfl

def IsNumber : Value → Prop
  | .int _ | .real _ => True
  | _ => False

section Digit

variable {c : Char} (digit : isAsciiDigit c)

include digit

theorem ne_of_isAsciiDigit {other : Char} (foreign : isAsciiDigit other = false) : c ≠ other := by
  rintro rfl
  rw [digit] at foreign
  contradiction

theorem value?_digit (steps : Nat) (cs : List Char) : value? (steps + 1) (c :: cs) = number? false (c :: cs) := by
  have ne {other : Char} (foreign : isAsciiDigit other = false) := ne_of_isAsciiDigit digit foreign
  rw [value?.eq_def]
  simp only
  split
  case h_10 => rfl
  all_goals
    rename_i same
    cases same
    exact absurd rfl (ne rfl)

private theorem afterWord?_digit (cs : List Char) : afterWord? "Infinity" (c :: cs) = none := by
  have other : 'I' ≠ c := (ne_of_isAsciiDigit digit rfl).symm
  rw [afterWord?, if_neg]
  simp [other]

theorem value?_minus (steps : Nat) (cs : List Char) :
    value? (steps + 1) ('-' :: c :: cs) = number? true (c :: cs) := by
  rw [value?.eq_def]
  simp only [afterWord?_digit digit]

end Digit

private theorem afterWord?_append {word : String} {after : List Char} (read : afterWord? word cs = some after)
    (rest : List Char) : afterWord? word (cs ++ rest) = some (after ++ rest) := by
  rw [afterWord?] at read ⊢
  split at read
  next front =>
    obtain ⟨tail, rfl⟩ := isPrefixOf_iff_prefix.mp front
    cases read
    rw [append_assoc, if_pos (by simp), ← String.length_toList, drop_left, drop_left]
  next => cases read

private theorem digit_of_number? {negative : Bool}
    (found : number? negative cs = some read) : ∃ c rest, cs = c :: rest ∧ isAsciiDigit c := by
  cases cs with
  | nil => cases found
  | cons c rest =>
    refine ⟨c, rest, rfl, ?_⟩
    cases digit : isAsciiDigit c with
    | true => rfl
    | false =>
      have zero : c ≠ '0' := by
        rintro rfl
        cases digit
      have none : wholeDigits (c :: rest) = [] := by
        rw [wholeDigits_of_ne zero, takeWhile_cons, digit]
        rfl
      simp only [number?, none] at found
      cases found

/-- A number is read alike whatever follows it. -/
theorem value?_number {rest : List Char} (number : IsNumber v) (read : value? 1 cs = some (v, []))
    (ends : Ends rest) (steps : Nat) : value? (steps + 1) (cs ++ rest) = some (v, rest) := by
  have going {negative : Bool} {cs : List Char} (found : number? negative cs = some (v, [])) :
      number? negative (cs ++ rest) = some (v, rest) := by
    rw [number?_append ends, found]
    rfl
  rw [value?.eq_def] at read
  simp only at read
  -- By the first character: what begins a text, a list, an object or one of the three words is no number.
  split at read
  case h_1 | h_5 | h_6 | h_7 =>
    obtain ⟨_, -, same⟩ := Option.map_eq_some_iff.mp read
    obtain rfl := congrArg Prod.fst same
    exact number.elim
  case h_2 | h_3 =>
    split at read
    · cases read
      exact number.elim
    · cases read
  case h_4 =>
    split at read
    next after found =>
      cases read
      rw [cons_append, value?.eq_def]
      simp only [afterWord?_append found, nil_append]
    next =>
      obtain ⟨c, more, rfl, digit⟩ := digit_of_number? read
      rw [cons_append, cons_append, value?_minus digit]
      exact going read
  case h_8 | h_9 =>
    obtain ⟨after, found, same⟩ := Option.map_eq_some_iff.mp read
    cases same
    rw [cons_append, value?.eq_def]
    simp only
    rw [← cons_append, afterWord?_append found]
    rfl
  case h_10 =>
    obtain ⟨c, more, rfl, digit⟩ := digit_of_number? read
    rw [cons_append, value?_digit digit]
    exact going read

/-- An integer is read back as it was written. -/
theorem value?_intText (n : Int) : value? 1 (Number.intText n).toList = some (.int n, []) := by
  obtain ⟨c, cs, same⟩ := exists_cons_of_ne_nil (Nat.toDigits_ne_nil (n := n.natAbs) (b := 10))
  have digit : isAsciiDigit c := isAsciiDigit_of_mem (by rw [same]; exact mem_cons_self)
  rw [Number.intText, Number.digitsText]
  split
  next negative =>
    have sign : ("-" ++ String.ofList (Nat.toDigits 10 n.natAbs)).toList = '-' :: c :: cs := by simp [same]
    have magnitude : -(n.natAbs : Int) = n := by omega
    rw [sign, value?_minus digit, ← same, number?_toDigits, if_pos rfl, magnitude]
  next positive =>
    have magnitude : (n.natAbs : Int) = n := by omega
    rw [String.toList_ofList, same, value?_digit digit, ← same, number?_toDigits, if_neg (by decide), magnitude]

/-! ## Documents -/

mutual

/-- A document whose objects have one field of each name, and whose doubles are read as they are written. -/
def Legible : Value → Prop
  | .real x => value? 1 (realText x).toList = some (.real x, [])
  | .list items => LegibleItems items
  | .object fields => (fields.map Prod.fst).Nodup ∧ LegibleFields fields
  | .null | .bool _ | .int _ | .text _ => True
termination_by structural v => v

def LegibleItems : List Value → Prop
  | [] => True
  | v :: rest => Legible v ∧ LegibleItems rest
termination_by structural items => items

def LegibleFields : List (String × Value) → Prop
  | [] => True
  | (_, v) :: rest => Legible v ∧ LegibleFields rest
termination_by structural fields => fields

end

theorem legibleItems_iff (items : List Value) : LegibleItems items ↔ ∀ v ∈ items, Legible v := by
  induction items with
  | nil => simp [LegibleItems]
  | cons v rest ih => rw [LegibleItems, ih, forall_mem_cons]

theorem legibleFields_iff (fields : List (String × Value)) :
    LegibleFields fields ↔ ∀ field ∈ fields, Legible field.2 := by
  induction fields with
  | nil => simp [LegibleFields]
  | cons field rest ih => rw [LegibleFields, ih, forall_mem_cons]

private theorem solid_of_value? {steps : Nat}
    (found : value? steps cs = some read) : ∃ c rest, cs = c :: rest ∧ Solid c := by
  cases steps with
  | zero => cases found
  | succ steps =>
    cases cs with
    | nil => cases found
    | cons c rest =>
      refine ⟨c, rest, rfl, ?_, ?_, ?_, ?_, ?_⟩ <;>
      · rintro rfl
        cases found

/-! ### Written documents -/

def itemsText (depth : Nat) (items : List Value) : List Char :=
  (String.intercalate ("," ++ breakTo depth) (prettyItems depth items)).toList

def fieldsText (depth : Nat) (fields : List (String × Value)) : List Char :=
  (String.intercalate ("," ++ breakTo depth) (prettyFields depth fields)).toList

section Written

variable (depth : Nat)

theorem pretty_null : (pretty depth .null).toList = ['n', 'u', 'l', 'l'] := by
  change "null".toList = _
  rfl

theorem pretty_true : (pretty depth (.bool true)).toList = ['t', 'r', 'u', 'e'] := by
  change "true".toList = _
  rfl

theorem pretty_false : (pretty depth (.bool false)).toList = ['f', 'a', 'l', 's', 'e'] := by
  change "false".toList = _
  rfl

theorem pretty_text (s : String) : (pretty depth (.text s)).toList = '"' :: (written s.toList ++ ['"']) :=
  quoted_toList s

theorem pretty_list_nil : (pretty depth (.list [])).toList = ['[', ']'] := by
  change "[]".toList = _
  rfl

theorem pretty_object_nil : (pretty depth (.object [])).toList = ['\x7b', '\x7d'] := by
  change "\x7b\x7d".toList = _
  rfl

theorem pretty_list (some : items ≠ []) :
    (pretty depth (.list items)).toList =
      '[' :: ((breakTo (depth + 1)).toList ++ (itemsText (depth + 1) items ++ ((breakTo depth).toList ++ [']']))) := by
  have occupied : items.isEmpty = false := by simpa using some
  simp [pretty, occupied, itemsText]

theorem pretty_object (some : fields ≠ []) :
    (pretty depth (.object fields)).toList = '\x7b' :: ((breakTo (depth + 1)).toList ++
      (fieldsText (depth + 1) fields ++ ((breakTo depth).toList ++ ['\x7d']))) := by
  have occupied : fields.isEmpty = false := by simpa using some
  simp [pretty, occupied, fieldsText]

theorem itemsText_singleton (v : Value) : itemsText depth [v] = (pretty depth v).toList := by
  rw [itemsText, prettyItems, prettyItems, String.intercalate_singleton]

theorem itemsText_cons (v w : Value) (rest : List Value) :
    itemsText depth (v :: w :: rest) =
      (pretty depth v).toList ++ (',' :: ((breakTo depth).toList ++ itemsText depth (w :: rest))) := by
  simp [itemsText, prettyItems, String.intercalate_cons_cons]

def fieldText (key : String) (v : Value) : List Char :=
  '"' :: (written key.toList ++ ('"' :: ':' :: ' ' :: (pretty depth v).toList))

theorem fieldsText_singleton (key : String) (v : Value) : fieldsText depth [(key, v)] = fieldText depth key v := by
  simp [fieldsText, prettyFields, String.intercalate_singleton, fieldText, quoted_toList]

theorem fieldsText_cons (key : String) (v : Value) (field : String × Value) (rest : List (String × Value)) :
    fieldsText depth ((key, v) :: field :: rest) =
      fieldText depth key v ++ (',' :: ((breakTo depth).toList ++ fieldsText depth (field :: rest))) := by
  simp [fieldsText, prettyFields, String.intercalate_cons_cons, fieldText, quoted_toList]

end Written

/-- The text of a document begins neither with a blank nor with what closes a list. -/
theorem pretty_solid (legible : Legible v) (depth : Nat) :
    ∃ c rest, (pretty depth v).toList = c :: rest ∧ Solid c := by
  cases v with
  | null => exact ⟨'n', _, pretty_null depth, by decide⟩
  | bool flag =>
    cases flag
    · exact ⟨'f', _, pretty_false depth, by decide⟩
    · exact ⟨'t', _, pretty_true depth, by decide⟩
  | int n => exact solid_of_value? (value?_intText n)
  | real x => exact solid_of_value? legible
  | text s => exact ⟨'"', _, pretty_text depth s, by decide⟩
  | list items =>
    by_cases none : items = []
    · exact ⟨'[', _, none ▸ pretty_list_nil depth, by decide⟩
    · exact ⟨'[', _, pretty_list depth none, by decide⟩
  | object fields =>
    by_cases none : fields = []
    · exact ⟨'\x7b', _, none ▸ pretty_object_nil depth, by decide⟩
    · exact ⟨'\x7b', _, pretty_object depth none, by decide⟩

/-! ### Steps of the reader -/

section Steps

variable {steps : Nat} {depth : Nat} {v : Value} {c : Char} {cs more rest : List Char}

private theorem value?_openList (first : skipBlanks front = c :: cs) (other : c ≠ ']') :
    value? (steps + 1) ('[' :: front) = (items? steps [] (c :: cs)).map fun read => (.list read.1, read.2) := by
  rw [value?.eq_def]
  simp only [first]
  split
  next same =>
    cases same
    contradiction
  next => rfl

private theorem value?_openObject (first : skipBlanks front = '"' :: cs) :
    value? (steps + 1) ('\x7b' :: front) =
      (fields? steps [] ('"' :: cs)).map fun read => (Value.ofEntries read.1, read.2) := by
  rw [value?.eq_def]
  simp only [first]
  rfl

private theorem items?_last (done : List Value)
    (read : value? steps cs = some (v, (breakTo depth).toList ++ ']' :: rest)) :
    items? (steps + 1) done cs = some ((v :: done).reverse, rest) := by
  rw [items?, read]
  simp only [skipBlanks_breakTo]
  rfl

theorem skipBlanks_comma (rest : List Char) : skipBlanks (',' :: rest) = ',' :: rest := rfl

private theorem items?_more (done : List Value) (solid : Solid c)
    (read : value? steps cs = some (v, ',' :: ((breakTo depth).toList ++ c :: more))) :
    items? (steps + 1) done cs = items? steps (v :: done) (c :: more) := by
  rw [items?, read]
  simp only [skipBlanks_comma, skipBlanks_breakTo, skipBlanks_of_solid solid]

theorem skipBlanks_space (solid : Solid c) : skipBlanks (' ' :: c :: cs) = c :: cs := by
  rw [skipBlanks, if_pos (.inl rfl), skipBlanks_of_solid solid]

theorem skipBlanks_colon (rest : List Char) : skipBlanks (':' :: rest) = ':' :: rest := rfl

private theorem fields?_last (done : List (String × Value)) (key : String) (solid : Solid c)
    (read : value? steps (c :: cs) = some (v, (breakTo depth).toList ++ '\x7d' :: rest)) :
    fields? (steps + 1) done ('"' :: (written key.toList ++ '"' :: ':' :: ' ' :: c :: cs)) =
      some (((key, v) :: done).reverse, rest) := by
  rw [fields?]
  simp only [string?_written, skipBlanks_colon, skipBlanks_space solid, read, skipBlanks_breakTo]
  rfl

private theorem fields?_more (done : List (String × Value)) (key : String) (solid : Solid c)
    (read : value? steps (c :: cs) = some (v, ',' :: ((breakTo depth).toList ++ '"' :: more))) :
    fields? (steps + 1) done ('"' :: (written key.toList ++ '"' :: ':' :: ' ' :: c :: cs)) =
      fields? steps ((key, v) :: done) ('"' :: more) := by
  rw [fields?]
  simp only [string?_written, skipBlanks_colon, skipBlanks_space solid, read, skipBlanks_comma, skipBlanks_breakTo]
  rfl

end Steps

private theorem ends_nil : Ends [] := by simp [Ends]

theorem ends_comma (rest : List Char) : Ends (',' :: rest) := fun _ same => .inl (Option.some.inj same).symm

theorem ends_breakTo (depth : Nat) (rest : List Char) : Ends ((breakTo depth).toList ++ rest) := by
  rw [breakTo_toList]
  exact fun _ same => .inr (Option.some.inj same).symm

/-- A value is read back from its text, in as many steps as the text has characters. -/
def ReadBack (v : Value) : Prop :=
  ∀ (depth steps : Nat) (rest : List Char), Ends rest → (pretty depth v).toList.length ≤ steps →
    value? steps ((pretty depth v).toList ++ rest) = some (v, rest)

/-- It is enough that a value is read back in one step and any number of others. -/
theorem readBack_of_succ (legible : Legible v)
    (read : ∀ (depth steps : Nat) (rest : List Char), Ends rest → (pretty depth v).toList.length ≤ steps + 1 →
      value? (steps + 1) ((pretty depth v).toList ++ rest) = some (v, rest)) : ReadBack v := by
  intro depth steps rest ends enough
  obtain ⟨c, more, text, -⟩ := pretty_solid legible depth
  cases steps with
  | zero =>
    rw [text] at enough
    contradiction
  | succ steps => exact read depth steps rest ends enough

private theorem readBack_number (legible : Legible v) (number : IsNumber v)
    (read : ∀ depth, value? 1 (pretty depth v).toList = some (v, [])) : ReadBack v :=
  readBack_of_succ legible fun depth steps _ ends _ => value?_number number (read depth) ends steps

private theorem readBack_null : ReadBack .null :=
  readBack_of_succ trivial fun depth steps rest _ _ => by
    rw [pretty_null]
    rfl

private theorem readBack_bool (flag : Bool) : ReadBack (.bool flag) :=
  readBack_of_succ trivial fun depth steps rest _ _ => by
    cases flag
    · rw [pretty_false]
      rfl
    · rw [pretty_true]
      rfl

private theorem readBack_text (s : String) : ReadBack (.text s) :=
  readBack_of_succ trivial fun depth steps rest _ _ => by
    rw [pretty_text, cons_append, append_assoc, value?.eq_def]
    simp only [cons_append, nil_append, string?_written]
    rfl

/-- Written items start with a character that is not skipped. -/
theorem itemsText_solid (legible : Legible v) (depth : Nat) (more : List Value) :
    ∃ c rest, itemsText depth (v :: more) = c :: rest ∧ Solid c := by
  obtain ⟨c, rest, text, solid⟩ := pretty_solid legible depth
  cases more with
  | nil => exact ⟨c, rest, by rw [itemsText_singleton, text], solid⟩
  | cons w more => exact ⟨c, _, by rw [itemsText_cons, text, cons_append], solid⟩

private theorem items?_itemsText (each : ∀ v ∈ items, Legible v ∧ ReadBack v) (some : items ≠ [])
    (depth outer : Nat) (rest : List Char) (steps : Nat) (done : List Value)
    (enough : (itemsText depth items).length < steps) :
    items? steps done (itemsText depth items ++ ((breakTo outer).toList ++ ']' :: rest)) =
      .some (done.reverse ++ items, rest) := by
  induction items generalizing steps done with
  | nil => contradiction
  | cons v more ih =>
    obtain ⟨steps, rfl⟩ := Nat.exists_eq_add_one_of_ne_zero (Nat.ne_zero_of_lt enough)
    obtain ⟨⟨-, here⟩, others⟩ := forall_mem_cons.mp each
    cases more with
    | nil =>
      rw [itemsText_singleton] at enough ⊢
      rw [items?_last done (here depth steps _ (ends_breakTo outer _) (by omega)), reverse_cons]
    | cons w more =>
      -- The comma and the line break pay for the step, so the steps that are left are enough for the other items.
      obtain ⟨c, tail, text, solid⟩ := itemsText_solid (others w mem_cons_self).1 depth more
      rw [itemsText_cons, length_append, length_cons, length_append] at enough
      have read := here depth steps (',' :: ((breakTo depth).toList ++ (itemsText depth (w :: more)
        ++ ((breakTo outer).toList ++ ']' :: rest)))) (ends_comma _) (by omega)
      have next := ih others (cons_ne_nil w more) steps (v :: done) (by omega)
      rw [itemsText_cons, append_assoc, cons_append, append_assoc]
      rw [text, cons_append] at read next ⊢
      rw [items?_more done solid read, next, reverse_cons, append_assoc]
      rfl

private theorem readBack_list (each : ∀ v ∈ items, Legible v ∧ ReadBack v) : ReadBack (.list items) := by
  have legible : Legible (.list items) := (legibleItems_iff items).mpr fun v member => (each v member).1
  refine readBack_of_succ legible fun depth steps rest _ enough => ?_
  cases items with
  | nil =>
    rw [pretty_list_nil]
    rfl
  | cons v more =>
    have some := cons_ne_nil v more
    obtain ⟨c, tail, text, solid⟩ := itemsText_solid (each v mem_cons_self).1 (depth + 1) more
    rw [pretty_list depth some] at enough ⊢
    simp only [length_cons, length_append] at enough
    have read := items?_itemsText each some (depth + 1) depth rest steps [] (by omega)
    rw [cons_append, append_assoc, append_assoc, append_assoc, singleton_append]
    rw [text, cons_append] at read ⊢
    rw [value?_openList (by rw [skipBlanks_breakTo, skipBlanks_of_solid solid]) solid.2.2.2.2, read]
    rfl

theorem fieldsText_quoted (depth : Nat) (field : String × Value) (more : List (String × Value)) :
    ∃ rest, fieldsText depth (field :: more) = '"' :: rest := by
  cases more with
  | nil => exact ⟨_, fieldsText_singleton depth field.1 field.2⟩
  | cons other more => exact ⟨_, fieldsText_cons depth field.1 field.2 other more⟩

private theorem fields?_fieldsText (each : ∀ field ∈ fields, Legible field.2 ∧ ReadBack field.2)
    (some : fields ≠ []) (depth outer : Nat) (rest : List Char) (steps : Nat) (done : List (String × Value))
    (enough : (fieldsText depth fields).length < steps) :
    fields? steps done (fieldsText depth fields ++ ((breakTo outer).toList ++ '\x7d' :: rest)) =
      .some (done.reverse ++ fields, rest) := by
  induction fields generalizing steps done with
  | nil => contradiction
  | cons field more ih =>
    obtain ⟨steps, rfl⟩ := Nat.exists_eq_add_one_of_ne_zero (Nat.ne_zero_of_lt enough)
    obtain ⟨key, v⟩ := field
    obtain ⟨⟨(legible : Legible v), (here : ReadBack v)⟩, others⟩ := forall_mem_cons.mp each
    obtain ⟨c, tail, text, solid⟩ := pretty_solid legible depth
    cases more with
    | nil =>
      rw [fieldsText_singleton, fieldText] at enough ⊢
      simp only [length_cons, length_append] at enough
      have read := here depth steps _ (ends_breakTo outer ('\x7d' :: rest)) (by omega)
      rw [text, cons_append] at read
      simp only [cons_append, append_assoc, text]
      rw [fields?_last done key solid read, reverse_cons]
    | cons other more =>
      obtain ⟨behind, quoted⟩ := fieldsText_quoted depth other more
      rw [fieldsText_cons, fieldText] at enough ⊢
      simp only [length_cons, length_append] at enough
      have read := here depth steps (',' :: ((breakTo depth).toList ++ (fieldsText depth (other :: more)
        ++ ((breakTo outer).toList ++ '\x7d' :: rest)))) (ends_comma _) (by omega)
      have next := ih others (cons_ne_nil other more) steps ((key, v) :: done) (by omega)
      rw [text, quoted, cons_append, cons_append] at read
      rw [quoted, cons_append] at next
      simp only [cons_append, append_assoc, text, quoted]
      rw [fields?_more done key solid read, next, reverse_cons, append_assoc]
      rfl

private theorem readBack_object (nodup : (fields.map Prod.fst).Nodup)
    (each : ∀ field ∈ fields, Legible field.2 ∧ ReadBack field.2) : ReadBack (.object fields) := by
  have legible : Legible (.object fields) :=
    ⟨nodup, (legibleFields_iff fields).mpr fun field member => (each field member).1⟩
  refine readBack_of_succ legible fun depth steps rest _ enough => ?_
  cases fields with
  | nil =>
    rw [pretty_object_nil]
    rfl
  | cons field more =>
    have some := cons_ne_nil field more
    obtain ⟨tail, quoted⟩ := fieldsText_quoted (depth + 1) field more
    rw [pretty_object depth some] at enough ⊢
    simp only [length_cons, length_append] at enough
    have read := fields?_fieldsText each some (depth + 1) depth rest steps [] (by omega)
    rw [cons_append, append_assoc, append_assoc, append_assoc, singleton_append]
    rw [quoted, cons_append] at read ⊢
    rw [value?_openObject (by rw [skipBlanks_breakTo, skipBlanks_of_solid (by decide)]), read]
    simp only [Option.map_some, reverse_nil, nil_append, Value.ofEntries_of_nodup nodup]

mutual

/-- A legible value is read back as it was printed. -/
theorem readBack : (v : Value) → Legible v → ReadBack v
  | .null, _ => readBack_null
  | .bool flag, _ => readBack_bool flag
  | .int n, legible => readBack_number legible trivial fun _ => value?_intText n
  | .real _, legible => readBack_number legible trivial fun _ => legible
  | .text s, _ => readBack_text s
  | .list items, legible => readBack_list (readBackItems items legible)
  | .object fields, legible => readBack_object legible.1 (readBackFields fields legible.2)

theorem readBackItems : (items : List Value) → LegibleItems items → ∀ v ∈ items, Legible v ∧ ReadBack v
  | [], _ => forall_mem_nil _
  | v :: rest, legible =>
    forall_mem_cons.mpr ⟨⟨legible.1, readBack v legible.1⟩, readBackItems rest legible.2⟩

theorem readBackFields : (fields : List (String × Value)) → LegibleFields fields →
    ∀ field ∈ fields, Legible field.2 ∧ ReadBack field.2
  | [], _ => forall_mem_nil _
  | (_, v) :: rest, legible =>
    forall_mem_cons.mpr ⟨⟨legible.1, readBack v legible.1⟩, readBackFields rest legible.2⟩

end

/-- A legible document is read back from its text over several lines. -/
theorem parse?_indented (legible : Legible v) : parse? (indented v) = some v := by
  have read := readBack v legible 0 ((pretty 0 v).toList.length + 1) [] ends_nil (Nat.le_succ _)
  obtain ⟨c, rest, text, solid⟩ := pretty_solid legible 0
  rw [append_nil] at read
  rw [indented, parse?]
  simp only [text, skipBlanks_of_solid solid] at read ⊢
  rw [read]
  rfl

end ContractLint.Document.Json
