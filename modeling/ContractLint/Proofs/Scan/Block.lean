import ContractLint.Scan.Source
import Mathlib.Data.Nat.Find
import Mathlib.Data.Set.Basic
import Mathlib.Order.Bounds.Defs

/-! # Blocks between braces

A rule about a function or a loop asks for the text of a block. The lines of the block are those from the first one
after a given line that opens a brace to the one where the braces balance (`Extent`, `firstBlock_eq`).

The given line is the one on which the function or loop begins, so its own brace is passed over. What the rule sees is
the first block inside the function, or one after it. It sees the lines of the function exactly if these are themselves
one block, which begins on the next line, or if there are none and no other block follows (`body_encloses_iff`).
-/

namespace ContractLint.Scan

open List

variable {line : String} {a number : Nat}

namespace Block

/-- The number of braces that a line opens, less those that it closes. -/
def excess (line : String) : Int := Text.countChar '\x7b' line - Text.countChar '\x7d' line

/-- The number of braces that some lines open, less those that they close. -/
def surplus (lines : List String) : Int := (lines.map excess).sum

theorem surplus_cons (line : String) (rest : List String) : surplus (line :: rest) = excess line + surplus rest := rfl

def linesTo (lines : List String) (first last : Nat) : List String := (lines.take last).drop (first - 1)

/-- The number of braces that are opened and not closed from one line to another. -/
def depth (lines : List String) (first last : Nat) : Int := surplus (linesTo lines first last)

def On (lines : List String) (number : Nat) (property : String → Prop) : Prop :=
  ∃ line ∈ lines[number - 1]?, 0 < number ∧ property line

def Opens (line : String) : Prop := 0 < Text.countChar '\x7b' line

instance : DecidablePred Opens := fun line => inferInstanceAs (Decidable (0 < Text.countChar '\x7b' line))

/-- A line opens one brace and closes none. -/
def OpensOne (line : String) : Prop := Text.countChar '\x7b' line = 1 ∧ Text.countChar '\x7d' line = 0

/-- The block that is read after line `start` extends from line `first`, the next one that opens a brace, to line
`last`, where the braces balance or the lines end. -/
structure Extent (lines : List String) (start first last : Nat) : Prop where
  after : start < first
  opened : On lines first Opens
  earlier : ∀ number, start < number → number < first → ¬On lines number Opens
  ordered : first ≤ last
  inside : last ≤ lines.length
  unbalanced : ∀ number, first ≤ number → number < last → 0 < depth lines first number
  ended : depth lines first last ≤ 0 ∨ last = lines.length

/-- A line is part of the block that is read after line `start`. -/
def Reads (lines : List String) (start number : Nat) : Prop :=
  ∃ first last, Extent lines start first last ∧ first ≤ number ∧ number ≤ last

/-! ## Lines by their numbers -/

variable {lines : List String} {start first last : Nat}

theorem linesTo_eq (lines : List String) (first last : Nat) :
    linesTo lines first last = (lines.drop (first - 1)).take (last - (first - 1)) := drop_take

private theorem linesTo_cons (known : lines[first - 1]? = some line) (positive : 0 < first)
    (ordered : first ≤ last) : linesTo lines first last = line :: linesTo lines (first + 1) last := by
  obtain ⟨within, rfl⟩ := List.getElem?_eq_some_iff.mp known
  have next : last - (first - 1) = last - first + 1 := by omega
  have following : first - 1 + 1 = first := by omega
  rw [linesTo_eq, linesTo_eq, drop_eq_getElem_cons within, next, take_succ_cons, following, Nat.add_sub_cancel]

private theorem depth_cons (known : lines[first - 1]? = some line) (positive : 0 < first)
    (ordered : first ≤ last) : depth lines first last = excess line + depth lines (first + 1) last := by
  rw [depth, linesTo_cons known positive ordered, surplus_cons, depth]

/-! ## Reading a block -/

/-- A block ends where the braces balance for the first time, or with the lines. -/
theorem blockFrom_eq_take {level : Int} {count : Nat} (positive : 0 < count) (inside : count ≤ lines.length)
    (unbalanced : ∀ fewer, 0 < fewer → fewer < count → 0 < level + surplus (lines.take fewer))
    (ended : level + surplus (lines.take count) ≤ 0 ∨ count = lines.length) :
    blockFrom level lines = lines.take count := by
  induction lines generalizing level count with
  | nil => rw [blockFrom, take_nil]
  | cons line rest ih =>
    obtain ⟨fewer, rfl⟩ : ∃ fewer, count = fewer + 1 := ⟨count - 1, by omega⟩
    have one : surplus ((line :: rest).take 1) = excess line := by simp [surplus]
    have here : level + Text.countChar '\x7b' line - Text.countChar '\x7d' line = level + excess line := by
      rw [excess]
      omega
    rw [blockFrom, here, take_succ_cons]
    cases fewer with
    | zero =>
      obtain balanced | all := ended
      · rw [one] at balanced
        rw [if_pos balanced, take_zero]
      · obtain rfl : rest = [] := by simpa using all.symm
        simp [blockFrom]
    | succ fewer =>
      have remains := unbalanced 1 (by omega) (by omega)
      rw [one] at remains
      rw [if_neg (by omega)]
      congr 1
      apply ih (by omega) (by simpa using inside)
      · intro less more within
        have later := unbalanced (less + 1) (by omega) (by omega)
        rw [take_succ_cons, surplus_cons] at later
        omega
      · obtain balanced | all := ended
        · rw [take_succ_cons, surplus_cons] at balanced
          exact .inl (by omega)
        · exact .inr (by simpa using all)

/-- Lines that open nothing are passed over. -/
theorem firstBlock_append {before : List String} (closed : ∀ line ∈ before, ¬Opens line) (rest : List String) :
    firstBlock (before ++ rest) = firstBlock rest := by
  induction before with
  | nil => rfl
  | cons line before ih =>
    obtain ⟨here, later⟩ := forall_mem_cons.mp closed
    rw [cons_append, firstBlock, if_pos (Nat.eq_zero_of_not_pos here), ih later]

private theorem firstBlock_of_opens (opens : Opens line) (rest : List String) :
    firstBlock (line :: rest) = blockFrom 0 (line :: rest) := by
  rw [firstBlock, if_neg (Nat.ne_of_gt opens)]

/-- The first block has the lines of its extent. -/
theorem firstBlock_eq (extent : Extent lines start first last) :
    firstBlock (lines.drop start) = linesTo lines first last := by
  have after := extent.after
  have ordered := extent.ordered
  have inside := extent.inside
  obtain ⟨line, known, positive, opens⟩ := extent.opened
  obtain ⟨within, rfl⟩ := List.getElem?_eq_some_iff.mp known
  -- The lines up to the first one that opens a brace are passed over.
  have parts : lines.drop start = (lines.drop start).take (first - 1 - start) ++ lines.drop (first - 1) := by
    conv_lhs => rw [← take_append_drop (first - 1 - start) (lines.drop start)]
    rw [drop_drop, show start + (first - 1 - start) = first - 1 by omega]
  have passed : ∀ line ∈ (lines.drop start).take (first - 1 - start), ¬Opens line := by
    intro line member opens
    obtain ⟨index, bound, rfl⟩ := mem_iff_getElem.mp member
    rw [getElem_take, getElem_drop] at opens
    have limit : index < first - 1 - start := by
      rw [length_take] at bound
      omega
    refine extent.earlier (start + index + 1) (by omega) (by omega) ⟨_, ?_, by omega, opens⟩
    exact getElem?_eq_getElem _
  rw [parts, firstBlock_append passed, linesTo_eq, drop_eq_getElem_cons within, firstBlock_of_opens opens,
    ← drop_eq_getElem_cons within]
  -- From there on the depth is counted from nothing.
  have counted (number : Nat) :
      depth lines first number = 0 + surplus ((lines.drop (first - 1)).take (number - (first - 1))) := by
    rw [depth, linesTo_eq, Int.zero_add]
  apply blockFrom_eq_take (by omega)
  · rw [length_drop]
    omega
  · intro fewer positive less
    have remains := extent.unbalanced (first - 1 + fewer) (by omega) (by omega)
    rwa [counted, Nat.add_sub_cancel_left] at remains
  · rw [← counted, length_drop]
    exact extent.ended.imp_right (by omega)

/-- Without a line that opens one there is no block. -/
theorem firstBlock_eq_nil (closed : ∀ number, start < number → ¬On lines number Opens) :
    firstBlock (lines.drop start) = [] := by
  have passed : ∀ line ∈ lines.drop start, ¬Opens line := by
    intro line member opens
    obtain ⟨index, bound, rfl⟩ := mem_iff_getElem.mp member
    rw [getElem_drop] at opens
    refine closed (start + index + 1) (by omega) ⟨_, ?_, by omega, opens⟩
    exact getElem?_eq_getElem _
  have all := firstBlock_append passed []
  rw [append_nil] at all
  exact all

/-! ## Extents -/

/-- A later line that opens a block gives an extent. -/
theorem exists_extent (opened : On lines number Opens) (after : start < number) :
    ∃ first last, Extent lines start first last := by
  classical
  have any : ∃ number, start < number ∧ On lines number Opens := ⟨number, after, opened⟩
  obtain ⟨later, opens⟩ := Nat.find_spec any
  have known : Nat.find any ≤ lines.length := by
    obtain ⟨line, known, positive, -⟩ := opens
    obtain ⟨within, -⟩ := List.getElem?_eq_some_iff.mp known
    omega
  have ends : ∃ last, Nat.find any ≤ last ∧ (depth lines (Nat.find any) last ≤ 0 ∨ last = lines.length) :=
    ⟨lines.length, known, .inr rfl⟩
  obtain ⟨ordered, ended⟩ := Nat.find_spec ends
  refine ⟨Nat.find any, Nat.find ends, later, opens, ?_, ordered, ?_, ?_, ended⟩
  · intro number after before opens
    exact Nat.find_min any before ⟨after, opens⟩
  · exact Nat.find_min' ends ⟨known, .inr rfl⟩
  · intro number inside before
    by_contra balanced
    exact Nat.find_min ends before ⟨inside, .inl (by omega)⟩

private theorem Extent.first_eq {first' last' : Nat} (one : Extent lines start first last)
    (other : Extent lines start first' last') : first = first' := by
  apply Nat.le_antisymm
  · by_contra before
    exact one.earlier first' other.after (by omega) other.opened
  · by_contra before
    exact other.earlier first one.after (by omega) one.opened

private theorem Extent.last_le {last' : Nat} (one : Extent lines start first last)
    (other : Extent lines start first last') : last ≤ last' := by
  by_contra before
  have remains := one.unbalanced last' other.ordered (by omega)
  have inside := one.inside
  have ended := other.ended
  omega

/-- Read are the lines of the extent. -/
theorem Extent.reads_iff (extent : Extent lines start first last) :
    Reads lines start number ↔ first ≤ number ∧ number ≤ last := by
  constructor
  · rintro ⟨first', last', other, within⟩
    obtain rfl := extent.first_eq other
    exact ⟨within.1, Nat.le_trans within.2 (other.last_le extent)⟩
  · exact fun within => ⟨first, last, extent, within⟩

private theorem Extent.eq_succ (extent : Extent lines start first last) (next : On lines (start + 1) Opens) :
    first = start + 1 := by
  have after := extent.after
  by_contra later
  exact extent.earlier (start + 1) (by omega) (by omega) next

/-! ## Functions and loops -/

variable {i k : Nat}

theorem depth_succ (opening : On lines i OpensOne) (after : i ≤ number) :
    depth lines i number = depth lines (i + 1) number + 1 := by
  obtain ⟨line, known, positive, one, none⟩ := opening
  rw [depth_cons known positive after, excess, one, none]
  omega

/-- All lines between two lines are read after the first of them, and none after the second. -/
def Encloses (lines : List String) (i k : Nat) : Prop :=
  (∀ number, i < number → number < k → Reads lines i number) ∧ ∀ number, k < number → ¬Reads lines i number

/-- The lines between two lines are one block, which begins at once; or there are none, and no block follows. -/
def IsOneBlock (lines : List String) (i k : Nat) : Prop :=
  if k = i + 1 then On lines k Opens ∨ ∀ number, k < number → ¬On lines number Opens
  else On lines (i + 1) Opens ∧ ∀ number, i < number → number + 1 < k → 2 ≤ depth lines i number

/-- A block that begins inside a function ends inside it. -/
theorem Extent.last_le_of_next (opening : On lines i OpensOne) (later : i < k) (balanced : depth lines i k ≤ 0)
    (extent : Extent lines i (i + 1) last) : last ≤ k := by
  by_contra beyond
  have remains := extent.unbalanced k (by omega) (by omega)
  have outer := depth_succ opening (Nat.le_of_lt later)
  omega

private theorem isOneBlock_of_encloses (opening : On lines i OpensOne) (later : i < k) (encloses : Encloses lines i k) :
    IsOneBlock lines i k := by
  obtain ⟨covers, none⟩ := encloses
  rw [IsOneBlock]
  split
  next next =>
    by_contra neither
    obtain ⟨here, after⟩ := not_or.mp neither
    obtain ⟨number, beyond, opens⟩ : ∃ number, k < number ∧ On lines number Opens := by
      simpa only [not_forall, not_not, exists_prop] using after
    obtain ⟨first, last, extent⟩ := exists_extent opens (Nat.lt_trans later beyond)
    have start := extent.after
    have passed : first ≠ k := fun same => here (same ▸ extent.opened)
    exact none first (by omega) (extent.reads_iff.mpr ⟨Nat.le_refl first, extent.ordered⟩)
  next apart =>
    obtain ⟨first, last, extent, before, -⟩ := covers (i + 1) (by omega) (by omega)
    have start := extent.after
    obtain rfl : first = i + 1 := by omega
    refine ⟨extent.opened, fun number after limit => ?_⟩
    have reached := (extent.reads_iff.mp (covers (number + 1) (by omega) limit)).2
    have remains := extent.unbalanced number (by omega) (by omega)
    have outer := depth_succ opening (Nat.le_of_lt after)
    omega

private theorem encloses_of_isOneBlock (opening : On lines i OpensOne) (later : i < k) (inside : k ≤ lines.length)
    (balanced : depth lines i k ≤ 0) (single : IsOneBlock lines i k) : Encloses lines i k := by
  rw [IsOneBlock] at single
  split at single
  next next =>
    refine ⟨fun number after before => by omega, ?_⟩
    rintro number beyond ⟨first, last, extent, within⟩
    have start := extent.after
    obtain rfl : first = i + 1 := by
      obtain here | none := single
      · exact extent.eq_succ (next ▸ here)
      · by_contra after
        exact none first (by omega) extent.opened
    have limit := extent.last_le_of_next opening later balanced
    omega
  next apart =>
    obtain ⟨here, deep⟩ := single
    obtain ⟨first, last, extent⟩ := exists_extent here (Nat.lt_succ_self i)
    obtain rfl := extent.eq_succ here
    have limit := extent.last_le_of_next opening later balanced
    have start := extent.ordered
    have reached : k ≤ last + 1 := by
      by_contra short
      have remains := deep last (by omega) (by omega)
      have outer := depth_succ opening (Nat.le_of_succ_le start)
      have ended := extent.ended
      omega
    refine ⟨fun number after before => extent.reads_iff.mpr (by omega), fun number beyond reads => ?_⟩
    have within := extent.reads_iff.mp reads
    omega

theorem blockText_eq (source : Source) (line : Nat) : blockText source.lines line = .ok (source.blockAfter line) := by
  rw [blockText, linesFrom, if_pos (Int.natCast_nonneg line), Int.toNat_natCast]
  rfl

/-- A line opens one brace, and the braces balance again at a later one. The text of the block that is read after the
first line shows all lines between the two and none after the second exactly if the lines between them are one block,
which begins at once, or if there are none and no block follows. The text of the block that is read after the line
before shows the two lines and those between them. -/
theorem body_encloses_iff (source : Source) {i k : Nat} (opening : On source.lines i OpensOne) (later : i < k)
    (inside : k ≤ source.lines.length) (balanced : depth source.lines i k ≤ 0) :
    (Encloses source.lines i k ↔ IsOneBlock source.lines i k) ∧
    blockText source.lines i = .ok (source.blockAfter i) ∧
    (∀ first last, Extent source.lines i first last →
      source.blockAfter i = Text.joinLines (linesTo source.lines first last)) ∧
    ((∀ number, ¬Reads source.lines i number) → source.blockAfter i = "") ∧
    ((∀ number, i ≤ number → number < k → 0 < depth source.lines i number) →
      source.blockAfter (i - 1) = Text.joinLines (linesTo source.lines i k)) := by
  refine ⟨⟨isOneBlock_of_encloses opening later, encloses_of_isOneBlock opening later inside balanced⟩,
    blockText_eq source i, fun first last extent => ?_, fun none => ?_, fun unbalanced => ?_⟩
  · rw [Source.blockAfter, firstBlock_eq extent]
  · rw [Source.blockAfter, firstBlock_eq_nil]
    · rfl
    · intro number after opens
      obtain ⟨first, last, extent⟩ := exists_extent opens after
      exact none first (extent.reads_iff.mpr ⟨Nat.le_refl first, extent.ordered⟩)
  · obtain ⟨line, known, positive, one, -⟩ := opening
    have extent : Extent source.lines (i - 1) i k := by
      refine ⟨by omega, ⟨line, known, positive, ?_⟩, fun number after before => by omega, Nat.le_of_lt later,
        inside,
        unbalanced, .inl balanced⟩
      rw [Opens, one]
      exact Nat.one_pos
    rw [Source.blockAfter, firstBlock_eq extent]

/-- A loop whose lines are one block. -/
def nestedLoop : Source where
  content := "for _, x := range xs \x7b\nif x.ok \x7b\nuse(x)\n\x7d\n\x7d"
  lines := ["for _, x := range xs \x7b", "if x.ok \x7b", "use(x)", "\x7d", "\x7d"]

theorem body_encloses_iff_nested :
    On nestedLoop.lines 1 OpensOne ∧ depth nestedLoop.lines 1 5 ≤ 0 ∧ Encloses nestedLoop.lines 1 5 ∧
      nestedLoop.blockAfter 0 = Text.joinLines nestedLoop.lines := by
  have opening : On nestedLoop.lines 1 OpensOne := ⟨_, rfl, by decide, by decide, by decide⟩
  have balanced : depth nestedLoop.lines 1 5 ≤ 0 := by decide
  have single : IsOneBlock nestedLoop.lines 1 5 := by
    refine (if_neg (by decide)).mpr ⟨⟨_, rfl, by decide, by decide⟩, fun number after before => ?_⟩
    obtain rfl | rfl : number = 2 ∨ number = 3 := by omega
    all_goals decide
  obtain ⟨encloses, -, -, -, whole⟩ := body_encloses_iff nestedLoop opening (by decide) (by decide) balanced
  refine ⟨opening, balanced, encloses.mpr single, whole fun number after before => ?_⟩
  obtain rfl | rfl | rfl | rfl : number = 1 ∨ number = 2 ∨ number = 3 ∨ number = 4 := by omega
  all_goals decide

def twoFunctions : Source where
  content := "func f() \x7b\na\n\x7d\nfunc g() \x7b\nb\n\x7d"
  lines := ["func f() \x7b", "a", "\x7d", "func g() \x7b", "b", "\x7d"]

/-- The line of the first function is not read, but the second function is. -/
theorem second_function_read :
    On twoFunctions.lines 1 OpensOne ∧ depth twoFunctions.lines 1 1 = 1 ∧ depth twoFunctions.lines 1 2 = 1 ∧
      depth twoFunctions.lines 1 3 = 0 ∧ blockText twoFunctions.lines 1 = .ok "func g() \x7b\nb\n\x7d" ∧
      ¬Reads twoFunctions.lines 1 2 ∧ Reads twoFunctions.lines 1 4 := by
  have extent : Extent twoFunctions.lines 1 4 6 := by
    refine ⟨by decide, ⟨_, rfl, by decide, by decide⟩, fun number after before => ?_, by decide, by decide,
      fun number after before => ?_, .inr rfl⟩
    · rintro ⟨line, known, -, opens⟩
      obtain rfl | rfl : number = 2 ∨ number = 3 := by omega
      all_goals
        cases known
        exact absurd opens (by decide)
    · obtain rfl | rfl : number = 4 ∨ number = 5 := by omega
      all_goals decide
  refine ⟨⟨_, rfl, by decide, by decide, by decide⟩, by decide, by decide, by decide, ?_, ?_, ?_⟩
  · have read := blockText_eq twoFunctions 1
    rw [Source.blockAfter, firstBlock_eq extent] at read
    exact read
  · rw [extent.reads_iff]
    omega
  · exact extent.reads_iff.mpr (by omega)

/-! ## Blocks by index -/

/-- The indices, not before `start`, of lines with an opening brace. -/
def openings (lines : List String) (start : Nat) : Set Nat :=
  {a | start ≤ a ∧ ∃ line ∈ lines[a]?, '\x7b' ∈ line.toList}

/-- How often a character occurs in the lines with indices from `a` to `b`. -/
def occurrences (c : Char) (lines : List String) (a b : Nat) : Nat :=
  (((lines.take (b + 1)).drop a).map (Text.countChar c)).sum

/-- The indices of lines up to which, from index `a` on, at least as many braces are closed as are opened. -/
def closings (lines : List String) (a : Nat) : Set Nat :=
  {b | a ≤ b ∧ b < lines.length ∧ occurrences '\x7b' lines a b ≤ occurrences '\x7d' lines a b}

private theorem surplus_eq (lines : List String) :
    surplus lines = ((lines.map (Text.countChar '\x7b')).sum : Nat) -
      ((lines.map (Text.countChar '\x7d')).sum : Nat) := by
  induction lines with
  | nil => rfl
  | cons line rest ih =>
    rw [surplus_cons, ih, excess, map_cons, map_cons, sum_cons, sum_cons]
    omega

private theorem depth_le_zero_iff {b : Nat} :
    depth lines (a + 1) (b + 1) ≤ 0 ↔ occurrences '\x7b' lines a b ≤ occurrences '\x7d' lines a b := by
  rw [depth, surplus_eq, ← Int.ofNat_le]
  exact ⟨Int.le_of_sub_nonpos, Int.sub_nonpos_of_le⟩

theorem mem_openings_iff : a ∈ openings lines start ↔ start < a + 1 ∧ On lines (a + 1) Opens := by
  rw [Nat.lt_add_one_iff]
  simp [openings, On, Opens, Text.countChar, count_pos_iff]

private theorem Extent.isLeast_openings (extent : Extent lines start (a + 1) last) :
    IsLeast (openings lines start) a := by
  refine ⟨mem_openings_iff.mpr ⟨extent.after, extent.opened⟩, fun other member => ?_⟩
  obtain ⟨after, opens⟩ := mem_openings_iff.mp member
  by_contra before
  exact extent.earlier (other + 1) after (by omega) opens

private theorem Extent.closes {b : Nat} (extent : Extent lines start (a + 1) (b + 1)) :
    IsLeast (closings lines a) b ∨ closings lines a = ∅ ∧ b + 1 = lines.length := by
  have ordered := extent.ordered
  have earliest : ∀ other ∈ closings lines a, b ≤ other := by
    rintro other ⟨after, inside, balanced⟩
    by_contra before
    have remains := extent.unbalanced (other + 1) (by omega) (by omega)
    have closed := depth_le_zero_iff.mpr balanced
    omega
  by_cases balanced : depth lines (a + 1) (b + 1) ≤ 0
  · exact .inl ⟨⟨by omega, extent.inside, depth_le_zero_iff.mp balanced⟩, earliest⟩
  · have all := extent.ended.resolve_left balanced
    refine .inr ⟨Set.eq_empty_iff_forall_notMem.mpr fun other member => ?_, all⟩
    have after := earliest other member
    obtain ⟨-, inside, closed⟩ := member
    obtain rfl : other = b := by omega
    exact balanced (depth_le_zero_iff.mpr closed)

/-- The text of the block that is read from an index on has the lines from the first one with an opening brace to the
first one where as many braces are closed as are opened, or else to the last one. It is empty if there is no opening
brace. The rules read the same text. -/
theorem blockText_eq_joinLines (lines : List String) (start : Nat) :
    ∃ text, blockText lines start = .ok text ∧
      (∀ content, Source.blockAfter ⟨content, lines⟩ start = text) ∧
      (openings lines start = ∅ ∧ text = "" ∨
        ∃ a b, IsLeast (openings lines start) a ∧
          (IsLeast (closings lines a) b ∨ closings lines a = ∅ ∧ b + 1 = lines.length) ∧
          text = Text.joinLines ((lines.take (b + 1)).drop a)) := by
  refine ⟨_, blockText_eq ⟨"", lines⟩ start, fun _ => rfl, ?_⟩
  by_cases none : openings lines start = ∅
  · have closed : ∀ number, start < number → ¬On lines number Opens := by
      intro number after opens
      obtain ⟨a, rfl⟩ : ∃ a, number = a + 1 := ⟨number - 1, by omega⟩
      exact Set.eq_empty_iff_forall_notMem.mp none a (mem_openings_iff.mpr ⟨after, opens⟩)
    rw [Source.blockAfter, firstBlock_eq_nil closed]
    exact .inl ⟨none, rfl⟩
  · obtain ⟨c, member⟩ := Set.nonempty_iff_ne_empty.mpr none
    obtain ⟨after, opens⟩ := mem_openings_iff.mp member
    obtain ⟨first, last, extent⟩ := exists_extent opens after
    have before := extent.after
    have ordered := extent.ordered
    obtain ⟨a, rfl⟩ : ∃ a, first = a + 1 := ⟨first - 1, by omega⟩
    obtain ⟨b, rfl⟩ : ∃ b, last = b + 1 := ⟨last - 1, by omega⟩
    rw [Source.blockAfter, firstBlock_eq extent]
    exact .inr ⟨a, b, extent.isLeast_openings, extent.closes, rfl⟩

end Block

end ContractLint.Scan
