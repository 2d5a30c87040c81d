import ContractLint.Number.Binary
import ContractLint.Text.Lines
import ContractLint.Text.Search

/-! # Dividing a text at a character

Where a character occurs last in a text, what pieces a text has between the occurrences of a character,
and how its lines relate to its length.
-/

namespace ContractLint.Text

open List

variable {c : Char} {cs : List Char} {before : List Char} {separator s : String} {after found : List Char}

/-! ## Occurrences of a character -/

private theorem findFrom?_eq_none {position : Nat} : findFrom? [c] position cs = none ↔ c ∉ cs := by
  induction cs generalizing position with
  | nil => simp [findFrom?]
  | cons first rest ih =>
    by_cases same : c = first
    · simp [findFrom?, List.isPrefixOf, same]
    · simp [findFrom?, List.isPrefixOf, same, ih]

/-- The first occurrence has none before it. -/
theorem findFrom?_eq_some {position index : Nat} (found : findFrom? [c] position cs = some index) :
    ∃ before after, cs = before ++ c :: after ∧ c ∉ before ∧ index = position + before.length := by
  induction cs generalizing position with
  | nil => contradiction
  | cons first rest ih =>
    by_cases same : c = first
    · obtain rfl : position = index := by simpa [findFrom?, List.isPrefixOf, same] using found
      exact ⟨[], rest, by simp [same], by simp, rfl⟩
    · obtain ⟨before, after, rfl, missing, rfl⟩ :=
        ih (by simpa [findFrom?, List.isPrefixOf, same] using found)
      refine ⟨first :: before, after, rfl, by simp [same, missing], ?_⟩
      rw [length_cons]
      omega

theorem findLast?_eq_none : findLast? c cs = none ↔ c ∉ cs := by
  rw [findLast?, Option.map_eq_none_iff, find?, findFrom?_eq_none, mem_reverse]

/-- The last occurrence has none after it. -/
theorem findLast?_eq_some {index : Nat} (found : findLast? c cs = some index) :
    ∃ before after, cs = before ++ c :: after ∧ c ∉ after ∧ index = before.length := by
  obtain ⟨fromEnd, first, rfl⟩ := Option.map_eq_some_iff.mp found
  obtain ⟨after, before, same, missing, rfl⟩ := findFrom?_eq_some first
  obtain rfl : cs = before.reverse ++ c :: after.reverse := by
    rw [← reverse_reverse cs, same]
    simp
  exact ⟨before.reverse, after.reverse, rfl, by simpa using missing, by simp⟩

/-- A text is divided in one way only at the last occurrence of a character. -/
theorem append_cons_inj {before' after' : List Char} (missing : c ∉ after) (missing' : c ∉ after')
    (same : before ++ c :: after = before' ++ c :: after') : before = before' ∧ after = after' := by
  obtain ⟨middle, rfl, rest⟩ | ⟨middle, rfl, rest⟩ := append_eq_append_iff.mp same
  · cases middle with
    | nil => simpa using rest
    | cons first middle =>
      obtain ⟨rfl, rfl⟩ := List.cons.inj rest
      simp at missing
  · cases middle with
    | nil => simpa using rest.symm
    | cons first middle =>
      obtain ⟨rfl, rfl⟩ := List.cons.inj rest
      simp at missing'

/-- The last occurrence is the one with no other after it. -/
theorem findLast?_append (missing : c ∉ after) (before : List Char) :
    findLast? c (before ++ c :: after) = some before.length := by
  cases found : findLast? c (before ++ c :: after) with
  | none => exact absurd (by simp) (findLast?_eq_none.mp found)
  | some index =>
    obtain ⟨front, back, same, missing', rfl⟩ := findLast?_eq_some found
    rw [(append_cons_inj missing missing' same).1]

/-! ## Pieces -/

private theorem splitFrom_append (missing : c ∉ before) (piece after : List Char) :
    splitFrom [c] 0 piece (before ++ c :: after) =
      (piece.reverse ++ before) :: splitFrom [c] 0 [] after := by
  induction before generalizing piece with
  | nil => simp [splitFrom, List.isPrefixOf]
  | cons first rest ih =>
    have different := ne_of_not_mem_cons missing
    have missing := not_mem_of_not_mem_cons missing
    simp [splitFrom, List.isPrefixOf, different, ih missing]

/-- The first piece of a text ends where the separator occurs first. -/
theorem splitOn_append {first : String} (single : separator.toList = [c]) (missing : c ∉ first.toList)
    (rest : String) : splitOn (first ++ separator ++ rest) separator = first :: splitOn rest separator := by
  simp [splitOn, splitList, single, splitFrom_append missing]

/-- Without a separator there is one piece. -/
theorem splitFrom_of_not_mem (missing : c ∉ cs) (piece : List Char) :
    splitFrom [c] 0 piece cs = [piece.reverse ++ cs] := by
  induction cs generalizing piece with
  | nil => simp [splitFrom]
  | cons first rest ih =>
    have different := ne_of_not_mem_cons missing
    have missing := not_mem_of_not_mem_cons missing
    simp [splitFrom, List.isPrefixOf, different, ih missing]

/-- A text is divided at a separator into the texts that it has been joined from. -/
theorem splitOn_intercalate (single : separator.toList = [c])
    {names : List String} (nonempty : names ≠ []) (missing : ∀ name ∈ names, c ∉ name.toList) :
    splitOn (String.intercalate separator names) separator = names := by
  induction names with
  | nil => contradiction
  | cons first rest ih =>
    obtain ⟨here, later⟩ := forall_mem_cons.mp missing
    cases rest with
    | nil => simp [splitOn, splitList, single, splitFrom_of_not_mem here]
    | cons second rest =>
      rw [String.intercalate_cons_cons, splitOn_append single here, ih (by simp) later]

/-- What is added to a text, without the separator, is added to its last piece. -/
theorem exists_splitFrom_append (c : Char) (cs piece : List Char) :
    ∃ front last, ∀ more, c ∉ more → splitFrom [c] 0 piece (cs ++ more) = front ++ [last ++ more] := by
  induction cs generalizing piece with
  | nil => exact ⟨[], piece.reverse, fun more missing => splitFrom_of_not_mem missing piece⟩
  | cons first rest ih =>
    by_cases same : c = first
    · obtain ⟨front, last, later⟩ := ih []
      refine ⟨piece.reverse :: front, last, fun more missing => ?_⟩
      simp [splitFrom, List.isPrefixOf, same, ← later more missing]
    · obtain ⟨front, last, later⟩ := ih (first :: piece)
      refine ⟨front, last, fun more missing => ?_⟩
      simp [splitFrom, List.isPrefixOf, same, ← later more missing]

/-- What is appended goes to the last piece. -/
theorem exists_splitOn_append (single : separator.toList = [c]) (s : String) :
    ∃ front last, ∀ more : String, c ∉ more.toList →
      splitOn (s ++ more) separator = front ++ [last ++ more] := by
  obtain ⟨front, last, pieces⟩ := exists_splitFrom_append c s.toList []
  refine ⟨front.map String.ofList, String.ofList last, fun more missing => ?_⟩
  simp [splitOn, splitList, single, pieces more.toList missing]

private theorem not_mem_of_mem_splitFrom {cs piece : List Char} (started : c ∉ piece)
    (member : found ∈ splitFrom [c] 0 piece cs) : c ∉ found := by
  induction cs generalizing piece with
  | nil =>
    rw [splitFrom, mem_singleton] at member
    simpa [member] using started
  | cons first rest ih =>
    by_cases same : c = first
    · have parts : found = piece.reverse ∨ found ∈ splitFrom [c] 0 [] rest := by
        simpa [splitFrom, List.isPrefixOf, same] using member
      obtain rfl | later := parts
      · simpa using started
      · exact ih not_mem_nil later
    · have longer : found ∈ splitFrom [c] 0 (first :: piece) rest := by
        simpa [splitFrom, List.isPrefixOf, same] using member
      exact ih (by simp [same, started]) longer

/-- No piece holds the separator. -/
theorem not_mem_of_mem_splitOn {found : String} (single : separator.toList = [c])
    (member : found ∈ splitOn s separator) : c ∉ found.toList := by
  obtain ⟨piece, inside, rfl⟩ := mem_map.mp member
  rw [single] at inside
  rw [String.toList_ofList]
  exact not_mem_of_mem_splitFrom (by simp) inside

/-! ## Lines -/

private theorem newlineLinesFrom_append (line after : List Char) :
    newlineLinesFrom line (before ++ '\n' :: after) =
      newlineLinesFrom line before ++ newlineLines after := by
  induction before generalizing line with
  | nil => simp [newlineLinesFrom, newlineLines]
  | cons first rest ih =>
    by_cases same : first = '\n'
    · simp [newlineLinesFrom, same, ih]
    · simp [newlineLinesFrom, same, ih]

theorem newlineLines_append (before after : List Char) :
    newlineLines (before ++ '\n' :: after) = newlineLines before ++ newlineLines after :=
  newlineLinesFrom_append [] after

/-- A text has one line more than line feeds. -/
theorem length_newlineLines (cs : List Char) : (newlineLines cs).length = cs.count '\n' + 1 := by
  suffices ∀ line, (newlineLinesFrom line cs).length = cs.count '\n' + 1 from this []
  induction cs with
  | nil => simp [newlineLinesFrom]
  | cons first rest ih =>
    intro line
    by_cases same : first = '\n'
    · simp [newlineLinesFrom, same, ih]
    · simp [newlineLinesFrom, same, ih, count_cons_of_ne same]

/-- The lines of a text, each with a line feed, have one character more than the text. -/
theorem sum_newlineLines (cs : List Char) :
    ((newlineLines cs).map fun line => line.length + 1).sum = cs.length + 1 := by
  suffices ∀ line, ((newlineLinesFrom line cs).map fun line => line.length + 1).sum =
      line.length + cs.length + 1 by simpa [newlineLines] using this []
  induction cs with
  | nil => simp [newlineLinesFrom]
  | cons first rest ih =>
    intro line
    by_cases same : first = '\n'
    · simp only [newlineLinesFrom, same, if_true, map_cons, length_reverse, sum_cons,
        ih, length_nil, length_cons]
      omega
    · simp only [newlineLinesFrom, same, if_false, ih, length_cons]
      omega

private theorem newlineLinesFrom_of_not_mem (single : '\n' ∉ cs) (line : List Char) :
    newlineLinesFrom line cs = [line.reverse ++ cs] := by
  induction cs generalizing line with
  | nil => simp [newlineLinesFrom]
  | cons first rest ih =>
    have different := (ne_of_not_mem_cons single).symm
    rw [newlineLinesFrom, if_neg different, ih (not_mem_of_not_mem_cons single)]
    simp

/-- Without a newline there is one line. -/
theorem splitNewlines_of_not_mem (single : '\n' ∉ s.toList) : splitNewlines s = [s] := by
  rw [splitNewlines, newlineLines, newlineLinesFrom_of_not_mem single]
  simp

private theorem not_mem_of_mem_newlineLinesFrom {cs line : List Char} (started : '\n' ∉ line)
    (member : found ∈ newlineLinesFrom line cs) : '\n' ∉ found := by
  induction cs generalizing line with
  | nil =>
    rw [newlineLinesFrom, mem_singleton] at member
    simpa [member] using started
  | cons first rest ih =>
    rw [newlineLinesFrom] at member
    split at member
    next =>
      obtain rfl | later := mem_cons.mp member
      · simpa using started
      · exact ih not_mem_nil later
    next different =>
      refine ih ?_ member
      simp [Ne.symm different, started]

/-- No line holds a newline. -/
theorem not_mem_of_mem_splitNewlines {line : String} (member : line ∈ splitNewlines s) : '\n' ∉ line.toList := by
  obtain ⟨found, inside, rfl⟩ := mem_map.mp member
  rw [String.toList_ofList]
  exact not_mem_of_mem_newlineLinesFrom not_mem_nil inside

/-- There is one line more than newlines. -/
theorem length_splitNewlines (s : String) : (splitNewlines s).length = s.toList.count '\n' + 1 := by
  rw [splitNewlines, length_map, length_newlineLines]

theorem splitNewlines_append (first second : String) :
    splitNewlines (first ++ "\n" ++ second) = splitNewlines first ++ splitNewlines second := by
  have whole : (first ++ "\n" ++ second).toList = first.toList ++ '\n' :: second.toList := by
    rw [String.toList_append, String.toList_append, append_assoc]
    rfl
  rw [splitNewlines, whole, newlineLines_append, map_append]
  rfl

theorem joinLines_cons (first second : String) (rest : List String) :
    joinLines (first :: second :: rest) = first ++ ("\n" ++ joinLines (second :: rest)) := by
  rw [joinLines, String.intercalate_cons_cons, String.append_assoc]
  rfl

theorem joinLines_singleton (line : String) : joinLines [line] = line := String.intercalate_singleton

/-- Lines that are joined are found again. -/
theorem splitNewlines_joinLines {lines : List String} (some : lines ≠ [])
    (single : ∀ line ∈ lines, '\n' ∉ line.toList) : splitNewlines (joinLines lines) = lines := by
  induction lines with
  | nil => contradiction
  | cons first rest ih =>
    obtain ⟨here, later⟩ := forall_mem_cons.mp single
    cases rest with
    | nil => rw [joinLines_singleton, splitNewlines_of_not_mem here]
    | cons second rest =>
      have whole : (joinLines (first :: second :: rest)).toList =
          first.toList ++ '\n' :: (joinLines (second :: rest)).toList := by
        rw [joinLines_cons, String.toList_append, String.toList_append]
        rfl
      rw [splitNewlines, whole, newlineLines_append, map_append, ← splitNewlines, ← splitNewlines,
        splitNewlines_of_not_mem here, ih (cons_ne_nil _ _) later, singleton_append]

end ContractLint.Text
