import ContractLint.Document.Csv

/-! # Reading tables back

A reader of tables takes one character after the other and keeps the place in the row where it stands.
A quote at the start of a cell opens a quoted cell, in which commas and line ends are part of the
text. `read_print` says that a printed table is read as the rows that it was printed from, whatever
their cells hold.
-/

namespace ContractLint.Document.Csv

open List

/-! ## The reader -/

inductive Place where
  | rowStart
  | cellStart
  | plainCell
  | quotedCell
  /-- After a quote in a quoted cell: the cell is closed, or the quote is one of a pair. -/
  | quoteSeen
  | rowEnd
deriving DecidableEq

structure Reader where
  place : Place := .rowStart
  cell : List Char := []
  row : List String := []

variable {r : Reader}

def isBreak (c : Char) : Bool := c = '\r' || c = '\n'

/-- The character ends a line; a carriage return does so unless a line feed follows. -/
def endsLine (c : Char) (rest : List Char) : Bool := c = '\n' || (c = '\r' && rest.head? ≠ some '\n')

namespace Reader

def put (r : Reader) (place : Place) (c : Char) : Reader := { r with place, cell := r.cell ++ [c] }

def save (r : Reader) (place : Place) : Reader := { place, row := r.row ++ [String.ofList r.cell] }

/-- Takes a character that is not quoted. -/
def take (r : Reader) (c : Char) : Reader :=
  if isBreak c then r.save .rowEnd
  else if c = ',' then r.save .cellStart
  else r.put .plainCell c

/-- Takes the first character of a cell. -/
def begin (r : Reader) (c : Char) : Reader :=
  if c = '"' then { r with place := .quotedCell } else r.take c

/-- Takes a character; after the end of a row there must be the end of a line. -/
def step (r : Reader) (c : Char) : Option Reader :=
  match r.place with
  | .rowStart => some (if isBreak c then { r with place := .rowEnd } else r.begin c)
  | .cellStart => some (r.begin c)
  | .plainCell => some (r.take c)
  | .quotedCell => some (if c = '"' then { r with place := .quoteSeen } else r.put .quotedCell c)
  | .quoteSeen => some (if c = '"' then r.put .quotedCell c else r.take c)
  | .rowEnd => if isBreak c then some r else none

/-- The rows of the characters that follow. -/
def scan (r : Reader) : List Char → Option (List (List String))
  | [] => some (if r.place = .rowStart then [] else [(r.save .rowStart).row])
  | c :: cs => do
    let r ← r.step c
    if endsLine c cs ∧ r.place = .rowEnd then return r.row :: (← scan {} cs)
    else scan r cs

/-! ## Steps -/

theorem scan_cons {next : Reader} {c : Char} (stepped : r.step c = some next) (inside : next.place ≠ .rowEnd)
    (cs : List Char) : r.scan (c :: cs) = next.scan cs := by
  rw [scan, stepped, Option.bind_eq_bind, Option.bind_some, if_neg]
  rintro ⟨_, ended⟩
  exact inside ended

theorem scan_crlf {next : Reader} (stepped : r.step '\r' = some next) (ended : next.place = .rowEnd)
    (cs : List Char) : r.scan ('\r' :: '\n' :: cs) = (scan {} cs).map (next.row :: ·) := by
  have again : next.step '\n' = some next := by
    rw [step, ended]
    rfl
  have inside : ¬(endsLine '\r' ('\n' :: cs) ∧ next.place = .rowEnd) := by simp [endsLine]
  rw [scan, stepped, Option.bind_eq_bind, Option.bind_some, if_neg inside, scan, again, Option.bind_eq_bind,
    Option.bind_some, if_pos ⟨rfl, ended⟩]
  cases scan {} cs with
  | none => rfl
  | some rows => rfl

/-! ## Cells -/

theorem needsQuotes_cons {c : Char} {cs : List Char} (plain : needsQuotes (c :: cs) = false) :
    isBreak c = false ∧ c ≠ ',' ∧ c ≠ '"' ∧ needsQuotes cs = false := by
  simp only [needsQuotes, any_cons, Bool.or_eq_false_iff, decide_eq_false_iff_not] at plain
  obtain ⟨⟨⟨⟨comma, quote⟩, first⟩, second⟩, plain⟩ := plain
  exact ⟨by simp [isBreak, first, second], comma, quote, plain⟩

private theorem scan_plain {cs : List Char} (plain : needsQuotes cs = false) (done : List Char) (row : List String)
    (rest : List Char) :
    scan ⟨.plainCell, done, row⟩ (cs ++ rest) = scan ⟨.plainCell, done ++ cs, row⟩ rest := by
  induction cs generalizing done with
  | nil => rw [append_nil, nil_append]
  | cons c cs ih =>
    obtain ⟨inside, comma, quote, plain⟩ := needsQuotes_cons plain
    have taken : step ⟨.plainCell, done, row⟩ c = some ⟨.plainCell, done ++ [c], row⟩ := by
      simp [step, take, inside, comma, put]
    rw [cons_append, scan_cons taken (by simp), ih plain, append_assoc, singleton_append]

private theorem scan_quoted (cs done : List Char) (row : List String) (rest : List Char) :
    scan ⟨.quotedCell, done, row⟩ (cs.flatMap (fun c => if c = '"' then ['"', '"'] else [c]) ++ '"' :: rest) =
      scan ⟨.quoteSeen, done ++ cs, row⟩ rest := by
  induction cs generalizing done with
  | nil =>
    have closed : step ⟨.quotedCell, done, row⟩ '"' = some ⟨.quoteSeen, done, row⟩ := rfl
    rw [append_nil, flatMap_nil, nil_append, scan_cons closed (by simp)]
  | cons c cs ih =>
    rw [flatMap_cons, append_assoc]
    by_cases quote : c = '"'
    · subst quote
      have first : step ⟨.quotedCell, done, row⟩ '"' = some ⟨.quoteSeen, done, row⟩ := rfl
      have second : step ⟨.quoteSeen, done, row⟩ '"' = some ⟨.quotedCell, done ++ ['"'], row⟩ := rfl
      rw [if_pos rfl, cons_append, scan_cons first (by simp), singleton_append, scan_cons second (by simp),
        ih, append_assoc, singleton_append]
    · have taken : step ⟨.quotedCell, done, row⟩ c = some ⟨.quotedCell, done ++ [c], row⟩ := by
        simp [step, quote, put]
      rw [if_neg quote, singleton_append, scan_cons taken (by simp), ih, append_assoc, singleton_append]

/-- Past the text of a cell the reader holds the cell, and has begun the row unless the text is empty. -/
theorem scan_cellText {place : Place} (opening : place = .rowStart ∨ place = .cellStart) (cell : String)
    (row : List String) (rest : List Char) :
    ∃ after, scan ⟨place, [], row⟩ ((cellText cell).toList ++ rest) = scan ⟨after, cell.toList, row⟩ rest ∧
      after ≠ .quotedCell ∧ after ≠ .rowEnd ∧ (after = .rowStart → place = .rowStart ∧ cell = "") := by
  rw [cellText]
  cases special : needsQuotes cell.toList with
  | true =>
    have opened : step ⟨place, [], row⟩ '"' = some ⟨.quotedCell, [], row⟩ := by
      rcases opening with rfl | rfl
      · rfl
      · rfl
    refine ⟨.quoteSeen, ?_, by decide, by decide, by simp⟩
    rw [if_pos rfl, String.toList_ofList, quoted, append_assoc, cons_append, scan_cons opened (by simp),
      singleton_append, scan_quoted, nil_append]
  | false =>
    rw [if_neg Bool.false_ne_true]
    cases chars : cell.toList with
    | nil =>
      refine ⟨place, rfl, ?_, ?_, fun start => ⟨start, String.toList_eq_nil_iff.mp chars⟩⟩
      · rcases opening with rfl | rfl <;> decide
      · rcases opening with rfl | rfl <;> decide
    | cons c cs =>
      rw [chars] at special
      obtain ⟨inside, comma, quote, plain⟩ := needsQuotes_cons special
      have taken : step ⟨place, [], row⟩ c = some ⟨.plainCell, [c], row⟩ := by
        rcases opening with rfl | rfl
        · simp [step, begin, take, inside, comma, quote, put]
        · simp [step, begin, take, inside, comma, quote, put]
      refine ⟨.plainCell, ?_, by decide, by decide, by simp⟩
      rw [cons_append, scan_cons taken (by simp), scan_plain plain, singleton_append]

/-! ## Rows -/

private theorem step_comma (elsewhere : r.place ≠ .quotedCell) (within : r.place ≠ .rowEnd) :
    r.step ',' = some (r.save .cellStart) := by
  obtain ⟨place, cell, row⟩ := r
  cases place with
  | quotedCell => contradiction
  | rowEnd => contradiction
  | _ => rfl

private theorem step_return (elsewhere : r.place ≠ .quotedCell) (within : r.place ≠ .rowEnd)
    (begun : r.place ≠ .rowStart) : r.step '\r' = some (r.save .rowEnd) := by
  obtain ⟨place, cell, row⟩ := r
  cases place with
  | quotedCell => contradiction
  | rowEnd => contradiction
  | rowStart => contradiction
  | _ => rfl

/-- Past the cells of a row and its end the reader has the row, unless that is a single empty cell. -/
theorem scan_cells (cell : String) (cells : List String) {place : Place}
    (opening : place = .rowStart ∨ place = .cellStart) (row : List String)
    (begun : place = .rowStart → cell :: cells ≠ [""]) (rest : List Char) :
    scan ⟨place, [], row⟩ ((String.intercalate "," ((cell :: cells).map cellText)).toList ++ '\r' :: '\n' :: rest) =
      (scan {} rest).map ((row ++ cell :: cells) :: ·) := by
  induction cells generalizing cell place row with
  | nil =>
    obtain ⟨after, read, elsewhere, within, start⟩ := scan_cellText opening cell row ('\r' :: '\n' :: rest)
    have moved : after ≠ .rowStart := by
      intro same
      obtain ⟨first, rfl⟩ := start same
      exact begun first rfl
    rw [map_singleton, String.intercalate_singleton, read, scan_crlf (step_return elsewhere within moved) rfl]
    simp only [save, String.ofList_toList]
  | cons second cells ih =>
    obtain ⟨after, read, elsewhere, within, _⟩ := scan_cellText opening cell row
      (',' :: ((String.intercalate "," ((second :: cells).map cellText)).toList ++ '\r' :: '\n' :: rest))
    rw [map_cons, map_cons, String.intercalate_cons_cons, ← map_cons, String.toList_append,
      String.toList_append, append_assoc, append_assoc]
    refine read.trans ?_
    rw [scan_cons (step_comma elsewhere within) (by simp [save])]
    simp only [save, String.ofList_toList]
    rw [ih second (.inr rfl) (row ++ [cell]) (by simp), append_assoc, singleton_append]

private theorem scan_rowText (row : List String) (rest : List Char) :
    scan {} ((rowText row).toList ++ rest) = (scan {} rest).map (row :: ·) := by
  rw [rowText, String.toList_append, append_assoc]
  by_cases single : row = [""]
  · subst single
    have opened : step {} '"' = some ⟨.quotedCell, [], []⟩ := rfl
    have closed : step ⟨.quotedCell, [], []⟩ '"' = some ⟨.quoteSeen, [], []⟩ := rfl
    have saved : step ⟨.quoteSeen, [], []⟩ '\r' = some ⟨.rowEnd, [], [""]⟩ := rfl
    rw [if_pos rfl]
    change scan {} ('"' :: '"' :: '\r' :: '\n' :: rest) = _
    rw [scan_cons opened (by simp), scan_cons closed (by simp), scan_crlf saved rfl]
  · rw [if_neg single]
    cases row with
    | nil =>
      have ended : step {} '\r' = some ⟨.rowEnd, [], []⟩ := rfl
      change scan {} ('\r' :: '\n' :: rest) = _
      rw [scan_crlf ended rfl]
    | cons cell cells => exact scan_cells cell cells (.inl rfl) [] (fun _ => single) rest

end Reader

def read (text : String) : Option (List (List String)) := Reader.scan {} text.toList

/-- Rows are read back as they were printed. -/
theorem read_print (rows : List (List String)) : read (print rows) = some rows := by
  rw [read, print]
  induction rows with
  | nil => rfl
  | cons row rows ih =>
    rw [map_cons, String.join_cons, String.toList_append, Reader.scan_rowText, ih, Option.map_some]

example : read "a,\"b,\"\"c\"\"\n\"\r\n\r\n\"\"\r\n" = some [["a", "b,\"c\"\n"], [], [""]] := by decide +kernel

end ContractLint.Document.Csv
