import ContractLint.Proofs.Detector.Reentrancy
import ContractLint.Proofs.Solidity.Span
import Mathlib.Data.List.Intervals

/-! # Lines that a finding marks

An excerpt shows some lines of a source with their numbers and marks those from a first to a last one
(`mem_marked_iff`). Whatever a node says about its position, the lines of its place are lines of the source, and their
excerpt shows consecutive lines and marks those of the place (`node_excerpt_depicts`).

A finding about a call before a change of state marks the lines around the two, as far as they belong to the function.
If the call and the change stand inside the function, both lines are among them, also where the function has one line
only and its end is not given (`Reentrancy.marks_call_and_change`).
-/

namespace ContractLint

open List

variable {line : String} {first last context : Int} {start stop offset : Nat}

/-! ## Marked lines of an excerpt -/

namespace Excerpt

/-- What stands before a marked line. -/
def mark : String := ">>> "

/-- A row starts with the mark exactly if it is marked. -/
theorem startsWith_row (marked : Bool) (number : Nat) (line : String) :
    Text.startsWith (row marked number line) mark = marked := by
  cases marked <;> simp [Text.startsWith, row, mark, List.isPrefixOf]

private theorem not_mem_row (single : '\n' ∉ line.toList) (marked : Bool) (number : Nat) :
    '\n' ∉ (row marked number line).toList := by
  have digits : '\n' ∉ (Number.digitsText number).toList := by
    intro member
    exact absurd (Text.isDigit_of_mem_digitsText member) (by decide)
  cases marked <;> simp [row, Text.padLeft, single, digits]

/-- Lines are numbered from one. -/
theorem mem_numbered {lines : List String} {number : Nat} :
    (number, line) ∈ numbered lines ↔ 0 < number ∧ lines[number - 1]? = some line := by
  simp only [numbered, mem_map, Prod.exists, mem_zipIdx_iff_getElem?, Prod.mk.injEq]
  constructor
  · rintro ⟨text, index, known, rfl, rfl⟩
    exact ⟨Nat.succ_pos index, known⟩
  · rintro ⟨positive, known⟩
    exact ⟨line, number - 1, known, by omega, rfl⟩

theorem numbered_append (first second : List String) :
    numbered (first ++ second) =
      numbered first ++ (numbered second).map fun line => (line.1 + first.length, line.2) := by
  simp only [numbered, zipIdx_append, map_append, map_map]
  congr 1
  rw [Nat.zero_add, zipIdx_eq_map_add]
  simp [Nat.add_assoc, Nat.add_comm first.length]

theorem pairwise_numbered (lines : List String) : (numbered lines).Pairwise fun one other => one.1 < other.1 := by
  rw [numbered, pairwise_map]
  refine List.Pairwise.imp (fun before => Nat.succ_lt_succ before) ?_
  rw [← pairwise_map, zipIdx_map_snd]
  exact pairwise_lt_range'

/-- Around some lines stand those at most `context` lines away. -/
theorem mem_around {lines : List String} {number : Nat} :
    (number, line) ∈ around lines first last context ↔
      (0 < number ∧ lines[number - 1]? = some line) ∧
        first - context ≤ number ∧ (number : Int) ≤ last + context := by
  rw [around, mem_filter, mem_numbered, decide_eq_true_eq]

/-- The rows of an excerpt are found again in its text. -/
theorem splitNewlines_ofLines {lines : List String}
    (single : ∀ line ∈ lines, '\n' ∉ line.toList) (shows : around lines first last context ≠ []) :
    Text.splitNewlines (ofLines lines first last context) =
      (around lines first last context).map fun shown =>
        row (decide (first ≤ (shown.1 : Int) ∧ (shown.1 : Int) ≤ last)) shown.1 shown.2 := by
  apply Text.splitNewlines_joinLines
  · simpa using shows
  · intro text member
    obtain ⟨⟨number, line⟩, inside, rfl⟩ := mem_map.mp member
    have known := (mem_around.mp inside).1.2
    exact not_mem_row (single line (mem_of_getElem? known)) _ number

/-- The marked rows of an excerpt that shows anything are the lines from the first to the last, as far as there are
such lines. -/
theorem mem_marked_iff {lines : List String} (wide : 0 ≤ context)
    (single : ∀ line ∈ lines, '\n' ∉ line.toList) (shows : around lines first last context ≠ [])
    (text : String) :
    text ∈ Text.splitNewlines (ofLines lines first last context) ∧ Text.startsWith text mark ↔
      ∃ (number : Nat) (line : String), 0 < number ∧ lines[number - 1]? = some line ∧ first ≤ number ∧
        (number : Int) ≤ last ∧ text = row true number line := by
  rw [splitNewlines_ofLines single shows, mem_map]
  constructor
  · rintro ⟨⟨⟨number, line⟩, inside, rfl⟩, marked⟩
    rw [startsWith_row, decide_eq_true_eq] at marked
    obtain ⟨positive, known⟩ := (mem_around.mp inside).1
    exact ⟨number, line, positive, known, marked.1, marked.2, by rw [decide_eq_true marked]⟩
  · rintro ⟨number, line, positive, known, after, before, rfl⟩
    refine ⟨⟨(number, line), mem_around.mpr ⟨⟨positive, known⟩, by omega, by omega⟩, ?_⟩,
      startsWith_row ..⟩
    rw [decide_eq_true ⟨after, before⟩]

/-! ## Rows of an excerpt -/

def lineOf (lines : List String) (number : Nat) : String := lines[number - 1]?.getD ""

def numbersTo (first last : Nat) : List Nat := List.Ico first (last + 1)

theorem numbered_eq (lines : List String) :
    numbered lines = (numbersTo 1 lines.length).map fun number => (number, lineOf lines number) := by
  apply ext_getElem
  · simp [numbered, numbersTo]
  · intro index inside _
    have known : index < lines.length := by simpa [numbered] using inside
    simp [numbered, numbersTo, List.Ico, lineOf, known, Nat.add_comm 1 index]

theorem filter_numbersTo (first last low high : Nat) :
    (numbersTo first last).filter (fun number => decide (low ≤ number ∧ number ≤ high)) =
      numbersTo (max first low) (min last high) := by
  have bounds (number : Nat) : decide (low ≤ number ∧ number ≤ high) =
      (decide (low ≤ number) && decide (number < high + 1)) := by
    simp only [Nat.lt_succ_iff, Bool.decide_and]
  simp only [bounds, numbersTo]
  rw [← filter_filter, List.Ico.filter_lt, List.Ico.filter_le, Nat.add_min_add_right]

/-- The lines around some lines of a text have consecutive numbers. -/
theorem around_eq (lines : List String) (first last context : Nat) :
    around lines first last context =
      (numbersTo (max 1 (first - context)) (min lines.length (last + context))).map fun number =>
        (number, lineOf lines number) := by
  rw [around, numbered_eq, filter_map, ← filter_numbersTo]
  congr 1
  refine filter_congr fun number _ => ?_
  rw [Function.comp_apply, decide_eq_decide]
  omega

/-- Some rows show the lines from `context` lines before the first to `context` lines after the last, as far as there
are such lines, each with its number, and mark those from the first to the last. -/
structure Depicts (lines : List String) (first last context : Nat) (shown : List String) : Prop where
  /-- The rows show consecutive lines. -/
  rows : shown = (numbersTo (max 1 (first - context)) (min lines.length (last + context))).map fun number =>
    row (decide (first ≤ number ∧ number ≤ last)) number (lineOf lines number)
  /-- The marked rows are those of the lines from the first to the last. -/
  marked : (shown.filter fun text => Text.startsWith text mark) =
    (numbersTo first last).map fun number => row true number (lineOf lines number)

section Depicts

variable {lines : List String} {first last : Nat} (positive : 0 < first) (ordered : first ≤ last)
  (inside : last ≤ lines.length) (single : ∀ line ∈ lines, '\n' ∉ line.toList)

include positive ordered inside

private theorem around_ne_nil (context : Nat) : around lines first last context ≠ [] := by
  rw [around_eq, ne_eq, map_eq_nil_iff, numbersTo, List.Ico.eq_empty_iff]
  omega

include single

/-- An excerpt depicts its lines. -/
theorem depicts_ofLines (context : Nat) :
    Depicts lines first last context (Text.splitNewlines (ofLines lines first last context)) := by
  have rows : Text.splitNewlines (ofLines lines first last context) =
      (numbersTo (max 1 (first - context)) (min lines.length (last + context))).map fun number =>
        row (decide (first ≤ number ∧ number ≤ last)) number (lineOf lines number) := by
    rw [splitNewlines_ofLines single (around_ne_nil positive ordered inside context), around_eq, map_map]
    refine map_congr_left fun number _ => ?_
    simp only [Function.comp_apply, Int.ofNat_le]
  refine ⟨rows, ?_⟩
  have among : max (max 1 (first - context)) first = first ∧ min (min lines.length (last + context)) last = last := by
    omega
  rw [rows, filter_map]
  simp only [Function.comp_def, startsWith_row]
  rw [filter_numbersTo, among.1, among.2]
  refine map_congr_left fun number member => ?_
  have within : first ≤ number ∧ number ≤ last := by
    simpa [numbersTo, Nat.lt_succ_iff] using member
  rw [decide_eq_true within]

private theorem ofLines_ne_empty (context : Nat) : ofLines lines first last context ≠ "" := by
  intro empty
  have marked := (depicts_ofLines positive ordered inside single context).marked
  rw [empty] at marked
  have none : (Text.splitNewlines "").filter (fun text => Text.startsWith text mark) = [] := by decide
  rw [none] at marked
  have some : numbersTo first last = [] := map_eq_nil_iff.mp marked.symm
  rw [numbersTo, List.Ico.eq_empty_iff] at some
  omega

end Depicts

end Excerpt

/-! ## Lines of offsets -/

namespace Solidity

/-- The line of an offset: one more than there are line feeds before it. -/
def lineAt (source : String) (offset : Nat) : Nat := (source.toList.take offset).count '\n' + 1

private theorem lineAt_eq (source : String) (offset : Nat) :
    (Position.ofOffset source.toList offset).line = lineAt source offset := by
  rw [Position.ofOffset_line, lineAt]
  omega

/-- A later offset is on no earlier line. -/
theorem lineAt_mono (source : String) {earlier later : Nat} (before : earlier ≤ later) :
    lineAt source earlier ≤ lineAt source later := by
  have fewer := (take_sublist_take_left before (l := source.toList)).count_le '\n'
  unfold lineAt
  omega

theorem lineAt_le (source : String) (offset : Nat) : lineAt source offset ≤ (Text.splitNewlines source).length := by
  have fewer := (take_sublist offset source.toList).count_le '\n'
  rw [Text.length_splitNewlines, lineAt]
  omega

/-- Every offset is on a line of the source. -/
theorem exists_lineAt (source : String) (offset : Nat) :
    ∃ line, (Text.splitNewlines source)[lineAt source offset - 1]? = some line := by
  have inside : lineAt source offset - 1 < (Text.splitNewlines source).length :=
    Nat.lt_of_lt_of_le (Nat.lt_succ_self _) (lineAt_le source offset)
  exact ⟨_, getElem?_eq_getElem inside⟩

/-- Whatever the numbers of a span are, its lines are those of two offsets, the second not before the first. -/
theorem Span.ofOffsets_lines (source : String) (start length : Int) :
    ∃ first last : Nat, first ≤ last ∧ (ofOffsets source.toList start length).lineStart = lineAt source first ∧
      (ofOffsets source.toList start length).lineEnd = lineAt source last := by
  let first := clamp source.toList.length start
  let last := clamp source.toList.length (start + length)
  have before : slice source.toList 0 start = source.toList.take first := by
    rw [slice, clamp_zero, drop_zero]
  have lineStart : (ofOffsets source.toList start length).lineStart = lineAt source first := by
    rw [ofOffsets, before, lineAt, Int.natCast_succ]
  have lineEnd : (ofOffsets source.toList start length).lineEnd =
      lineAt source first + ((source.toList.take last).drop first).count '\n' := by
    rw [← lineStart]
    rfl
  refine ⟨first, max first last, Nat.le_max_left .., lineStart, ?_⟩
  rw [lineEnd]
  obtain reversed | ordered := Nat.le_total last first
  · -- The second offset is not after the first, and nothing stands between them.
    have nothing : (source.toList.take last).drop first = [] := by
      rw [drop_eq_nil_iff, length_take]
      omega
    rw [Nat.max_eq_left reversed, nothing, count_nil, Int.natCast_zero, Int.add_zero]
  · have divided := take_append_drop first (source.toList.take last)
    rw [take_take, Nat.min_eq_left ordered] at divided
    have counted := congrArg (List.count '\n') divided
    rw [count_append] at counted
    rw [Nat.max_eq_right ordered, lineAt, lineAt, ← counted]
    omega

/-- Whatever is written for the position of a node, its lines are those of two offsets. -/
theorem Span.ofPosition_lines (source position : String) :
    ∃ first last : Nat, first ≤ last ∧ (ofPosition source position).lineStart = lineAt source first ∧
      (ofPosition source position).lineEnd = lineAt source last := by
  have start : (1 : Int) = lineAt source 0 := by simp [lineAt]
  unfold ofPosition
  split
  next =>
    split
    next => exact ofOffsets_lines source _ _
    next => exact ⟨0, 0, Nat.le_refl 0, start, start⟩
  next => exact ⟨0, 0, Nat.le_refl 0, start, start⟩

/-- A node says that it stands between two offsets of a source. -/
structure Spans (source : String) (node : Value) (start stop : Nat) : Prop where
  /-- The offset and the length are written in the node. -/
  written : ∃ position first second rest, node.field "src" = .ok (.text position) ∧
    Text.splitOn position ":" = first :: second :: rest ∧
    Text.parseInt? first = some (start : Int) ∧ Text.parseInt? second = some ((stop : Int) - start)
  ordered : start ≤ stop
  inside : stop ≤ source.toList.length

private theorem Spans.ofNode_eq {source : String} {node : Value} (spans : Spans source node start stop) :
    Span.ofNode node source = .ok (Span.ofOffsets source.toList start ((stop - start : Nat) : Int)) := by
  obtain ⟨position, first, second, rest, known, pieces, offset, size⟩ := spans.written
  rw [← Int.natCast_sub spans.ordered] at size
  rw [Span.ofNode_eq source known]
  simp only [Span.ofPosition, pieces, offset, size]

/-- The last line of a place, which is the first one if none is given. -/
def lastLine (place : Location) : Int := place.lineEnd.getD place.lineStart

theorem lastLine_location (span : Span) (file : String) : lastLine (span.location file) = span.lineEnd := by
  simp only [lastLine, Span.location]
  split
  next same => exact same.symm
  next => rfl

/-- A node that spans offsets is placed on their lines. -/
theorem Spans.lines {source file : String} {node : Value} {place : Location}
    (spans : Spans source node start stop) (known : nodeLocation node source file = .ok place) :
    place.lineStart = lineAt source start ∧ lastLine place = lineAt source stop := by
  have whole : start + (stop - start) = stop := Nat.add_sub_cancel' spans.ordered
  have inside : start + (stop - start) ≤ source.toList.length := by
    rw [whole]
    exact spans.inside
  rw [nodeLocation, spans.ofNode_eq] at known
  obtain rfl := Except.ok.inj known
  constructor
  · rw [← lineAt_eq, ← Span.ofOffsets_lineStart inside]
    rfl
  · rw [lastLine_location, ← lineAt_eq, Span.ofOffsets_lineEnd inside, whole]

end Solidity

/-! ## The place of a node -/

namespace Detector

open Solidity

/-- A node that says anything about its position has a place whose lines are lines of the source, the last one not
before the first. The excerpt of these lines is not empty, shows consecutive lines with their numbers, and marks the
lines of the place and no others. -/
theorem node_excerpt_depicts {node : Value} {position : String} (written : node.field "src" = .ok (.text position))
    (source file : String) (context : Nat) :
    ∃ (place : Location) (first last : Nat), nodeLocation node source file = .ok place ∧
      place.lineStart = first ∧ place.lineEnd = (if last = first then none else some (last : Int)) ∧
      1 ≤ first ∧ first ≤ last ∧ last ≤ (Text.splitNewlines source).length ∧
      let excerpt := snippet source place.lineStart place.lineEnd context
      excerpt ≠ "" ∧
        Excerpt.Depicts (Text.splitNewlines source) first last context (Text.splitNewlines excerpt) := by
  obtain ⟨start, stop, ordered, lineStart, lineEnd⟩ := Span.ofPosition_lines source position
  have positive : 0 < lineAt source start := Nat.succ_pos _
  have inOrder := lineAt_mono source ordered
  have inside := lineAt_le source stop
  have single (line : String) (member : line ∈ Text.splitNewlines source) := Text.not_mem_of_mem_splitNewlines member
  refine ⟨(Span.ofPosition source position).location file, lineAt source start, lineAt source stop, ?_, lineStart, ?_,
    positive, inOrder, inside, ?_⟩
  · rw [nodeLocation, Span.ofNode_eq source written]
    rfl
  · rw [Span.location, lineStart, lineEnd]
    simp only [Int.natCast_inj]
  · have shown : snippet source ((Span.ofPosition source position).location file).lineStart
        ((Span.ofPosition source position).location file).lineEnd context =
        Excerpt.ofLines (Text.splitNewlines source) (lineAt source start) (lineAt source stop) context := by
      have last := lastLine_location (Span.ofPosition source position) file
      rw [lastLine, lineEnd] at last
      rw [snippet, last]
      exact congrArg (Excerpt.ofLines _ · _ _) lineStart
    intro excerpt
    rw [show excerpt = _ from shown]
    exact ⟨Excerpt.ofLines_ne_empty positive inOrder inside single context,
      Excerpt.depicts_ofLines positive inOrder inside single context⟩

theorem node_excerpt_depicts_outside :
    ∃ place, nodeLocation (node "FunctionCall" [("src", .text "-3:100:0")]) "a\nb\nc" "a.sol" = .ok place ∧
      place.lineStart = 2 ∧ place.lineEnd = some 3 ∧
      Excerpt.Depicts ["a", "b", "c"] 2 3 1
        (Text.splitNewlines (snippet "a\nb\nc" place.lineStart place.lineEnd 1)) := by
  have written : (node "FunctionCall" [("src", .text "-3:100:0")]).field "src" = .ok (.text "-3:100:0") := rfl
  obtain ⟨place, first, last, found, lineStart, lineEnd, -, -, -, -, depicts⟩ :=
    node_excerpt_depicts written "a\nb\nc" "a.sol" 1
  have lines : place.lineStart = 2 ∧ place.lineEnd = some 3 := by
    obtain rfl := Except.ok.inj found
    decide
  have firstLine : first = 2 := by
    rw [lines.1] at lineStart
    exact Int.ofNat_inj.mp lineStart.symm
  have lastLine : last = 3 := by
    rw [lines.2, firstLine] at lineEnd
    split at lineEnd
    · exact absurd lineEnd (by simp)
    · exact Int.ofNat_inj.mp (Option.some.inj lineEnd).symm
  have split : Text.splitNewlines "a\nb\nc" = ["a", "b", "c"] := by decide
  rw [split, firstLine, lastLine] at depicts
  exact ⟨place, found, lines.1, lines.2, depicts⟩

end Detector

/-! ## A call before a change of state -/

namespace Detector.Reentrancy

open Solidity Outcome

def Covers (place : Location) (line : Int) : Prop := place.lineStart ≤ line ∧ line ≤ lastLine place

section Range

variable {place : Location} {callLine changeLine : Int} (covered : Covers place callLine)
  (coveredToo : Covers place changeLine)

include covered coveredToo

/-- Neither the call nor the change comes before the first marked line. -/
theorem firstMarked_le : place.lineStart ≤ firstMarked place callLine changeLine ∧
    firstMarked place callLine changeLine ≤ callLine ∧ firstMarked place callLine changeLine ≤ changeLine := by
  obtain ⟨callAfter, -⟩ := covered
  obtain ⟨changeAfter, -⟩ := coveredToo
  unfold firstMarked
  omega

private theorem le_lastMarked (positive : 0 < place.lineStart) :
    callLine ≤ lastMarked place callLine changeLine ∧ changeLine ≤ lastMarked place callLine changeLine := by
  have first := firstMarked_le covered coveredToo
  obtain ⟨callAfter, callBefore⟩ := covered
  obtain ⟨changeAfter, changeBefore⟩ := coveredToo
  unfold lastMarked
  generalize firstMarked place callLine changeLine = start at first ⊢
  unfold lastLine at callBefore changeBefore
  cases known : place.lineEnd with
  | none =>
    -- The function has one line, on which everything stands, and the guess goes beyond it.
    simp only [known, Option.getD_none] at callBefore changeBefore
    dsimp only
    omega
  | some line =>
    simp only [known, Option.getD_some] at callBefore changeBefore
    dsimp only
    rw [if_neg (by omega)]
    omega

end Range

section Report

variable {settings : DetectorSettings} {source file : String} {function call change : Value} {finding : Finding}

def Marks (source excerpt : String) (number : Nat) : Prop :=
  ∃ line, (Text.splitNewlines source)[number - 1]? = some line ∧
    Excerpt.row true number line ∈ Text.splitNewlines excerpt

/-- An excerpt shows something if one of the lines that it marks is there. -/
theorem shows_lineAt (after : first ≤ lineAt source offset) (before : (lineAt source offset : Int) ≤ last) :
    Excerpt.around (Text.splitNewlines source) first last 1 ≠ [] := by
  obtain ⟨line, known⟩ := exists_lineAt source offset
  apply ne_nil_of_mem (a := (lineAt source offset, line))
  exact Excerpt.mem_around.mpr ⟨⟨Nat.succ_pos _, known⟩, by omega, by omega⟩

/-- The marked rows of a snippet are the lines from the first to the last. -/
theorem mem_marked_snippet (shows : Excerpt.around (Text.splitNewlines source) first last 1 ≠ []) (text : String) :
    text ∈ Text.splitNewlines (snippet source first (some last) 1) ∧ Text.startsWith text Excerpt.mark ↔
      ∃ (number : Nat) (line : String), 0 < number ∧ (Text.splitNewlines source)[number - 1]? = some line ∧
        first ≤ number ∧ (number : Int) ≤ last ∧ text = Excerpt.row true number line :=
  Excerpt.mem_marked_iff (by decide) (fun _ => Text.not_mem_of_mem_splitNewlines) shows text

private theorem marks_of_range (after : first ≤ lineAt source offset)
    (before : (lineAt source offset : Int) ≤ last) :
    Marks source (snippet source first (some last) 1) (lineAt source offset) := by
  obtain ⟨line, known⟩ := exists_lineAt source offset
  refine ⟨line, known, ?_⟩
  have marked := (mem_marked_snippet (shows_lineAt after before) (Excerpt.row true (lineAt source offset) line)).mpr
    ⟨lineAt source offset, line, Nat.succ_pos _, known, after, before, rfl⟩
  exact marked.1

/-- The lines of what stands inside a node belong to the place of the node. -/
theorem covers_lineAt {place : Location} (first : place.lineStart = lineAt source start)
    (last : lastLine place = lineAt source stop) (after : start ≤ offset) (before : offset ≤ stop) :
    Covers place (lineAt source offset) := by
  have fromFirst := lineAt_mono source after
  have toLast := lineAt_mono source before
  unfold Covers
  omega

/-- Where the call and the change stand inside the function, which stands inside the source, the excerpt of a finding
marks the line of the call and that of the change, and no line before the first one of the function. -/
theorem marks_call_and_change {start stop callStart callStop changeStart changeStop : Nat}
    (done : report settings function source file call change = .ok finding)
    (whole : Spans source function start stop) (called : Spans source call callStart callStop)
    (changed : Spans source change changeStart changeStop) (callInside : start ≤ callStart ∧ callStop ≤ stop)
    (changeInside : start ≤ changeStart ∧ changeStop ≤ stop) :
    ∃ excerpt, finding.snippet = some excerpt ∧
      Marks source excerpt (lineAt source callStart) ∧ Marks source excerpt (lineAt source changeStart) ∧
      ∀ text ∈ Text.splitNewlines excerpt, Text.startsWith text Excerpt.mark →
        ∃ number line, lineAt source start ≤ number ∧ (Text.splitNewlines source)[number - 1]? = some line ∧
          text = Excerpt.row true number line := by
  obtain ⟨callPlace, changePlace, place, composed⟩ := composed_of_report done
  obtain ⟨first, last⟩ := whole.lines composed.atFunction
  have shown := composed.excerpt
  rw [(called.lines composed.atCall).1, (changed.lines composed.atChange).1] at shown
  have callCovered := covers_lineAt first last callInside.1 (Nat.le_trans called.ordered callInside.2)
  have changeCovered := covers_lineAt first last changeInside.1 (Nat.le_trans changed.ordered changeInside.2)
  have start := firstMarked_le callCovered changeCovered
  have stop := le_lastMarked callCovered changeCovered (by rw [first]; exact Int.natCast_pos.mpr (Nat.succ_pos _))
  refine ⟨_, shown, marks_of_range start.2.1 stop.1, marks_of_range start.2.2 stop.2, ?_⟩
  intro text member marked
  obtain ⟨number, line, positive, known, after, before, same⟩ :=
    (mem_marked_snippet (shows_lineAt start.2.1 stop.1) text).mp ⟨member, marked⟩
  exact ⟨number, line, by omega, known, same⟩

end Report

def standing (kind position : String) : Value := node kind [("src", .text position)]

/-- A function with a call on its second line and a change of state on its third. -/
def spread : String := "contract C \x7b\nfunction f() \x7b\n a.call();\n x = y;\n\x7d\n\x7d\n"

theorem marks_call_and_change_spread :
    ∃ finding excerpt, report {} (standing "FunctionDefinition" "13:35:0") spread "a.sol"
        (standing "FunctionCall" "29:8:0") (standing "Assignment" "40:5:0") = .ok finding ∧
      finding.snippet = some excerpt ∧ Marks spread excerpt 3 ∧ Marks spread excerpt 4 := by
  obtain ⟨finding, done⟩ : ∃ finding, report {} (standing "FunctionDefinition" "13:35:0") spread "a.sol"
      (standing "FunctionCall" "29:8:0") (standing "Assignment" "40:5:0") = .ok finding := ⟨_, rfl⟩
  have whole : Spans spread (standing "FunctionDefinition" "13:35:0") 13 48 :=
    ⟨⟨"13:35:0", "13", "35", ["0"], rfl, by decide, by decide, by decide⟩, by decide, by decide⟩
  have called : Spans spread (standing "FunctionCall" "29:8:0") 29 37 :=
    ⟨⟨"29:8:0", "29", "8", ["0"], rfl, by decide, by decide, by decide⟩, by decide, by decide⟩
  have changed : Spans spread (standing "Assignment" "40:5:0") 40 45 :=
    ⟨⟨"40:5:0", "40", "5", ["0"], rfl, by decide, by decide, by decide⟩, by decide, by decide⟩
  obtain ⟨excerpt, shown, call, change, -⟩ :=
    marks_call_and_change done whole called changed (by decide) (by decide)
  have callLine : lineAt spread 29 = 3 := by decide
  have changeLine : lineAt spread 40 = 4 := by decide
  exact ⟨finding, excerpt, done, shown, callLine ▸ call, changeLine ▸ change⟩

end Detector.Reentrancy

end ContractLint
