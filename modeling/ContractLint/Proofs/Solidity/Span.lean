import ContractLint.Proofs.Outcome
import ContractLint.Proofs.Text.Numeral
import ContractLint.Proofs.Text.Split
import ContractLint.Solidity.Span

/-! # Spans are where they say

Lines and columns are counted by walking over the characters of a source: a line feed starts a line, any
other character is one column. The span of a node that stands within its source gives the lines and
columns that are counted so at both ends of its text, from which both offsets can be found again.
-/

namespace ContractLint.Solidity

open List

/-! ## Positions -/

/-- A line and a column, counted from one. -/
@[ext] structure Position where
  line : Int
  column : Int
deriving DecidableEq

namespace Position

/-- The position after a character. -/
def next (position : Position) (c : Char) : Position :=
  if c = '\n' then ⟨position.line + 1, 1⟩ else ⟨position.line, position.column + 1⟩

def after (position : Position) (cs : List Char) : Position := cs.foldl next position

def ofOffset (source : List Char) (offset : Nat) : Position := after ⟨1, 1⟩ (source.take offset)

/-- The offset of a position in a source: the lines before it, each with its line feed, and the columns
before it. -/
def offset (source : List Char) (position : Position) : Int :=
  let above := (Text.newlineLines source).take (position.line - 1).toNat
  ((above.map fun line => line.length + 1).sum : Nat) + (position.column - 1)

theorem next_newline (position : Position) : position.next '\n' = ⟨position.line + 1, 1⟩ := rfl

theorem next_of_ne {c : Char} (different : c ≠ '\n') (position : Position) :
    position.next c = ⟨position.line, position.column + 1⟩ := if_neg different

theorem after_append (position : Position) (first second : List Char) :
    position.after (first ++ second) = (position.after first).after second := foldl_append

/-- Each newline begins a line. -/
theorem after_line (position : Position) (cs : List Char) :
    (position.after cs).line = position.line + cs.count '\n' := by
  induction cs generalizing position with
  | nil => simp [after]
  | cons c rest ih =>
    have step : (position.after (c :: rest)).line = ((position.next c).after rest).line := rfl
    by_cases same : c = '\n'
    · subst same
      rw [step, ih, next_newline, count_cons_self, Int.natCast_succ]
      dsimp only
      omega
    · rw [step, ih, next_of_ne same, count_cons_of_ne same]

/-- Without a line feed, characters are columns. -/
theorem after_column {cs : List Char} (single : '\n' ∉ cs) (position : Position) :
    (position.after cs).column = position.column + cs.length := by
  induction cs generalizing position with
  | nil => simp [after]
  | cons c rest ih =>
    have step : (position.after (c :: rest)).column = ((position.next c).after rest).column := rfl
    have different := (ne_of_not_mem_cons single).symm
    rw [step, ih (not_mem_of_not_mem_cons single), next_of_ne different, length_cons]
    dsimp only
    omega

private theorem after_column_pos {position : Position} (positive : 0 < position.column) (cs : List Char) :
    0 < (position.after cs).column := by
  induction cs generalizing position with
  | nil => exact positive
  | cons c rest ih =>
    apply ih
    rw [next]
    split
    · exact Int.one_pos
    · exact Int.add_pos positive Int.one_pos

/-- After a line feed, columns are counted anew. -/
theorem after_newline {last : List Char} (single : '\n' ∉ last) (position : Position) (before : List Char) :
    (position.after (before ++ '\n' :: last)).column = last.length + 1 := by
  rw [after_append]
  change (((position.after before).next '\n').after last).column = _
  rw [after_column single, next_newline]
  exact Int.add_comm _ _

/-- The line of an offset is one more than the newlines before it. -/
theorem ofOffset_line (source : List Char) (offset : Nat) :
    (ofOffset source offset).line = 1 + (source.take offset).count '\n' := after_line _ _

theorem ofOffset_line_pos (source : List Char) (offset : Nat) : 0 < (ofOffset source offset).line := by
  rw [ofOffset_line]
  omega

theorem ofOffset_column_pos (source : List Char) (offset : Nat) : 0 < (ofOffset source offset).column :=
  after_column_pos Int.one_pos _

/-- The position at a later offset is found from that at an earlier one. -/
theorem ofOffset_add (source : List Char) (start length : Nat) :
    ofOffset source (start + length) =
      (ofOffset source start).after ((source.drop start).take length) := by
  rw [ofOffset, take_add, after_append]
  rfl

private theorem offset_ofOffset {source : List Char} {position : Nat} (inside : position ≤ source.length) :
    (ofOffset source position).offset source = position := by
  have size : (source.take position).length = position := length_take_of_le inside
  have line := ofOffset_line source position
  cases found : Text.findLast? '\n' (source.take position) with
  | none =>
    have single := Text.findLast?_eq_none.mp found
    have column : (ofOffset source position).column = 1 + (source.take position).length :=
      after_column single _
    rw [count_eq_zero_of_not_mem single] at line
    have above : ((ofOffset source position).line - 1).toNat = 0 := by omega
    rw [offset, above, column, size, take_zero, map_nil, sum_nil]
    omega
  | some index =>
    obtain ⟨before, last, same, single, -⟩ := Text.findLast?_eq_some found
    have column : (ofOffset source position).column = last.length + 1 := by
      rw [ofOffset, same, after_newline single]
    -- The lines above are those of the text before the last line feed.
    have lines : (Text.newlineLines source).take (before.count '\n' + 1) = Text.newlineLines before := by
      rw [← take_append_drop position source, same, append_assoc, cons_append,
        Text.newlineLines_append, ← Text.length_newlineLines, take_left]
    have count : (source.take position).count '\n' = before.count '\n' + 1 := by
      rw [same, count_append, count_cons_self, count_eq_zero_of_not_mem single]
    have above : ((ofOffset source position).line - 1).toNat = before.count '\n' + 1 := by omega
    rw [same, length_append, length_cons] at size
    rw [offset, above, lines, Text.sum_newlineLines, column]
    omega

end Position

/-! ## Spans from offsets -/

namespace Span

def first (span : Span) : Position := ⟨span.lineStart, span.columnStart⟩

def last (span : Span) : Position := ⟨span.lineEnd, span.columnEnd⟩

theorem clamp_zero (length : Nat) : clamp length 0 = 0 := by simp [clamp]

theorem clamp_natCast {length offset : Nat} (inside : offset ≤ length) : clamp length (offset : Int) = offset := by
  rw [clamp, if_neg (by omega), Int.toNat_natCast, Nat.min_eq_right inside]

variable {source : List Char} {start length : Nat} (inside : start + length ≤ source.length)

include inside

theorem slice_before : slice source 0 start = source.take start := by
  rw [slice, clamp_zero, clamp_natCast (by omega), drop_zero]

theorem slice_inside : slice source start ((start : Int) + length) = (source.drop start).take length := by
  rw [slice, ← Int.natCast_add, clamp_natCast inside, clamp_natCast (by omega), drop_take,
    Nat.add_sub_cancel_left]

private theorem lastNewline?_before : lastNewline? source 0 start = Text.findLast? '\n' (source.take start) := by
  simp [lastNewline?, slice_before inside, clamp_zero]

private theorem lastNewline?_inside :
    lastNewline? source start ((start : Int) + length) =
      (Text.findLast? '\n' ((source.drop start).take length)).map (start + ·) := by
  rw [lastNewline?, slice_inside inside, clamp_natCast (by omega)]

/-- A span starts on the line of its first offset. -/
theorem ofOffsets_lineStart : (ofOffsets source start length).lineStart = (Position.ofOffset source start).line := by
  rw [Position.ofOffset_line, ofOffsets, slice_before inside]
  exact Int.add_comm _ _

/-- A span starts in the column of its first offset. -/
theorem ofOffsets_columnStart :
    (ofOffsets source start length).columnStart = (Position.ofOffset source start).column := by
  have size : (source.take start).length = start := length_take_of_le (by omega)
  rw [ofOffsets, lastNewline?_before inside, Position.ofOffset]
  cases found : Text.findLast? '\n' (source.take start) with
  | none =>
    rw [Position.after_column (Text.findLast?_eq_none.mp found), size]
    exact Int.add_comm _ _
  | some index =>
    obtain ⟨before, last, same, single, rfl⟩ := Text.findLast?_eq_some found
    rw [same, length_append, length_cons] at size
    rw [same, Position.after_newline single]
    change (start : Int) - before.length = _
    omega

/-- A span ends on the line of its last offset. -/
theorem ofOffsets_lineEnd :
    (ofOffsets source start length).lineEnd = (Position.ofOffset source (start + length)).line := by
  rw [Position.ofOffset_add, Position.after_line, ← ofOffsets_lineStart inside, ← slice_inside inside]
  rfl

private theorem ofOffsets_columnEnd :
    (ofOffsets source start length).columnEnd = (Position.ofOffset source (start + length)).column := by
  have size : ((source.drop start).take length).length = length := by
    rw [length_take_of_le]
    rw [length_drop]
    omega
  have columnStart := ofOffsets_columnStart inside
  rw [Position.ofOffset_add]
  cases found : Text.findLast? '\n' ((source.drop start).take length) with
  | none =>
    have single := Text.findLast?_eq_none.mp found
    have none : (slice source start ((start : Int) + length)).count '\n' = 0 := by
      rw [slice_inside inside, count_eq_zero_of_not_mem single]
    rw [Position.after_column single, size, ← columnStart]
    simp only [ofOffsets, none, if_true]
  | some index =>
    obtain ⟨before, last, same, single, rfl⟩ := Text.findLast?_eq_some found
    have some : (slice source start ((start : Int) + length)).count '\n' ≠ 0 := by
      rw [slice_inside inside, same]
      simp
    rw [same, length_append, length_cons] at size
    rw [same, Position.after_newline single]
    simp only [ofOffsets, some, if_false, lastNewline?_inside inside, found, Option.map_some]
    omega

private theorem ofOffsets_ends : (ofOffsets source start length).first = .ofOffset source start ∧
    (ofOffsets source start length).last = .ofOffset source (start + length) := by
  rw [first, last, ofOffsets_lineStart inside, ofOffsets_columnStart inside, ofOffsets_lineEnd inside,
    ofOffsets_columnEnd inside]
  exact ⟨rfl, rfl⟩

omit inside

/-! ## Spans of nodes -/

/-- A colon ends a number. -/
theorem colon_not_mem {s : String} {n : Int} (read : Text.parseInt? s = some n) : ':' ∉ s.toList := by
  intro member
  rw [Text.parseInt?_foreign (by decide) member] at read
  contradiction

/-- The span of a position that is written as an offset and a length. -/
theorem ofPosition_eq {first second : String} {start length : Int} (source rest : String)
    (offset : Text.parseInt? first = some start) (size : Text.parseInt? second = some length) :
    ofPosition source (first ++ ":" ++ second ++ ":" ++ rest) =
      ofOffsets source.toList start length := by
  have pieces : Text.splitOn (first ++ ":" ++ second ++ ":" ++ rest) ":" =
      first :: second :: Text.splitOn rest ":" := by
    have grouped : first ++ ":" ++ second ++ ":" ++ rest = first ++ ":" ++ (second ++ ":" ++ rest) := by
      simp only [String.append_assoc]
    rw [grouped, Text.splitOn_append rfl (colon_not_mem offset),
      Text.splitOn_append rfl (colon_not_mem size)]
  simp only [ofPosition, pieces, offset, size]

/-- The span of a node is read off its position. -/
theorem ofNode_eq {node : Value} {position : String} (source : String)
    (written : node.field "src" = .ok (.text position)) :
    ofNode node source = .ok (ofPosition source position) := by
  have present : node.has "src" = .ok true := by
    cases node with
    | object fields =>
      cases known : fields.lookup "src" with
      | none =>
        rw [Value.field, known] at written
        contradiction
      | some item =>
        obtain ⟨before, after, same, -⟩ := lookup_eq_some_iff.mp known
        have named : fields.any (fun entry => entry.1 == "src") = true := by simp [same]
        rw [Value.has, named]
        rfl
    | null | bool | int | real | text | list => contradiction
  rw [ofNode, present, Outcome.ok_bind, if_pos rfl, written]
  rfl

end Span

/-- The ends of a span are where two offsets of a source are, and both offsets can be found again from
the span and the source. -/
structure Located (source : String) (start stop : Nat) (span : Span) : Prop where
  first : span.first = .ofOffset source.toList start
  /-- The second end has the line and the column of the second offset. -/
  last : span.last = .ofOffset source.toList stop
  /-- The first offset is found from the first end. -/
  start : span.first.offset source.toList = start
  /-- The second offset is found from the second end. -/
  stop : span.last.offset source.toList = stop

/-- A node within the source is located at its offsets. -/
theorem ofNode_located {node : Value} {source first second rest : String} {start length : Nat}
    (written : node.field "src" = .ok (.text (first ++ ":" ++ second ++ ":" ++ rest)))
    (offset : Text.parseInt? first = some (start : Int)) (size : Text.parseInt? second = some (length : Int))
    (inside : start + length ≤ source.toList.length) :
    ∃ span, Span.ofNode node source = .ok span ∧ Located source start (start + length) span := by
  obtain ⟨first, last⟩ := Span.ofOffsets_ends inside
  refine ⟨_, by rw [Span.ofNode_eq source written, Span.ofPosition_eq source rest offset size], ?_⟩
  refine ⟨first, last, ?_, ?_⟩
  · rw [first, Position.offset_ofOffset (by omega)]
  · rw [last, Position.offset_ofOffset inside]

/-- A node whose position is written as an offset and a length that lie within the source, in whatever
way numbers are written, has the span from the line and column of the offset to those of the end; both
offsets can be found again from it. Decimal numerals are such a way. -/
theorem node_spans_its_text :
    (∀ (node : Value) (source first second rest : String) (start length : Nat),
      node.field "src" = .ok (.text (first ++ ":" ++ second ++ ":" ++ rest)) →
      Text.parseInt? first = some (start : Int) → Text.parseInt? second = some (length : Int) →
      start + length ≤ source.toList.length →
      ∃ span, Span.ofNode node source = .ok span ∧ Located source start (start + length) span) ∧
    ∀ n : Nat, (Number.digitsText n).length ≤ Text.digitLimit →
      Text.parseInt? (Number.digitsText n) = some (n : Int) :=
  ⟨fun _ _ _ _ _ _ _ => ofNode_located, fun _ => Text.parseInt?_digitsText⟩

/-- A span over a line feed, from the second character of a line to the end of the next line. -/
theorem node_spans_its_text_sample :
    Span.ofNode (.object [("src", .text "1:4:0")]) "ab\ncd\n" = .ok ⟨1, 2, 2, 3⟩ ∧
      Located "ab\ncd\n" 1 5 ⟨1, 2, 2, 3⟩ := by
  obtain ⟨span, found, located⟩ := node_spans_its_text.1 (.object [("src", .text "1:4:0")]) "ab\ncd\n"
    "1" "4" "0" 1 4 rfl (by decide) (by decide) (by decide)
  have same : Span.ofNode (.object [("src", .text "1:4:0")]) "ab\ncd\n" = .ok ⟨1, 2, 2, 3⟩ := by rfl
  obtain rfl : span = ⟨1, 2, 2, 3⟩ := Except.ok.inj (found.symm.trans same)
  exact ⟨same, located⟩

end ContractLint.Solidity
