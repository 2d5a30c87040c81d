import ContractLint.Proofs.Solidity.Span
import ContractLint.Report.Sarif

/-! # Regions of reports

The place of a node leaves out an end line or an end column that equals that of the start. A region puts
the start line where the end line is missing, but one where the end column is missing. So it is the
region of the text of the node exactly if the columns of the two ends differ or are both one
(`region_spans_text`).
-/

namespace ContractLint.Report.Sarif

open Solidity

def regionBetween (first last : Position) : Value :=
  .object [
    ("startLine", .int first.line),
    ("endLine", .int last.line),
    ("startColumn", .int first.column),
    ("endColumn", .int last.column)]

/-- The end that a region gives to a span: a column that equals the one of the start becomes one. -/
def writtenEnd (first last : Position) : Position :=
  ⟨last.line, if last.column = first.column then 1 else last.column⟩

/-- The region that the result of a finding gives. -/
def writtenRegion (result : Value) : Outcome Value := do
  let place ← (← result.field "locations").itemAt 0
  (← place.field "physicalLocation").field "region"

/-- A region tells where it ends. -/
theorem regionBetween_inj {first last other : Position} :
    regionBetween first last = regionBetween first other ↔ last = other := by
  simp [regionBetween, Position.ext_iff]

private theorem writtenEnd_eq_self {first last : Position} :
    writtenEnd first last = last ↔ (last.column = first.column → first.column = 1) := by
  rw [writtenEnd, Position.ext_iff]
  by_cases same : last.column = first.column
  · simp only [same, if_true, true_and, true_imp_iff]
    exact eq_comm
  · simp [same]

theorem orElse_some {n : Int} (known : n ≠ 0) (other : Int) : orElse (some n) other = n := by
  rw [orElse, if_neg known]

/-- A value that is left out where it equals a default is written as what stands in for it there. -/
theorem orElse_unless {n : Int} (known : n ≠ 0) (left other : Int) :
    orElse (if n = left then none else some n) other = if n = left then other else n := by
  split
  · rfl
  · exact orElse_some known other

private theorem region_location {span : Span} (file : String) (columnStart : span.columnStart ≠ 0)
    (lineEnd : span.lineEnd ≠ 0) (columnEnd : span.columnEnd ≠ 0) :
    region (span.location file) = regionBetween span.first (writtenEnd span.first span.last) := by
  have line : (if span.lineEnd = span.lineStart then span.lineStart else span.lineEnd) = span.lineEnd := by
    split
    next same => exact same.symm
    next => rfl
  rw [region, Span.location, orElse_unless lineEnd, orElse_unless columnEnd, orElse_some columnStart, line]
  rfl

/-- A finding whose lines can be shown has a result, and that gives the region of its place. -/
theorem exists_result {output : OutputSettings} {f : Finding} {place : Location} {shown : List (String × Value)}
    (known : f.location = some place) (lines : context output f = .ok shown) :
    ∃ document, (entryOf f >>= result output) = .ok document ∧
      writtenRegion document = .ok (region place) := by
  have entry : entryOf f = .ok ⟨f, place⟩ := by
    rw [entryOf, known]
    rfl
  refine ⟨_, by rw [entry, Outcome.ok_bind, result, lines, Outcome.ok_bind]; rfl, ?_⟩
  rfl

/-- A finding at the place of a node whose text lies within the source has a result with the line and
column of the start and the line of the end. The column of the end is one if it equals that of the
start, so the region is the one of the text exactly if these columns differ or are both one. -/
theorem region_spans_text (node : Value) (source file first second rest : String) (start length : Nat)
    (written : node.field "src" = .ok (.text (first ++ ":" ++ second ++ ":" ++ rest)))
    (offset : Text.parseInt? first = some (start : Int))
    (size : Text.parseInt? second = some (length : Int))
    (inside : start + length ≤ source.toList.length) :
    let head := Position.ofOffset source.toList start
    let stop := Position.ofOffset source.toList (start + length)
    ∃ place, nodeLocation node source file = .ok place ∧
      ∀ (output : OutputSettings) (f : Finding) (shown : List (String × Value)),
        f.location = some place → context output f = .ok shown →
        ∃ document given, (entryOf f >>= result output) = .ok document ∧
          writtenRegion document = .ok given ∧ given = regionBetween head (writtenEnd head stop) ∧
          (given = regionBetween head stop ↔ (stop.column = head.column → head.column = 1)) := by
  intro head stop
  obtain ⟨span, found, located⟩ := ofNode_located written offset size inside
  have columnStart : span.columnStart = head.column := congrArg Position.column located.first
  have lineEnd : span.lineEnd = stop.line := congrArg Position.line located.last
  have columnEnd : span.columnEnd = stop.column := congrArg Position.column located.last
  -- Lines and columns count from one, so no known end is taken for a missing one.
  have headColumn : 0 < head.column := Position.ofOffset_column_pos _ _
  have stopLine : 0 < stop.line := Position.ofOffset_line_pos _ _
  have stopColumn : 0 < stop.column := Position.ofOffset_column_pos _ _
  have same : region (span.location file) = regionBetween head (writtenEnd head stop) := by
    rw [region_location file (by omega) (by omega) (by omega), located.first, located.last]
  refine ⟨span.location file, by rw [nodeLocation, found, Outcome.ok_bind]; rfl, ?_⟩
  intro output f shown known lines
  obtain ⟨document, made, given⟩ := exists_result known lines
  refine ⟨document, _, made, given, same, ?_⟩
  rw [same, regionBetween_inj, writtenEnd_eq_self]

/-- A finding at a place, with no lines to show. -/
def findingAt (place : Location) : Finding :=
  { (default : Finding) with location := some place, snippet := none }

/-- The text of two lines from the second column of the first to the third of the second is given. -/
theorem region_spans_text_sample :
    ∃ place document, nodeLocation (.object [("src", .text "1:4:0")]) "ab\ncd\n" "a.sol" = .ok place ∧
      (entryOf (findingAt place) >>= result {}) = .ok document ∧
      writtenRegion document = .ok (regionBetween ⟨1, 2⟩ ⟨2, 3⟩) := by
  obtain ⟨place, found, regions⟩ := region_spans_text (.object [("src", .text "1:4:0")]) "ab\ncd\n"
    "a.sol" "1" "4" "0" 1 4 rfl (by decide) (by decide) (by decide)
  obtain ⟨document, given, made, read, -, whole⟩ := regions {} (findingAt place) [] rfl rfl
  have same : given = regionBetween ⟨1, 2⟩ ⟨2, 3⟩ := whole.mpr (by decide)
  exact ⟨place, document, found, made, same ▸ read⟩

/-- The text from the second column of a line to the second of the next is given with an end in the
first column, which is another text. -/
theorem region_loses_end_column :
    ∃ place document, nodeLocation (.object [("src", .text "1:3:0")]) "ab\ncd" "a.sol" = .ok place ∧
      Position.ofOffset "ab\ncd".toList 1 = ⟨1, 2⟩ ∧ Position.ofOffset "ab\ncd".toList 4 = ⟨2, 2⟩ ∧
      (entryOf (findingAt place) >>= result {}) = .ok document ∧
      writtenRegion document = .ok (regionBetween ⟨1, 2⟩ ⟨2, 1⟩) ∧
      regionBetween ⟨1, 2⟩ ⟨2, 1⟩ ≠ regionBetween ⟨1, 2⟩ ⟨2, 2⟩ := by
  have found : nodeLocation (.object [("src", .text "1:3:0")]) "ab\ncd" "a.sol" =
      .ok ⟨"a.sol", 1, some 2, some 2, none⟩ := by rfl
  have lines : context {} (findingAt ⟨"a.sol", 1, some 2, some 2, none⟩) = .ok [] := by rfl
  obtain ⟨document, made, given⟩ := exists_result rfl lines
  refine ⟨_, document, found, by decide, by decide, made, given, ?_⟩
  rw [Ne, regionBetween_inj]
  decide

end ContractLint.Report.Sarif
