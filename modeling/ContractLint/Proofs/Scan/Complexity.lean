import ContractLint.Proofs.Detector.Excerpt
import ContractLint.Proofs.Text.Case
import ContractLint.Scan.Inference.Rules

/-! # Functions with many branches

The lines of a file are read once. A line that names a function begins a segment, which ends before the next such line,
and a segment is judged when the next one begins. So every segment is judged by its own branches and reported under its
own first line, also where several begin with the same text, except that the last one is never judged
(`segments_judged_iff`).
-/

namespace ContractLint.Scan.Inference

open List

variable {lines : List String} {line : String} {reading : Reading} {read : List String}

/-! ## Segments -/

/-- A line names a function. -/
def isHead (line : String) : Bool := Text.contains (Text.strip (Text.lower line)) "function "

/-- A function as a line by line reading sees it. -/
structure Segment where
  /-- The number of its first line. -/
  number : Nat
  lines : List String

variable {s : Segment}

namespace Segment

/-- The number of branches in some lines. -/
def weightOf (lines : List String) : Nat :=
  (lines.map fun line => branches (Text.strip (Text.lower line))).sum

/-- The number of branches. -/
def weight (segment : Segment) : Nat := weightOf segment.lines

/-- The finding about a segment with many branches. -/
def finding (segment : Segment) : Finding := (complexFunction segment.weight).on segment.number ""

/-- A segment of the lines after the first `offset` ones begins with a line that names a function and ends before the
next such line or with the last line. -/
def Of (offset : Nat) (lines : List String) (segment : Segment) : Prop :=
  ∃ before head rest after, lines = before ++ (head :: rest) ++ after ∧
    segment = ⟨offset + before.length + 1, head :: rest⟩ ∧ isHead head ∧ (∀ line ∈ rest, ¬isHead line) ∧
    ∀ line ∈ after.head?, isHead line

end Segment

/-- The lines up to the next one that names a function. -/
def untilHead (lines : List (Nat × String)) : List String := (lines.map Prod.snd).takeWhile fun line => !isHead line

/-- The segments of numbered lines. -/
def segments : List (Nat × String) → List Segment
  | [] => []
  | (number, line) :: rest =>
    if isHead line then ⟨number, line :: untilHead rest⟩ :: segments rest else segments rest

/-- The findings about those of some segments that have many branches. -/
def judge (parts : List Segment) : List Finding := (parts.filter fun s => 10 < s.weight).map Segment.finding

theorem judge_append (first second : List Segment) : judge (first ++ second) = judge first ++ judge second := by
  simp [judge]

private theorem weightOf_append (first second : List String) :
    Segment.weightOf (first ++ second) = Segment.weightOf first + Segment.weightOf second := by
  rw [Segment.weightOf, map_append]
  exact sum_append_nat

/-! ## One reading -/

private theorem strip_ne_empty (head : isHead line) : Text.strip line ≠ "" := by
  intro blank
  rw [isHead, Text.strip_lower_of_strip blank] at head
  contradiction

/-- What is known when a line of a segment is reached: the segment began on line `start`, and its lines so far are
`read`. -/
structure Reading.Within (reading : Reading) (start : Nat) (read : List String) : Prop where
  head : ∃ head, reading.head = some head ∧ head ≠ "" ∧ reading.starts.lookup head = some start
  count : reading.count = Segment.weightOf read

private theorem Reading.Within.judged {start : Nat} (within : reading.Within start read)
    (next : Nat) : reading.judged next = judge [⟨start, read⟩] := by
  obtain ⟨head, current, named, began⟩ := within.head
  rw [Reading.judged, current]
  by_cases many : 10 < Segment.weightOf read
  · simp [judge, Segment.weight, Segment.finding, within.count, named, began, many]
  · simp [judge, Segment.weight, within.count, many]

/-- The reading of a line that names a function begins a segment. -/
theorem Reading.within_head (starts : List (String × Nat)) (number : Nat) (head : isHead line) :
    Reading.Within ⟨some (Text.strip line), (Text.strip line, number) :: starts,
      branches (Text.strip (Text.lower line))⟩ number [line] where
  head := ⟨_, rfl, strip_ne_empty head, lookup_cons_self⟩
  count := by simp [Segment.weightOf]

/-- At a head, what was counted is judged and a new count begins. -/
theorem qualityFrom_head (head : isHead line) (reading : Reading) (number : Nat) (rest : List (Nat × String)) :
    qualityFrom reading ((number, line) :: rest) = reading.judged number ++
      qualityFrom ⟨some (Text.strip line), (Text.strip line, number) :: reading.starts,
        branches (Text.strip (Text.lower line))⟩ rest := by
  rw [qualityFrom]
  exact if_pos head

/-- Any other line adds its branches. -/
theorem qualityFrom_other (other : ¬isHead line) (reading : Reading) (number : Nat) (rest : List (Nat × String)) :
    qualityFrom reading ((number, line) :: rest) =
      qualityFrom { reading with count := reading.count + branches (Text.strip (Text.lower line)) } rest := by
  rw [qualityFrom]
  exact if_neg other

/-- From inside a segment on, the segment and all others are judged but the last. -/
theorem qualityFrom_within {start : Nat} (within : reading.Within start read) (lines : List (Nat × String)) :
    qualityFrom reading lines = judge (⟨start, read ++ untilHead lines⟩ :: segments lines).dropLast := by
  induction lines generalizing reading start read with
  | nil => rfl
  | cons entry rest ih =>
    obtain ⟨number, line⟩ := entry
    by_cases head : isHead line
    · have ends : untilHead ((number, line) :: rest) = [] := by simp [untilHead, head]
      rw [qualityFrom_head head, within.judged, ih (Reading.within_head reading.starts number head), segments,
        if_pos head, ends, append_nil, dropLast_cons_cons, singleton_append, ← judge_append]
      rfl
    · have goesOn : untilHead ((number, line) :: rest) = line :: untilHead rest := by simp [untilHead, head]
      have further : Reading.Within { reading with count := reading.count + branches (Text.strip (Text.lower line)) }
          start (read ++ [line]) := by
        refine ⟨within.head, ?_⟩
        rw [weightOf_append, within.count]
        simp [Segment.weightOf]
      rw [qualityFrom_other head, ih further, segments, if_neg head, goesOn, append_assoc, singleton_append]

/-- Before the first segment nothing is judged. -/
theorem qualityFrom_outside (outside : reading.head = none) (lines : List (Nat × String)) :
    qualityFrom reading lines = judge (segments lines).dropLast := by
  induction lines generalizing reading with
  | nil => rfl
  | cons entry rest ih =>
    obtain ⟨number, line⟩ := entry
    by_cases head : isHead line
    · have nothing : reading.judged number = [] := by rw [Reading.judged, outside]
      rw [qualityFrom_head head, nothing, nil_append,
        qualityFrom_within (Reading.within_head reading.starts number head), segments, if_pos head,
        singleton_append]
    · rw [qualityFrom_other head, ih (by exact outside), segments, if_neg head]

/-! ## All segments -/

private theorem segments_numbers (lines : List (Nat × String)) :
    (segments lines).map Segment.number = (lines.filter fun entry => isHead entry.2).map Prod.fst := by
  induction lines with
  | nil => rfl
  | cons entry rest ih =>
    obtain ⟨number, line⟩ := entry
    by_cases head : isHead line
    · simp [segments, head, ih]
    · simp [segments, head, ih]

/-- The segments of a file begin one after the other. -/
theorem segments_pairwise (lines : List String) :
    (segments (Excerpt.numbered lines)).Pairwise fun one other => one.number < other.number := by
  rw [← pairwise_map (f := Segment.number) (R := (· < ·)), segments_numbers, pairwise_map]
  exact (Excerpt.pairwise_numbered lines).filter _

/-- A segment begins with the first line or later. -/
theorem Segment.of_cons_iff {offset : Nat} :
    s.Of offset (line :: lines) ↔
      isHead line ∧ s = ⟨offset + 1, line :: lines.takeWhile fun line => !isHead line⟩ ∨
        s.Of (offset + 1) lines := by
  constructor
  · rintro ⟨before, head, rest, after, divided, rfl, named, others, ends⟩
    cases before with
    | nil =>
      obtain ⟨rfl, rfl⟩ : line = head ∧ lines = rest ++ after := by simpa using divided
      have stops : after.takeWhile (fun line => !isHead line) = [] := by
        cases after with
        | nil => rfl
        | cons next after => simp [ends next rfl]
      refine .inl ⟨named, ?_⟩
      rw [takeWhile_append_of_pos (by simpa using others), stops, append_nil]
      rfl
    | cons first before =>
      obtain ⟨rfl, rfl⟩ : line = first ∧ lines = before ++ (head :: rest) ++ after := by simpa using divided
      refine .inr ⟨before, head, rest, after, rfl, ?_, named, others, ends⟩
      rw [length_cons, Nat.add_assoc offset 1, Nat.add_comm 1]
  · rintro (⟨named, rfl⟩ | ⟨before, head, rest, after, rfl, rfl, facts⟩)
    · refine ⟨[], line, lines.takeWhile fun line => !isHead line, lines.dropWhile fun line => !isHead line, ?_, rfl,
        named, fun other inside => ?_, fun other next => ?_⟩
      · rw [nil_append, cons_append, takeWhile_append_dropWhile]
      · simpa using mem_takeWhile_imp inside
      · have ends := head?_dropWhile_not (fun line => !isHead line) lines
        rw [Option.mem_def.mp next] at ends
        simpa using ends
    · refine ⟨line :: before, head, rest, after, rfl, ?_, facts⟩
      rw [length_cons, Nat.add_assoc offset 1, Nat.add_comm 1]

private theorem untilHead_zipIdx (lines : List String) (offset : Nat) :
    untilHead ((lines.zipIdx offset).map fun entry => (entry.2 + 1, entry.1)) =
      lines.takeWhile fun line => !isHead line := by
  rw [untilHead, map_map]
  congr 1
  exact zipIdx_map_fst offset lines

private theorem mem_segments_zipIdx {offset : Nat} :
    s ∈ segments ((lines.zipIdx offset).map fun entry => (entry.2 + 1, entry.1)) ↔ s.Of offset lines := by
  induction lines generalizing offset with
  | nil => simp [segments, Segment.Of]
  | cons line lines ih =>
    rw [zipIdx_cons, map_cons, segments, untilHead_zipIdx, Segment.of_cons_iff, ← ih]
    by_cases head : isHead line
    · rw [if_pos head, mem_cons, and_iff_right head]
    · rw [if_neg head]
      simp [head]

private theorem mem_segments_iff : s ∈ segments (Excerpt.numbered lines) ↔ s.Of 0 lines := mem_segments_zipIdx

private theorem judge_dropLast_iff (parts : List Segment) :
    judge parts.dropLast = judge parts ↔ ∀ last ∈ parts.getLast?, last.weight ≤ 10 := by
  obtain rfl | ⟨front, last, rfl⟩ := eq_nil_or_concat parts
  · simp
  · rw [concat_eq_append, dropLast_concat, judge_append, getLast?_concat, self_eq_append_right]
    simp [judge]

/-- A file has segments, one after the other: each begins with a line that names a function and ends before the next
such line or with the file. There is one finding for each of them with many branches, under the number of its first
line, except for the last segment. So all segments with many branches have one exactly if the last one has few. -/
theorem segments_judged_iff (content : String) :
    ∃ parts : List Segment, parts.Pairwise (fun one other => one.number < other.number) ∧
      (∀ s, s ∈ parts ↔ s.Of 0 (Text.lines content)) ∧
      qualityFindings content = (parts.dropLast.filter fun s => 10 < s.weight).map Segment.finding ∧
      (qualityFindings content = (parts.filter fun s => 10 < s.weight).map Segment.finding ↔
        ∀ last ∈ parts.getLast?, last.weight ≤ 10) := by
  have found : qualityFindings content = judge (segments (Excerpt.numbered (Text.lines content))).dropLast :=
    qualityFrom_outside rfl _
  refine ⟨segments (Excerpt.numbered (Text.lines content)), segments_pairwise _, fun s => mem_segments_iff, found,
    ?_⟩
  rw [found]
  exact judge_dropLast_iff _

def branching : String := "function f if if if if if if if if if if if x"

/-- The only function of a file is not reported, though it has many branches. -/
theorem only_function_not_judged :
    (⟨1, [branching]⟩ : Segment).Of 0 (Text.lines branching) ∧ (⟨1, [branching]⟩ : Segment).weight = 11 ∧
      qualityFindings branching = [] := by
  have single : Text.lines branching = [branching] := by decide +kernel
  have head : isHead branching := by decide +kernel
  have numbered : Excerpt.numbered [branching] = [(1, branching)] := rfl
  rw [qualityFindings, single, numbered, qualityFrom_head head]
  exact ⟨⟨[], branching, [], [], rfl, rfl, head, forall_mem_nil _, fun _ next => nomatch next⟩, by decide +kernel,
    rfl⟩

end ContractLint.Scan.Inference
