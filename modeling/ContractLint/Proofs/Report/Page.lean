import ContractLint.Proofs.Outcome
import ContractLint.Proofs.Report.Markup
import ContractLint.Proofs.Text.Split
import ContractLint.Proofs.Timestamp
import ContractLint.Report.Html

/-! # Texts of findings in a page

A page is put together from markup, which is whole (`sealed_pagePieces`), and from texts, and its end closes whatever
tag is open (`closed_pagePieces`). So a page has the tags of its markup exactly if no text opens a tag, and the tags of
the markup depend on the shapes of the findings only (`outline_pagePieces`). Texts of findings are not escaped: two
reports on findings of the same shapes have the same tags exactly if no text of a finding opens one.
-/

namespace ContractLint.Report.Html

open List Markup Outcome

variable {output : OutputSettings} {entries : List Entry} {limit : Int}

/-! ## Pages as markup and texts -/

/-- A part that may be missing, between markup. -/
def partPieces (start stop : String) : Option String → List Piece
  | some s => [.markup start, .text s, .markup stop]
  | none => []

/-- The pieces of a finding, with the snippet that is shown. -/
def entryPieces (snippet : Option String) (index : Nat) (e : Entry) : List Piece :=
  [.markup (headlineStart e.finding.severity), .text (headline index e.finding),
    .markup placeStart, .text (placeText e),
    .markup descriptionStart, .text e.finding.description, .markup descriptionEnd]
  ++ partPieces "<div class=\"code-snippet\"><pre>" "</pre></div>" snippet
  ++ partPieces "<p><strong>Recommendation:</strong> " "</p>" (recommendation e.finding)
  ++ [.markup "</div></div>"]

private theorem content_partPieces (start stop : String) (s : Option String) :
    content (partPieces start stop s) = whenSome s fun s => start ++ s ++ stop := by
  cases s with
  | none => rfl
  | some s => simp [content, partPieces, whenSome, Piece.content, String.append_assoc]

private theorem entry_eq (lines : output.maxSnippetLines = .int limit) (index : Nat) (e : Entry) :
    entry output index e =
      .ok (content (entryPieces ((shownSnippet output e.finding).map (truncatedTo limit)) index e)) := by
  have shown : (shownSnippet output e.finding).mapM (truncated output) =
      .ok ((shownSnippet output e.finding).map (truncatedTo limit)) := by
    cases shownSnippet output e.finding with
    | none => rfl
    | some s =>
      rw [Option.mapM_some, truncated_of_int lines]
      rfl
  rw [entry, shown, ok_bind]
  refine congrArg Except.ok ?_
  rw [entryPieces, content_append, content_append, content_append, content_partPieces, content_partPieces]
  simp only [content_cons, content_nil, Piece.content, String.append_assoc, String.append_empty]

/-- The pieces of the number of findings of a severity. -/
def countPieces (item : Severity × Nat) : List Piece :=
  [.markup (countStart item.1), .text (Number.digitsText item.2), .markup "</span></p>"]

/-- The pieces of the numbers of a report. -/
def summaryPieces (s : Summary) : List Piece :=
  [.markup "<div class=\"summary\"><h2>Summary</h2>"]
  ++ s.present.flatMap countPieces
  ++ [.markup "<p><strong>Files with issues:</strong> ", .text (Number.digitsText s.files.length), .markup "</p></div>"]

private theorem countLine_eq (item : Severity × Nat) : countLine item = content (countPieces item) := by
  unfold countLine countPieces
  rw [content_cons, content_cons, content_cons, content_nil, Piece.content, Piece.content, Piece.content,
    String.append_empty, String.append_assoc]

private theorem summarySection_eq (s : Summary) : summarySection s = content (summaryPieces s) := by
  rw [summaryPieces, content_append, content_append, content_flatMap, ← funext countLine_eq]
  unfold summarySection
  rw [content_cons, content_cons, content_cons, content_cons, content_nil, Piece.content, Piece.content,
    Piece.content, Piece.content, String.append_empty, String.append_empty, String.append_assoc, String.append_assoc]

/-- The pieces of all findings, with the snippets that are shown. -/
def findingsPieces (output : OutputSettings) (limit : Int) (entries : List Entry) : List Piece :=
  [.markup "<div class=\"findings\"><h2>Detailed Findings</h2>"]
  ++ (numbered entries).flatMap (fun item =>
    entryPieces ((shownSnippet output item.2.finding).map (truncatedTo limit)) item.1 item.2)
  ++ [.markup "</div>"]

private theorem findingsSection_eq (lines : output.maxSnippetLines = .int limit) (entries : List Entry) :
    findingsSection output entries = .ok (content (findingsPieces output limit entries)) := by
  have parts : ((numbered entries).mapM fun item => entry output item.1 item.2) =
      .ok ((numbered entries).map fun item =>
      content (entryPieces ((shownSnippet output item.2.finding).map (truncatedTo limit)) item.1 item.2)) :=
    mapM_eq_ok fun item _ => entry_eq lines item.1 item.2
  have joined : findingsSection output entries =
      (numbered entries).mapM (fun item => entry output item.1 item.2) >>= fun parts =>
        pure ("<div class=\"findings\"><h2>Detailed Findings</h2>" ++ String.join parts ++ "</div>") := rfl
  rw [joined, parts, ok_bind, findingsPieces, content_append, content_append, content_flatMap]
  refine congrArg Except.ok ?_
  simp only [content_cons, content_nil, Piece.content, String.append_empty]

/-- The pieces of a report on findings. -/
def pagePieces (output : OutputSettings) (limit : Int) (clock : Timestamp) (entries : List Entry) : List Piece :=
  [.markup pageStart, .markup ("\n        " ++ styles), .markup timeStart, .text clock.text, .markup timeEnd]
  ++ summaryPieces (summary entries) ++ [.markup (Text.joinLines ["", "        "])]
  ++ findingsPieces output limit (sorted entries) ++ [.markup footerStart, .markup pageEnd]

private theorem render_eq (lines : output.maxSnippetLines = .int limit) (clock : Timestamp) (some : entries ≠ []) :
    render output clock entries = .ok (content (pagePieces output limit clock entries)) := by
  have occupied : entries.isEmpty = false := by simpa using some
  rw [render, occupied, findingsSection_eq lines, ok_bind, pagePieces, content_append, content_append, content_append,
    content_append, ← summarySection_eq]
  refine congrArg Except.ok ?_
  simp only [content_cons, content_nil, Piece.content, String.append_assoc, String.append_empty]

/-! ## The markup is whole -/

theorem whole_joinLines {lines : List String} (each : ∀ line ∈ lines, Whole line.toList) :
    Whole (Text.joinLines lines).toList := by
  induction lines with
  | nil => exact Whole.literal (by decide)
  | cons first rest ih =>
    obtain ⟨here, others⟩ := forall_mem_cons.mp each
    cases rest with
    | nil => rwa [Text.joinLines_singleton]
    | cons second rest =>
      rw [Text.joinLines_cons, String.toList_append, String.toList_append]
      exact here.append ((Whole.literal (by decide)).append (ih others))

private theorem whole_join {list : List String} (each : ∀ s ∈ list, Whole s.toList) :
    Whole (String.join list).toList := by
  induction list with
  | nil => exact Whole.literal (by decide)
  | cons first rest ih =>
    obtain ⟨here, others⟩ := forall_mem_cons.mp each
    rw [String.join_cons, String.toList_append]
    exact here.append (ih others)

/-- The markup that is the same for all findings. -/
theorem whole_fixed :
    Whole pageStart.toList ∧ Whole timeStart.toList ∧ Whole timeEnd.toList ∧ Whole placeStart.toList
    ∧ Whole descriptionStart.toList ∧ Whole descriptionEnd.toList := by
  -- Each line is checked by itself, as a literal: the characters of a long text are slow to take apart.
  refine ⟨?_, ?_, ?_, ?_, ?_, ?_⟩ <;>
  · apply whole_joinLines
    repeat refine forall_mem_cons.mpr ⟨Whole.literal (by decide +kernel), ?_⟩
    exact forall_mem_nil _

private theorem whole_countStart (severity : Severity) : Whole (countStart severity).toList := by
  cases severity <;> decide +kernel

private theorem whole_headlineStart (severity : Severity) : Whole (headlineStart severity).toList := by
  apply whole_joinLines
  refine forall_mem_cons.mpr ⟨Whole.literal (by decide), ?_⟩
  refine forall_mem_cons.mpr ⟨Whole.literal (by decide), ?_⟩
  refine forall_mem_cons.mpr ⟨Whole.literal (by decide), ?_⟩
  refine forall_mem_cons.mpr ⟨?_, forall_mem_nil _⟩
  cases severity <;> decide +kernel

private theorem whole_styleRules :
    ∀ rule ∈ styleRules, Whole rule.1.toList ∧ ∀ declaration ∈ rule.2, Whole declaration.toList := by
  unfold styleRules
  repeat
    refine forall_mem_cons.mpr ⟨⟨Whole.literal (by decide +kernel), ?_⟩, ?_⟩
    · repeat refine forall_mem_cons.mpr ⟨Whole.literal (by decide +kernel), ?_⟩
      exact forall_mem_nil _
  exact forall_mem_nil _

private theorem whole_styles : Whole styles.toList := by
  unfold styles
  rw [String.toList_append, String.toList_append]
  refine ((Whole.literal (by decide)).append (whole_join (forall_mem_map.mpr fun rule member => ?_))).append
    (Whole.literal (by decide))
  obtain ⟨selector, declarations⟩ := whole_styleRules rule member
  rw [String.toList_append, String.toList_append, String.toList_append, String.toList_append]
  refine ((((Whole.literal (by decide)).append selector).append (Whole.literal (by decide))).append
    (whole_join (forall_mem_map.mpr fun declaration member => ?_))).append (Whole.literal (by decide))
  rw [String.toList_append]
  exact (declarations declaration member).append (Whole.literal (by decide))

theorem footerStart_toList : footerStart.toList = "\n\n        <footer>".toList := by
  decide +kernel

/-- Whatever tag is open is closed by the one of the footer, which is the first after the findings. -/
theorem footer_closes (tag : Option (List Char)) : (scan tag footerStart.toList).2 = none := by
  rw [footerStart_toList]
  cases tag with
  | none => rfl
  | some tag => rfl

theorem whole_footerStart : Whole footerStart.toList := by
  rw [footerStart_toList]
  exact Whole.literal (by decide)

theorem whole_pageEnd : Whole pageEnd.toList := by
  apply whole_joinLines
  refine forall_mem_cons.mpr ⟨Whole.literal (by decide), forall_mem_cons.mpr ⟨?_, ?_⟩⟩
  · rw [String.toList_append]
    exact (Whole.literal (by decide)).append (Whole.literal (by decide))
  repeat refine forall_mem_cons.mpr ⟨Whole.literal (by decide), ?_⟩
  exact forall_mem_nil _

theorem shuts_joinLines {first : String} (shuts : Shuts first) (second : String) (rest : List String) :
    Shuts (Text.joinLines (first :: second :: rest)) := by
  rw [Text.joinLines_cons]
  exact shuts.append _

private theorem sealed_partPieces {start stop : String} (first : Whole start.toList) (last : Whole stop.toList)
    (shuts : Shuts stop) (s : Option String) : Sealed (partPieces start stop s) := by
  cases s with
  | none => exact .nil
  | some s => exact .markup first (.text s shuts (.markup last .nil))

private theorem sealed_entryPieces (snippet : Option String) (index : Nat) (e : Entry) :
    Sealed (entryPieces snippet index e) := by
  obtain ⟨-, -, -, place, description, ending⟩ := whole_fixed
  have shuts (second : String) (rest : List String) := shuts_joinLines (Shuts.literal rfl : Shuts "</p>") second rest
  refine Sealed.append (Sealed.append (Sealed.append ?_ ?_) ?_) ?_
  · exact .markup (whole_headlineStart _) (.text _ (shuts_joinLines (Shuts.literal rfl) _ _)
      (.markup place (.text _ (shuts _ _) (.markup description (.text _ (shuts _ _) (.markup ending .nil))))))
  · exact sealed_partPieces (.literal (by decide)) (.literal (by decide)) (.literal rfl) _
  · exact sealed_partPieces (.literal (by decide)) (.literal (by decide)) (.literal rfl) _
  · exact .markup (Whole.literal (by decide)) .nil

private theorem sealed_countPieces (item : Severity × Nat) : Sealed (countPieces item) :=
  .markup (whole_countStart item.1) (.text _ (Shuts.literal rfl) (.markup (Whole.literal (by decide)) .nil))

/-- The pieces of a page are sealed. -/
theorem sealed_pagePieces (output : OutputSettings) (limit : Int) (clock : Timestamp) (entries : List Entry) :
    Sealed (pagePieces output limit clock entries) := by
  obtain ⟨start, before, after, -⟩ := whole_fixed
  have styled : Whole ("\n        " ++ styles).toList := by
    rw [String.toList_append]
    exact (Whole.literal (by decide)).append whole_styles
  refine Sealed.append (Sealed.append (Sealed.append (Sealed.append ?_ ?_) ?_) ?_) ?_
  · exact .markup start (.markup styled (.markup before (.text _ (shuts_joinLines (Shuts.literal rfl) _ _)
      (.markup after .nil))))
  · refine Sealed.append (Sealed.append ?_ (Sealed.flatMap sealed_countPieces _)) ?_
    · exact .markup (Whole.literal (by decide)) .nil
    · exact .markup (Whole.literal (by decide)) (.text _ (Shuts.literal rfl)
        (.markup (Whole.literal (by decide)) .nil))
  · exact .markup (by decide) .nil
  · refine Sealed.append (Sealed.append ?_ (Sealed.flatMap (fun item => sealed_entryPieces _ _ _) _)) ?_
    · exact .markup (Whole.literal (by decide)) .nil
    · exact .markup (Whole.literal (by decide)) .nil
  · exact .markup whole_footerStart (.markup whole_pageEnd .nil)

/-- At the end of a page no tag is open. -/
theorem closed_pagePieces (output : OutputSettings) (limit : Int) (clock : Timestamp) (entries : List Entry) :
    (scan none (content (pagePieces output limit clock entries)).toList).2 = none :=
  closed_of_closing _ ⟨'\n', by rw [footerStart_toList]; rfl, rfl⟩ whole_footerStart footer_closes whole_pageEnd

/-! ## The tags that the markup has -/

/-- What the tags of a finding may depend on. -/
structure Shape where
  severity : Severity
  snippet : Bool
  recommendation : Bool
deriving DecidableEq

/-- The shape of a finding in a report. -/
def shape (output : OutputSettings) (e : Entry) : Shape :=
  ⟨e.finding.severity, (shownSnippet output e.finding).isSome, (recommendation e.finding).isSome⟩

/-- The tags around a part that may be missing. -/
def partTags (start stop : String) (shown : Bool) : List (List Char) := if shown then tags start ++ tags stop else []

def entryTags (s : Shape) : List (List Char) :=
  tags (headlineStart s.severity) ++ tags placeStart ++ tags descriptionStart ++ tags descriptionEnd
  ++ partTags "<div class=\"code-snippet\"><pre>" "</pre></div>" s.snippet
  ++ partTags "<p><strong>Recommendation:</strong> " "</p>" s.recommendation
  ++ tags "</div></div>"

private theorem outline_partPieces (start stop : String) (s : Option String) :
    outline (partPieces start stop s) = partTags start stop s.isSome := by
  cases s with
  | none => rfl
  | some s => simp [partPieces, partTags, outline_nil]

private theorem outline_entryPieces (output : OutputSettings) (limit : Int) (index : Nat) (e : Entry) :
    outline (entryPieces ((shownSnippet output e.finding).map (truncatedTo limit)) index e)
      = entryTags (shape output e) := by
  unfold entryPieces entryTags
  rw [outline_append, outline_append, outline_append, outline_partPieces, outline_partPieces, Option.isSome_map]
  simp only [outline_markup, outline_text, outline_nil, append_nil, append_assoc, shape]

theorem map_snd_numbered (entries : List Entry) : (numbered entries).map Prod.snd = entries := by
  have numbers : (List.range entries.length).length = entries.length := length_range
  rw [numbered, map_map]
  exact map_snd_zip (Nat.le_of_eq numbers.symm)

private theorem outline_findingsPieces (output : OutputSettings) (limit : Int) (entries : List Entry) :
    outline (findingsPieces output limit entries) =
      tags "<div class=\"findings\"><h2>Detailed Findings</h2>" ++ (entries.map (shape output)).flatMap entryTags
        ++ tags "</div>" := by
  have parts : (numbered entries).flatMap (fun item =>
      outline (entryPieces ((shownSnippet output item.2.finding).map (truncatedTo limit)) item.1 item.2)) =
      (entries.map (shape output)).flatMap entryTags := by
    simp only [outline_entryPieces]
    conv => rhs; rw [← map_snd_numbered entries, map_map, flatMap_map]
    rfl
  rw [findingsPieces, outline_append, outline_append, outline_flatMap, parts, outline_markup, outline_markup,
    outline_nil, append_nil, append_nil]

/-- The numbers of findings of each severity are those of the shapes, in whatever order. -/
theorem summary_severities (output : OutputSettings) (entries : List Entry) :
    (summary entries).severities = Severity.all.map fun severity =>
      (severity, (((sorted entries).map (shape output)).filter fun s => s.severity = severity).length) := by
  refine map_congr_left fun severity _ => ?_
  rw [filter_map, length_map]
  exact congrArg _ ((mergeSort_perm entries inOrder).filter _).length_eq.symm

/-- Entries of the same shapes make pages of the same outline. -/
theorem outline_pagePieces (limit : Int) (clock clock' : Timestamp)
    {others : List Entry} (alike : (sorted entries).map (shape output) = (sorted others).map (shape output)) :
    outline (pagePieces output limit clock entries) = outline (pagePieces output limit clock' others) := by
  have counted : (summary entries).present = (summary others).present := by
    rw [Summary.present, Summary.present, summary_severities output, summary_severities output, alike]
  simp only [pagePieces, summaryPieces, outline_append, outline_markup, outline_text, outline_findingsPieces]
  rw [alike, counted]

/-! ## The texts that a page shows -/

/-- The texts of a finding that a page shows, with a limit of lines for the snippet. -/
def shownTexts (output : OutputSettings) (limit : Int) (e : Entry) : List String :=
  [e.finding.title, e.place.file, e.finding.description]
  ++ ((shownSnippet output e.finding).map (truncatedTo limit)).toList ++ (recommendation e.finding).toList

/-- No text of a finding opens a tag. -/
def Tagless (output : OutputSettings) (limit : Int) (e : Entry) : Prop :=
  ∀ t ∈ shownTexts output limit e, openings t.toList = 0

instance (output : OutputSettings) (limit : Int) (e : Entry) : Decidable (Tagless output limit e) :=
  inferInstanceAs (Decidable (∀ t ∈ shownTexts output limit e, openings t.toList = 0))

theorem not_mem_digitsText (n : Nat) : '<' ∉ (Number.digitsText n).toList := fun member =>
  absurd (Text.isDigit_of_mem_digitsText member) (by decide)

private theorem not_mem_intText (n : Int) : '<' ∉ (Number.intText n).toList := by
  rw [Number.intText]
  split
  · rw [String.toList_append, mem_append, not_or]
    exact ⟨by decide, not_mem_digitsText _⟩
  · exact not_mem_digitsText _

theorem not_mem_padded (width n : Nat) : '<' ∉ (Timestamp.padded width n).toList := fun member =>
  absurd (Timestamp.isDigit_of_mem_padded member) (by decide)

private theorem not_mem_offsetText (offset : Int) : '<' ∉ (Timestamp.offsetText offset).toList := by
  rw [Timestamp.offsetText]
  split
  · split <;> split <;> simp [not_mem_padded]
  · split <;> simp [not_mem_padded]

private theorem not_mem_timeText (t : Timestamp) : '<' ∉ t.text.toList := by
  rw [Timestamp.text]
  cases t.offset with
  | none => split <;> simp [Timestamp.dayText, Timestamp.clockText, not_mem_padded]
  | some offset =>
    split <;> simp [Timestamp.dayText, Timestamp.clockText, not_mem_padded, not_mem_offsetText]

private theorem openings_headline (index : Nat) (f : Finding) :
    openings (headline index f).toList = openings f.title.toList := by
  rw [headline, String.toList_append]
  apply openings_append_of_not_mem
  simp only [String.toList_append, mem_append, not_or]
  refine ⟨⟨⟨not_mem_digitsText index, by decide⟩, ?_⟩, by decide⟩
  cases f.severity <;> decide

private theorem openings_file_append {file suffix : String} (missing : '<' ∉ suffix.toList) :
    openings (file ++ ":" ++ suffix).toList = openings file.toList := by
  have parted : Parted file.toList (":" ++ suffix).toList := by
    intro _
    rw [String.toList_append]
    rfl
  have plain : '<' ∉ (":" ++ suffix).toList := by
    rw [String.toList_append, mem_append, not_or]
    exact ⟨by decide, missing⟩
  rw [String.append_assoc, String.toList_append, openings_append parted, openings_of_not_mem plain, Nat.add_zero]

private theorem openings_placeText (e : Entry) : openings (placeText e).toList = openings e.place.file.toList := by
  have line := not_mem_intText e.place.lineStart
  rw [placeText, Location.text]
  split
  next last _ =>
    split
    next other =>
      rw [String.append_assoc, String.append_assoc]
      refine openings_file_append ?_
      simp only [String.toList_append, mem_append, not_or]
      exact ⟨line, by decide, not_mem_intText last⟩
    next => exact openings_file_append line
  next => exact openings_file_append line

private theorem harmless_partPieces (start stop : String) (s : Option String) :
    Harmless (partPieces start stop s) ↔ ∀ t ∈ s.toList, openings t.toList = 0 := by
  cases s with
  | none => simp [partPieces]
  | some s => simp [partPieces]

private theorem harmless_entryPieces (output : OutputSettings) (limit : Int) (index : Nat) (e : Entry) :
    Harmless (entryPieces ((shownSnippet output e.finding).map (truncatedTo limit)) index e)
      ↔ Tagless output limit e := by
  simp only [entryPieces, harmless_append, harmless_partPieces, harmless_markup, harmless_text, harmless_nil,
    openings_headline, openings_placeText, Tagless, shownTexts, forall_mem_append, forall_mem_cons,
    not_mem_nil, false_imp_iff, implies_true, and_true]

private theorem harmless_summaryPieces (s : Summary) : Harmless (summaryPieces s) := by
  have digits (n : Nat) : openings (Number.digitsText n).toList = 0 := openings_of_not_mem (not_mem_digitsText n)
  simp only [summaryPieces, countPieces, harmless_append, harmless_flatMap, harmless_markup, harmless_text,
    harmless_nil, digits, implies_true, and_true]

private theorem harmless_findingsPieces (output : OutputSettings) (limit : Int) (entries : List Entry) :
    Harmless (findingsPieces output limit entries) ↔ ∀ e ∈ entries, Tagless output limit e := by
  simp only [findingsPieces, harmless_append, harmless_flatMap, harmless_markup, harmless_nil, true_and, and_true,
    harmless_entryPieces]
  conv => rhs; rw [← map_snd_numbered entries, forall_mem_map]

private theorem harmless_pagePieces (output : OutputSettings) (limit : Int) (clock : Timestamp) (entries : List Entry) :
    Harmless (pagePieces output limit clock entries) ↔ ∀ e ∈ entries, Tagless output limit e := by
  have time : openings clock.text.toList = 0 := openings_of_not_mem (not_mem_timeText clock)
  simp only [pagePieces, harmless_append, harmless_markup, harmless_text, harmless_nil, time, harmless_summaryPieces,
    harmless_findingsPieces, true_and, and_true, sorted, mem_mergeSort]

/-! ## Pages on findings of the same shapes -/

variable {output : OutputSettings} {limit : Int}

/-- The tags of a page are those of its markup exactly if no finding brings any. -/
theorem exists_page (lines : output.maxSnippetLines = .int limit) (clock : Timestamp) (some : entries ≠ []) :
    ∃ page, render output clock entries = .ok page ∧
      (tags page = outline (pagePieces output limit clock entries) ↔ ∀ e ∈ entries, Tagless output limit e) := by
  refine ⟨_, render_eq lines clock some, ?_⟩
  rw [tags_content_iff (sealed_pagePieces ..) (closed_pagePieces ..), harmless_pagePieces]

private theorem length_of_alike {xs ys : List Entry}
    (alike : (sorted xs).map (shape output) = (sorted ys).map (shape output)) : xs.length = ys.length := by
  simpa [sorted] using congrArg List.length alike

/-- Findings of the same severities, in the order of a report, which agree in having a snippet and a recommendation,
get a page of the same tags as findings whose texts open no tag exactly if their own texts open none. -/
theorem same_tags_iff (lines : output.maxSnippetLines = .int limit) (clock clock' : Timestamp) {xs ys : List Entry}
    (alike : (sorted xs).map (shape output) = (sorted ys).map (shape output))
    (tagless : ∀ e ∈ ys, Tagless output limit e) :
    ∃ page other, render output clock xs = .ok page ∧ render output clock' ys = .ok other ∧
      (tags page = tags other ↔ ∀ e ∈ xs, Tagless output limit e) := by
  have same := length_of_alike alike
  by_cases none : xs = []
  · subst none
    obtain rfl := eq_nil_of_length_eq_zero same.symm
    exact ⟨nothingFound, nothingFound, rfl, rfl, iff_of_true rfl (forall_mem_nil _)⟩
  · have others : ys ≠ [] := ne_nil_of_length_pos (same ▸ length_pos_of_ne_nil none)
    obtain ⟨page, made, own⟩ := exists_page lines clock none
    obtain ⟨other, made', own'⟩ := exists_page lines clock' others
    refine ⟨page, other, made, made', ?_⟩
    rw [own'.mpr tagless, ← outline_pagePieces limit clock clock' alike, own]

def titled (title : String) : Entry :=
  ⟨{ (default : Finding) with title, snippet := some "if (a <= b)" }, .line "a.sol" 1⟩

theorem alike_titled (title other : String) :
    (sorted [titled title]).map (shape {}) = (sorted [titled other]).map (shape {}) := by
  simp only [sorted, mergeSort_singleton, map_cons]
  rfl

theorem same_tags_iff_inequality :
    (∀ e ∈ [titled "T"], Tagless {} 5 e) ∧ (∀ e ∈ [titled "a < b"], Tagless {} 5 e) ∧
    ∃ page other, render {} default [titled "a < b"] = .ok page ∧ render {} default [titled "T"] = .ok other ∧
      tags page = tags other := by
  have tagless : ∀ e ∈ [titled "T"], Tagless {} 5 e := by decide +kernel
  have inequality : ∀ e ∈ [titled "a < b"], Tagless {} 5 e := by decide +kernel
  obtain ⟨page, other, made, made', same⟩ := same_tags_iff rfl default default (alike_titled "a < b" "T") tagless
  exact ⟨tagless, inequality, page, other, made, made', same.mpr inequality⟩

/-- The title of a finding brings tags into a page. -/
theorem title_brings_tags : (sorted [titled "<b>T</b>"]).map (shape {}) = (sorted [titled "T"]).map (shape {}) ∧
    ∃ page other, render {} default [titled "<b>T</b>"] = .ok page ∧ render {} default [titled "T"] = .ok other ∧
      tags page ≠ tags other := by
  have lines : ({} : OutputSettings).maxSnippetLines = .int 5 := rfl
  obtain ⟨page, made, own⟩ := exists_page lines default (cons_ne_nil (titled "<b>T</b>") [])
  obtain ⟨other, made', own'⟩ := exists_page lines default (cons_ne_nil (titled "T") [])
  refine ⟨alike_titled _ _, page, other, made, made', ?_⟩
  rw [own'.mpr (by decide +kernel), ← outline_pagePieces 5 default default (alike_titled "<b>T</b>" "T"), Ne, own]
  decide +kernel

end ContractLint.Report.Html
