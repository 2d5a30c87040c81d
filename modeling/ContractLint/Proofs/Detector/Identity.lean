import ContractLint.Detector.Registry
import ContractLint.Proofs.Detector.Textual
import ContractLint.Proofs.Entries

/-! # What identifiers tell apart

The identifier of a finding is made from its headline, its class and the file and the lines of its place. Without the
file these are its sign, and different signs are digested from different texts (`Sign.key_inj`). Each detector reports
in the file that it was shown (`detect_inFile`) and gives a finding the sign of what it reports (`bears_of_detect`),
which leaves out columns, and in part also which call is meant. So what is reported twice under one sign has one
identifier (`same_id_iff_same_sign`, `one_line_shares_id`).
-/

namespace ContractLint

open List Outcome

variable {settings : DetectorSettings} {file source : String} {found : List Finding} {f finding : Finding}
  {node : Value} {n : Int} {unit : Solidity.Unit} {detector : Detector} {profile : Profile}

/-! ## Signs -/

/-- What the identifier of a finding is made from, apart from the file. -/
structure Sign where
  title : String
  kind : String
  lineStart : Int
  lineEnd : Option Int
deriving DecidableEq

variable {sign : Sign}

/-- The first eight digits of the digest of a text. -/
def shortDigest (key : String) : String := Text.take 8 (Digest.Md5.hex key.toUTF8.toList)

/-- The text whose digest becomes the identifier of a finding. -/
def Finding.key (f : Finding) : String := f.title ++ ":" ++ Location.text? f.location ++ ":" ++ f.kind

namespace Sign

/-- The sign of something said about a place. -/
def ofPlace (title kind : String) (place : Location) : Sign := ⟨title, kind, place.lineStart, place.lineEnd⟩

/-- The text whose digest becomes the identifier of a finding with the sign. -/
def key (file : String) (sign : Sign) : String :=
  sign.title ++ ":" ++ Location.text ⟨file, sign.lineStart, sign.lineEnd, none, none⟩ ++ ":" ++ sign.kind

/-- Lines are counted from one, the last line is given if it comes after the first, and the class has no colon. -/
structure Plain (sign : Sign) : Prop where
  positive : 0 < sign.lineStart
  later : ∀ last, sign.lineEnd = some last → sign.lineStart < last
  kind : ':' ∉ sign.kind.toList

end Sign

namespace Text

theorem intText_of_pos (positive : 0 < n) : Number.intText n = Number.digitsText n.natAbs :=
  if_neg (by omega)

/-- A positive number is written in digits only. -/
theorem not_mem_intText_of_pos (positive : 0 < n) {c : Char} (small : c.toNat < 48 ∨ 57 < c.toNat) :
    c ∉ (Number.intText n).toList := by
  rw [intText_of_pos positive]
  intro member
  exact ne_of_isDigit (isDigit_of_mem_digitsText member) small rfl

private theorem intText_inj_of_pos {m : Int} (positive : 0 < m) (positive' : 0 < n)
    (same : Number.intText m = Number.intText n) : m = n := by
  rw [intText_of_pos positive, intText_of_pos positive'] at same
  have absolute := digitsText_injective same
  omega

end Text

namespace Sign

def lines (sign : Sign) : List Char :=
  (Number.intText sign.lineStart).toList ++ sign.lineEnd.elim [] fun last => '-' :: (Number.intText last).toList

private theorem toList_key (file : String) (plain : sign.Plain) :
    (sign.key file).toList =
      (sign.title.toList ++ ':' :: file.toList) ++ ':' :: (sign.lines ++ ':' :: sign.kind.toList) := by
  obtain ⟨title, kind, first, last⟩ := sign
  cases last with
  | none => simp [key, lines, Location.text]
  | some last =>
    have later := plain.later last rfl
    have positive := plain.positive
    have shown : last ≠ 0 ∧ last ≠ first := by
      dsimp only at later positive
      omega
    simp [key, lines, Location.text, shown]

private theorem not_mem_lines (plain : sign.Plain) : ':' ∉ sign.lines := by
  obtain ⟨title, kind, first, last⟩ := sign
  have positive := plain.positive
  have first := Text.not_mem_intText_of_pos positive (c := ':') (by decide)
  cases last with
  | none => simpa [lines] using first
  | some last =>
    have last := Text.not_mem_intText_of_pos (Int.lt_trans positive (plain.later last rfl)) (c := ':') (by decide)
    simpa [lines] using ⟨first, last⟩

private theorem lines_inj {one other : Sign} (plain : one.Plain) (plain' : other.Plain)
    (same : one.lines = other.lines) : one.lineStart = other.lineStart ∧ one.lineEnd = other.lineEnd := by
  have dash : ('-').toNat < 48 ∨ 57 < ('-').toNat := by decide
  have first := Text.not_mem_intText_of_pos plain.positive dash
  have first' := Text.not_mem_intText_of_pos plain'.positive dash
  have start (written : (Number.intText one.lineStart).toList = (Number.intText other.lineStart).toList) :
      one.lineStart = other.lineStart :=
    Text.intText_inj_of_pos plain.positive plain'.positive (String.toList_inj.mp written)
  cases known : one.lineEnd with
  | none =>
    cases known' : other.lineEnd with
    | none => exact ⟨start (by simpa [lines, known, known'] using same), rfl⟩
    | some last' =>
      rw [lines, lines, known, known', Option.elim_none, append_nil] at same
      simp [same] at first
  | some last =>
    cases known' : other.lineEnd with
    | none =>
      rw [lines, lines, known, known', Option.elim_none, append_nil] at same
      simp [← same] at first'
    | some last' =>
      have positive := Int.lt_trans plain.positive (plain.later last known)
      have positive' := Int.lt_trans plain'.positive (plain'.later last' known')
      rw [lines, lines, known, known', Option.elim_some, Option.elim_some] at same
      obtain ⟨begins, ends⟩ := Text.append_cons_inj (Text.not_mem_intText_of_pos positive dash)
        (Text.not_mem_intText_of_pos positive' dash) same
      obtain rfl := Text.intText_inj_of_pos positive positive' (String.toList_inj.mp ends)
      exact ⟨start begins, rfl⟩

/-- Different signs are digested from different texts. -/
theorem key_inj {one other : Sign} (plain : one.Plain) (plain' : other.Plain)
    (same : one.key file = other.key file) : one = other := by
  have whole := congrArg String.toList same
  rw [toList_key file plain, toList_key file plain', ← cons_append, ← append_assoc, ← cons_append,
    ← append_assoc] at whole
  -- The class and the lines have no colon, and the file is the same: only the headline can hold further ones.
  obtain ⟨front, kinds⟩ := Text.append_cons_inj plain.kind plain'.kind whole
  obtain ⟨front, written⟩ := Text.append_cons_inj (not_mem_lines plain) (not_mem_lines plain') front
  have titles := append_cancel_right front
  obtain ⟨title, kind, first, last⟩ := one
  obtain ⟨title', kind', first', last'⟩ := other
  obtain rfl : title = title' := String.toList_inj.mp titles
  obtain rfl : kind = kind' := String.toList_inj.mp kinds
  obtain ⟨rfl, rfl⟩ : first = first' ∧ last = last' := lines_inj plain plain' written
  rfl

end Sign

namespace Finding

def InFile (file : String) (finding : Finding) : Prop :=
  ∃ place, finding.location = some place ∧ place.file = file

/-- The finding is in a file and has a sign, and its identifier is made from the two. -/
structure Bears (file : String) (sign : Sign) (f : Finding) : Prop where
  located : ∃ place, f.location = some place ∧ place.file = file ∧ sign = .ofPlace f.title f.kind place
  id : f.id = shortDigest f.key
  plain : sign.Plain

/-- The key of a finding is made of its file and its sign. -/
theorem Bears.key_eq (bears : f.Bears file sign) : f.key = sign.key file := by
  obtain ⟨place, known, rfl, rfl⟩ := bears.located
  rw [key, known]
  rfl

private theorem Bears.inFile (bears : f.Bears file sign) : f.InFile file := by
  obtain ⟨place, known, same, _⟩ := bears.located
  exact ⟨place, known, same⟩

private theorem Bears.id_eq (bears : f.Bears file sign) : f.id = shortDigest (sign.key file) := by
  rw [bears.id, bears.key_eq]

end Finding

namespace Detector

open Solidity

/-- A report bears the sign of its place. -/
theorem bears_of_report {draft : Draft} (done : profile.report settings draft = .ok finding)
    (plain : (Sign.ofPlace draft.title draft.kind draft.location).Plain) :
    finding.Bears draft.location.file (.ofPlace draft.title draft.kind draft.location) := by
  rw [Profile.report_eq] at done
  obtain ⟨severity, _, rfl⟩ := map_eq_ok.mp done
  exact ⟨⟨_, rfl, rfl, rfl⟩, rfl, plain⟩

private theorem nodeLocation_file {place : Location}
    (known : nodeLocation node source file = .ok place) : place.file = file := by
  obtain ⟨span, _, done⟩ := bind_eq_ok.mp known
  cases done
  rfl

private theorem lines_of_ofPosition (source position : String) :
    0 < (Span.ofPosition source position).lineStart ∧
      (Span.ofPosition source position).lineStart ≤ (Span.ofPosition source position).lineEnd := by
  unfold Span.ofPosition
  split
  next =>
    split
    next =>
      dsimp only [Span.ofOffsets]
      omega
    next => exact ⟨Int.one_pos, Int.le_refl 1⟩
  next => exact ⟨Int.one_pos, Int.le_refl 1⟩

private theorem lines_of_ofNode {span : Span} (read : Span.ofNode node source = .ok span) :
    0 < span.lineStart ∧ span.lineStart ≤ span.lineEnd := by
  obtain ⟨written, _, read⟩ := bind_eq_ok.mp read
  cases written with
  | false =>
    obtain rfl := Except.ok.inj read
    exact ⟨Int.one_pos, Int.le_refl 1⟩
  | true =>
    obtain ⟨value, _, read⟩ := bind_eq_ok.mp read
    obtain ⟨position, _, read⟩ := bind_eq_ok.mp read
    obtain rfl := Except.ok.inj read
    exact lines_of_ofPosition source position

private theorem plain_of_nodeLocation {place : Location} (known : nodeLocation node source file = .ok place)
    (title : String) {kind : String} (colon : ':' ∉ kind.toList) : (Sign.ofPlace title kind place).Plain := by
  obtain ⟨span, read, done⟩ := bind_eq_ok.mp known
  obtain rfl := Except.ok.inj done
  obtain ⟨positive, ordered⟩ := lines_of_ofNode read
  refine ⟨positive, fun last given => ?_, colon⟩
  dsimp only [Sign.ofPlace, Span.location] at given ⊢
  split at given
  next => cases given
  next different =>
    obtain rfl := Option.some.inj given
    omega

/-- A report about a node bears the sign of its place. -/
theorem bears_of_node {draft : Draft} (done : profile.report settings draft = .ok finding)
    (known : nodeLocation node source file = .ok draft.location) (colon : ':' ∉ draft.kind.toList) :
    finding.Bears file (.ofPlace draft.title draft.kind draft.location) :=
  nodeLocation_file known ▸ bears_of_report done (plain_of_nodeLocation known draft.title colon)

/-! ## Signs by detector -/

section Signs

variable {settings : DetectorSettings} {unit : Solidity.Unit} {function : Value} {found own : List Finding}

/-- The signs of the matches about which there is something to say: the line of the match, whatever its columns. -/
def Textual.signs (unit : Solidity.Unit) : List Sign :=
  (patterns.flatMap fun declared => advised (hitsOf unit.source declared)).map fun one =>
    ⟨one.2.title, one.2.kind, one.1.number, none⟩

private theorem Textual.mem_signs :
    sign ∈ Textual.signs unit ↔ ∃ declared ∈ patterns, ∃ hit ∈ hitsOf unit.source declared, ∃ a,
      advice.lookup hit.name = some a ∧ (⟨a.title, a.kind, hit.number, none⟩ : Sign) = sign := by
  rw [signs, mem_map]
  constructor
  · rintro ⟨⟨hit, a⟩, member, same⟩
    obtain ⟨declared, known, member⟩ := mem_flatMap.mp member
    obtain ⟨listed, said⟩ := mem_advised.mp member
    exact ⟨declared, known, hit, listed, a, said, same⟩
  · rintro ⟨declared, known, hit, listed, a, said, same⟩
    exact ⟨(hit, a), mem_flatMap.mpr ⟨declared, known, mem_advised.mpr ⟨listed, said⟩⟩, same⟩

private theorem Textual.not_mem_kind : ∀ named ∈ advice, ':' ∉ named.2.kind.toList := by
  unfold advice
  repeat refine forall_mem_cons.mpr ⟨by decide, ?_⟩
  exact forall_mem_nil _

private theorem Textual.bears_of_complete {one : Hit × Advice} (positive : 0 < one.1.number)
    (said : ':' ∉ one.2.kind.toList) (done : complete settings unit.source unit.file one = .ok finding) :
    finding.Bears unit.file ⟨one.2.title, one.2.kind, one.1.number, none⟩ :=
  bears_of_report done ⟨Int.natCast_pos.mpr positive, fun _ given => (Option.some_ne_none _ given.symm).elim, said⟩

/-- The findings of the text patterns bear the signs of their hits, in order. -/
theorem Textual.bears_of_detect (done : Textual.detect settings unit = .ok found) :
    List.Forall₂ (Finding.Bears unit.file) (Textual.signs unit) found := by
  rw [detect_eq] at done
  simp only [detectWith_one, ← mapM_flatMap] at done
  rw [signs, forall₂_map_left_iff]
  have known : ∀ one ∈ patterns.flatMap fun declared => advised (hitsOf unit.source declared),
      0 < one.1.number ∧ ':' ∉ one.2.kind.toList := by
    intro one member
    obtain ⟨declared, _, member⟩ := mem_flatMap.mp member
    obtain ⟨listed, said⟩ := mem_advised.mp member
    obtain ⟨_, _, _, _, positive, _⟩ := mem_hitsOf.mp listed
    exact ⟨positive, not_mem_kind _ (mem_of_lookup said)⟩
  refine ((forall₂_and_left _ _).mpr ⟨known, forall₂_of_mapM done⟩).imp fun one finding made => ?_
  exact bears_of_complete made.1.1 made.1.2 made.2

/-- The signs in a function: the lines of the function, whichever call and change are meant. -/
def Reentrancy.signs (unit : Solidity.Unit) (function : Value) : Outcome (List Sign) := do
  (← suspects function).mapM fun _ => do
    return .ofPlace "Potential Reentrancy Vulnerability" "reentrancy" (← nodeLocation function unit.source unit.file)

private theorem Reentrancy.bears_of_analyzeFunction
    (done : analyzeFunction settings unit.source unit.file function = .ok own) :
    ∃ marks, Reentrancy.signs unit function = .ok marks ∧ List.Forall₂ (Finding.Bears unit.file) marks own := by
  obtain ⟨pairs, known, done⟩ := bind_eq_ok.mp done
  rw [Reentrancy.signs, known, ok_bind]
  refine exists_mapM_of_mapM (fun pair finding reported => ?_) done
  obtain ⟨_, _, reported⟩ := bind_eq_ok.mp reported
  obtain ⟨_, _, reported⟩ := bind_eq_ok.mp reported
  obtain ⟨place, whole, reported⟩ := bind_eq_ok.mp reported
  obtain ⟨name, _, reported⟩ := bind_eq_ok.mp reported
  obtain ⟨details, _, reported⟩ := bind_eq_ok.mp reported
  have colon : ':' ∉ "reentrancy".toList := by decide
  exact ⟨_, by rw [whole]; rfl, bears_of_node reported whole colon⟩

/-- The sign of a function without access control: its name and its lines. -/
def AccessControl.signs (unit : Solidity.Unit) (guards : List String) (function : Value) : Outcome (List Sign) := do
  (← suspect? guards function).toList.mapM fun _ => do
    let name ← function.getOr "name" (.text "unknown_function")
    return .ofPlace ("Missing Access Control in Function '" ++ name.display ++ "'") "missing_access_control"
      (← nodeLocation function unit.source unit.file)

private theorem AccessControl.bears_of_analyzeFunction {guards : List String}
    (done : analyzeFunction settings guards unit.source unit.file function = .ok own) :
    ∃ marks, AccessControl.signs unit guards function = .ok marks ∧
      List.Forall₂ (Finding.Bears unit.file) marks own := by
  obtain ⟨suspect, known, done⟩ := bind_eq_ok.mp done
  rw [AccessControl.signs, known, ok_bind]
  refine exists_mapM_of_mapM (fun effects finding reported => ?_) done
  obtain ⟨name, called, reported⟩ := bind_eq_ok.mp reported
  obtain ⟨visibility, _, reported⟩ := bind_eq_ok.mp reported
  obtain ⟨place, whole, reported⟩ := bind_eq_ok.mp reported
  obtain ⟨why, _, reported⟩ := bind_eq_ok.mp reported
  obtain ⟨sensitive, _, reported⟩ := bind_eq_ok.mp reported
  have colon : ':' ∉ "missing_access_control".toList := by decide
  exact ⟨_, by rw [called, ok_bind, whole]; rfl, bears_of_node reported whole colon⟩

/-- The signs in a function: its name and the lines of each call whose result is ignored. -/
def UncheckedCall.signs (unit : Solidity.Unit) (function : Value) : Outcome (List Sign) := do
  return (← (← callsOf function).mapM fun placed => do
    if ← isUnchecked placed.1 placed.2.statement then
      let name ← function.getOr "name" (.text "unknown")
      let place ← nodeLocation placed.2.call unit.source unit.file
      return [.ofPlace ("Unchecked External Call in Function '" ++ name.display ++ "'") "unchecked_call" place]
    else return []).flatten

private theorem UncheckedCall.bears_of_analyzeFunction
    (done : analyzeFunction settings unit.source unit.file function = .ok own) :
    ∃ marks, UncheckedCall.signs unit function = .ok marks ∧
      List.Forall₂ (Finding.Bears unit.file) marks own := by
  obtain ⟨calls, known, done⟩ := bind_eq_ok.mp done
  rw [UncheckedCall.signs, known, ok_bind]
  refine exists_flatten_of_flatten (fun placed own judged => ?_) done
  obtain ⟨unchecked, answer, judged⟩ := bind_eq_ok.mp judged
  rw [answer, ok_bind]
  cases unchecked with
  | false =>
    cases judged
    exact ⟨[], rfl, .nil⟩
  | true =>
    obtain ⟨finding, reported, judged⟩ := bind_eq_ok.mp judged
    cases judged
    obtain ⟨name, called, reported⟩ := bind_eq_ok.mp reported
    obtain ⟨expression, _, reported⟩ := bind_eq_ok.mp reported
    obtain ⟨access, _, reported⟩ := bind_eq_ok.mp reported
    have colon : ':' ∉ "unchecked_call".toList := by decide
    dsimp only at reported
    split at reported
    all_goals
      obtain ⟨callType, _, reported⟩ := bind_eq_ok.mp reported
      obtain ⟨place, whole, reported⟩ := bind_eq_ok.mp reported
      refine ⟨_, ?_, .cons (bears_of_node reported whole colon) .nil⟩
      rw [if_pos rfl, called, ok_bind, whole]
      rfl

end Signs

/-- The signs in the syntax trees of a compiled file. -/
def overTrees (unit : Solidity.Unit) (signsIn : Value → Outcome (List Sign)) : Outcome (List Sign) := do
  let trees := (unit.contracts.map Contract.ast).filter Value.truthy
  return (← trees.mapM signsIn).flatten

/-- The signs of what a detector reports in a compiled file. -/
def signs : Detector → Solidity.Unit → Outcome (List Sign)
  | textual, unit => pure (Textual.signs unit)
  | reentrancy, unit => overTrees unit fun tree => do
    return (← (functions tree).mapM (Reentrancy.signs unit)).flatten
  | accessControl, unit => overTrees unit fun tree => do
    let guards ← AccessControl.guardNames (AccessControl.modifiers tree)
    return (← (functions tree).mapM (AccessControl.signs unit guards)).flatten
  | uncheckedCall, unit => overTrees unit fun tree => do
    return (← (functions tree).mapM (UncheckedCall.signs unit)).flatten

/-- Each finding of a detector has the sign of what it reports. -/
theorem bears_of_detect (done : detector.detect settings unit = .ok found) :
    ∃ marks, detector.signs unit = .ok marks ∧ List.Forall₂ (Finding.Bears unit.file) marks found := by
  cases detector with
  | textual => exact ⟨Textual.signs unit, rfl, Textual.bears_of_detect done⟩
  | reentrancy =>
    refine exists_flatten_of_flatten (fun tree found done => ?_) done
    exact exists_flatten_of_flatten (fun function own => Reentrancy.bears_of_analyzeFunction) done
  | accessControl =>
    refine exists_flatten_of_flatten (fun tree found done => ?_) done
    obtain ⟨guards, known, done⟩ := bind_eq_ok.mp done
    rw [known, ok_bind]
    exact exists_flatten_of_flatten (fun function own => AccessControl.bears_of_analyzeFunction) done
  | uncheckedCall =>
    refine exists_flatten_of_flatten (fun tree found done => ?_) done
    exact exists_flatten_of_flatten (fun function own => UncheckedCall.bears_of_analyzeFunction) done

/-- Every finding of a detector is in the file that the detector was shown. -/
theorem detect_inFile
    (done : detector.detect settings unit = .ok found) : ∀ finding ∈ found, finding.InFile unit.file := by
  intro finding member
  obtain ⟨_, _, bears⟩ := bears_of_detect done
  obtain ⟨sign, _, own⟩ := exists_mem_of_forall₂ bears member
  exact own.inFile

/-! ## Equal identifiers -/

private theorem ids_of_bears {marks : List Sign} (bears : List.Forall₂ (Finding.Bears file) marks found) :
    found.map Finding.id = marks.map fun sign => shortDigest (sign.key file) := by
  induction bears with
  | nil => rfl
  | cons one _ ih => rw [map_cons, map_cons, one.id_eq, ih]

private theorem getElem?_map_eq_iff {α β : Type} {h : α → β} {xs : List α}
    (injective : ∀ x ∈ xs, ∀ y ∈ xs, h x = h y → x = y) (i j : Nat) :
    (xs.map h)[i]? = (xs.map h)[j]? ↔ xs[i]? = xs[j]? := by
  rw [getElem?_map, getElem?_map]
  refine ⟨fun same => ?_, congrArg _⟩
  cases first : xs[i]? with
  | none =>
    rw [first, Option.map_none, eq_comm, Option.map_eq_none_iff] at same
    exact same.symm
  | some x =>
    rw [first, Option.map_some, eq_comm, Option.map_eq_some_iff] at same
    obtain ⟨y, second, equal⟩ := same
    rw [second, injective y (mem_of_getElem? second) x (mem_of_getElem? first) equal]

private theorem key_of_reports {one other : Textual.Hit} {g : Finding} (first : Textual.Reports file one f)
    (second : Textual.Reports file other g) (named : one.name = other.name) (line : one.number = other.number) :
    f.key = g.key := by
  obtain ⟨a, said, title, _, kind⟩ := first.saying
  obtain ⟨b, said', title', _, kind'⟩ := second.saying
  rw [named, said'] at said
  obtain rfl := Option.some.inj said
  rw [Finding.key, Finding.key, title, title', kind, kind', first.location, second.location, line]
  simp only [Location.text?, Location.text]

/-- A finding about the time of a block on some line. -/
def timeSign (line : Int) : Sign := ⟨"Block Timestamp Dependence", "timestamp_dependence", line, none⟩

private theorem shortDigest_timeSign :
    shortDigest ((timeSign 1).key "a.sol") ≠ shortDigest ((timeSign 2).key "a.sol") := by
  decide +kernel

private theorem advised_now : ∀ declared ∈ Textual.patterns,
    declared.1 ≠ "block_timestamp" → Textual.advised (Textual.hitsOf "now" declared) = [] := by
  have code : Textual.isCommentLine "now".toList = false := by decide +kernel
  have single : '\n' ∉ "now".toList := by decide
  unfold Textual.patterns
  iterate 7
    refine forall_mem_cons.mpr ⟨fun _ => Textual.advised_literal_eq_nil single code (by decide +kernel), ?_⟩
  refine forall_mem_cons.mpr ⟨fun different => (different rfl).elim, ?_⟩
  iterate 14
    refine forall_mem_cons.mpr ⟨fun _ => Textual.advised_literal_eq_nil single code (by decide +kernel), ?_⟩
  exact forall_mem_nil _

private theorem advice_now {a : Textual.Advice} (said : Textual.advice.lookup "block_timestamp" = some a) (line : Int) :
    (⟨a.title, a.kind, line, none⟩ : Sign) = timeSign line := by
  have about : (Textual.advice.lookup "block_timestamp").map (fun a => (a.title, a.kind)) =
      some ("Block Timestamp Dependence", "timestamp_dependence") := by decide +kernel
  rw [said, Option.map_some, Option.some.injEq, Prod.mk.injEq] at about
  rw [about.1, about.2, timeSign]

private theorem mem_signs_now (sign : Sign) :
    sign ∈ Textual.signs (Textual.textOnly "now\nnow") ↔ sign = timeSign 1 ∨ sign = timeSign 2 := by
  have lines : Text.splitNewlines (Textual.textOnly "now\nnow").source = ["now", "now"] := by decide
  rw [Textual.mem_signs]
  constructor
  · rintro ⟨declared, known, hit, listed, a, said, rfl⟩
    obtain ⟨positive, line, found, alone⟩ := Textual.mem_hitsOf_line.mp listed
    rw [lines] at found
    obtain rfl : line = "now" := by simpa using mem_of_getElem? found
    have named : hit.name = declared.1 := (Textual.mem_hitsOf.mp alone).1
    by_cases same : declared.1 = "block_timestamp"
    · rw [named, same] at said
      rw [advice_now said]
      obtain ⟨within, _⟩ := List.getElem?_eq_some_iff.mp found
      simp only [length_cons, length_nil] at within
      have number : hit.number = 1 ∨ hit.number = 2 := by omega
      exact number.imp (fun first => by rw [first]; rfl) fun second => by rw [second]; rfl
    · have listed := Textual.mem_advised.mpr ⟨alone, said⟩
      rw [advised_now declared known same] at listed
      exact (not_mem_nil listed).elim
  · have declared : ("block_timestamp", "\\b(block\\.timestamp|now)\\b") ∈ Textual.patterns := by decide +kernel
    obtain ⟨a, said⟩ : ∃ a, Textual.advice.lookup "block_timestamp" = some a :=
      Option.isSome_iff_exists.mp (by decide +kernel)
    obtain ⟨hit, listed, first, _⟩ :
        ∃ hit ∈ Textual.hitsOf "now" ("block_timestamp", "\\b(block\\.timestamp|now)\\b"),
          hit.number = 1 ∧ hit.found.start = 0 ∧ hit.found.stop = 3 :=
      Textual.exists_hit_of_literal (by decide) (by decide +kernel) (by decide +kernel) "block_timestamp"
    obtain ⟨name, number, found⟩ := hit
    obtain rfl : name = "block_timestamp" := (Textual.mem_hitsOf.mp listed).1
    obtain rfl : number = 1 := first
    have each (number : Nat) (known : ["now", "now"][number - 1]? = some "now") (positive : 0 < number) :
        ⟨"block_timestamp", number, found⟩ ∈ Textual.hitsOf (Textual.textOnly "now\nnow").source
          ("block_timestamp", "\\b(block\\.timestamp|now)\\b") := by
      rw [Textual.mem_hitsOf_line, lines]
      exact ⟨positive, "now", known, listed⟩
    rintro (rfl | rfl)
    · exact ⟨_, declared, _, each 1 rfl Nat.one_pos, a, said, advice_now said 1⟩
    · exact ⟨_, declared, _, each 2 rfl Nat.two_pos, a, said, advice_now said 2⟩

/-- If different texts that are digested for the findings of a run have different short digests, two of the findings
have the same identifier exactly if they have the same sign. -/
theorem same_id_iff_same_sign {detector : Detector} {settings : DetectorSettings} {unit : Solidity.Unit}
    {found : List Finding} (done : detector.detect settings unit = .ok found)
    (collisionFree : ∀ f ∈ found, ∀ g ∈ found, shortDigest f.key = shortDigest g.key → f.key = g.key) :
    ∃ marks, detector.signs unit = .ok marks ∧ List.Forall₂ (Finding.Bears unit.file) marks found ∧
      ∀ i j : Nat, (found.map Finding.id)[i]? = (found.map Finding.id)[j]? ↔ marks[i]? = marks[j]? := by
  obtain ⟨marks, known, bears⟩ := bears_of_detect done
  refine ⟨marks, known, bears, fun i j => ?_⟩
  rw [ids_of_bears bears]
  refine getElem?_map_eq_iff (fun one listed other listed' same => ?_) i j
  obtain ⟨f, member, first⟩ := exists_mem_of_forall₂ bears.flip listed
  obtain ⟨g, member', second⟩ := exists_mem_of_forall₂ bears.flip listed'
  rw [← first.key_eq, ← second.key_eq] at same
  have keys := collisionFree f member g member' same
  rw [first.key_eq, second.key_eq] at keys
  exact Sign.key_inj first.plain second.plain keys

theorem same_id_iff_same_sign_now :
    ∃ found, detect textual {} (Textual.textOnly "now\nnow") = .ok found ∧
      (∀ f ∈ found, ∀ g ∈ found, shortDigest f.key = shortDigest g.key → f.key = g.key) ∧
      ∃ marks, signs textual (Textual.textOnly "now\nnow") = .ok marks ∧
        (∀ sign, sign ∈ marks ↔ sign = timeSign 1 ∨ sign = timeSign 2) ∧
        List.Forall₂ (Finding.Bears "a.sol") marks found ∧
        ∀ i j : Nat, (found.map Finding.id)[i]? = (found.map Finding.id)[j]? ↔ marks[i]? = marks[j]? := by
  obtain ⟨found, done⟩ := Textual.detect_succeeds DetectorSettings.accepted_default (Textual.textOnly "now\nnow")
  have bears := Textual.bears_of_detect done
  have collisionFree : ∀ f ∈ found, ∀ g ∈ found, shortDigest f.key = shortDigest g.key → f.key = g.key := by
    intro f member g member' same
    obtain ⟨one, listed, first⟩ := exists_mem_of_forall₂ bears member
    obtain ⟨other, listed', second⟩ := exists_mem_of_forall₂ bears member'
    rw [first.key_eq, second.key_eq] at same ⊢
    obtain rfl | rfl := (mem_signs_now one).mp listed
    · obtain rfl | rfl := (mem_signs_now other).mp listed'
      · rfl
      · exact (shortDigest_timeSign same).elim
    · obtain rfl | rfl := (mem_signs_now other).mp listed'
      · exact (shortDigest_timeSign same.symm).elim
      · rfl
  have run : detect textual {} (Textual.textOnly "now\nnow") = .ok found := done
  obtain ⟨marks, known, each⟩ := same_id_iff_same_sign run collisionFree
  obtain rfl := Except.ok.inj known
  exact ⟨found, run, collisionFree, _, rfl, mem_signs_now, each⟩

/-- Two matches on one line are reported at different columns under one identifier. -/
theorem one_line_shares_id :
    ∃ found, detect textual {} (Textual.textOnly "now now") = .ok found ∧ ∃ f ∈ found, ∃ g ∈ found,
      f.location = some ⟨"a.sol", 1, none, some 1, some 4⟩ ∧
        g.location = some ⟨"a.sol", 1, none, some 5, some 8⟩ ∧
      f.id = g.id := by
  obtain ⟨found, done⟩ := Textual.detect_succeeds DetectorSettings.accepted_default (Textual.textOnly "now now")
  have bears := Textual.bears_of_detect done
  have declared : ("block_timestamp", "\\b(block\\.timestamp|now)\\b") ∈ Textual.patterns := by decide +kernel
  have single : '\n' ∉ "now now".toList := by decide
  have code : Textual.isCommentLine "now now".toList = false := by decide +kernel
  have said : (Textual.advice.lookup "block_timestamp").isSome := by decide +kernel
  obtain ⟨one, listed, number, start, stop⟩ :
      ∃ hit ∈ Textual.hitsOf "now now" ("block_timestamp", "\\b(block\\.timestamp|now)\\b"),
        hit.number = 1 ∧ hit.found.start = 0 ∧ hit.found.stop = 3 :=
    Textual.exists_hit_of_literal single code (by decide +kernel) "block_timestamp"
  obtain ⟨other, listed', number', start', stop'⟩ :
      ∃ hit ∈ Textual.hitsOf "now now" ("block_timestamp", "\\b(block\\.timestamp|now)\\b"),
        hit.number = 1 ∧ hit.found.start = 4 ∧ hit.found.stop = 7 :=
    Textual.exists_hit_of_literal single code (by decide +kernel) "block_timestamp"
  obtain ⟨f, member, first⟩ := Textual.exists_finding_of_hit done declared said listed
  obtain ⟨g, member', second⟩ := Textual.exists_finding_of_hit done declared said listed'
  obtain ⟨_, _, one'⟩ := exists_mem_of_forall₂ bears member
  obtain ⟨_, _, other'⟩ := exists_mem_of_forall₂ bears member'
  refine ⟨found, done, f, member, g, member', ?_, ?_, ?_⟩
  · rw [first.location, number, start, stop]
    rfl
  · rw [second.location, number', start', stop']
    rfl
  · have named := (Textual.mem_hitsOf.mp listed).1.trans (Textual.mem_hitsOf.mp listed').1.symm
    rw [one'.id, other'.id, key_of_reports first second named (number.trans number'.symm)]

end Detector

end ContractLint
