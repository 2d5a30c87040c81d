import ContractLint.Detector.Textual
import ContractLint.Proofs.Detector.Excerpt
import ContractLint.Proofs.Pattern.Match

/-! # Suspicious text

The search of lines for patterns can only fail when a finding is given a severity that the settings demand
(`detect_succeeds`). What it finds is a finding for each match of a pattern about which there is something to say,
pattern by pattern and line by line (`detect_eq`, `detectWith_one`). So a pattern finds in joined sources what it finds
in each of them (`findings_of_joined`), and its findings lie on matches that do not overlap (`findings_are_matches`).
About some of the patterns there is nothing to say: all matches of the others are reported, and those of the silent
ones are not (`one_finding_per_match`).
-/

namespace ContractLint

open List

variable {declared : String × String} {settings : DetectorSettings} {cs : List Char}
  {source line file : String} {a : Advice} {pattern : Pattern} {finding : Finding} {found : List Finding}

namespace Detector.Textual

open Outcome

/-! ## Success -/

section Success

variable {settings : DetectorSettings} (accepted : settings.Accepted)

include accepted

private theorem onLine_succeeds (pattern : Pattern) (a : Advice) (source file : String) (line : Nat × String) :
    ∃ found, onLine settings pattern a source file line = .ok found := by
  unfold onLine
  split
  next => exact ⟨[], rfl⟩
  next => exact Outcome.exists_mapM fun found _ => profile.exists_report accepted _

/-- If the settings demand no severity that there is not, the search for suspicious text gives findings. -/
theorem detect_succeeds (unit : Solidity.Unit) : ∃ found, detect settings unit = .ok found := by
  have each (rule : Pattern × Advice) (_ : rule ∈ rules) :
      ∃ found, ((Excerpt.numbered (Text.splitNewlines unit.source)).mapM
        (onLine settings rule.1 rule.2 unit.source unit.file)) = .ok found :=
    Outcome.exists_mapM fun line _ => onLine_succeeds accepted rule.1 rule.2 unit.source unit.file line
  obtain ⟨found, done⟩ := Outcome.exists_mapM each
  exact ⟨_, Outcome.bind_eq_ok.mpr ⟨found, done, rfl⟩⟩

end Success

/-! ## Matches that are reported -/

/-- A match of a pattern on a line. -/
structure Hit where
  name : String
  number : Nat
  found : Pattern.Found

variable {hit : Hit}

/-- The matches of a pattern on a numbered line that does not begin as a comment. -/
def hitsOn (name : String) (pattern : Pattern) (line : Nat × String) : List Hit :=
  if isCommentLine line.2.toList then [] else (pattern.findAll line.2).map (Hit.mk name line.1)

/-- The matches of a declared pattern in a source, line by line. -/
def hitsOf (source : String) (declared : String × String) : List Hit :=
  (Pattern.parse? flags declared.2).toList.flatMap fun pattern =>
    (Excerpt.numbered (Text.splitNewlines source)).flatMap (hitsOn declared.1 pattern)

/-- The matches about which there is something to say. -/
def advised (hits : List Hit) : List (Hit × Advice) :=
  hits.filterMap fun hit => (advice.lookup hit.name).map (Prod.mk hit)

def complete (settings : DetectorSettings) (source file : String) (one : Hit × Advice) : Outcome Finding :=
  profile.report settings (one.2.draft source file one.1.number one.1.found)

/-- A line has the matches of a pattern as its hits, unless it is a comment. -/
theorem mem_hitsOn {name : String} {line : Nat × String} :
    hit ∈ hitsOn name pattern line ↔
      hit.name = name ∧ hit.number = line.1 ∧ isCommentLine line.2.toList = false ∧
        hit.found ∈ pattern.findAll line.2 := by
  unfold hitsOn
  split
  next comment => simp [comment]
  next code =>
    simp only [Bool.not_eq_true] at code
    rw [mem_map]
    constructor
    · rintro ⟨found, matched, rfl⟩
      exact ⟨rfl, rfl, code, matched⟩
    · rintro ⟨rfl, same, _, matched⟩
      exact ⟨hit.found, matched, by rw [← same]⟩

/-- The hits of a pattern are its matches on the lines that are no comments. -/
theorem mem_hitsOf :
    hit ∈ hitsOf source declared ↔
      hit.name = declared.1 ∧ ∃ pattern line, Pattern.parse? flags declared.2 = some pattern ∧ 0 < hit.number ∧
        (Text.splitNewlines source)[hit.number - 1]? = some line ∧ isCommentLine line.toList = false ∧
        hit.found ∈ pattern.findAll line := by
  simp only [hitsOf, mem_flatMap, Option.mem_toList, Prod.exists, Excerpt.mem_numbered, mem_hitsOn]
  constructor
  · rintro ⟨pattern, written, number, line, ⟨positive, known⟩, named, rfl, code, matched⟩
    exact ⟨named, pattern, line, written, positive, known, code, matched⟩
  · rintro ⟨named, pattern, line, written, positive, known, code, matched⟩
    exact ⟨pattern, written, hit.number, line, ⟨positive, known⟩, named, rfl, code, matched⟩

/-- A match in a source is a match on its line alone. -/
theorem mem_hitsOf_line :
    hit ∈ hitsOf source declared ↔ 0 < hit.number ∧
      ∃ line, (Text.splitNewlines source)[hit.number - 1]? = some line ∧
      { hit with number := 1 } ∈ hitsOf line declared := by
  have alone {line : String} (known : (Text.splitNewlines source)[hit.number - 1]? = some line) :
      Text.splitNewlines line = [line] :=
    Text.splitNewlines_of_not_mem (Text.not_mem_of_mem_splitNewlines (mem_of_getElem? known))
  rw [mem_hitsOf]
  constructor
  · rintro ⟨named, pattern, line, written, positive, known, code, matched⟩
    refine ⟨positive, line, known,
      mem_hitsOf.mpr ⟨named, pattern, line, written, Nat.one_pos, ?_, code, matched⟩⟩
    rw [alone known]
    rfl
  · rintro ⟨positive, line, known, listed⟩
    obtain ⟨named, pattern, other, written, _, found, code, matched⟩ := mem_hitsOf.mp listed
    rw [alone known] at found
    obtain rfl := mem_singleton.mp (mem_of_getElem? found)
    exact ⟨named, pattern, other, written, positive, known, code, matched⟩

/-- Advised are the hits for whose pattern there is advice. -/
theorem mem_advised {hits : List Hit} :
    (hit, a) ∈ advised hits ↔ hit ∈ hits ∧ advice.lookup hit.name = some a := by
  simp only [advised, mem_filterMap, Option.map_eq_some_iff]
  constructor
  · rintro ⟨other, member, found, known, same⟩
    cases same
    exact ⟨member, known⟩
  · rintro ⟨member, known⟩
    exact ⟨hit, member, a, known, rfl⟩

section Advised

variable {hits : List Hit} {name : String} (named : ∀ hit ∈ hits, hit.name = name)

include named

theorem advised_of_some (known : advice.lookup name = some a) : advised hits = hits.map fun hit => (hit, a) := by
  rw [advised, ← filterMap_eq_map]
  refine filterMap_congr fun hit member => ?_
  rw [named hit member, known]
  rfl

theorem advised_of_none (unknown : advice.lookup name = none) : advised hits = [] := by
  refine filterMap_eq_nil_iff.mpr fun hit member => ?_
  rw [named hit member, unknown]
  rfl

end Advised

private theorem onLine_eq (settings : DetectorSettings) (name : String) (pattern : Pattern) (a : Advice)
    (source file : String) (line : Nat × String) :
    onLine settings pattern a source file line =
      ((hitsOn name pattern line).map fun hit => (hit, a)).mapM (complete settings source file) := by
  unfold onLine hitsOn
  split
  next => rfl
  next => rw [map_map, mapM_map]; rfl

private theorem onLines_eq (settings : DetectorSettings) (name : String) (pattern : Pattern) (a : Advice)
    (source file : String) (lines : List (Nat × String)) :
    List.flatten <$> lines.mapM (onLine settings pattern a source file) =
      ((lines.flatMap (hitsOn name pattern)).map fun hit => (hit, a)).mapM (complete settings source file) := by
  rw [map_flatMap, mapM_flatMap, mapM_congr fun line _ => onLine_eq settings name pattern a source file line]

private theorem detectWith_eq (rules : List (Pattern × Advice)) (settings : DetectorSettings) (source file : String) :
    detectWith rules settings source file =
      List.flatten <$> rules.mapM fun rule =>
        List.flatten <$> (Excerpt.numbered (Text.splitNewlines source)).mapM
          (onLine settings rule.1 rule.2 source file) := by
  rw [map_mapM, detectWith]
  cases rules.mapM fun rule =>
      (Excerpt.numbered (Text.splitNewlines source)).mapM (onLine settings rule.1 rule.2 source file) with
  | error fault => rfl
  | ok lists => rfl

/-- What declared patterns find is what each of them finds, and that is a finding for each match about which there is
something to say. -/
theorem detectWith_compiled (declared : List (String × String)) (settings : DetectorSettings) (source file : String) :
    detectWith (compiled declared) settings source file =
      List.flatten <$> declared.mapM fun one =>
        (advised (hitsOf source one)).mapM (complete settings source file) := by
  have named (one : String × String) : ∀ hit ∈ hitsOf source one, hit.name = one.1 :=
    fun hit member => (mem_hitsOf.mp member).1
  rw [detectWith_eq, compiled]
  refine flatten_filterMap (fun ⟨name, written⟩ skipped => ?_) (fun ⟨name, written⟩ rule kept => ?_) declared
  · cases known : advice.lookup name with
    | none =>
      rw [advised_of_none (named _) known]
      rfl
    | some a =>
      cases parsed : Pattern.parse? flags written with
      | none =>
        simp only [hitsOf, parsed]
        rfl
      | some pattern => simp [known, parsed] at skipped
  · simp only at kept
    split at kept
    next pattern a parsed known =>
      cases kept
      rw [advised_of_some (named _) known, onLines_eq settings name]
      simp [hitsOf, parsed]
    next => cases kept

/-- Of a single pattern, each advised hit is made into a finding. -/
theorem detectWith_one (declared : String × String) (settings : DetectorSettings) (source file : String) :
    detectWith (compiled [declared]) settings source file =
      (advised (hitsOf source declared)).mapM (complete settings source file) := by
  rw [detectWith_compiled, mapM_cons, mapM_nil]
  cases (advised (hitsOf source declared)).mapM (complete settings source file) with
  | error fault => rfl
  | ok found => exact congrArg Except.ok (append_nil found)

/-- The patterns are run one after the other. -/
theorem detect_eq (settings : DetectorSettings) (unit : Solidity.Unit) :
    detect settings unit =
      List.flatten <$> patterns.mapM fun declared =>
        detectWith (compiled [declared]) settings unit.source unit.file := by
  simp only [detect, rules, detectWith_compiled patterns, detectWith_one]

/-! ## Sources that are joined -/

/-- The match on a line so many lines further down. -/
def Hit.moved (lines : Nat) (hit : Hit) : Hit := { hit with number := hit.number + lines }

private theorem hitsOn_moved (name : String) (pattern : Pattern) (lines : Nat) (line : Nat × String) :
    hitsOn name pattern (line.1 + lines, line.2) = (hitsOn name pattern line).map (Hit.moved lines) := by
  unfold hitsOn
  split
  next => rfl
  next => rw [map_map]; rfl

private theorem hitsOf_append (first second : String) (declared : String × String) :
    hitsOf (first ++ "\n" ++ second) declared =
      hitsOf first declared ++ (hitsOf second declared).map (Hit.moved (Text.splitNewlines first).length) := by
  cases written : Pattern.parse? flags declared.2 with
  | none => simp [hitsOf, written]
  | some pattern =>
    simp only [hitsOf, written, Option.toList_some, flatMap_singleton, Text.splitNewlines_append,
      Excerpt.numbered_append, flatMap_append, flatMap_map, map_flatMap, hitsOn_moved]

private theorem advised_append (first second : List Hit) :
    advised (first ++ second) = advised first ++ advised second :=
  filterMap_append

private theorem advised_moved (lines : Nat) (hits : List Hit) :
    advised (hits.map (Hit.moved lines)) = (advised hits).map fun one => (one.1.moved lines, one.2) := by
  rw [advised, advised, filterMap_map, map_filterMap]
  refine filterMap_congr fun hit _ => ?_
  rw [Option.map_map]
  rfl

end Detector.Textual

/-- The finding without the lines that it shows. -/
def Finding.unquoted (f : Finding) : Finding := { f with snippet := none }

/-- The finding so many lines further down, with the identifier that belongs to its place. -/
def Finding.moved (lines : Nat) (f : Finding) : Finding :=
  let location := f.location.map fun place => { place with lineStart := place.lineStart + lines }
  { f with location, id := generatedId f.title location f.kind }

namespace Detector.Textual

open Outcome

private theorem complete_moved (settings : DetectorSettings) (source other file : String) (lines : Nat)
    (one : Hit × Advice) :
    Finding.unquoted <$> complete settings source file (one.1.moved lines, one.2) =
      (fun f => (f.moved lines).unquoted) <$> complete settings other file one := by
  rw [complete, complete, Profile.report_eq, Profile.report_eq]
  simp only [Functor.map_map]
  refine congrArg (· <$> profile.severityOf settings (some one.2.severity)) (funext fun severity => ?_)
  simp only [Finding.unquoted, Finding.moved, Draft.finding, Advice.draft, Hit.moved, Option.map_some,
    Int.natCast_add]
  rfl

private theorem complete_unquoted (settings : DetectorSettings) (source other file : String) (one : Hit × Advice) :
    Finding.unquoted <$> complete settings source file one = Finding.unquoted <$> complete settings other file one := by
  rw [complete, complete, Profile.report_eq, Profile.report_eq]
  simp only [Functor.map_map]
  rfl

/-- What a pattern finds in two sources that are joined by a line feed is what it finds in the first, followed by what
it finds in the second so many lines further down as the first has, apart from the lines that are shown. -/
theorem findings_of_joined (declared : String × String) (settings : DetectorSettings) (first second file : String) :
    List.map Finding.unquoted <$> detectWith (compiled [declared]) settings (first ++ "\n" ++ second) file = (do
      let before ← detectWith (compiled [declared]) settings first file
      let after ← detectWith (compiled [declared]) settings second file
      let moved := after.map (Finding.moved (Text.splitNewlines first).length)
      return (before ++ moved).map Finding.unquoted) := by
  simp only [detectWith_one, hitsOf_append, advised_append, advised_moved, mapM_append, mapM_map]
  -- The joined source is still there for the lines that are shown, and these are left out.
  generalize first ++ "\n" ++ second = whole
  generalize (Text.splitNewlines first).length = lines
  have before : List.map Finding.unquoted <$> (advised (hitsOf first declared)).mapM (complete settings whole file) =
      List.map Finding.unquoted <$> (advised (hitsOf first declared)).mapM (complete settings first file) := by
    rw [← map_mapM, ← map_mapM]
    exact mapM_congr fun one _ => complete_unquoted settings whole first file one
  have after : List.map Finding.unquoted <$> (advised (hitsOf second declared)).mapM
        (complete settings whole file ∘ fun one => (one.1.moved lines, one.2)) =
      List.map (fun f => (f.moved lines).unquoted) <$>
        (advised (hitsOf second declared)).mapM (complete settings second file) := by
    rw [← map_mapM, ← map_mapM]
    exact mapM_congr fun one _ => complete_moved settings whole second file lines one
  calc
    _ = (do
          let found ← List.map Finding.unquoted <$>
            (advised (hitsOf first declared)).mapM (complete settings whole file)
          let more ← List.map Finding.unquoted <$> (advised (hitsOf second declared)).mapM
            (complete settings whole file ∘ fun one => (one.1.moved lines, one.2))
          return found ++ more) := by simp only [map_bind, map_pure, map_append, bind_map_left]
    _ = _ := by
      rw [before, after]
      simp only [bind_map_left, map_append, map_map, Function.comp_def]

/-! ## Matches on lines -/

/-- The text writes a regular pattern that matches no empty text. -/
def Searchable (written : String) : Prop :=
  ∃ pattern, Pattern.parse? flags written = some pattern ∧ pattern.isRegular ∧ 0 < pattern.least

private theorem Searchable.literal
    (checked : (Pattern.parseChars? flags cs).any fun pattern => pattern.isRegular && decide (0 < pattern.least)) :
    Searchable (String.ofList cs) := by
  have same : Pattern.parse? flags (String.ofList cs) = Pattern.parseChars? flags cs := by
    rw [Pattern.parse?, String.toList_ofList]
  cases parsed : Pattern.parseChars? flags cs with
  | none => simp [parsed] at checked
  | some pattern =>
    rw [parsed, Option.any_some, Bool.and_eq_true, decide_eq_true_eq] at checked
    exact ⟨pattern, same.trans parsed, checked⟩

private theorem searchable_patterns : ∀ declared ∈ patterns, Searchable declared.2 := by
  unfold patterns
  -- Each pattern is read once from its characters; that it matches no empty text is a bound on its shape.
  repeat refine forall_mem_cons.mpr ⟨.literal (by decide +kernel), ?_⟩
  exact forall_mem_nil _

/-- The match ends before the other one begins. -/
def Hit.Before (one other : Hit) : Prop :=
  one.number < other.number ∨ one.number = other.number ∧ one.found.stop ≤ other.found.start

/-- The match is one of the pattern, on a line that does not begin as a comment, and is not empty. -/
def Hit.Matches (source : String) (pattern : Pattern) (hit : Hit) : Prop :=
  0 < hit.number ∧ ∃ line, (Text.splitNewlines source)[hit.number - 1]? = some line ∧
    isCommentLine line.toList = false ∧ hit.found.start < hit.found.stop ∧ hit.found.stop ≤ line.length ∧
    Pattern.Spans line.toList pattern hit.found.start hit.found.stop

/-- The matches of a pattern in a source: they do not overlap, and wherever the pattern matches on a line that does not
begin as a comment, it does so from inside a match that is listed. -/
structure Lists (source name : String) (pattern : Pattern) (hits : List Hit) : Prop where
  named : ∀ hit ∈ hits, hit.name = name
  matching : ∀ hit ∈ hits, hit.Matches source pattern
  apart : hits.Pairwise Hit.Before
  covering : ∀ (number : Nat) (line : String), 0 < number → (Text.splitNewlines source)[number - 1]? = some line →
    isCommentLine line.toList = false → ∀ i j, Pattern.Spans line.toList pattern i j →
      ∃ hit ∈ hits, hit.number = number ∧ hit.found.start ≤ i ∧ i < hit.found.stop

section Lists

variable {declared : String × String} {pattern : Pattern} (written : Pattern.parse? flags declared.2 = some pattern)
  (regular : pattern.isRegular) (solid : 0 < pattern.least) (source : String)

include written regular solid

private theorem hitsOf_ordered : (hitsOf source declared).Pairwise Hit.Before := by
  have whole : hitsOf source declared =
      (Excerpt.numbered (Text.splitNewlines source)).flatMap (hitsOn declared.1 pattern) := by
    simp [hitsOf, written]
  rw [whole, pairwise_flatMap]
  constructor
  · intro line _
    unfold hitsOn
    split
    next => exact .nil
    next =>
      rw [pairwise_map]
      exact (Pattern.scanned_findAll regular solid line.2).apart.imp fun before => .inr ⟨rfl, before⟩
  · refine (Excerpt.pairwise_numbered _).imp fun before one here other there => .inl ?_
    rw [(mem_hitsOn.mp here).2.1, (mem_hitsOn.mp there).2.1]
    exact before

private theorem matches_of_mem_hitsOf (member : hit ∈ hitsOf source declared) : hit.Matches source pattern := by
  obtain ⟨_, other, line, same, positive, known, code, matched⟩ := mem_hitsOf.mp member
  obtain rfl := Option.some.inj (written.symm.trans same)
  have spans := ((Pattern.scanned_findAll regular solid line).spans _ matched).2
  have longer := spans.le
  refine ⟨positive, line, known, code, by omega, ?_, spans⟩
  obtain same | inside := spans.within
  · omega
  · rwa [String.length_toList] at inside

private theorem lists_hitsOf : Lists source declared.1 pattern (hitsOf source declared) where
  named _ member := (mem_hitsOf.mp member).1
  matching _ member := matches_of_mem_hitsOf written regular solid source member
  apart := hitsOf_ordered written regular solid source
  covering number line positive known code i j spans := by
    obtain ⟨found, matched, covered⟩ := (Pattern.scanned_findAll regular solid line).covers (Nat.zero_le i) spans
    have listed : ⟨declared.1, number, found⟩ ∈ hitsOf source declared :=
      mem_hitsOf.mpr ⟨rfl, pattern, line, written, positive, known, code, matched⟩
    exact ⟨_, listed, rfl, covered⟩

end Lists

/-- Each pattern lists its hits. -/
theorem exists_lists (member : declared ∈ patterns) (source : String) :
    ∃ pattern, Pattern.parse? flags declared.2 = some pattern ∧
      Lists source declared.1 pattern (hitsOf source declared) := by
  obtain ⟨pattern, written, regular, solid⟩ := searchable_patterns declared member
  exact ⟨pattern, written, lists_hitsOf written regular solid source⟩

/-! ## Findings of matches -/

/-- The finding is made for a match: it says what there is to say about the pattern, at the place of the match. -/
structure Reports (file : String) (hit : Hit) (finding : Finding) : Prop where
  saying : ∃ a, advice.lookup hit.name = some a ∧ finding.title = a.title ∧
    finding.description = a.description ∧
    finding.kind = a.kind
  location : finding.location =
    some ⟨file, hit.number, none, some (hit.found.start + 1 : Nat), some (hit.found.stop + 1 : Nat)⟩

private theorem reports_of_complete (known : advice.lookup hit.name = some a)
    (done : complete settings source file (hit, a) = .ok finding) : Reports file hit finding := by
  rw [complete, Profile.report_eq] at done
  obtain ⟨severity, _, rfl⟩ := map_eq_ok.mp done
  exact ⟨⟨a, known, rfl, rfl, rfl⟩, rfl⟩

section Parts

variable {settings : DetectorSettings} {source file : String} {declared : String × String} {part : List Finding}

/-- A pattern about which there is something to say has one finding for each match. -/
theorem reports_of_some (known : advice.lookup declared.1 = some a)
    (done : detectWith (compiled [declared]) settings source file = .ok part) :
    List.Forall₂ (Reports file) (hitsOf source declared) part := by
  have named : ∀ hit ∈ hitsOf source declared, hit.name = declared.1 := fun hit member => (mem_hitsOf.mp member).1
  rw [detectWith_one, advised_of_some named known, mapM_map] at done
  refine ((forall₂_and_left _ _).mpr ⟨named, forall₂_of_mapM done⟩).imp fun hit finding made => ?_
  exact reports_of_complete (made.1 ▸ known) made.2

/-- A pattern without advice reports nothing. -/
theorem eq_nil_of_none (unknown : advice.lookup declared.1 = none)
    (done : detectWith (compiled [declared]) settings source file = .ok part) : part = [] := by
  rw [detectWith_one, advised_of_none (fun hit member => (mem_hitsOf.mp member).1) unknown] at done
  cases done
  rfl

end Parts

/-- The findings are those of the declared patterns, one pattern after the other. -/
theorem exists_parts (accepted : settings.Accepted) (unit : Solidity.Unit) :
    ∃ parts, detect settings unit = .ok parts.flatten ∧
      List.Forall₂ (fun declared part => declared ∈ patterns ∧
        detectWith (compiled [declared]) settings unit.source unit.file = .ok part) patterns parts := by
  obtain ⟨found, done⟩ := detect_succeeds accepted unit
  obtain ⟨parts, made, rfl⟩ := map_eq_ok.mp ((detect_eq settings unit).symm.trans done)
  exact ⟨parts, done, (forall₂_and_left _ _).mpr ⟨fun _ member => member, forall₂_of_mapM made⟩⟩

/-- A match of a declared pattern about which there is something to say is reported. -/
theorem exists_finding_of_hit {unit : Solidity.Unit} (done : detect settings unit = .ok found)
    (member : declared ∈ patterns) (said : (advice.lookup declared.1).isSome)
    (listed : hit ∈ hitsOf unit.source declared) : ∃ finding ∈ found, Reports unit.file hit finding := by
  obtain ⟨parts, made, rfl⟩ := map_eq_ok.mp ((detect_eq settings unit).symm.trans done)
  obtain ⟨part, inside, own⟩ := exists_mem_of_mapM made member
  obtain ⟨a, known⟩ := Option.isSome_iff_exists.mp said
  obtain ⟨finding, found, one⟩ := exists_mem_of_forall₂ (reports_of_some known own).flip listed
  exact ⟨finding, mem_flatten.mpr ⟨part, inside, found⟩, one⟩

/-! ## Sources of one line -/

/-- The matches of a pattern that is written as a literal, on a source of one line. -/
theorem hitsOf_literal (parsed : Pattern.parseChars? flags cs = some pattern) (single : '\n' ∉ line.toList)
    (code : isCommentLine line.toList = false) (name : String) :
    hitsOf line (name, String.ofList cs) = (pattern.findAll line).map (Hit.mk name 1) := by
  have same : Pattern.parse? flags (String.ofList cs) = some pattern := by
    rw [Pattern.parse?, String.toList_ofList, parsed]
  simp [hitsOf, same, Text.splitNewlines_of_not_mem single, hitsOn, code, Excerpt.numbered]

/-- A match on a line that is no comment is a hit. -/
theorem exists_hit_of_literal {start stop : Nat} (single : '\n' ∉ line.toList)
    (code : isCommentLine line.toList = false)
    (checked : (Pattern.parseChars? flags cs).any fun pattern =>
      (pattern.findAll line).any fun found => found.start == start && found.stop == stop) (name : String) :
    ∃ hit ∈ hitsOf line (name, String.ofList cs),
      hit.number = 1 ∧ hit.found.start = start ∧ hit.found.stop = stop := by
  cases parsed : Pattern.parseChars? flags cs with
  | none => simp [parsed] at checked
  | some pattern =>
    rw [hitsOf_literal parsed single code]
    simpa [parsed] using checked

/-- Without a match, or without advice, nothing is advised. -/
theorem advised_literal_eq_nil {name : String} (single : '\n' ∉ line.toList)
    (code : isCommentLine line.toList = false)
    (checked : (advice.lookup name).isNone || (Pattern.parseChars? flags cs).any fun pattern =>
      (pattern.findAll line).isEmpty) : advised (hitsOf line (name, String.ofList cs)) = [] := by
  cases said : advice.lookup name with
  | none => exact advised_of_none (fun hit member => (mem_hitsOf.mp member).1) said
  | some a =>
    cases parsed : Pattern.parseChars? flags cs with
    | none => simp [parsed, said] at checked
    | some pattern =>
      have empty : pattern.findAll line = [] := by simpa [parsed, said] using checked
      rw [hitsOf_literal parsed single code, empty]
      rfl

/-- A compiled file without contracts. -/
def textOnly (source : String) : Solidity.Unit := ⟨"a.sol", source, [], [], [], .null⟩

/-- The time is read twice on this line, which is reported. -/
theorem detect_now (done : detect {} (textOnly "now + now") = .ok found) : found ≠ [] := by
  have declared : ("block_timestamp", "\\b(block\\.timestamp|now)\\b") ∈ patterns := by decide +kernel
  obtain ⟨hit, listed, _⟩ : ∃ hit ∈ hitsOf "now + now" ("block_timestamp", "\\b(block\\.timestamp|now)\\b"),
      hit.number = 1 ∧ hit.found.start = 6 ∧ hit.found.stop = 9 :=
    exists_hit_of_literal (by decide) (by decide +kernel) (by decide +kernel) "block_timestamp"
  obtain ⟨finding, inside, _⟩ := exists_finding_of_hit done declared (by decide +kernel) listed
  exact ne_nil_of_mem inside

/-! ## Where findings lie -/

/-- The finding lies on one line of the source, and the characters between its columns match a pattern. -/
def LiesOn (source file : String) (pattern : Pattern) (finding : Finding) : Prop :=
  ∃ (number start stop : Nat) (line : String),
    finding.location = some ⟨file, number, none, some start, some stop⟩ ∧
      1 ≤ number ∧ number ≤ (Text.splitNewlines source).length ∧
      (Text.splitNewlines source)[number - 1]? = some line ∧ 1 ≤ start ∧ start < stop ∧
        stop ≤ line.length + 1 ∧
      Pattern.Spans line.toList pattern (start - 1) (stop - 1)

/-- The finding is on an earlier line than the other one, or ends before it on the same line. -/
def Precedes (one other : Finding) : Prop :=
  ∃ place next, one.location = some place ∧ other.location = some next ∧
    (place.lineStart < next.lineStart ∨ place.lineStart = next.lineStart ∧
      ∃ stop start, place.columnEnd = some stop ∧ next.columnStart = some start ∧ stop ≤ start)

private theorem Reports.precedes {one other : Hit} {next : Finding} (made : Reports file one finding)
    (madeNext : Reports file other next) (before : one.Before other) : Precedes finding next := by
  refine ⟨_, _, made.location, madeNext.location, ?_⟩
  obtain earlier | ⟨same, apart⟩ := before
  · exact .inl (Int.ofNat_lt.mpr earlier)
  · exact .inr ⟨congrArg Int.ofNat same, _, _, rfl, rfl, Int.ofNat_le.mpr (Nat.succ_le_succ apart)⟩

private theorem Reports.liesOn
    (made : Reports file hit finding) (matched : hit.Matches source pattern) : LiesOn source file pattern finding := by
  obtain ⟨positive, line, known, _, longer, inside, spans⟩ := matched
  obtain ⟨within, _⟩ := List.getElem?_eq_some_iff.mp known
  exact ⟨hit.number, hit.found.start + 1, hit.found.stop + 1, line, made.location, positive, by omega,
    known, by omega,
    by omega, by omega, spans⟩

/-- The findings are those of the declared patterns, one pattern after the other. Each lies inside a line of the source,
on characters that match its pattern, and no two findings of a pattern overlap. -/
theorem findings_are_matches {settings : DetectorSettings} (accepted : settings.Accepted) (unit : Solidity.Unit) :
    ∃ parts, detect settings unit = .ok parts.flatten ∧
      List.Forall₂ (fun declared part =>
        detectWith (compiled [declared]) settings unit.source unit.file = .ok part ∧
        ∃ pattern, Pattern.parse? flags declared.2 = some pattern ∧
          (∀ finding ∈ part, LiesOn unit.source unit.file pattern finding) ∧ part.Pairwise Precedes)
        patterns parts := by
  obtain ⟨parts, done, each⟩ := exists_parts accepted unit
  refine ⟨parts, done, each.imp fun declared part ⟨member, own⟩ => ⟨own, ?_⟩⟩
  obtain ⟨pattern, written, lists⟩ := exists_lists member unit.source
  cases known : advice.lookup declared.1 with
  | none =>
    obtain rfl := eq_nil_of_none known own
    exact ⟨pattern, written, forall_mem_nil _, .nil⟩
  | some a =>
    have made := reports_of_some known own
    refine ⟨pattern, written, fun finding inside => ?_, ?_⟩
    · obtain ⟨hit, listed, one⟩ := exists_mem_of_forall₂ made inside
      exact one.liesOn (lists.matching hit listed)
    · exact pairwise_of_forall₂ (fun _ _ _ _ before one other => one.precedes other before) made lists.apart

theorem findings_are_matches_now :
    DetectorSettings.Accepted {} ∧ ∃ parts, detect {} (textOnly "now + now") = .ok parts.flatten ∧
      parts.flatten ≠ [] ∧ List.Forall₂ (fun declared part =>
        detectWith (compiled [declared]) {} "now + now" "a.sol" = .ok part ∧
        ∃ pattern, Pattern.parse? flags declared.2 = some pattern ∧
          (∀ finding ∈ part, LiesOn "now + now" "a.sol" pattern finding) ∧ part.Pairwise Precedes)
        patterns parts := by
  have accepted := DetectorSettings.accepted_default
  obtain ⟨parts, done, each⟩ := findings_are_matches accepted (textOnly "now + now")
  exact ⟨accepted, parts, done, detect_now done, each⟩

/-! ## Matches that are not reported -/

/-- The names of the patterns about which there is nothing to say. -/
def silent : List String := [
  "deprecated_sha3", "deprecated_callcode", "msg_sender_auth", "block_number_time", "blockhash_randomness",
  "unchecked_math", "security_todo", "unchecked_delegatecall", "external_call_pattern", "missing_modifier"]

private theorem mem_silent_iff :
    ∀ declared ∈ patterns, declared.1 ∈ silent ↔ advice.lookup declared.1 = none := by
  simp only [← Option.isNone_iff_eq_none]
  decide +kernel

/-- All matches of a declared pattern on lines that do not begin as comments have one finding each, unless there is
nothing to say about the pattern: then its matches are not reported. -/
theorem one_finding_per_match {settings : DetectorSettings} (accepted : settings.Accepted) (unit : Solidity.Unit) :
    ∃ parts, detect settings unit = .ok parts.flatten ∧
      List.Forall₂ (fun declared part => ∃ pattern hits, Pattern.parse? flags declared.2 = some pattern ∧
        Lists unit.source declared.1 pattern hits ∧
        if declared.1 ∈ silent then part = [] else List.Forall₂ (Reports unit.file) hits part) patterns parts := by
  obtain ⟨parts, done, each⟩ := exists_parts accepted unit
  refine ⟨parts, done, each.imp fun declared part ⟨member, own⟩ => ?_⟩
  obtain ⟨pattern, written, lists⟩ := exists_lists member unit.source
  refine ⟨pattern, hitsOf unit.source declared, written, lists, ?_⟩
  simp only [mem_silent_iff declared member]
  split
  next unknown => exact eq_nil_of_none unknown own
  next said =>
    obtain ⟨a, known⟩ := Option.ne_none_iff_exists'.mp said
    exact reports_of_some known own

theorem one_finding_per_match_now :
    DetectorSettings.Accepted {} ∧ ∃ parts, detect {} (textOnly "now + now") = .ok parts.flatten ∧
      parts.flatten ≠ [] ∧ List.Forall₂ (fun declared part => ∃ pattern hits,
        Pattern.parse? flags declared.2 = some pattern ∧ Lists "now + now" declared.1 pattern hits ∧
        if declared.1 ∈ silent then part = [] else List.Forall₂ (Reports "a.sol") hits part) patterns parts := by
  have accepted := DetectorSettings.accepted_default
  obtain ⟨parts, done, each⟩ := one_finding_per_match accepted (textOnly "now + now")
  exact ⟨accepted, parts, done, detect_now done, each⟩

/-- A declared pattern matches the name of a function that should not be used any more, and nothing is reported. -/
theorem sha3_not_reported :
    ∃ declared ∈ patterns, ∃ pattern, Pattern.parse? flags declared.2 = some pattern ∧
      Pattern.Spans "sha3(x)".toList pattern 0 4 ∧ isCommentLine "sha3(x)".toList = false ∧
      detect {} (textOnly "sha3(x)") = .ok [] := by
  have code : isCommentLine "sha3(x)".toList = false := by decide +kernel
  have single : '\n' ∉ "sha3(x)".toList := by decide
  have member : ("deprecated_sha3", "\\bsha3\\b") ∈ patterns := by decide +kernel
  obtain ⟨hit, listed, _, start, stop⟩ : ∃ hit ∈ hitsOf "sha3(x)" ("deprecated_sha3", "\\bsha3\\b"),
      hit.number = 1 ∧ hit.found.start = 0 ∧ hit.found.stop = 4 :=
    exists_hit_of_literal single code (by decide +kernel) "deprecated_sha3"
  obtain ⟨pattern, written, lists⟩ := exists_lists member "sha3(x)"
  obtain ⟨_, line, known, _, _, _, spans⟩ := lists.matching hit listed
  rw [Text.splitNewlines_of_not_mem single] at known
  obtain rfl := mem_singleton.mp (mem_of_getElem? known)
  rw [start, stop] at spans
  have unsaid : ∀ declared ∈ patterns, advised (hitsOf "sha3(x)" declared) = [] := by
    unfold patterns
    repeat refine forall_mem_cons.mpr ⟨advised_literal_eq_nil single code (by decide +kernel), ?_⟩
    exact forall_mem_nil _
  have nothing : ∀ declared ∈ patterns,
      detectWith (compiled [declared]) {} (textOnly "sha3(x)").source (textOnly "sha3(x)").file = .ok [] := by
    intro declared member
    rw [detectWith_one, textOnly, unsaid declared member]
    rfl
  refine ⟨_, member, pattern, written, spans, code, ?_⟩
  rw [detect_eq, mapM_eq_ok nothing, map_const']
  exact congrArg Except.ok (flatten_replicate_nil)

end Detector.Textual

end ContractLint
