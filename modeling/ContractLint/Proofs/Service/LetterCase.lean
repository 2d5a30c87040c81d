import ContractLint.Proofs.Files
import ContractLint.Proofs.Scan.Naming
import ContractLint.Proofs.Service.Storage

/-! # Letter case in the names of uploads

An upload is accepted whatever the letter case of its extension, and analysed for the same language. The findings in a
Rust or a Go file are then the same as under the extension in small letters. Those in a Solidity file are not: the
language is read from the name once more, and there small letters are asked for (`letter_case_kept_iff`).
-/

namespace ContractLint.Service

open List

variable {found : List Scan.Finding} {around : Scan.Surroundings} {analyzer : Scan.Analyzer}
  {trace : Scan.Trace} {setting : Setting} {content : Content}

open Solidity (fieldOr itemsOf)
open Scan.Inference (isSummary comprehensive)

/-! ## The findings in an answer -/

/-- The document of a finding without its identifier. -/
def withoutId : Value → Value
  | .object fields => .object (fields.filter fun field => field.1 != "id")
  | v => v

/-- The findings in the answer to an upload, up to their identifiers. -/
def reported (answer : Value) : List Value := (itemsOf (fieldOr answer "findings" (.list []))).map withoutId

/-- What an answer tells of a finding. -/
def contentOf (f : Scan.Finding) : Value := withoutId (findingDocument "" f)

def tellsSummary (document : Value) : Bool := (fieldOr document "detector" .null).isText "ai_comprehensive_analysis"

private theorem filter_tellsSummary (findings : List Scan.Finding) :
    (findings.map contentOf).filter tellsSummary = (findings.filter isSummary).map contentOf := by
  rw [filter_map]
  rfl

private theorem documentsFrom_content (issued : Nat) (findings : List Scan.Finding) :
    (documentsFrom issued findings).map withoutId = findings.map contentOf := by
  rw [documentsFrom, map_map]
  have same := congrArg (List.map contentOf) (zipIdx_map_fst (issued + 1) findings)
  rwa [map_map] at same

/-- The answer about a file reports the findings of the analysis. -/
theorem Upload.study_reports {u : Upload} {s t : State} {j k : Journal}
    {found : List Scan.Finding × Value} (done : u.study analyzer setting s j = (.ok found, t, k)) :
    (analyzer.analyze (.text u.filename) (.text u.text) setting.around j.trace).1 = .ok found.1 ∧
      reported found.2 = found.1.map contentOf := by
  obtain ⟨s₁, _, _, _, _, analysed, _, _, same, _⟩ := u.study_cases done
  rw [same]
  exact ⟨analysed, documentsFrom_content s₁.issued found.1⟩

/-- An upload that passes the checks is answered with the findings of an analysis, unless a connection breaks. -/
theorem upload_reports {name text : String}
    (named : IsName (.text name) name) (known : analyzerFor? name = some analyzer) (sensible : IsText content text)
    (setting : Setting) (s : State) (j : Journal) :
    ∃ trace found answer, (analyzer.analyze (.text name) (.text text) setting.around trace).1 = .ok found ∧
      reported answer = found.map contentOf ∧
      (analyzeUpload (.text name) content setting s j).1 =
        ((heard s.connections s.limits >>= heard s.connections).map fun _ => answer).mapError
          fun fault => uploadRefusal (.fault fault) := by
  let u : Upload := ⟨identifier (s.issued + 1), name, analyzer.extension, content.size, text⟩
  rw [analyzeUpload_outcome, examine_eq named known sensible, Handler.bind_of_ok (say_run _ setting _ j)]
  obtain ⟨found, t, k, studied⟩ := u.study_succeeds analyzer setting { s with issued := s.issued + 1 } _
  obtain ⟨analysed, reports⟩ := Upload.study_reports studied
  refine ⟨_, found.1, found.2, analysed, reports, ?_⟩
  rw [u.process_outcome analyzer (by rw [studied])]
  cases heard s.connections s.limits >>= heard s.connections <;> rfl

/-! ## Extensions -/

/-- The text is the extension of the files of an analyzer, whatever the case of its letters. -/
def IsExtensionOf (analyzer : Scan.Analyzer) (ext : String) : Prop := Text.lower ext = analyzer.extension

instance (analyzer : Scan.Analyzer) (ext : String) : Decidable (IsExtensionOf analyzer ext) :=
  inferInstanceAs (Decidable (Text.lower ext = analyzer.extension))

namespace IsExtensionOf

variable {analyzer : Scan.Analyzer} {ext : String}

/-- The extension differs from the analyzer's in letter case only. -/
theorem letters (same : IsExtensionOf analyzer ext) :
    (∀ c ∈ ext.toList, Text.LowersAlone c) ∧ ext.toList.map Text.lowerChar = analyzer.extension.toList :=
  Text.map_lowerChar_of_lower same (by cases analyzer <;> rfl)

private theorem isExtension (same : IsExtensionOf analyzer ext) : Path.IsExtension ext := by
  have absent {c : Char} (kept : Text.lowerChar c = c) (foreign : c ∉ analyzer.extension.toList) :
      c ∉ ext.toList := by
    intro inside
    rw [← same.letters.2, ← kept] at foreign
    exact foreign (mem_map_of_mem inside)
  refine ⟨?_, absent (by decide) (by cases analyzer <;> decide), absent (by decide) (by cases analyzer <;> decide)⟩
  rintro rfl
  cases analyzer <;> exact absurd same (by decide)

private theorem lower_dot (same : IsExtensionOf analyzer ext) :
    Text.lower ("." ++ ext) = "." ++ analyzer.extension := by
  have alone : ∀ c ∈ ("." ++ ext).toList, Text.LowersAlone c := by
    intro c member
    obtain dot | inside := mem_append.mp (String.toList_append ▸ member)
    · rw [mem_singleton.mp dot]
      exact ⟨by decide, by decide⟩
    · exact same.letters.1 c inside
  have dot : ".".toList.map Text.lowerChar = ".".toList := by decide
  rw [Text.lower, Text.lowerList, Text.lowerAfter_eq_map alone, String.toList_append, map_append, same.letters.2, dot,
    ← String.toList_append, String.ofList_toList]

/-- A file is read by the analyzer of its extension, unless nothing stands before the extension. -/
theorem exists_analyzerFor? (stem : String) : ∃ front : String, ∀ {ext : String} {analyzer : Scan.Analyzer},
    IsExtensionOf analyzer ext → analyzerFor? (stem ++ "." ++ ext) = if front = "" then none else some analyzer := by
  obtain ⟨front, named⟩ := Path.exists_name_ofText stem
  refine ⟨front, fun {ext analyzer} same => ?_⟩
  have ending : suffixOf (stem ++ "." ++ ext) = if front = "" then "" else "." ++ analyzer.extension := by
    rw [suffixOf, Path.suffix_of_name (named ext same.isExtension) same.isExtension]
    split
    · rfl
    · exact same.lower_dot
  rw [analyzerFor?, ending]
  split
  · decide
  · cases analyzer <;> decide

end IsExtensionOf

/-! ## Findings under two names -/

/-- The findings in a Solidity file are told apart by their summaries if the extension is not in small letters. -/
theorem contents_differ {ext stem text : String} (same : IsExtensionOf .solidity ext) (capital : ext ≠ "sol")
    {trace' : Scan.Trace} {small : List Scan.Finding}
    (one : (Scan.Analyzer.solidity.analyze (.text (stem ++ "." ++ ext)) (.text text) around trace).1 = .ok found)
    (two : (Scan.Analyzer.solidity.analyze (.text (stem ++ "." ++ "sol")) (.text text) around trace').1 = .ok small) :
    found.map contentOf ≠ small.map contentOf := by
  obtain ⟨shared, splits⟩ := Scan.Analyzer.analyze_splits text around
  have unknown := Scan.languageOf_extension same stem
  have known := Scan.languageOf_extension (show Text.lower "sol" = "sol" by decide) stem
  rw [if_neg capital] at unknown
  rw [if_pos rfl] at known
  obtain ⟨own, count, rfl, summed⟩ := (splits unknown).ensures trace found one
  obtain ⟨own', count', rfl, summed'⟩ := (splits known).ensures trace' small two
  intro equal
  rw [map_append, map_append] at equal
  -- What is shared stands in front of both, and of the rest the summaries are compared.
  have rest := congrArg (List.filter tellsSummary) (append_cancel_left equal)
  rw [filter_tellsSummary, filter_tellsSummary, summed, summed'] at rest
  have descriptions := congrArg (fun document => fieldOr document "description" .null) (List.cons.inj rest).1
  exact Scan.comprehensive_description_ne text text count' count descriptions.symm

theorem isName_append (stem ext : String) : IsName (.text (stem ++ "." ++ ext)) (stem ++ "." ++ ext) := by
  refine ⟨rfl, fun none => ?_⟩
  have letters := congrArg String.length none
  have dot : ".".length = 1 := rfl
  simp only [String.length_append] at letters
  change _ = 0 at letters
  omega

private theorem accepted_of_answered {filename answer : Value} {s : State} {j : Journal}
    (answered : (analyzeUpload filename content setting s j).1 = .ok answer) : Accepted filename content := by
  rw [analyzeUpload_outcome] at answered
  obtain ⟨accepted, _⟩ | ⟨_, problem, examined⟩ := examine_cases (identifier (s.issued + 1)) filename content
  · exact accepted
  · rw [examined] at answered
    cases answered

/-- An upload that is answered gets the same findings as under its extension in small letters exactly if it is no
Solidity file or its extension is in small letters. -/
theorem letter_case_kept_iff {ext : String} {analyzer : Scan.Analyzer} (same : IsExtensionOf analyzer ext)
    (stem : String) (content : Content) (setting : Setting) (s : State) (j : Journal) {answer : Value}
    (answered : (analyzeUpload (.text (stem ++ "." ++ ext)) content setting s j).1 = .ok answer) :
    ∃ small, (analyzeUpload (.text (stem ++ "." ++ analyzer.extension)) content setting s j).1 = .ok small ∧
      (reported answer = reported small ↔ (analyzer = .solidity → ext = "sol")) := by
  by_cases written : ext = analyzer.extension
  · refine ⟨answer, written ▸ answered, ⟨fun _ solid => ?_, fun _ => rfl⟩⟩
    rw [written, solid]
    rfl
  obtain ⟨front, analyzers⟩ := IsExtensionOf.exists_analyzerFor? stem
  obtain ⟨name, text, named, chosen, sensible⟩ := accepted_of_answered answered
  obtain rfl := named.unique (isName_append stem ext)
  rw [analyzers same] at chosen
  have visible : front ≠ "" := fun hidden => by simp [hidden] at chosen
  have reads {ext : String} (same : IsExtensionOf analyzer ext) :
      analyzerFor? (stem ++ "." ++ ext) = some analyzer := by
    rw [analyzers same, if_neg visible]
  have small : IsExtensionOf analyzer analyzer.extension := by cases analyzer <;> decide
  obtain ⟨trace, found, reply, analysed, reports, outcome⟩ := upload_reports named (reads same) sensible setting s j
  obtain ⟨trace', found', reply', analysed', reports', outcome'⟩ :=
    upload_reports (isName_append stem analyzer.extension) (reads small) sensible setting s j
  rw [outcome] at answered
  rw [outcome']
  cases told : heard s.connections s.limits >>= heard s.connections with
  | error fault =>
    rw [told] at answered
    cases answered
  | ok limits =>
    rw [told] at answered
    cases answered
    refine ⟨reply', rfl, ?_⟩
    rw [reports, reports']
    by_cases solid : analyzer = .solidity
    · subst solid
      exact ⟨fun equal => absurd equal (contents_differ same written analysed analysed'), fun kept =>
        absurd (kept rfl) written⟩
    · have equal := analysed.symm.trans ((Scan.Analyzer.analyze_other solid _ _ _ _ trace trace').trans analysed')
      rw [Except.ok.inj equal]
      exact ⟨fun _ solid' => absurd solid' solid, fun _ => rfl⟩

private theorem mem_of_analyze_go {filename : Value}
    (analysed : (Scan.Analyzer.go.analyze filename (.text "panic(0)") around trace).1 = .ok found) :
    Scan.Rules.Go.panicIssue.on (.ofContent "panic(0)") 1 ∈ found := by
  obtain ⟨parts, -, all⟩ := Scan.Analyzer.go.exists_contributed filename "panic(0)" around trace
  obtain rfl := Except.ok.inj (analysed.symm.trans all)
  have only : (Scan.Source.ofContent "panic(0)").numbered = [(1, "panic(0)")] := by decide +kernel
  have stops : Scan.Rules.Go.panicCall.occurs "panic(0)" := by decide +kernel
  refine mem_append_left _ (mem_flatMap.mpr ⟨("error_handling", _), mem_cons_self, ?_⟩)
  simp [Scan.Rules.Go.errorHandling, only, stops]

/-- A Go file is reported alike under an extension in capital letters. -/
theorem letter_case_kept_iff_go :
    ∃ answer small, (analyzeUpload (.text "x.GO") (.text "panic(0)") ⟨default, default, default⟩ {} {}).1 =
      .ok answer ∧
      (analyzeUpload (.text "x.go") (.text "panic(0)") ⟨default, default, default⟩ {} {}).1 = .ok small ∧
      contentOf (Scan.Rules.Go.panicIssue.on (.ofContent "panic(0)") 1) ∈ reported answer ∧
      reported answer = reported small := by
  have sensible : IsText (.text "panic(0)") "panic(0)" := ⟨by decide, rfl, by decide, by decide⟩
  obtain ⟨trace, found, answer, analysed, reports, outcome⟩ :=
    upload_reports (isName_append "x" "GO") (show analyzerFor? "x.GO" = some .go by decide +kernel) sensible
      ⟨default, default, default⟩ {} {}
  have answered : (analyzeUpload (.text "x.GO") (.text "panic(0)") ⟨default, default, default⟩ {} {}).1 =
      .ok answer :=
    outcome
  have capitals : IsExtensionOf .go "GO" := by decide
  obtain ⟨small, answeredSmall, kept⟩ :=
    letter_case_kept_iff capitals "x" (.text "panic(0)") ⟨default, default, default⟩ {} {} answered
  refine ⟨answer, small, answered, answeredSmall, ?_, kept.mpr fun solid => absurd solid (by decide)⟩
  rw [reports]
  exact mem_map_of_mem (mem_of_analyze_go analysed)

/-- A Solidity file is not. -/
theorem letter_case_not_kept :
    ∃ answer small,
      (analyzeUpload (.text "a.SOL") (.text "contract A \x7b\x7d") ⟨default, default, default⟩ {} {}).1 =
        .ok answer ∧
      (analyzeUpload (.text "a.sol") (.text "contract A \x7b\x7d") ⟨default, default, default⟩ {} {}).1 =
        .ok small ∧
      reported answer ≠ reported small := by
  have sensible : IsText (.text "contract A \x7b\x7d") "contract A \x7b\x7d" :=
    ⟨by decide, rfl, by decide, by decide⟩
  obtain ⟨trace, found, answer, analysed, reports, outcome⟩ :=
    upload_reports (isName_append "a" "SOL") (show analyzerFor? "a.SOL" = some .solidity by decide +kernel) sensible
      ⟨default, default, default⟩ {} {}
  obtain ⟨trace', found', small, analysed', reports', outcome'⟩ :=
    upload_reports (isName_append "a" "sol") (show analyzerFor? "a.sol" = some .solidity by decide +kernel) sensible
      ⟨default, default, default⟩ {} {}
  have capitals : IsExtensionOf .solidity "SOL" := by decide
  refine ⟨answer, small, outcome, outcome', ?_⟩
  rw [reports, reports']
  exact contents_differ capitals (by decide) analysed analysed'

end ContractLint.Service
