import ContractLint.Proofs.Scan.Syntax
import ContractLint.Proofs.Text.Case

/-! # What the name of a file changes

The programs outside are shown the text of a file only, and their findings depend on nothing that was printed or asked
before. So the analysis of a Rust or a Go file is the same under every name. The models and the assistant take the
language of a Solidity file from its name, and the models name it in their summary (`analyze_splits`): files whose names
tell different languages are told apart by their findings.
-/

namespace ContractLint.Scan

open List

variable {α β : Type} {around : Surroundings} {run : Run (List Finding)} {found : List Finding}

/-! ## Runs that no trace changes -/

/-- What a run gives does not depend on what was printed and asked before. -/
def Run.Steady (run : Run α) : Prop := ∀ around trace trace', (run around trace).1 = (run around trace').1

namespace Run.Steady

theorem pure (a : α) : (Pure.pure a : Run α).Steady := fun _ _ _ => rfl

theorem ofOutcome (outcome : Outcome α) : (Run.ofOutcome outcome).Steady := fun _ _ _ => rfl

theorem throw (fault : Fault) : (MonadExcept.throw fault : Run α).Steady := fun _ _ _ => rfl

theorem say (text : String) : (Scan.say text).Steady := fun _ _ _ => rfl

private theorem surroundings : Scan.surroundings.Steady := fun _ _ _ => rfl

/-- The outcome of a steady run does not depend on what was printed before. -/
theorem exists_outcome {run : Run α} (steady : run.Steady) (around : Surroundings) (trace trace' : Trace) :
    ∃ outcome after after', run around trace = (outcome, after) ∧ run around trace' = (outcome, after') :=
  ⟨(run around trace).1, (run around trace).2, (run around trace').2, rfl,
    Prod.ext (steady around trace' trace) rfl⟩

theorem bind {first : Run α} {next : α → Run β} (one : first.Steady) (two : ∀ a, (next a).Steady) :
    (first >>= next).Steady := by
  intro around trace trace'
  obtain ⟨outcome, after, after', here, there⟩ := one.exists_outcome around trace trace'
  have step (trace : Trace) : (first >>= next) around trace = Run.andThen first next around trace := rfl
  rw [step, step, Run.andThen, Run.andThen, here, there]
  cases outcome with
  | error fault => rfl
  | ok a => exact two a around after after'

theorem rescue {first : Run α} {handler : Fault → Run α} (one : first.Steady)
    (two : ∀ fault, (handler fault).Steady) : (MonadExcept.tryCatch first handler).Steady := by
  intro around trace trace'
  obtain ⟨outcome, after, after', here, there⟩ := one.exists_outcome around trace trace'
  have step (trace : Trace) :
      MonadExcept.tryCatch first handler around trace = Run.orElse first handler around trace := rfl
  rw [step, step, Run.orElse, Run.orElse, here, there]
  cases outcome with
  | error fault => exact two fault around after after'
  | ok a => rfl

theorem early (a : α) : Run.Steady (EarlyReturnT.return a : EarlyReturnT α Run α) := fun _ _ _ => rfl

theorem settle {run : Run (Except α α)} (steady : run.Steady) :
    (do
      let returned ← run
      EarlyReturn.runK returned (fun a => Pure.pure a) fun a => Pure.pure a).Steady := by
  refine steady.bind fun returned => ?_
  cases returned with
  | error a => exact .pure a
  | ok a => exact .pure a

theorem closed : ClosedUnderBind @Run.Steady := ⟨pure, bind⟩

theorem runTool (key program : String) (limit : Nat) : (Scan.runTool key program limit).Steady := by
  refine .bind .surroundings fun around => ?_
  split
  · exact .throw _
  · exact .pure _
  · exact .throw _
  · exact .throw _

end Run.Steady

private theorem Lint.clippy_steady (content : Value) : (Lint.clippy content).Steady := by
  refine .settle (.rescue ?_ fun fault => .bind (.say _) fun _ => .early _)
  exact .bind (.ofOutcome _) fun _ => .bind (.runTool _ _ _) fun result => .early _

private theorem Lint.gosec_steady (content : Value) : (Lint.gosec content).Steady := by
  refine .settle (.rescue ?_ fun fault => .bind (.say _) fun _ => .early _)
  exact .bind (.ofOutcome _) fun _ => .bind (.runTool _ _ _) fun result => .early _

namespace Slither

private theorem parseResult_steady (entry : Value) : (parseResult entry).Steady := by
  refine .settle (.rescue ?_ fun fault => .bind (.say _) fun _ => .early _)
  exact .bind (.ofOutcome _) fun finding => .early _

private theorem fullRun_steady : fullRun.Steady := by
  refine .settle (.rescue ?_ fun fault => ?_)
  · refine .bind (.runTool _ _ _) fun result => ?_
    split
    · exact .early _
    split
    · refine .bind (.ofOutcome _) fun entries => ?_
      exact .bind (Run.Steady.closed.mapM fun entry _ => parseResult_steady entry) fun found => .early _
    · exact .early _
  · split
    · exact .bind (.say _) fun _ => .early _
    · exact .bind (.say _) fun _ => .early _

private theorem singleRun_steady (check : String × Severity × String) : (singleRun check).Steady := by
  refine .settle (.rescue ?_ fun fault => .early _)
  refine .bind (.runTool _ _ _) fun result => ?_
  split
  · exact .early _
  · exact .early _

private theorem analyze_steady (content : Value) : (analyze content).Steady := by
  refine .settle (.rescue (.bind (.ofOutcome _) fun _ => ?_) fun fault => .bind (.say _) fun _ => .early _)
  have category (severity : Severity) : (categoryRun severity).Steady := by
    refine gather_of_closed Run.Steady.closed fun run member => ?_
    obtain ⟨check, -, rfl⟩ := mem_map.mp member
    exact singleRun_steady check
  have all : (gather [fullRun, categoryRun .high, categoryRun .medium, categoryRun .low]).Steady := by
    refine gather_of_closed Run.Steady.closed ?_
    simp [fullRun_steady, category]
  exact all.bind fun found => .pure _

end Slither

/-! ## Findings that are no summaries -/

open Inference (isSummary languageOf comprehensive)

private theorem gather_cons_yields {first : Run (List α)} {rest : List (Run (List α))}
    {one others : List α → Prop} (here : first.Yields around one) (later : (gather rest).Yields around others) :
    (gather (first :: rest)).Yields around fun found => ∃ part more, found = part ++ more ∧ one part ∧
      others more :=
  here.bind fun part holds => later.bind fun more keeps => .pure ⟨part, more, rfl, holds, keeps⟩

private theorem gather_forall_yields {runs : List (Run (List α))} {property : α → Prop}
    (each : ∀ run ∈ runs, run.Yields around fun found => ∀ a ∈ found, property a) :
    (gather runs).Yields around fun found => ∀ a ∈ found, property a := by
  induction runs with
  | nil => exact .pure (by simp)
  | cons first rest ih =>
    obtain ⟨one, others⟩ := forall_mem_cons.mp each
    refine one.bind fun found holds => (ih others).bind fun more keeps => .pure fun a member => ?_
    obtain inside | inside := mem_append.mp member
    · exact holds a inside
    · exact keeps a inside

theorem filter_isSummary_of_plain (plain : ∀ f ∈ found, isSummary f = false) : found.filter isSummary = [] :=
  filter_eq_nil_iff.mpr fun f member => by simp [plain f member]

namespace Assistant

private theorem findingOf_detector {detector : String} {severity : Severity} {answer : Value}
    (made : findingOf detector severity answer = .ok found) : ∀ f ∈ found, f.detector = .text detector := by
  unfold findingOf at made
  split at made
  · cases made
    simp
  obtain ⟨issue, -, made⟩ := Outcome.bind_eq_ok.mp made
  split at made
  · cases made
    simp
  obtain ⟨title, -, made⟩ := Outcome.bind_eq_ok.mp made
  obtain ⟨description, -, made⟩ := Outcome.bind_eq_ok.mp made
  obtain ⟨line, -, made⟩ := Outcome.bind_eq_ok.mp made
  obtain ⟨snippet, -, made⟩ := Outcome.bind_eq_ok.mp made
  obtain ⟨recommendation, -, made⟩ := Outcome.bind_eq_ok.mp made
  obtain ⟨confidence, -, made⟩ := Outcome.bind_eq_ok.mp made
  cases made
  simp

private theorem checkRun_yields (around : Surroundings) (check : Check) :
    check.run.Yields around fun found => ∀ f ∈ found, f.detector = .text check.detector := by
  refine (Run.Ensures.rescue ?_ fun fault => (say_yields around _).bind fun _ _ => .early (by simp)).settle
  refine (Run.Ensures.anything _).bind fun answer _ => ?_
  exact (Run.Ensures.ofOutcome _).bind fun found made => Run.Yields.ensures (.atEnd (findingOf_detector made))

/-- The assistant does not summarize. -/
theorem analyze_plain (filename content : Value) (around : Surroundings) :
    (analyze filename content).Yields around fun found => ∀ f ∈ found, isSummary f = false := by
  have solid (text : String) : (checkSolidity text).Yields around fun found =>
      ∀ f ∈ found, isSummary f = false := by
    refine gather_forall_yields fun run member => ?_
    obtain ⟨check, known, rfl⟩ := mem_map.mp member
    have among : check.detector ∈ (checks text).map Check.detector := mem_map.mpr ⟨check, known, rfl⟩
    have other : check.detector ≠ "ai_comprehensive_analysis" := by
      intro same
      rw [same] at among
      revert among
      change "ai_comprehensive_analysis" ∉ ["reentrancy_ai", "access_control_ai", "logic_bugs_ai",
        "gas_optimization_ai"]
      decide
    intro trace
    obtain ⟨found, done, named⟩ := checkRun_yields around check trace
    refine ⟨found, done, fun f inside => ?_⟩
    rw [Inference.isSummary_of_detector (named f inside)]
    exact beq_false_of_ne other
  refine (surroundings_yields around).bind fun _ _ => ?_
  split
  · exact .pure (by simp)
  · refine (Run.Ensures.rescue ?_ fun fault => (say_yields around _).bind fun _ _ => .early (by simp)).settle
    refine (Run.Ensures.ofOutcome _).bind fun name _ => ?_
    split
    · exact (solid _).ensures.bind fun found plain => Run.Yields.ensures (.atEnd plain)
    · exact Run.Yields.ensures (.early (by simp))

end Assistant

private theorem Inference.checkKey_yields (around : Surroundings) : Inference.checkKey.Yields around fun _ => True := by
  refine (surroundings_yields around).bind fun _ _ => ?_
  split
  · exact .pure trivial
  · exact (say_yields around _).bind fun _ _ => say_yields around _

/-- One of the findings of the models is a summary, which names the language. -/
theorem Inference.analyze_summary {filename language : String} (known : languageOf (.text filename) = .ok language)
    (content : String) (around : Surroundings) :
    (Inference.analyze (.text filename) (.text content)).Yields around fun found =>
      ∃ count, found.filter isSummary = [comprehensive content language count] := by
  rw [analyze_eq known]
  refine (runStages_adds content language around).bind fun found adds => .pure ⟨found.length, ?_⟩
  rw [filter_append, filter_isSummary_of_plain adds.2.2,
    filter_cons_of_pos (isSummary_comprehensive content language _),
    filter_isSummary_of_plain (advancedFindings_plain content), nil_append]

namespace Analyzer

/-- A steady run stays so if its failure is tolerated. -/
theorem tolerated_steady (steady : run.Steady) (name : String) : (tolerated name run).Steady :=
  .rescue steady fun _ => .bind (.say _) fun _ => .pure []

private theorem tolerated_yields {property : List Finding → Prop}
    (yields : run.Yields around property) (name : String) : (tolerated name run).Yields around property :=
  yields.rescue _

/-- The analysis of a file that is not in Solidity is the same under every name, whatever happened before. -/
theorem analyze_other {analyzer : Analyzer} (other : analyzer ≠ solidity) (filename filename' content : Value)
    (around : Surroundings) (trace trace' : Trace) :
    (analyzer.analyze filename content around trace).1 = (analyzer.analyze filename' content around trace').1 := by
  have steady (filename : Value) : (analyzer.analyze filename content).Steady := by
    refine .bind (.ofOutcome _) fun text => .bind (gather_of_closed Run.Steady.closed ?_) fun found => .pure _
    cases analyzer with
    | solidity => contradiction
    | rust => simp [outside, tolerated_steady (Lint.clippy_steady content)]
    | go => simp [outside, tolerated_steady (Lint.gosec_steady content)]
  have same : analyzer.analyze filename content = analyzer.analyze filename' content := by
    cases analyzer with
    | solidity => contradiction
    | rust => rfl
    | go => rfl
  rw [same]
  exact steady filename' around trace trace'

/-- The findings in a Solidity file are first those that do not depend on its name, and then others with one summary,
which names the language. -/
theorem analyze_splits (content : String) (around : Surroundings) :
    ∃ shared, ∀ {filename language : String}, languageOf (.text filename) = .ok language →
      (solidity.analyze (.text filename) (.text content)).Yields around fun found =>
        ∃ own count, found = shared ++ own ∧ own.filter isSummary = [comprehensive content language count] := by
  have steady := tolerated_steady (Slither.analyze_steady (.text content)) "Enhanced Slither analysis"
  obtain ⟨slither, done⟩ := tolerated_succeeds "Enhanced Slither analysis" (Slither.analyze (.text content))
    around {}
  have fixed : (tolerated "Enhanced Slither analysis" (Slither.analyze (.text content))).Yields around (· = slither) :=
    fun trace => ⟨slither, (steady around trace {}).trans done, rfl⟩
  refine ⟨solidity.ruleFindings content ++ slither, fun {filename language} known => ?_⟩
  have tree := tolerated_yields (Syntax.analyze_yields (.text content) around) "AST analysis"
  have assistant := tolerated_yields (Assistant.analyze_plain (.text filename) (.text content) around) "AI analysis"
  have models := tolerated_yields ((Inference.checkKey_yields around).bind fun _ _ =>
    Inference.analyze_summary known content around) "Hugging Face AI analysis"
  refine (Run.Yields.ofOutcome rfl).bind fun text same => ?_
  refine (gather_cons_yields fixed (gather_cons_yields tree (gather_cons_yields assistant
    (gather_cons_yields models (.pure rfl))))).bind fun found parts => .pure ?_
  obtain ⟨_, _, rfl, rfl, _, _, rfl, rfl, asked, _, rfl, plain, answered, _, rfl, ⟨count, summed⟩, rfl⟩ := parts
  refine ⟨asked ++ answered, count, ?_, ?_⟩
  · rw [same]
    simp
  · rw [filter_append, filter_isSummary_of_plain plain, summed, nil_append]

end Analyzer

/-! ## Names that differ in letter case -/

private theorem letters_of_lower {ext : String} (same : Text.lower ext = "sol") :
    ∃ a b c, ext.toList = [a, b, c] ∧ Text.lowerChar c = 'l' := by
  obtain ⟨-, letters⟩ := Text.map_lowerChar_of_lower same rfl
  change ext.toList.map Text.lowerChar = ['s', 'o', 'l'] at letters
  obtain ⟨a, rest, shape, -, letters⟩ := map_eq_cons_iff.mp letters
  obtain ⟨b, rest, rfl, -, letters⟩ := map_eq_cons_iff.mp letters
  obtain ⟨c, rest, rfl, last, letters⟩ := map_eq_cons_iff.mp letters
  obtain rfl := map_eq_nil_iff.mp letters
  exact ⟨a, b, c, shape, last⟩

/-- The extension of a Solidity file tells the language if it is in small letters. -/
theorem languageOf_extension {ext : String} (same : Text.lower ext = "sol") (stem : String) :
    languageOf (.text (stem ++ "." ++ ext)) = .ok (if ext = "sol" then "solidity" else "unknown") := by
  obtain ⟨a, b, c, shape, last⟩ := letters_of_lower same
  have reversed : (stem ++ "." ++ ext).toList.reverse = c :: b :: a :: '.' :: stem.toList.reverse := by simp [shape]
  have solidity : Text.endsWith (stem ++ "." ++ ext) ".sol" = decide (ext = "sol") := by
    rw [Text.endsWith, reversed, Bool.eq_iff_iff, decide_eq_true_iff, ← String.toList_inj, shape]
    constructor
    · intro ends
      obtain ⟨rfl, rfl, rfl⟩ : 'l' = c ∧ 'o' = b ∧ 's' = a := by simpa [List.isPrefixOf] using ends
      rfl
    · intro small
      obtain ⟨rfl, rfl, rfl⟩ : a = 's' ∧ b = 'o' ∧ c = 'l' := by simpa using small
      rfl
  -- The other endings end with other letters, whatever the case.
  have others {ending : String} {d : Char} {more : List Char} (letters : ending.toList.reverse = d :: more)
      (differs : Text.lowerChar d ≠ 'l') : Text.endsWith (stem ++ "." ++ ext) ending = false := by
    have foreign : (d == c) = false := beq_false_of_ne fun same => differs (same ▸ last)
    rw [Text.endsWith, reversed, letters, List.isPrefixOf, foreign, Bool.false_and]
  have rust : Text.endsWith (stem ++ "." ++ ext) ".rs" = false := others rfl (by decide)
  have go : Text.endsWith (stem ++ "." ++ ext) ".go" = false := others rfl (by decide)
  rw [Inference.languageOf_eq, solidity, rust, go]
  by_cases small : ext = "sol"
  · simp [small]
  · simp [small]

/-- A summary tells the language. -/
theorem comprehensive_description_ne (content content' : String) (count count' : Int) :
    (comprehensive content "solidity" count).description ≠ (comprehensive content' "unknown" count').description := by
  have begins (content language : String) (count : Int) : ∃ rest, (comprehensive content language count).description =
      .text ("Advanced AI analysis completed for " ++ (language ++ rest)) := by
    simp only [comprehensive, String.append_assoc]
    exact ⟨_, rfl⟩
  obtain ⟨rest, one⟩ := begins content "solidity" count
  obtain ⟨rest', two⟩ := begins content' "unknown" count'
  rw [one, two]
  intro same
  have after := String.append_right_inj _ |>.mp (Value.text.inj same)
  have first := congrArg (fun s : String => s.toList.head?) after
  simp at first

end ContractLint.Scan
