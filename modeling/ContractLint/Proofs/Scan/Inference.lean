import ContractLint.Proofs.Entries
import ContractLint.Proofs.Outcome
import ContractLint.Proofs.Scan.Tolerance

/-! # What models can change

A scan shows a file to models, which may fail or answer with anything. Each stage of the scan puts what it
hears from its model before the findings of its rules, and hears nothing if the model cannot be reached. So
the findings of the rules stand in every scan, unchanged and in the same order, and all that an answer can do
is to add others. Only the summary, of which there is one, counts the findings and depends on the answers.
-/

namespace ContractLint.Scan

open List

variable {α β : Type} {f : Finding} {first : Run α} {a : α} {rules : List LineRule} {found : List Finding}
  {reading : Reading} {filename language : String}

/-- No model can be reached: every call fails in some way. -/
def Surroundings.Offline (around : Surroundings) : Prop :=
  ∀ name answer, around.models.lookup name ≠ some (.ok answer)

namespace Run

/-- What a run gives in some surroundings, if it gives anything, has a property. -/
def Ensures (around : Surroundings) (run : Run α) (property : α → Prop) : Prop :=
  ∀ trace a, (run around trace).1 = .ok a → property a

/-- A run gives something with a property in some surroundings. -/
def Yields (around : Surroundings) (run : Run α) (property : α → Prop) : Prop :=
  ∀ trace, ∃ a, (run around trace).1 = .ok a ∧ property a

variable {around : Surroundings} {property : α → Prop} {goal : β → Prop}

theorem Yields.ensures {run : Run α} (yields : Yields around run property) : Ensures around run property := by
  intro trace a done
  obtain ⟨b, same, holds⟩ := yields trace
  cases done.symm.trans same
  exact holds

theorem Yields.pure (holds : property a) : Yields around (Pure.pure a) property :=
  fun _ => ⟨a, rfl, holds⟩

theorem Yields.bind {next : α → Run β} (one : Yields around first property)
    (two : ∀ a, property a → Yields around (next a) goal) : Yields around (first >>= next) goal := by
  intro trace
  obtain ⟨a, done, holds⟩ := one trace
  rw [bind_of_ok done]
  exact two a holds _

theorem Ensures.bind {next : α → Run β} (one : Ensures around first property)
    (two : ∀ a, property a → Ensures around (next a) goal) : Ensures around (first >>= next) goal := by
  intro trace b done
  cases outcome : (first around trace).1 with
  | error fault =>
    have step : (first >>= next) around trace = Run.andThen first next around trace := rfl
    rw [step, Run.andThen] at done
    generalize first around trace = ended at outcome done
    obtain ⟨_, after⟩ := ended
    subst outcome
    cases done
  | ok a =>
    rw [bind_of_ok outcome] at done
    exact two a (one trace a outcome) _ b done

theorem Ensures.anything (run : Run α) : Ensures around run fun _ => True := fun _ _ _ => trivial

theorem Ensures.ofOutcome (outcome : Outcome α) : Ensures around (Run.ofOutcome outcome) (outcome = .ok ·) :=
  fun _ _ done => done

theorem Yields.ofOutcome {outcome : Outcome α} (done : outcome = .ok a) :
    Yields around (Run.ofOutcome outcome) (· = a) := fun _ => ⟨a, done, rfl⟩

theorem Ensures.throw (fault : Fault) : Ensures around (MonadExcept.throw fault : Run α) fun _ => False := by
  intro trace a done
  cases done

/-- What was returned, early or at the end, has a property. -/
def Returned (property : α → Prop) : Except α α → Prop
  | .error a => property a
  | .ok a => property a

theorem Yields.early (holds : property a) :
    Yields around (EarlyReturnT.return a : EarlyReturnT α Run α) (Returned property) :=
  fun _ => ⟨.error a, rfl, holds⟩

theorem Yields.atEnd (holds : property a) :
    Yields around (ExceptT.run (Pure.pure a) : Run (Except α α)) (Returned property) :=
  fun _ => ⟨.ok a, rfl, holds⟩

theorem Yields.settle {run : Run (Except α α)} (yields : Yields around run (Returned property)) :
    Yields around (do
      let returned ← run
      EarlyReturn.runK returned (fun a => Pure.pure a) fun a => Pure.pure a) property := by
  refine yields.bind fun returned holds => ?_
  cases returned with
  | error a => exact .pure holds
  | ok a => exact .pure holds

/-- A run that makes up for its failures gives something. -/
theorem Ensures.rescue {handler : Fault → Run α} (one : Ensures around first property)
    (two : ∀ fault, Yields around (handler fault) property) :
    Yields around (MonadExcept.tryCatch first handler) property := by
  intro trace
  have step : MonadExcept.tryCatch first handler around trace = Run.orElse first handler around trace := rfl
  have holds := one trace
  rw [step, Run.orElse]
  generalize first around trace = ended at holds
  obtain ⟨fault | a, after⟩ := ended
  · exact two fault after
  · exact ⟨a, rfl, holds a rfl⟩

/-- A run that does not fail needs nothing to make up for its failures. -/
theorem Yields.rescue (one : Yields around first property) (handler : Fault → Run α) :
    Yields around (MonadExcept.tryCatch first handler) property := by
  intro trace
  have step : MonadExcept.tryCatch first handler around trace = Run.orElse first handler around trace := rfl
  obtain ⟨a, done, holds⟩ := one trace
  refine ⟨a, ?_, holds⟩
  rw [step, Run.orElse]
  generalize first around trace = ended at done
  obtain ⟨outcome, after⟩ := ended
  subst done
  rfl

end Run

theorem surroundings_yields (around : Surroundings) : surroundings.Yields around (· = around) :=
  fun _ => ⟨around, rfl, rfl⟩

theorem say_yields (around : Surroundings) (text : String) : (say text).Yields around fun _ => True :=
  fun _ => ⟨(), rfl, trivial⟩

private theorem recordPost_yields (around : Surroundings) (post : Post) :
    (recordPost post).Yields around fun _ => True :=
  fun _ => ⟨(), rfl, trivial⟩

namespace Inference

open Run

/-- Without models there is no reply. -/
theorem query_yields (around : Surroundings) (table : List (String × String)) (purpose prompt : Value) :
    (query table purpose prompt).Yields around fun reply => around.Offline → reply = .null := by
  refine (Ensures.rescue ?_ fun fault => (say_yields around _).bind fun _ _ => .early fun _ => rfl).settle
  refine (Ensures.anything _).bind fun _ _ => ?_
  extract_lets name
  by_cases named : name = ""
  · rw [if_pos named]
    exact Yields.ensures (.early fun _ => rfl)
  · rw [if_neg named]
    refine (surroundings_yields around).ensures.bind fun _ here => ?_
    subst here
    refine (recordPost_yields _ _).ensures.bind fun _ _ => ?_
    split
    next => exact (Ensures.throw _).bind fun _ impossible => impossible.elim
    next answer known =>
      -- An answer is given, so the models can be reached.
      refine (Ensures.ofOutcome answer).bind fun one given => ?_
      have reached : ¬ Surroundings.Offline _ := fun offline => offline _ one (given ▸ known)
      have any (reply : Value) : Surroundings.Offline _ → reply = .null := fun offline => absurd offline reached
      split
      next =>
        refine (Ensures.anything _).bind fun document _ => ?_
        exact Yields.ensures (.early (any _))
      next => exact ((say_yields _ _).bind fun _ _ => .early fun _ => rfl).ensures

/-! ## Detectors of findings -/

def isSummary (f : Finding) : Bool := f.detector.isText "ai_comprehensive_analysis"

theorem isSummary_of_detector {name : String} (made : f.detector = .text name) :
    isSummary f = (name == "ai_comprehensive_analysis") := by
  rw [isSummary, made, Value.isText]

private theorem Hint.on_detector {hint : Hint} {content : Value} (made : hint.on content = .ok f) :
    f.detector = .text hint.remark.detector := by
  unfold Hint.on at made
  split at made
  · cases made
    rfl
  · obtain ⟨text, _, made⟩ := Outcome.bind_eq_ok.mp made
    cases made
    rfl

private theorem mem_readHints {known : List Hint} {reply content : Value}
    (read : readHints known reply content = .ok found) (member : f ∈ found) :
    ∃ hint ∈ known, f.detector = .text hint.remark.detector := by
  unfold readHints at read
  obtain ⟨generated, _, read⟩ := Outcome.bind_eq_ok.mp read
  cases generated with
  | none =>
    cases read
    contradiction
  | some text =>
    obtain ⟨small, _, read⟩ := Outcome.bind_eq_ok.mp read
    obtain ⟨hint, kept, made⟩ := Outcome.mem_of_mapM read member
    exact ⟨hint, (mem_filter.mp kept).1, Hint.on_detector made⟩

private theorem mem_applyRules {content : String}
    (member : f ∈ applyRules rules content) : ∃ rule ∈ rules, f.detector = .text rule.remark.detector := by
  obtain ⟨⟨number, line⟩, _, member⟩ := mem_flatMap.mp member
  obtain ⟨rule, kept, rfl⟩ := mem_map.mp member
  exact ⟨rule, (mem_filter.mp kept).1, rfl⟩

private theorem ne_summary_of_hint {subject : String} {hint : Hint} (known : hint ∈ (hints.lookup subject).getD []) :
    hint.remark.detector ≠ "ai_comprehensive_analysis" := by
  have each : ∀ entry ∈ hints, ∀ hint ∈ entry.2, hint.remark.detector ≠ "ai_comprehensive_analysis" := by
    simp [hints, securityHints, qualityHints, designHints, gasHints]
  cases found : hints.lookup subject with
  | none =>
    rw [found] at known
    contradiction
  | some about =>
    rw [found] at known
    exact each (subject, about) (mem_of_lookup found) hint known

/-- Rules make no summaries. -/
theorem applyRules_plain (each : ∀ rule ∈ rules, rule.remark.detector ≠ "ai_comprehensive_analysis")
    (content : String) : ∀ f ∈ applyRules rules content, isSummary f = false := by
  intro f member
  obtain ⟨rule, known, made⟩ := mem_applyRules member
  rw [isSummary_of_detector made]
  exact beq_false_of_ne (each rule known)

private theorem securityFindings_plain (content : String) : ∀ f ∈ securityFindings content, isSummary f = false :=
  applyRules_plain (by simp [securityRules, callBack, originUse]) content

private theorem gasFindings_plain (content : String) : ∀ f ∈ gasFindings content, isSummary f = false :=
  applyRules_plain (by simp [gasRules, storageLoop, lengthLoop]) content

/-- The advanced analysis makes no summary. -/
theorem advancedFindings_plain (content : String) : ∀ f ∈ advancedFindings content, isSummary f = false :=
  applyRules_plain (by simp [advancedRules, oracleRisk, frontRunning]) content

private theorem Reading.mem_judged {next : Nat} (member : f ∈ reading.judged next) :
    ∃ branches start, f = (complexFunction branches).on start "" := by
  unfold judged at member
  split at member
  · split at member
    · exact ⟨_, _, mem_singleton.mp member⟩
    · cases member
  · cases member

private theorem mem_qualityFrom {lines : List (Nat × String)}
    (member : f ∈ qualityFrom reading lines) : ∃ branches start, f = (complexFunction branches).on start "" := by
  induction lines generalizing reading with
  | nil => cases member
  | cons entry rest ih =>
    simp only [qualityFrom] at member
    split at member
    · obtain judged | later := mem_append.mp member
      · exact Reading.mem_judged judged
      · exact ih later
    · exact ih member

private theorem qualityFindings_plain (content : String) : ∀ f ∈ qualityFindings content, isSummary f = false := by
  intro f member
  obtain ⟨branches, start, rfl⟩ := mem_qualityFrom member
  have made : ((complexFunction branches).on start "").detector = .text "ai_quality_complexity" := rfl
  simp [isSummary_of_detector made]

/-! ## Stages -/

/-- A reply is never read as a summary. -/
theorem readReply_yields (around : Surroundings) (subject : String) (reply content : Value) :
    (readReply subject reply content).Yields around fun found => ∀ f ∈ found, isSummary f = false := by
  refine (Ensures.rescue ?_ fun fault => (say_yields around _).bind fun _ _ => .early (by simp)).settle
  refine (Ensures.ofOutcome _).bind fun found read => Yields.ensures (.atEnd fun f member => ?_)
  obtain ⟨hint, known, made⟩ := mem_readHints read member
  rw [isSummary_of_detector made]
  exact beq_false_of_ne (ne_summary_of_hint known)

/-- A run adds something to the findings of rules: they are there in any surroundings, and there are no others
if no model can be reached. There is no summary among them. -/
def Adds (rules : List Finding) (run : Run (List Finding)) : Prop :=
  ∀ around, run.Yields around fun found =>
    rules.Sublist found ∧ (around.Offline → found = rules) ∧ ∀ f ∈ found, isSummary f = false

/-- What is heard from the model of a stage comes from hints, and nothing is heard if it cannot be reached. -/
theorem Stage.ask_adds (stage : Stage) (table : List (String × String)) (content : Value)
    (prompt : Outcome String) : Adds [] (stage.ask table content prompt) := by
  intro around
  refine (Ensures.rescue ?_ fun fault => (say_yields around _).bind fun _ _ => .early (by simp)).settle
  refine (Ensures.anything _).bind fun text _ => ?_
  refine (query_yields around _ _ _).ensures.bind fun reply silent => ?_
  split
  next answered =>
    refine (readReply_yields around _ _ _).ensures.bind fun found known => ?_
    refine Yields.ensures (.atEnd ⟨nil_sublist _, fun offline => ?_, known⟩)
    rw [silent offline] at answered
    contradiction
  next => exact Yields.ensures (.early (by simp))

/-- The findings of rules stand after what is heard from a model. -/
theorem Adds.followed {run : Run (List Finding)} (heard : Adds [] run) {rules : List Finding}
    (plain : ∀ f ∈ rules, isSummary f = false) : Adds rules (run >>= fun asked => pure (asked ++ rules)) := by
  intro around
  refine (heard around).bind fun asked => ?_
  rintro ⟨-, silent, others⟩
  refine .pure ⟨sublist_append_right asked rules, fun offline => ?_, ?_⟩
  · rw [silent offline, nil_append]
  · intro f member
    obtain first | later := mem_append.mp member
    · exact others f first
    · exact plain f later

theorem Adds.nothing : Adds [] (pure []) := fun _ => .pure (by simp)

private theorem auditStage_adds (table : List (String × String)) (content : Value) :
    Adds [] (auditStage table content) := by
  intro around
  refine (query_yields around _ _ _).bind fun reply _ => ?_
  split
  next => exact (say_yields around _).bind fun _ _ => .pure (by simp)
  next => exact .pure (by simp)

/-- Runs one after the other add to the findings of their rules in the same order. -/
theorem gather_adds {rules : List (List Finding)} {runs : List (Run (List Finding))}
    (each : List.Forall₂ Adds rules runs) : Adds rules.flatten (gather runs) := by
  induction each with
  | nil => exact Adds.nothing
  | cons one others ih =>
    intro around
    refine (one around).bind fun found => ?_
    rintro ⟨kept, silent, plain⟩
    refine (ih around).bind fun more => ?_
    rintro ⟨moreKept, moreSilent, morePlain⟩
    refine .pure ⟨kept.append moreKept, fun offline => ?_, ?_⟩
    · rw [silent offline, moreSilent offline, flatten_cons]
    · intro f member
      obtain first | later := mem_append.mp member
      · exact plain f first
      · exact morePlain f later

/-- The findings of the rules beside the stages, in the order of the stages. -/
def stageRules (content language : String) : List (List Finding) :=
  [securityFindings content, qualityFindings content, [],
    if language = "solidity" then gasFindings content else []]
  ++ if language = "solidity" then [[]] else []

private theorem stages_add (content language : String) :
    List.Forall₂ Adds (stageRules content language) (stages (.text content) language) := by
  have security : Adds (securityFindings content) (securityStage models (.text content) language) :=
    (Stage.ask_adds _ _ _ _).followed (securityFindings_plain content)
  have quality : Adds (qualityFindings content) (qualityStage models (.text content) language) :=
    (Stage.ask_adds _ _ _ _).followed (qualityFindings_plain content)
  have design : Adds [] (designStage models (.text content) language) := Stage.ask_adds _ _ _ _
  by_cases solidity : language = "solidity"
  · have gas : Adds (gasFindings content) (gasStage models (.text content) language) := by
      rw [gasStage, if_neg (not_not_intro solidity)]
      exact (Stage.ask_adds _ _ _ _).followed (gasFindings_plain content)
    have audit := auditStage_adds models (.text content)
    simp only [stageRules, stages, if_pos solidity]
    exact .cons security (.cons quality (.cons design (.cons gas (.cons audit .nil))))
  · have gas : Adds [] (gasStage models (.text content) language) := by
      rw [gasStage, if_pos solidity]
      exact Adds.nothing
    simp only [stageRules, stages, if_neg solidity]
    exact .cons security (.cons quality (.cons design (.cons gas .nil)))

/-- The stages add what their rules find. -/
theorem runStages_adds (content language : String) :
    Adds (stageRules content language).flatten (runStages (.text content) language) := by
  intro around
  have gathered := gather_adds (stages_add content language) around
  refine (Yields.rescue ?_ _).settle
  refine (say_yields around _).bind fun _ _ => gathered.bind fun found adds => ?_
  exact (say_yields around _).bind fun _ _ => .early adds

/-! ## Scans -/

/-- The findings of the rules, those of the stages first. -/
def ruleFindings (content language : String) : List Finding :=
  (stageRules content language).flatten ++ advancedFindings content

/-- The language is told by the end of the name. -/
theorem languageOf_eq (filename : String) :
    languageOf (.text filename) =
      if Text.endsWith filename ".sol" then .ok "solidity"
      else if Text.endsWith filename ".rs" then .ok "rust"
      else if Text.endsWith filename ".go" then .ok "go" else .ok "unknown" := rfl

private theorem languageOf_text (filename : String) : ∃ language, languageOf (.text filename) = .ok language := by
  rw [languageOf_eq]
  split_ifs
  all_goals exact ⟨_, rfl⟩

/-- The findings of the stages, a summary and the findings of the further rules, without the summary. -/
theorem filter_summary {further : List Finding} {summary : Finding} (summarizes : isSummary summary = true)
    (one : ∀ f ∈ found, isSummary f = false) (two : ∀ f ∈ further, isSummary f = false) :
    (found ++ summary :: further).countP isSummary = 1 ∧
      (found ++ summary :: further).filter (fun f => !isSummary f) = found ++ further := by
  have plain {list : List Finding} (each : ∀ f ∈ list, isSummary f = false) :
      list.countP isSummary = 0 ∧ list.filter (fun f => !isSummary f) = list := by
    refine ⟨countP_eq_zero.mpr fun f member => ?_, filter_eq_self.mpr fun f member => ?_⟩
    · simp [each f member]
    · simp [each f member]
  obtain ⟨none, all⟩ := plain one
  obtain ⟨noneFurther, allFurther⟩ := plain two
  constructor
  · rw [countP_append, countP_cons, none, noneFurther, summarizes]
    rfl
  · rw [filter_append, filter_cons, all, allFurther, summarizes]
    rfl

/-- A scan of a text puts a summary between the findings of the stages and those of the further rules. -/
theorem analyze_eq (known : languageOf (.text filename) = .ok language) (content : String) :
    analyze (.text filename) (.text content) = (runStages (.text content) language >>= fun found =>
      pure (found ++ comprehensive content language found.length :: advancedFindings content)) := by
  rw [analyze, known]
  rfl

theorem isSummary_comprehensive (content language : String) (count : Int) :
    isSummary (comprehensive content language count) = true := by
  simp [isSummary, comprehensive, Value.isText]

/-- A scan of a text gives one summary and the findings of the rules, and without models nothing else. -/
theorem analyze_yields (known : languageOf (.text filename) = .ok language)
    (content : String) (around : Surroundings) :
    (analyze (.text filename) (.text content)).Yields around fun found =>
      found.countP isSummary = 1 ∧
      (ruleFindings content language).Sublist (found.filter fun f => !isSummary f) ∧
      (around.Offline → found.filter (fun f => !isSummary f) = ruleFindings content language) := by
  rw [analyze_eq known]
  refine (runStages_adds content language around).bind fun found => ?_
  rintro ⟨kept, silent, plain⟩
  have summarizes := isSummary_comprehensive content language found.length
  obtain ⟨single, filtered⟩ := filter_summary summarizes plain (advancedFindings_plain content)
  refine .pure ⟨single, ?_, fun offline => ?_⟩
  · rw [filtered]
    exact kept.append (List.Sublist.refl _)
  · rw [filtered, silent offline]
    rfl

/-- Whatever the models do, a scan of a text gives findings, one of which is the summary. Those of a scan without
models are, apart from the summary, the findings of the rules; they are found in the same order among the
findings of a scan with models. -/
theorem models_only_add (filename content : String) (around offline : Surroundings) (off : offline.Offline)
    (trace trace' : Trace) :
    ∃ language found base, languageOf (.text filename) = .ok language ∧
      (analyze (.text filename) (.text content) around trace).1 = .ok found ∧
      (analyze (.text filename) (.text content) offline trace').1 = .ok base ∧
      found.countP isSummary = 1 ∧ base.countP isSummary = 1 ∧
      base.filter (fun f => !isSummary f) = ruleFindings content language ∧
      (base.filter fun f => !isSummary f).Sublist (found.filter fun f => !isSummary f) := by
  obtain ⟨language, known⟩ := languageOf_text filename
  obtain ⟨found, done, single, kept, -⟩ := analyze_yields known content around trace
  obtain ⟨base, doneOffline, singleOffline, -, same⟩ := analyze_yields known content offline trace'
  refine ⟨language, found, base, known, done, doneOffline, single, singleOffline, same off, ?_⟩
  rw [same off]
  exact kept

/-- Surroundings in which one model answers and the others cannot be reached. -/
def oneModel : Surroundings :=
  { (default : Surroundings) with
    models := [("microsoft/codebert-base",
      .ok ⟨.int 200, .text "", .ok (.list [.object [("generated_text", .text "Reentrancy!")]])⟩)] }

theorem models_only_add_sample :
    (default : Surroundings).Offline ∧
    ∃ language found base, languageOf (.text "a.sol") = .ok language ∧
      (analyze (.text "a.sol") (.text "x.call(tx.origin)") oneModel {}).1 = .ok found ∧
      (analyze (.text "a.sol") (.text "x.call(tx.origin)") default {}).1 = .ok base ∧
      found.countP isSummary = 1 ∧ base.countP isSummary = 1 ∧
      base.filter (fun f => !isSummary f) = ruleFindings "x.call(tx.origin)" language ∧
      (base.filter fun f => !isSummary f).Sublist (found.filter fun f => !isSummary f) := by
  have off : (default : Surroundings).Offline := fun _ _ known => nomatch known
  exact ⟨off, models_only_add "a.sol" "x.call(tx.origin)" oneModel default off {} {}⟩

end Inference

end ContractLint.Scan
