import ContractLint.Proofs.Service.Quiet
import ContractLint.Proofs.Service.Upload

/-! # What an upload stores

The rows of an analysis are committed and its answer is remembered after the connections have heard of the
start and before they hear of the end. So an upload that fails has stored nothing if the file is not accepted
or a connection breaks at the start; but if a connection breaks at the end, the analysis stays although its
answer is lost.
-/

namespace ContractLint.Service

open List

variable {setting : Setting} {j k : Journal} {s t : State} {found : List Scan.Finding × Value}
  {analyzer : Scan.Analyzer}

/-- How often rows were made to stay. -/
def Journal.commits (j : Journal) : Nat := j.saved.countP (·.isText "commit")

theorem Untouched.commits (same : Untouched s j t k) : k.commits = j.commits := by
  rw [Journal.commits, same.saved, Journal.commits]

/-- The database does all that it is asked. -/
def Database.Reliable (database : Database) : Prop := ∀ d, database.failure d = none

/-- One more answer is remembered, under an identifier that it names, and the rows of the analysis are
committed if the database is reliable. -/
structure Stored (database : Database) (id : String) (answer : Value) (s : State) (j : Journal) (t : State)
    (k : Journal) : Prop where
  results : t.results = (id, answer) :: s.results
  issued : s.issued ≤ t.issued
  commits : database.Reliable → k.commits = j.commits + 1
  named : answer.get "analysis_id" = .ok (.text id)

namespace Stored

variable {database : Database} {id : String} {answer : Value} {s t u : State} {j k l : Journal}

theorem after (before : Untouched s j t k) (stored : Stored database id answer t k u l) :
    Stored database id answer s j u l where
  results := by rw [stored.results, before.results]
  issued := Nat.le_trans before.issued stored.issued
  commits reliable := by rw [stored.commits reliable, before.commits]
  named := stored.named

theorem before (stored : Stored database id answer s j t k) (after : Untouched t k u l) :
    Stored database id answer s j u l where
  results := by rw [after.results, stored.results]
  issued := Nat.le_trans stored.issued after.issued
  commits reliable := by rw [after.commits, stored.commits reliable]
  named := stored.named

end Stored

/-! ## Rows -/

/-- A row as the database takes it for a table. -/
def tabled (table : Table) (row : Row) : Value := .object (("table", .text table.name) :: row)

/-- A demand that is met changes nothing. -/
theorem demand_of_none {d : Demand} (met : setting.database.failure d = none) (s : State)
    (j : Journal) : demand d setting s j = (.ok (), s, j) := by
  have known : Service.setting setting s j = (.ok setting, s, j) := rfl
  rw [demand, Handler.bind_of_ok known, met]
  rfl

section

variable {setting : Setting} (reliable : setting.database.Reliable) (s : State) (j : Journal)
include reliable

private theorem save_run (table : Table) (row : Row) :
    save table row setting s j = (.ok (), s, { j with saved := j.saved ++ [tabled table row] }) := by
  rw [save, Handler.bind_of_ok (demand_of_none (reliable _) s j)]
  rfl

omit reliable in
/-- A loop over handlers that add one row each adds the rows in order. -/
theorem forEach_run {α : Type} {handle : α → Handler Unit} {row : α → Value} {list : List α}
    (each : ∀ a ∈ list, ∀ j, handle a setting s j = (.ok (), s, { j with saved := j.saved ++ [row a] })) :
    (forIn list PUnit.unit fun a _ => do
        handle a
        pure (ForInStep.yield PUnit.unit) : Handler PUnit) setting s j =
      (.ok (), s, { j with saved := j.saved ++ list.map row }) := by
  induction list generalizing j with
  | nil => simp [pure, Handler.done]
  | cons a rest ih =>
    have one := each a (mem_cons_self ..) j
    rw [forIn_cons, Handler.bind_of_ok ((Handler.bind_of_ok one _).trans rfl)]
    refine (ih _ fun b member => each b (mem_cons_of_mem _ member)).trans ?_
    simp

private theorem commit_run : commit setting s j = (.ok (), s, { j with saved := j.saved ++ [.text "commit"] }) := by
  rw [commit, Handler.bind_of_ok (demand_of_none (reliable _) s j)]
  rfl

end

/-- A document is found among the documents, at its own position at the latest. -/
theorem positionOf_le (documents : List Value) (position : Nat) (document : Value) :
    positionOf documents position document ≤ position := by
  refine Nat.not_lt.mp fun later => ?_
  have passed := not_of_lt_findIdx later
  simp at passed

/-- If there are as many findings as documents, each document has a category. -/
theorem exists_categoryOf {findings : List Scan.Finding} {documents : List Value}
    (matched : documents.length = findings.length) {entry : Value × Nat} (member : entry ∈ documents.zipIdx) :
    ∃ category, categoryOf findings documents entry.2 entry.1 = .ok category := by
  have inside : entry.2 < documents.length := snd_lt_of_mem_zipIdx member
  have found : positionOf documents entry.2 entry.1 < findings.length :=
    Nat.lt_of_le_of_lt (positionOf_le documents entry.2 entry.1) (matched ▸ inside)
  rw [categoryOf, getElem?_eq_getElem found]
  exact ⟨_, rfl⟩

namespace Upload

variable (u : Upload) (findings : List Scan.Finding) (documents : List Value)

/-- Whatever the database does, saving an analysis leaves the state of the service as it is. -/
theorem store_keeps : Respects (fun s _ t _ => t = s) (u.store findings documents) := by
  have frame : IsFrame fun s _ t _ => t = s := ⟨fun _ _ => rfl, fun one two => two.trans one⟩
  have demanding (d : Demand) : Respects (fun s _ t _ => t = s) (demand d) := by
    refine frame.bind (fun _ _ _ => rfl) fun setting => ?_
    cases setting.database.failure d <;> exact fun _ _ _ => rfl
  have saving (table : Table) (row : Row) : Respects (fun s _ t _ => t = s) (save table row) :=
    frame.bind (demanding _) fun _ _ _ _ => rfl
  refine frame.rescue ?_ fun _ _ _ _ => rfl
  refine frame.bind (demanding _) fun _ => frame.bind (saving _ _) fun _ => ?_
  refine frame.bind ?_ fun _ => frame.bind (saving _ _) fun _ => ?_
  · refine frame.closed.forIn (fun entry _ _ => frame.bind ?_ fun _ _ _ _ => rfl) ()
    exact frame.bind (fun _ _ _ => rfl) fun _ => saving _ _
  · exact frame.bind (frame.bind (demanding _) fun _ _ _ _ => rfl) fun _ _ _ _ => rfl

/-- A reliable database takes the row of the analysis, one row for each document, and the row of measurements, and
commits them. -/
theorem store_run (reliable : setting.database.Reliable) {category : Value × Nat → Value}
    (known : ∀ entry ∈ documents.zipIdx, categoryOf findings documents entry.2 entry.1 = .ok (category entry))
    (s : State) (j : Journal) :
    ∃ trace, u.store findings documents setting s j = (.ok (), s, { j with
      saved := j.saved ++ tabled .analysis (u.analysisRow findings documents) ::
        (documents.zipIdx.map fun entry => tabled .finding (findingRow u.id entry.1.parts (category entry))) ++
          [tabled .metrics u.metricsRow, .text "commit"]
      trace }) := by
  have step : u.store findings documents setting s j = Handler.orElse (do
      demand .session
      save .analysis (u.analysisRow findings documents)
      for entry in documents.zipIdx do u.saveFinding findings documents entry
      save .metrics u.metricsRow
      commit
      say ("Analysis saved to database: " ++ u.id))
    (fun problem => say ("Database save failed, using in-memory storage: " ++ problem.message)) setting s j :=
      rfl
  have each (entry : Value × Nat) (member : entry ∈ documents.zipIdx) (j : Journal) :
      u.saveFinding findings documents entry setting s j = (.ok (), s, { j with
        saved := j.saved ++ [tabled .finding (findingRow u.id entry.1.parts (category entry))] }) := by
    have told : (liftM (categoryOf findings documents entry.2 entry.1) : Handler Value) setting s j =
        (.ok (category entry), s, j) := by
      rw [known entry member]
      rfl
    exact (Handler.bind_of_ok told _).trans (save_run reliable s j _ _)
  rw [step, Handler.orElse, Handler.bind_of_ok (demand_of_none (reliable _) s j),
    Handler.bind_of_ok (save_run reliable s j _ _), Handler.bind_of_ok (forEach_run s _ each),
    Handler.bind_of_ok (save_run reliable s _ _ _), Handler.bind_of_ok (commit_run reliable s _), say_run]
  simp only [append_assoc, cons_append, nil_append]
  exact ⟨_, rfl⟩

/-- A reliable database commits the rows of an analysis once. -/
theorem store_commits (reliable : setting.database.Reliable) (matched : documents.length = findings.length)
    (s : State) (j : Journal) : (u.store findings documents setting s j).2.2.commits = j.commits + 1 := by
  have known (entry : Value × Nat) (member : entry ∈ documents.zipIdx) :
      categoryOf findings documents entry.2 entry.1 =
      .ok ((categoryOf findings documents entry.2 entry.1).toOption.getD .null) := by
    obtain ⟨category, told⟩ := exists_categoryOf matched member
    rw [told]
    rfl
  obtain ⟨trace, stored⟩ := u.store_run findings documents reliable known s j
  rw [stored]
  simp [Journal.commits, tabled, Value.isText, countP_append, Function.comp_def]

/-- A study that succeeds has analysed the text, stored the findings with their documents and remembered an answer. -/
theorem study_cases (done : u.study analyzer setting s j = (.ok found, t, k)) :
    ∃ s₁ j₁ s₂ j₂ time,
      (analyzer.analyze (.text u.filename) (.text u.text) setting.around j.trace).1 = .ok found.1 ∧
      Untouched s j s₁ j₁ ∧
      u.store found.1 (documentsFrom s₁.issued found.1) setting
        { s₁ with issued := s₁.issued + found.1.length } j₁ =
        (.ok (), s₂, j₂) ∧
      found.2 = u.response found.1 (documentsFrom s₁.issued found.1) time ∧
      t = { s₂ with results := (u.id, found.2) :: s₂.results } ∧ k.saved = j₂.saved := by
  obtain ⟨findings, s₁, j₁, scanned, done⟩ := Handler.of_bind_ok done
  have before : Untouched s j s₁ j₁ := by
    simpa only [scanned] using Quiet.scan (analyzer.analyze (.text u.filename) (.text u.text)) setting s j
  rw [Handler.bind_of_ok (documents_run findings setting s₁ j₁)] at done
  obtain ⟨_, s₂, j₂, stored, done⟩ := Handler.of_bind_ok done
  -- What is left remembers the answer and prints a line.
  cases done
  exact ⟨s₁, j₁, s₂, j₂, _, Handler.of_scan_ok scanned, before, stored, rfl, rfl, rfl⟩

/-- An analysis is stored under the identifier of its file. -/
theorem study_stores
    (done : u.study analyzer setting s j = (.ok found, t, k)) : Stored setting.database u.id found.2 s j t k := by
  obtain ⟨s₁, j₁, s₂, j₂, _, _, before, stored, same, rfl, saved⟩ := u.study_cases done
  let issued : State := { s₁ with issued := s₁.issued + found.1.length }
  have between : Untouched s₁ j₁ issued j₁ := ⟨rfl, Nat.le_add_right .., rfl⟩
  have kept : s₂ = issued :=
    (congrArg (fun run => run.2.1) stored).symm.trans (u.store_keeps found.1 _ setting issued j₁)
  refine .after (untouched_isFrame.trans before between) ⟨?_, ?_, fun reliable => ?_, same ▸ rfl⟩
  · exact congrArg (fun s => (u.id, _) :: s.results) kept
  · exact Nat.le_of_eq (congrArg State.issued kept).symm
  · have once := u.store_commits found.1 _ reliable (length_documentsFrom s₁.issued found.1) issued j₁
    have after : k.commits = j₂.commits := by rw [Journal.commits, saved, Journal.commits]
    exact after.trans ((congrArg (fun run => run.2.2.commits) stored).symm.trans once)

end Upload

/-! ## Uploads -/

private theorem after_decoding {α : Type} (run : Handler α) (setting : Setting) (s : State) (j : Journal) :
    Untouched (run setting s j).2.1 (run setting s j).2.2 (decoding run setting s j).2.1
      (decoding run setting s j).2.2 := by
  refine untouched_isFrame.after_rescue run (fun problem => ?_) setting s j
  split
  next => exact Quiet.bind (.say _) fun _ => .throw _
  next => exact Quiet.throw _

/-- What an upload comes to that is not refused: its file is studied, and nothing is stored before and after. The
answer is lost unless the connections hear of the end, too. -/
structure Studied (setting : Setting) (id : String) (filename : Value) (content : Content) (s : State) (j : Journal)
    (run : Except Problem Value × State × Journal) (refusal : Fault → Problem) (u : Upload)
    (analyzer : Scan.Analyzer)
    (found : List Scan.Finding × Value) : Prop where
  admits : u.Admits analyzer id filename content
  studies : ∃ line s₀ j₀ t k, j₀.trace = { j.trace with printed := j.trace.printed ++ [line] } ∧
    Untouched s j s₀ j₀ ∧ u.study analyzer setting s₀ j₀ = (.ok found, t, k) ∧ Untouched t k run.2.1 run.2.2
  outcome : ∃ between, heard s.connections s.limits = .ok between ∧
    run.1 = ((heard s.connections between).map fun _ => found.2).mapError refusal

/-- An examined file is studied exactly if it is accepted and the connections hear of the start. -/
theorem examine_studies (id : String) (filename : Value) (content : Content) (setting : Setting) (s : State)
    (j : Journal) : let run := examine id filename content setting s j
    ((∃ problem, run.1 = .error problem) ∧ Untouched s j run.2.1 run.2.2 ∧
      (Accepted filename content → ∃ fault, heard s.connections s.limits = .error fault)) ∨
    Accepted filename content ∧ ∃ u analyzer found,
      Studied setting id filename content s j run .fault u analyzer found := by
  intro run
  obtain ⟨accepted, line, u, analyzer, admits, examined⟩ | ⟨rejected, problem, examined⟩ :=
    examine_cases id filename content
  · let told : Journal := { j with trace := { j.trace with printed := j.trace.printed ++ [line] } }
    have processed : run = u.process analyzer setting s told := by
      rw [show run = _ from congrArg (· setting s j) examined, Handler.bind_of_ok (say_run line setting s j)]
    obtain ⟨fault, limits, sent, first, ended⟩ |
        ⟨between, sent, found, t, k, first, studied, limits, sent', ended⟩ :=
      u.process_cases analyzer setting s told
    · rw [processed, ended]
      exact .inl ⟨⟨_, rfl⟩, ⟨rfl, Nat.le_refl _, rfl⟩, fun _ => ⟨fault, first⟩⟩
    · have start : Untouched s j { s with limits := between } { told with sent } := ⟨rfl, Nat.le_refl _, rfl⟩
      have finish : Untouched t k { t with limits } { k with sent := sent' } := ⟨rfl, Nat.le_refl _, rfl⟩
      rw [processed, ended]
      exact .inr ⟨accepted, u, analyzer, found, admits, ⟨line, _, _, t, k, rfl, start, studied, finish⟩, between,
        first, rfl⟩
  · rw [show run = _ from congrArg (· setting s j) examined]
    exact .inl ⟨⟨problem, rfl⟩, untouched_isFrame.refl s j, fun accepted => absurd accepted rejected⟩

/-- To issue an identifier stores nothing. -/
theorem issue_untouched (s : State) (j : Journal) : Untouched s j { s with issued := s.issued + 1 } j :=
  ⟨rfl, Nat.le_succ _, rfl⟩

/-- An upload is studied exactly if the file is accepted and the connections hear of the start. -/
theorem analyzeUpload_studies (filename : Value) (content : Content) (setting : Setting) (s : State) (j : Journal) :
    let run := analyzeUpload filename content setting s j
    ((∃ problem, run.1 = .error problem) ∧ Untouched s j run.2.1 run.2.2 ∧
      (Accepted filename content → ∃ fault, heard s.connections s.limits = .error fault)) ∨
    Accepted filename content ∧ ∃ u analyzer found, Studied setting (identifier (s.issued + 1)) filename content
      { s with issued := s.issued + 1 } j run (fun fault => uploadRefusal (.fault fault)) u analyzer found := by
  intro run
  have outcome : run.1 = _ := analyzeUpload_outcome filename content setting s j
  have before := issue_untouched s j
  let examined := examine (identifier (s.issued + 1)) filename content setting
    { s with issued := s.issued + 1 } j
  have after : Untouched examined.2.1 examined.2.2 run.2.1 run.2.2 := by
    simp only [run, analyzeUpload, Handler.bind_of_ok (newId_run setting s j)]
    exact untouched_isFrame.trans (after_decoding _ _ _ _) (Quiet.after_shielding _ _ _ _ _ _)
  obtain ⟨⟨problem, failed⟩, same, early⟩ | ⟨accepted, u, analyzer, found, studied⟩ :=
    examine_studies (identifier (s.issued + 1)) filename content setting { s with issued := s.issued + 1 } j
  · rw [failed] at outcome
    exact .inl ⟨⟨_, outcome⟩, untouched_isFrame.trans before (untouched_isFrame.trans same after), early⟩
  · obtain ⟨line, s₀, j₀, t, k, told, start, done, finish⟩ := studied.studies
    obtain ⟨between, first, lost⟩ := studied.outcome
    refine .inr ⟨accepted, u, analyzer, found, studied.admits,
      ⟨line, s₀, j₀, t, k, told, start, done, untouched_isFrame.trans finish after⟩, between, first, ?_⟩
    rw [outcome, lost]
    cases heard s.connections between <;> rfl

/-- An upload stores an analysis exactly if the file is accepted and the connections hear of the start.
Its answer is lost unless they hear of the end, too. -/
theorem analyzeUpload_cases (filename : Value) (content : Content) (setting : Setting) (s : State) (j : Journal) :
    let run := analyzeUpload filename content setting s j
    ((∃ problem, run.1 = .error problem) ∧ Untouched s j run.2.1 run.2.2 ∧
      (Accepted filename content → ∃ fault, heard s.connections s.limits = .error fault)) ∨
    Accepted filename content ∧ ∃ between answer, heard s.connections s.limits = .ok between ∧
      Stored setting.database (identifier (s.issued + 1)) answer { s with issued := s.issued + 1 } j
        run.2.1 run.2.2 ∧
      run.1 = ((heard s.connections between).map fun _ => answer).mapError
        fun fault => uploadRefusal (.fault fault) := by
  obtain failed | ⟨accepted, u, analyzer, found, studied⟩ := analyzeUpload_studies filename content setting s j
  · exact .inl failed
  · obtain ⟨_, s₀, j₀, t, k, _, start, done, finish⟩ := studied.studies
    obtain ⟨between, first, lost⟩ := studied.outcome
    refine .inr ⟨accepted, between, found.2, first, ?_, lost⟩
    rw [← studied.admits.id]
    exact .after start ((u.study_stores done).before finish)

/-- A text to all connections exceeds the limit of one of them. -/
def Overrun (s : State) : Prop :=
  ∃ name ∈ s.connections, ∃ limit, s.limits.lookup name = some limit ∧ limit.left < s.connections.count name

/-- A limit is exceeded exactly if a text to all connections fails. -/
theorem overrun_iff : Overrun s ↔ ∃ fault, heard s.connections s.limits = .error fault := by
  refine ⟨fun ⟨name, _, limit, limited, less⟩ => ?_, fun ⟨fault, failed⟩ => ?_⟩
  · cases first : heard s.connections s.limits with
    | error fault => exact ⟨fault, rfl⟩
    | ok between =>
      have bound := count_le_of_heard first limited
      omega
  · obtain ⟨name, member, limit, limited, _, less⟩ := exceeds_of_heard failed
    exact ⟨name, member, limit, limited, less⟩

/-- An upload that fails has stored nothing exactly if the file is not accepted or a connection breaks at the
start. Otherwise it has stored the analysis. -/
theorem failed_upload_untouched_iff (filename : Value) (content : Content) (setting : Setting) (s : State)
    (j : Journal) :
    let run := analyzeUpload filename content setting s j
    (∃ problem, run.1 = .error problem) →
      (Untouched s j run.2.1 run.2.2 ↔ (Accepted filename content → Overrun s)) ∧
      (Untouched s j run.2.1 run.2.2 ∨
        ∃ answer, Stored setting.database (identifier (s.issued + 1)) answer s j run.2.1 run.2.2) := by
  intro run _
  obtain ⟨_, same, early⟩ | ⟨accepted, between, answer, first, stored, _⟩ :=
    analyzeUpload_cases filename content setting s j
  · exact ⟨⟨fun _ accepted => overrun_iff.mpr (early accepted), fun _ => same⟩, .inl same⟩
  · refine ⟨⟨fun same => ?_, fun overrun => ?_⟩, .inr ⟨answer, .after (issue_untouched s j) stored⟩⟩
    · have longer := congrArg List.length (stored.results.symm.trans same.results)
      simp at longer
    · obtain ⟨fault, failed⟩ := overrun_iff.mp (overrun accepted)
      rw [first] at failed
      cases failed

/-- A client that takes the first text only makes the upload of a file fail, but the analysis is remembered
and its rows are committed. -/
theorem failed_upload_stored :
    let run := analyzeUpload (.text "x.go") (.text "y") ⟨default, default, default⟩ (clientFor 1) {}
    run.1 = .error (.refused 500 "Internal server error during analysis. Please try again later.") ∧
    (∃ answer, run.2.1.results = [(identifier 1, answer)]) ∧ run.2.2.commits = 1 := by
  have hears : heard (clientFor 1).connections (clientFor 1).limits = .ok (clientFor 0).limits := rfl
  -- The run is not evaluated: all that matters of it is in the cases.
  have cases := analyzeUpload_cases (.text "x.go") (.text "y") ⟨default, default, default⟩ (clientFor 1) {}
  generalize analyzeUpload (.text "x.go") (.text "y") ⟨default, default, default⟩ (clientFor 1) {} = run
    at cases ⊢
  obtain ⟨_, _, early⟩ | ⟨_, between, answer, first, stored, lost⟩ := cases
  · obtain ⟨fault, failed⟩ := early accepted_sample
    rw [hears] at failed
    cases failed
  · rw [hears] at first
    cases first
    exact ⟨lost, ⟨answer, stored.results⟩, stored.commits fun _ => rfl⟩

end ContractLint.Service
