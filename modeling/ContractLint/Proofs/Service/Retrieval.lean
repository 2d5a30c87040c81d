import ContractLint.Proofs.Service.Storage

/-! # Answers that are asked for again

An answer to an upload stays under its identifier, whatever is requested later, because identifiers are issued
once. It is found again unless the database fails: what the service remembers is consulted only if the database
says that there is no such analysis.
-/

namespace ContractLint.Service

variable {α β : Type} {s t : State} {column : String} {j : Journal} {table : Table} {v : Value}
  {fault : Fault}

/-! ## What stays -/

/-- The answers under the identifiers that were issued stay as they are. -/
structure Extends (s t : State) : Prop where
  issued : s.issued ≤ t.issued
  kept : ∀ n ≤ s.issued, t.results.lookup (identifier n) = s.results.lookup (identifier n)

theorem Extends.refl (s : State) : Extends s s := ⟨Nat.le_refl _, fun _ _ => rfl⟩

theorem Extends.trans {u : State} (one : Extends s t) (two : Extends t u) : Extends s u where
  issued := Nat.le_trans one.issued two.issued
  kept n old := (two.kept n (Nat.le_trans old one.issued)).trans (one.kept n old)

theorem extends_isFrame : IsFrame fun s _ t _ => Extends s t where
  refl s _ := .refl s
  trans := .trans

theorem Untouched.extends {k : Journal} (same : Untouched s j t k) : Extends s t :=
  ⟨same.issued, fun _ _ => by rw [same.results]⟩

private theorem Stored.extends {database : Database} {answer : Value} {k : Journal}
    (stored : Stored database (identifier (s.issued + 1)) answer { s with issued := s.issued + 1 } j t k) :
    Extends s t where
  issued := Nat.le_of_succ_le stored.issued
  kept n old := by
    -- The identifier of the new answer was not issued before.
    have fresh : identifier n ≠ identifier (s.issued + 1) := fun same => by
      have equal := identifier_injective same
      omega
    rw [stored.results, lookup_cons_of_ne fresh]

/-- A handler leaves the answers under the identifiers that were issued as they are. -/
def Keeps (h : Handler α) : Prop := Respects (fun s _ t _ => Extends s t) h

theorem Quiet.keeps {h : Handler α} (quiet : Quiet h) : Keeps h := fun setting s j => (quiet setting s j).extends

private theorem analyzeUpload_keeps (filename : Value) (content : Content) :
    Keeps (analyzeUpload filename content) := by
  intro setting s j
  obtain ⟨_, same, _⟩ | ⟨_, _, _, _, stored, _⟩ := analyzeUpload_cases filename content setting s j
  · exact same.extends
  · exact stored.extends

/-! ## Requests -/

namespace Keeps

private theorem invoke [ToValue α] {h : Handler α} (keeps : Keeps h) (args : List Value) :
    Keeps (Callable.invoke h args) :=
  extends_isFrame.bind keeps fun _ => (Quiet.pure _).keeps

private theorem invokeFirst [OfValue α] {f : α → List Value → Handler Value}
    (keeps : ∀ a args, Keeps (f a args)) (args : List Value) : Keeps (ContractLint.invokeFirst f args) := by
  cases args with
  | nil => exact (Quiet.outcome _).keeps
  | cons v rest => exact extends_isFrame.bind (Quiet.outcome _).keeps fun a => keeps a rest

end Keeps

private theorem requests_keep : ∀ entry ∈ requests, ∀ args, Keeps (entry.2 args) := by
  have download (made : Value → Outcome Download) (args : List Value) :
      Keeps (request (fun data => Download.toValue <$> made data) [] 1 args) :=
    .invokeFirst (fun _ => (Quiet.outcome _).keeps.invoke) _
  simp only [requests, List.forall_mem_cons]
  refine ⟨?analyze, ?get, ?history, ?statistics, ?exported, ?code, ?health, ?assistants, download _, download _,
    download _, ?connect, ?disconnect, ?broken, ?websocket, ?logged, fun _ => (Quiet.pure _).keeps,
    fun _ => (Quiet.pure _).keeps, fun _ none => absurd none List.not_mem_nil⟩
  case analyze => exact fun _ => .invokeFirst (fun a => .invokeFirst fun b => (analyzeUpload_keeps a b).invoke) _
  case get => exact fun _ => .invokeFirst (fun a => (Quiet.analysisOf a).keeps.invoke) _
  case history => exact fun _ => .invokeFirst (fun a => .invokeFirst fun b => (Quiet.history a b).keeps.invoke) _
  case statistics => exact fun _ => Quiet.statistics.keeps.invoke _
  case exported =>
    exact fun _ => .invokeFirst (fun a => .invokeFirst fun b => (Quiet.exportAnalysis a b).keeps.invoke) _
  case code => exact fun _ => .invokeFirst (fun a => (Quiet.sourceOf a).keeps.invoke) _
  case health => exact fun _ => Quiet.health.keeps.invoke _
  case assistants => exact fun _ => Quiet.assistants.keeps.invoke _
  case connect => exact fun _ => .invokeFirst (fun a => (Quiet.connect a).keeps.invoke) _
  case disconnect => exact fun _ => .invokeFirst (fun a => (Quiet.disconnect a).keeps.invoke) _
  case broken => exact fun _ => .invokeFirst (fun a => (Quiet.breakOff a).keeps.invoke) _
  case websocket => exact fun _ => .invokeFirst (fun a => .invokeFirst fun b => (Quiet.serve a b).keeps.invoke) _
  case logged =>
    exact fun _ => .invokeFirst (fun a => .invokeFirst fun b => .invokeFirst fun c =>
      (Quiet.logged a b c).keeps.invoke) _

private theorem answer_keeps (words : List Value) : Keeps (answer words) := by
  unfold answer
  dsimp only
  split
  next handler known => exact requests_keep _ (mem_of_lookup known) _
  next => exact (Quiet.throw _).keeps

/-- Whatever is requested, the answers stay. -/
theorem answerAll_extends (s : State) (list : List (Setting × List Value)) :
    ∀ exchange ∈ answerAll s list, Extends s exchange.state := by
  induction list generalizing s with
  | nil => exact fun _ none => absurd none List.not_mem_nil
  | cons first rest ih =>
    obtain ⟨setting, words⟩ := first
    have now := answer_keeps words setting s {}
    rw [answerAll]
    intro exchange member
    obtain rfl | later := List.mem_cons.mp member
    · exact now
    · exact now.trans (ih _ exchange later)

/-- A state comes after another one if some requests lead to it. -/
def Follows (s t : State) : Prop := ∃ list, t = s ∨ ∃ exchange ∈ answerAll s list, exchange.state = t

private theorem Follows.extends (later : Follows s t) : Extends s t := by
  obtain ⟨list, rfl | ⟨exchange, member, rfl⟩⟩ := later
  · exact .refl t
  · exact answerAll_extends s list exchange member

/-! ## Retrieval -/

def analysisQuery (id : String) : Demand := .query (matching .analysis "id" (.text id) ++ ".first")

def findingsQuery (id : String) : Demand := .query (matching .finding "analysis_id" (.text id) ++ ".all")

/-- The database says whether there is an analysis, and if there is one, gives its findings and the time. -/
structure Database.Serves (database : Database) (id : String) : Prop where
  analysis : database.failure (analysisQuery id) = none
  findings : ∀ row ∈ (database.rows .analysis).head?, database.failure (findingsQuery id) = none
  time : ∀ row ∈ (database.rows .analysis).head?, ∃ time, row.time "created_at" = .ok time

section

variable {id : String} {setting : Setting} (s : State) (j : Journal)

/-- A demand that fails leaves the state as it is. -/
theorem demand_of_some {d : Demand} (unmet : setting.database.failure d = some fault) :
    demand d setting s j = (.error (.fault fault), s, j) := by
  have known : Service.setting setting s j = (.ok setting, s, j) := rfl
  rw [demand, Handler.bind_of_ok known, unmet]
  rfl

theorem first?_of_none (met : setting.database.failure (.query (matching table column v ++ ".first")) = none) :
    ∃ k, first? table column v setting s j = (.ok (setting.database.rows table).head?, s, k) := by
  rw [first?, query]
  exact ⟨_, Handler.bind_of_ok (demand_of_none met s _) _⟩

private theorem first?_of_some
    (unmet : setting.database.failure (.query (matching table column v ++ ".first")) = some fault) :
    ∃ k, first? table column v setting s j = (.error (.fault fault), s, k) := by
  rw [first?, query]
  exact ⟨_, Handler.bind_of_error (demand_of_some s _ unmet) _⟩

theorem rowsWith_of_none (met : setting.database.failure (.query (matching table column v ++ ".all")) = none) :
    ∃ k, rowsWith table column v setting s j = (.ok (setting.database.rows table), s, k) := by
  rw [rowsWith, query]
  exact ⟨_, Handler.bind_of_ok (demand_of_none met s _) _⟩

private theorem rowsWith_of_some
    (unmet : setting.database.failure (.query (matching table column v ++ ".all")) = some fault) :
    ∃ k, rowsWith table column v setting s j = (.error (.fault fault), s, k) := by
  rw [rowsWith, query]
  exact ⟨_, Handler.bind_of_error (demand_of_some s _ unmet) _⟩

/-- If there is no row, the answer is what the service remembers. -/
theorem analysisOf_of_remembered {answer : Value} (served : setting.database.failure (analysisQuery id) = none)
    (absent : (setting.database.rows .analysis).head? = none) (known : s.results.lookup id = some answer) :
    (analysisOf (.text id) setting s j).1 = .ok answer := by
  obtain ⟨k, asked⟩ := first?_of_none s j served
  have found : remembered? (.text id) setting s k = (.ok (some answer), s, k) := by
    rw [← known]
    rfl
  rw [absent] at asked
  rw [analysisOf, shielding_outcome, Handler.bind_of_ok asked]
  dsimp only
  rw [Handler.bind_of_ok found]
  rfl

/-- If there is a row, the answer is made from it. -/
theorem analysisOf_of_row {row : Row} {time : String} (served : setting.database.failure (analysisQuery id) = none)
    (present : (setting.database.rows .analysis).head? = some row)
    (listed : setting.database.failure (findingsQuery id) = none) (timed : row.time "created_at" = .ok time) :
    (analysisOf (.text id) setting s j).1 = .ok (storedAnswer row (setting.database.rows .finding) time) := by
  obtain ⟨k, asked⟩ := first?_of_none s j served
  obtain ⟨l, found⟩ := rowsWith_of_none s k listed
  rw [present] at asked
  rw [analysisOf, shielding_outcome, Handler.bind_of_ok asked]
  dsimp only
  rw [Handler.bind_of_ok found, timed]
  rfl

/-- If the database does not serve, the request fails, whatever the service remembers. -/
theorem analysisOf_fails (failing : ¬setting.database.Serves id) :
    (analysisOf (.text id) setting s j).1 =
      .error (.refused 500 "Internal server error while retrieving analysis result") := by
  rw [analysisOf, shielding_outcome]
  cases served : setting.database.failure (analysisQuery id) with
  | some fault =>
    obtain ⟨k, asked⟩ := first?_of_some s j served
    rw [Handler.bind_of_error asked]
    rfl
  | none =>
    obtain ⟨k, asked⟩ := first?_of_none s j served
    rw [Handler.bind_of_ok asked]
    cases present : (setting.database.rows .analysis).head? with
    | none => exact absurd ⟨served, by simp [present], by simp [present]⟩ failing
    | some row =>
      dsimp only
      cases listed : setting.database.failure (findingsQuery id) with
      | some fault =>
        obtain ⟨l, found⟩ := rowsWith_of_some s k listed
        rw [Handler.bind_of_error found]
        rfl
      | none =>
        obtain ⟨l, found⟩ := rowsWith_of_none s k listed
        rw [Handler.bind_of_ok found]
        cases timed : row.time "created_at" with
        | error fault => rfl
        | ok time => exact absurd ⟨served, fun _ _ => listed, by simp [present, timed]⟩ failing

end

/-- The analysis of an upload that was answered is stored. -/
theorem stored_of_answered {filename : Value} {content : Content} {setting : Setting}
    {answer : Value} (answered : (analyzeUpload filename content setting s j).1 = .ok answer) :
    Stored setting.database (identifier (s.issued + 1)) answer { s with issued := s.issued + 1 } j
      (analyzeUpload filename content setting s j).2.1 (analyzeUpload filename content setting s j).2.2 := by
  obtain ⟨⟨problem, failed⟩, _⟩ | ⟨_, between, other, _, stored, outcome⟩ :=
    analyzeUpload_cases filename content setting s j
  · rw [failed] at answered
    cases answered
  · rw [outcome] at answered
    cases ended : heard s.connections between with
    | error fault =>
      rw [ended] at answered
      cases answered
    | ok limits =>
      rw [ended] at answered
      cases answered
      exact stored

/-- After any requests, an upload that was answered is found again under its identifier exactly if the
database serves. It is the same answer unless the database has a row for it, and if the database does not serve,
the request is refused although the service remembers the answer. -/
theorem upload_retrieved_iff (filename : Value) (content : Content) (setting : Setting) (s : State) (j : Journal)
    {answer : Value} (answered : (analyzeUpload filename content setting s j).1 = .ok answer) {t : State}
    (later : Follows (analyzeUpload filename content setting s j).2.1 t) (asked : Setting) (k : Journal) :
    let id := identifier (s.issued + 1)
    let found := (analysisOf (.text id) asked t k).1
    answer.get "analysis_id" = .ok (.text id) ∧
    ((∃ v, found = .ok v) ↔ asked.database.Serves id) ∧
    (asked.database.Serves id → (asked.database.rows .analysis).head? = none → found = .ok answer) ∧
    (asked.database.Serves id → ∀ row, (asked.database.rows .analysis).head? = some row →
      ∃ time, row.time "created_at" = .ok time ∧
        found = .ok (storedAnswer row (asked.database.rows .finding) time)) ∧
    (¬asked.database.Serves id →
      found = .error (.refused 500 "Internal server error while retrieving analysis result")) := by
  intro id found
  have stored := stored_of_answered answered
  have known : t.results.lookup id = some answer := by
    rw [later.extends.kept _ stored.issued, stored.results]
    exact List.lookup_cons_self
  have absent (serves : asked.database.Serves id) (empty : (asked.database.rows .analysis).head? = none) :
      found = .ok answer := analysisOf_of_remembered t k serves.analysis empty known
  have present (serves : asked.database.Serves id) (row : Row)
      (first : (asked.database.rows .analysis).head? = some row) : ∃ time, row.time "created_at" = .ok time ∧
        found = .ok (storedAnswer row (asked.database.rows .finding) time) := by
    obtain ⟨time, timed⟩ := serves.time row first
    exact ⟨time, timed, analysisOf_of_row t k serves.analysis first (serves.findings row first) timed⟩
  have fails (failing : ¬asked.database.Serves id) : found = .error (.refused 500 _) :=
    analysisOf_fails t k failing
  refine ⟨stored.named, ⟨fun ⟨v, retrieved⟩ => ?_, fun serves => ?_⟩, absent, present, fails⟩
  · refine Classical.byContradiction fun failing => ?_
    rw [fails failing] at retrieved
    cases retrieved
  · cases first : (asked.database.rows .analysis).head? with
    | none => exact ⟨answer, absent serves first⟩
    | some row =>
      obtain ⟨time, _, retrieved⟩ := present serves row first
      exact ⟨_, retrieved⟩

theorem upload_answered_sample :
    ∃ answer, (analyzeUpload (.text "x.go") (.text "y") ⟨default, default, default⟩ {} {}).1 = .ok answer := by
  obtain ⟨answer, answered, _⟩ := upload_outcome_of_accepted accepted_sample ⟨default, default, default⟩ {} {}
  exact ⟨answer, answered⟩

/-- A file that was uploaded is found again in a database without rows. -/
theorem upload_retrieved_from_memory :
    ∃ answer, (analyzeUpload (.text "x.go") (.text "y") ⟨default, default, default⟩ {} {}).1 = .ok answer ∧
      answer.get "analysis_id" = .ok (.text (identifier 1)) ∧
      (analysisOf (.text (identifier 1)) ⟨default, default, default⟩
        (analyzeUpload (.text "x.go") (.text "y") ⟨default, default, default⟩ {} {}).2.1 {}).1 = .ok answer := by
  obtain ⟨answer, answered⟩ := upload_answered_sample
  have serves : (default : Database).Serves (identifier 1) :=
    ⟨rfl, fun _ present => (by cases present), fun _ present => (by cases present)⟩
  obtain ⟨named, _, absent, _⟩ :=
    upload_retrieved_iff (.text "x.go") (.text "y") ⟨default, default, default⟩ {} {} answered
      ⟨[], .inl rfl⟩ ⟨default, default, default⟩ {}
  exact ⟨answer, answered, named, absent serves rfl⟩

/-- It is not found again if the database fails in the meantime. -/
theorem upload_not_retrieved :
    ∃ answer, (analyzeUpload (.text "x.go") (.text "y") ⟨default, default, default⟩ {} {}).1 = .ok answer ∧
      answer.get "analysis_id" = .ok (.text (identifier 1)) ∧
      (analysisOf (.text (identifier 1)) ⟨default, { failure := Demand.failing (some "gone") }, default⟩
        (analyzeUpload (.text "x.go") (.text "y") ⟨default, default, default⟩ {} {}).2.1 {}).1 =
        .error (.refused 500 "Internal server error while retrieving analysis result") := by
  obtain ⟨answer, answered⟩ := upload_answered_sample
  refine ⟨answer, answered, (stored_of_answered answered).named, analysisOf_fails _ _ fun serves => ?_⟩
  cases serves.analysis

end ContractLint.Service
