import ContractLint.Proofs.Scan.Tolerance
import ContractLint.Proofs.Service.Connection
import ContractLint.Proofs.Service.Handler
import ContractLint.Service.Upload

/-! # Uploads and the connections of others

An upload is announced to everybody who is connected, before and after the file is analysed. The analysis
takes no notice of the connections and always succeeds, but a connection that breaks makes the announcement
fail and the upload with it. So the outcome is the same as with nobody connected exactly if the file is not
accepted or every connection takes both texts.
-/

namespace ContractLint.Service

variable {content : Content} {filename : Value} {name : String} {analyzer : Scan.Analyzer}

/-! ## Checks -/

/-- The name of an uploaded file can be used. -/
def IsName (filename : Value) (name : String) : Prop := filename = .text name ∧ name ≠ ""

/-- A file is a text that is neither too large nor empty. -/
structure IsText (content : Content) (text : String) : Prop where
  size : content.size ≤ maxFileSize
  decodes : content.decode = .ok text
  solid : Text.strip text ≠ ""
  length : text.length ≤ maxTextLength

theorem checkedName_eq (usable : IsName filename name) : checkedName filename = pure name := by
  obtain ⟨rfl, named⟩ := usable
  have present : (!(Value.text name).truthy) = false := by simp [Value.truthy, named]
  unfold checkedName
  rw [present]
  rfl

private theorem checkedName_fails (unusable : ∀ name, ¬IsName filename name) :
    ∃ problem, checkedName filename = throw problem := by
  unfold checkedName
  split
  next => exact ⟨_, rfl⟩
  next present =>
    cases filename with
    | text name =>
      refine absurd ⟨rfl, ?_⟩ (unusable name)
      simpa [Value.truthy] using present
    | _ => exact ⟨_, rfl⟩

theorem analyzerFor_eq (known : analyzerFor? name = some analyzer) : analyzerFor name = pure analyzer := by
  unfold analyzerFor
  simp only [known]

private theorem analyzerFor_fails (unknown : analyzerFor? name = none) :
    ∃ problem, analyzerFor name = throw problem := by
  unfold analyzerFor
  simp only [unknown]
  exact ⟨_, rfl⟩

private theorem checkedText_eq {text : String} (sound : IsText content text) : checkedText content = pure text := by
  rw [checkedText, if_neg (Nat.not_lt.mpr sound.size)]
  simp only [sound.decodes, if_neg sound.solid, if_neg (Nat.not_lt.mpr sound.length)]

private theorem checkedText_fails (unsound : ∀ text, ¬IsText content text) :
    ∃ problem, checkedText content = throw problem := by
  rw [checkedText]
  split
  next => exact ⟨_, rfl⟩
  next size =>
    cases decoded : content.decode with
    | error fault => exact ⟨_, rfl⟩
    | ok text =>
      simp only
      split
      next => exact ⟨_, rfl⟩
      next solid =>
        split
        next => exact ⟨_, rfl⟩
        next length =>
          exact absurd ⟨Nat.not_lt.mp size, decoded, solid, Nat.not_lt.mp length⟩ (unsound text)

/-- The file is accepted: it passes the checks. -/
def Accepted (filename : Value) (content : Content) : Prop :=
  ∃ name text, IsName filename name ∧ (analyzerFor? name).isSome ∧ IsText content text

/-- A file has one name. -/
theorem IsName.unique {other : String} (one : IsName filename name) (two : IsName filename other) : name = other :=
  Value.text.inj (one.1.symm.trans two.1)

/-- A file that passes the checks is processed under its name. -/
theorem examine_eq {text : String} (named : IsName filename name)
    (known : analyzerFor? name = some analyzer) (sensible : IsText content text) (id : String) :
    examine id filename content =
      say ("Analysis started: " ++ id ++ " - " ++ name ++ " (" ++ Number.digitsText content.size ++ " bytes)") >>=
        fun _ =>
        Upload.process ⟨id, name, analyzer.extension, content.size, text⟩ analyzer := by
  unfold examine
  rw [checkedName_eq named, Handler.pure_bind, analyzerFor_eq known, Handler.pure_bind, checkedText_eq sensible,
    Handler.pure_bind]

/-- A file whose analysis begins under an identifier, and its analyzer, are those of an accepted upload. -/
structure Upload.Admits (u : Upload) (analyzer : Scan.Analyzer) (id : String) (filename : Value)
    (content : Content) : Prop where
  id : u.id = id
  name : IsName filename u.filename
  analyzer : analyzerFor? u.filename = some analyzer
  text : IsText content u.text

/-- An accepted file is processed, and another one is not. -/
theorem examine_cases (id : String) (filename : Value) (content : Content) :
    (Accepted filename content ∧ ∃ line u analyzer, Upload.Admits u analyzer id filename content ∧
      examine id filename content = say line >>= fun _ => Upload.process u analyzer) ∨
    ¬Accepted filename content ∧ ∃ problem, examine id filename content = throw problem := by
  by_cases usable : ∃ name, IsName filename name
  case neg =>
    obtain ⟨problem, fails⟩ := checkedName_fails (not_exists.mp usable)
    refine .inr ⟨fun ⟨name, _, named, _⟩ => usable ⟨name, named⟩, problem, ?_⟩
    unfold examine
    rw [fails, Handler.throw_bind]
  obtain ⟨name, named⟩ := usable
  cases known : analyzerFor? name with
  | none =>
    obtain ⟨problem, fails⟩ := analyzerFor_fails known
    refine .inr ⟨?_, problem, ?_⟩
    · rintro ⟨other, _, usable, chosen, _⟩
      rw [usable.unique named, known] at chosen
      exact Bool.false_ne_true chosen
    · unfold examine
      rw [checkedName_eq named, Handler.pure_bind, fails, Handler.throw_bind]
  | some analyzer =>
    by_cases sound : ∃ text, IsText content text
    case neg =>
      obtain ⟨problem, fails⟩ := checkedText_fails (not_exists.mp sound)
      refine .inr ⟨fun ⟨_, text, _, _, sensible⟩ => sound ⟨text, sensible⟩, problem, ?_⟩
      unfold examine
      rw [checkedName_eq named, Handler.pure_bind, analyzerFor_eq known, Handler.pure_bind, fails,
        Handler.throw_bind]
    obtain ⟨text, sensible⟩ := sound
    exact .inl ⟨⟨name, text, named, by rw [known]; rfl, sensible⟩, _,
      ⟨id, name, analyzer.extension, content.size, text⟩, analyzer, ⟨rfl, named, known, sensible⟩,
      examine_eq named known sensible id⟩

/-! ## An analysis between its announcements -/

/-- The documents of findings under the identifiers that follow those issued before. -/
def documentsFrom (issued : Nat) (findings : List Scan.Finding) : List Value :=
  (findings.zipIdx (issued + 1)).map fun entry => findingDocument (identifier entry.2) entry.1

/-- Each finding makes one document. -/
theorem length_documentsFrom (issued : Nat) (findings : List Scan.Finding) :
    (documentsFrom issued findings).length = findings.length := by
  simp [documentsFrom]

/-- Each finding gets the next identifier. -/
theorem documents_run (findings : List Scan.Finding) (setting : Setting) (s : State) (j : Journal) :
    (findings.mapM fun f => do return findingDocument (← newId) f : Handler (List Value)) setting s j =
      (.ok (documentsFrom s.issued findings), { s with issued := s.issued + findings.length }, j) := by
  have loop (findings : List Scan.Finding) (done : List Value) (s : State) :
      (List.mapM.loop (fun f => do return findingDocument (← newId) f) findings done : Handler (List Value))
        setting s j =
        (.ok (done.reverse ++ documentsFrom s.issued findings), { s with issued := s.issued + findings.length },
          j) := by
    induction findings generalizing done s with
    | nil => simp [documentsFrom, List.mapM.loop, pure, Handler.done]
    | cons f rest ih =>
      have step := ih (findingDocument (identifier (s.issued + 1)) f :: done) { s with issued := s.issued + 1 }
      simp only [List.reverse_cons, List.append_assoc] at step
      refine Eq.trans ?_ (step.trans ?_)
      · rfl
      · simp [documentsFrom, List.zipIdx_cons, Nat.add_assoc, Nat.add_comm 1]
  exact loop findings [] s

namespace Upload

variable (u : Upload) (analyzer : Scan.Analyzer) (findings : List Scan.Finding) (documents : List Value)

private theorem store_unaware : Unaware (u.store findings documents) := by
  refine .rescue ?_ fun _ => .say _
  refine .bind (.demand _) fun _ => .bind (.save _ _) fun _ => ?_
  refine .bind ?_ fun _ => .bind (.save _ _) fun _ => .bind .commit fun _ => .say _
  exact Unaware.closed.forIn (fun entry _ _ => .bind (.bind (.outcome _) fun _ => .save _ _) fun _ => .pure _) ()

private theorem store_succeeds : Succeeds (u.store findings documents) := .rescue _ fun _ => .say _

/-- The study of a file does not depend on who is connected. -/
theorem study_unaware : Unaware (u.study analyzer) := by
  refine .bind (.scan _) fun findings => ?_
  refine .bind (Unaware.closed.mapM fun f _ => .bind .newId fun _ => .pure _) fun documents => ?_
  refine .bind (u.store_unaware findings documents) fun _ => .bind .now fun time => ?_
  refine .bind (.update ?_ fun s => ⟨rfl, rfl⟩) fun _ => .bind (.say _) fun _ => .pure _
  exact fun alike => ⟨alike.issued, by rw [alike.results]⟩

/-- The study of a file succeeds. -/
theorem study_succeeds : Succeeds (u.study analyzer) := by
  refine .bind ?_ fun findings => ?_
  · intro setting s j
    obtain ⟨found, done⟩ := analyzer.analyze_succeeds (.text u.filename) u.text setting.around j.trace
    refine ⟨found, s, _, Prod.ext ?_ rfl⟩
    change ((analyzer.analyze (.text u.filename) (.text u.text) setting.around j.trace).1.mapError Problem.fault)
      = .ok found
    rw [done]
    rfl
  · refine .bind (Succeeds.closed.mapM fun f _ => .bind .newId fun _ => .pure _) fun documents => ?_
    refine .bind (u.store_succeeds findings documents) fun _ => .bind .now fun time => ?_
    exact .bind (.update _) fun _ => .bind (.say _) fun _ => .pure _

private theorem announceStart_run (setting : Setting) (s : State) (j : Journal) :
    ∃ text, u.announceStart setting s j = sendEach text s.connections setting s j := ⟨_, rfl⟩

private theorem announceEnd_run (setting : Setting) (s : State) (j : Journal) :
    ∃ text, u.announceEnd findings setting s j = sendEach text s.connections setting s j := ⟨_, rfl⟩

/-- If all connections hear of the start, the file is analysed; but the answer is lost unless they all
hear of the end, too. -/
theorem process_cases (setting : Setting) (s : State) (j : Journal) :
    (∃ fault limits sent, heard s.connections s.limits = .error fault ∧
      u.process analyzer setting s j = (.error (.fault fault), { s with limits }, { j with sent })) ∨
    ∃ between sent found t k, heard s.connections s.limits = .ok between ∧
      u.study analyzer setting { s with limits := between } { j with sent } = (.ok found, t, k) ∧
      ∃ limits sent, u.process analyzer setting s j =
        (((heard s.connections between).map fun _ => found.2).mapError .fault,
          { t with limits }, { k with sent }) := by
  have step : u.process analyzer = u.announceStart >>= fun _ => u.study analyzer >>= fun found =>
    u.announceEnd found.1 >>= fun _ => pure found.2 := rfl
  rw [step]
  obtain ⟨text, start⟩ := u.announceStart_run setting s j
  obtain ⟨fault, limits, sent, first, told⟩ | ⟨between, sent, first, told⟩ :=
    sendEach_cases text s.connections setting s j
  · exact .inl ⟨fault, limits, sent, first, Handler.bind_of_error (start.trans told) _⟩
  · obtain ⟨found, t, k, done⟩ :=
      u.study_succeeds analyzer setting { s with limits := between } { j with sent }
    obtain ⟨connected, limited⟩ :=
      (u.study_unaware analyzer).keeps setting { s with limits := between } { j with sent }
    rw [done] at connected limited
    -- The same connections hear of the end, with what is left of their limits.
    refine .inr ⟨between, sent, found, t, k, first, done, ?_⟩
    rw [Handler.bind_of_ok (start.trans told), Handler.bind_of_ok done]
    obtain ⟨text, finish⟩ := u.announceEnd_run found.1 setting t k
    obtain ⟨fault, limits, sent, second, told⟩ | ⟨limits, sent, second, told⟩ :=
      sendEach_cases text t.connections setting t k
    · rw [connected, limited] at second
      rw [Handler.bind_of_error (finish.trans told), second]
      exact ⟨limits, sent, rfl⟩
    · rw [connected, limited] at second
      rw [Handler.bind_of_ok (finish.trans told), second]
      exact ⟨limits, sent, rfl⟩

/-- The answer is that of the analysis, except that it is lost if two texts to all connections exceed a
limit. -/
theorem process_outcome {setting : Setting} {s : State} {j : Journal} {found : List Scan.Finding × Value}
    (studied : (u.study analyzer setting s j).1 = .ok found) :
    (u.process analyzer setting s j).1 =
      ((heard s.connections s.limits >>= heard s.connections).map fun _ => found.2).mapError .fault := by
  obtain ⟨fault, limits, sent, first, told⟩ | ⟨between, sent, other, t, k, first, done, limits, sent', told⟩ :=
    u.process_cases analyzer setting s j
  · rw [told, first]
    rfl
  · have states : State.Alike { s with limits := between } s := ⟨rfl, rfl⟩
    have journals : Journal.Alike { j with sent } j := ⟨rfl, rfl, rfl, rfl⟩
    have same := ((u.study_unaware analyzer).alike setting states journals).outcome
    rw [done, studied] at same
    cases same
    rw [told, first]
    rfl

end Upload

/-! ## Uploads -/

/-- What becomes of a problem with an upload. -/
def uploadRefusal : Problem → Problem
  | .refused status reason => .refused status reason
  | .fault (.undecodable _) =>
    .refused 400 "File encoding error. Please ensure the file is valid UTF-8 text."
  | .fault _ => .refused 500 "Internal server error during analysis. Please try again later."

private theorem decoding_outcome {α : Type} (run : Handler α) (setting : Setting) (s : State) (j : Journal) :
    (decoding run setting s j).1 = (run setting s j).1.mapError fun
      | .fault (.undecodable _) =>
        .refused 400 "File encoding error. Please ensure the file is valid UTF-8 text."
      | problem => problem := by
  have step : decoding run setting s j = Handler.orElse run (fun
      | .fault (.undecodable text) => do
        say ("File encoding error: " ++ text)
        refuse 400 "File encoding error. Please ensure the file is valid UTF-8 text."
      | problem => throw problem) setting s j := rfl
  rw [step, Handler.orElse]
  rcases run setting s j with ⟨problem | a, t, k⟩
  · cases problem with
    | refused status reason => rfl
    | fault cause => cases cause <;> rfl
  · rfl

/-- An upload fails as its examination does. -/
theorem analyzeUpload_outcome (filename : Value) (content : Content) (setting : Setting) (s : State) (j : Journal) :
    (analyzeUpload filename content setting s j).1 =
      (examine (identifier (s.issued + 1)) filename content setting
        { s with issued := s.issued + 1 } j).1.mapError uploadRefusal := by
  rw [analyzeUpload, Handler.bind_of_ok (newId_run setting s j), shielding_outcome, decoding_outcome]
  rcases (examine _ filename content setting { s with issued := s.issued + 1 } j).1 with problem | answer
  · cases problem with
    | refused status reason => rfl
    | fault cause => cases cause <;> rfl
  · rfl

/-- An accepted file is answered if nobody is connected, and the answer is lost if two texts to all
connections exceed a limit. -/
theorem upload_outcome_of_accepted
    (accepted : Accepted filename content) (setting : Setting) (s : State) (j : Journal) :
    ∃ answer, (analyzeUpload filename content setting { s with connections := [] } j).1 = .ok answer ∧
      (analyzeUpload filename content setting s j).1 =
        ((heard s.connections s.limits >>= heard s.connections).map fun _ => answer).mapError
          fun fault => uploadRefusal (.fault fault) := by
  rw [analyzeUpload_outcome, analyzeUpload_outcome]
  obtain ⟨_, line, u, analyzer, -, examined⟩ | ⟨rejected, _⟩ :=
    examine_cases (identifier (s.issued + 1)) filename content
  · let issued : State := { s with issued := s.issued + 1 }
    let told : Journal := { j with trace := { j.trace with printed := j.trace.printed ++ [line] } }
    simp only [examined, Handler.bind_of_ok (say_run line setting _ j)]
    -- Both runs analyse the file, from states that differ in their connections only.
    obtain ⟨found, t, k, studied⟩ := u.study_succeeds analyzer setting issued told
    have states : State.Alike { issued with connections := [] } issued := ⟨rfl, rfl⟩
    have journals : Journal.Alike told told := ⟨rfl, rfl, rfl, rfl⟩
    have again := ((u.study_unaware analyzer).alike setting states journals).outcome
    rw [studied] at again
    refine ⟨found.2, ?_, ?_⟩
    · rw [u.process_outcome analyzer again]
      rfl
    · rw [u.process_outcome analyzer (by rw [studied])]
      cases heard s.connections s.limits >>= heard s.connections <;> rfl
  · exact absurd accepted rejected

private theorem upload_outcome_of_rejected
    (rejected : ¬Accepted filename content) (setting : Setting) (s : State) (j : Journal) :
    (analyzeUpload filename content setting s j).1 =
      (analyzeUpload filename content setting { s with connections := [] } j).1 := by
  rw [analyzeUpload_outcome, analyzeUpload_outcome]
  obtain ⟨accepted, _⟩ | ⟨_, problem, examined⟩ :=
    examine_cases (identifier (s.issued + 1)) filename content
  · exact absurd accepted rejected
  · simp only [examined]
    rfl

/-- Two texts to all connections stay within every limit. -/
def AllHear (s : State) : Prop :=
  ∀ name ∈ s.connections, ∀ limit, s.limits.lookup name = some limit →
    2 * s.connections.count name ≤ limit.left

/-- An upload has the same outcome as if nobody were connected exactly if the file is not accepted or
all connections hear of it. Otherwise it fails, though it would have succeeded, because of a connection
that breaks. -/
theorem upload_undisturbed_iff (filename : Value) (content : Content) (setting : Setting) (s : State)
    (j : Journal) :
    let alone := (analyzeUpload filename content setting { s with connections := [] } j).1
    let shared := (analyzeUpload filename content setting s j).1
    (shared = alone ↔ (Accepted filename content → AllHear s)) ∧
    (Accepted filename content → ∃ answer, alone = .ok answer) ∧
    (shared ≠ alone → ∃ name ∈ s.connections, ∃ limit, s.limits.lookup name = some limit ∧
      limit.left < 2 * s.connections.count name ∧ shared = .error (uploadRefusal (.fault limit.fault))) := by
  intro alone shared
  by_cases accepted : Accepted filename content
  · obtain ⟨answer, answered, outcome⟩ := upload_outcome_of_accepted accepted setting s j
    obtain ⟨rest, heard, within⟩ | ⟨name, member, limit, limited, less, failed⟩ :=
      heard_twice s.connections s.limits
    · have same : shared = alone := by
        rw [show shared = _ from outcome, show alone = _ from answered, heard]
        rfl
      exact ⟨⟨fun _ _ name _ limit => within name limit, fun _ => same⟩, fun _ => ⟨answer, answered⟩,
        fun differs => absurd same differs⟩
    · have lost : shared = .error (uploadRefusal (.fault limit.fault)) := by
        rw [show shared = _ from outcome, failed]
        rfl
      refine ⟨⟨fun same => ?_, fun hears => ?_⟩, fun _ => ⟨answer, answered⟩,
        fun _ => ⟨name, member, limit, limited, less, lost⟩⟩
      · rw [lost, show alone = _ from answered] at same
        exact nomatch same
      · have enough := hears accepted name member limit limited
        omega
  · have same : shared = alone := upload_outcome_of_rejected accepted setting s j
    exact ⟨⟨fun _ accepts => absurd accepts accepted, fun _ => same⟩,
      fun accepts => absurd accepts accepted, fun differs => absurd same differs⟩

/-- A client that is connected and takes some texts before it breaks. -/
def clientFor (texts : Nat) : State where
  connections := ["a"]
  limits := [("a", ⟨texts, .outside "socket gone"⟩)]

theorem accepted_sample : Accepted (.text "x.go") (.text "y") := by
  refine ⟨"x.go", "y", ⟨rfl, by decide⟩, by decide +kernel, ?_⟩
  exact ⟨by decide, rfl, by decide, by decide⟩

/-- A client that takes two texts does not disturb the upload of a file. -/
theorem upload_undisturbed_by_listener :
    AllHear (clientFor 2) ∧
    (analyzeUpload (.text "x.go") (.text "y") ⟨default, default, default⟩ (clientFor 2) {}).1 =
      (analyzeUpload (.text "x.go") (.text "y") ⟨default, default, default⟩
        { clientFor 2 with connections := [] } {}).1 := by
  have hear : AllHear (clientFor 2) := by
    intro name member limit limited
    obtain rfl := List.mem_singleton.mp member
    cases limited
    decide
  exact ⟨hear, (upload_undisturbed_iff _ _ _ _ _).1.mpr fun _ => hear⟩

/-- A client that takes no text makes the upload of a file fail that would succeed otherwise. -/
theorem upload_lost_to_client : ∀ setting j,
    (∃ answer, (analyzeUpload (.text "x.go") (.text "y") setting
      { clientFor 0 with connections := [] } j).1 = .ok answer) ∧
    (analyzeUpload (.text "x.go") (.text "y") setting (clientFor 0) j).1 =
      .error (.refused 500 "Internal server error during analysis. Please try again later.") := by
  intro setting j
  obtain ⟨answer, answered, outcome⟩ := upload_outcome_of_accepted accepted_sample setting (clientFor 0) j
  exact ⟨⟨answer, answered⟩, outcome⟩

/-- So it is in the default setting, with nothing in the journal. -/
theorem upload_lost_to_client_sample :
    (∃ answer, (analyzeUpload (.text "x.go") (.text "y") ⟨default, default, default⟩
      { clientFor 0 with connections := [] } {}).1 = .ok answer) ∧
    (analyzeUpload (.text "x.go") (.text "y") ⟨default, default, default⟩ (clientFor 0) {}).1 =
      .error (.refused 500 "Internal server error during analysis. Please try again later.") :=
  upload_lost_to_client ⟨default, default, default⟩ {}

end ContractLint.Service
