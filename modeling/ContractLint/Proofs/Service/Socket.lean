import ContractLint.Proofs.Service.Connection
import ContractLint.Proofs.Service.Handler
import ContractLint.Service.Socket

/-! # The end of a conversation

A conversation ends when receiving, an answer or a ping fails. The connection is given up in one case
only: a ping fails because the other side has gone. In every other case its name stays among the
connections.
-/

namespace ContractLint.Service

variable {k : Journal} {t : State} {run : Handler Unit} {problem : Problem}

/-- What is received is answered with a text, if the connection takes it. -/
def Answerable : Received → Prop
  | .silence => True
  | .message m => ∃ text fields, m = .text text ∧ Document.Json.parse? text = some (.object fields)
  | .failure _ => False

/-- The connection takes the answers to what it sends and then turns out to have gone when it is sent a
ping. -/
def Departs (limits : List (String × Limit)) (name : String) (received : List Received) : Prop :=
  ∃ n text, limits.lookup name = some ⟨n, .disconnected text⟩ ∧ received[n]? = some .silence ∧
    ∀ event ∈ received.take n, Answerable event

/-! ## One event -/

/-- A message has a kind exactly if it can be answered. -/
theorem kind_of_message (m : Value) :
    (Answerable (.message m) ∧ ∃ v kind, messageDocument m = .ok v ∧ v.get "type" = .ok kind) ∨
    ¬Answerable (.message m) ∧ ∃ fault, (messageDocument m >>= (·.get "type")) = .error fault := by
  cases m with
  | text text =>
    cases parsed : Document.Json.parse? text with
    | none =>
      have failed : messageDocument (.text text) = .error (.invalid "the message is no document") := by
        simp only [messageDocument, parsed]
        rfl
      refine .inr ⟨?_, _, by rw [failed]; rfl⟩
      rintro ⟨other, fields, same, found⟩
      cases same
      rw [parsed] at found
      cases found
    | some v =>
      have read : messageDocument (.text text) = .ok v := by
        simp only [messageDocument, parsed]
        rfl
      cases v with
      | object fields => exact .inl ⟨⟨text, fields, rfl, parsed⟩, _, _, read, rfl⟩
      | _ =>
        refine .inr ⟨?_, _, by rw [read]; rfl⟩
        rintro ⟨other, fields, same, found⟩
        cases same
        rw [parsed] at found
        cases found
  | _ => exact .inr ⟨fun ⟨_, _, same, _⟩ => (nomatch same), _, rfl⟩

section Step

variable (name : String) (setting : Setting) (s : State) (j : Journal)

/-- A message is either answered with one text or fails before anything is sent. -/
theorem reply_cases (m : Value) :
    (Answerable (.message m) ∧ ∃ text, reply name m setting s j = send name text setting s j) ∨
    ¬Answerable (.message m) ∧ ∃ problem, reply name m setting s j = (.error problem, s, j) := by
  let answer (kind : Value) : Handler Unit := do
    if kind.isText "ping" then send name (← signal "pong") else send name m.display
  have step : reply name m = (liftM (messageDocument m) : Handler Value) >>= fun v =>
    (liftM (v.get "type") : Handler Value) >>= answer := rfl
  rw [step]
  obtain ⟨answerable, v, kind, read, typed⟩ | ⟨unanswerable, fault, failed⟩ := kind_of_message m
  · refine .inl ⟨answerable, ?_⟩
    rw [read, Handler.bind_of_ok rfl, typed, Handler.bind_of_ok rfl]
    by_cases ping : kind.isText "ping"
    · simp only [answer, if_pos ping]
      exact ⟨_, rfl⟩
    · simp only [answer, if_neg ping]
      exact ⟨_, rfl⟩
  · refine .inr ⟨unanswerable, .fault fault, ?_⟩
    cases read : messageDocument m with
    | error cause =>
      rw [read] at failed
      cases failed
      rfl
    | ok v =>
      rw [read] at failed
      rw [Handler.bind_of_ok rfl, show v.get "type" = .error fault from failed]
      rfl

private theorem attempt_of_ok
    (done : run setting s j = (.ok (), t, k)) : attempt run setting s j = (.ok none, t, k) := by
  have step : attempt run setting s j = Handler.orElse (Handler.andThen run fun _ => pure none)
    (fun problem => pure (some problem)) setting s j := rfl
  rw [step, Handler.orElse, Handler.andThen, done]
  rfl

private theorem attempt_of_error
    (failed : run setting s j = (.error problem, t, k)) : attempt run setting s j = (.ok (some problem), t, k) := by
  have step : attempt run setting s j = Handler.orElse (Handler.andThen run fun _ => pure none)
    (fun problem => pure (some problem)) setting s j := rfl
  rw [step, Handler.orElse, Handler.andThen, failed]
  rfl

private theorem converse_of_reply {m : Value} (done : reply name m setting s j = (.ok (), t, k))
    (rest : List Received) : converse name (.message m :: rest) setting s j = converse name rest setting t k :=
  Handler.bind_of_ok (attempt_of_ok setting s j done) _

private theorem converse_of_failed_reply {m : Value}
    (failed : reply name m setting s j = (.error problem, t, k)) (rest : List Received) :
    converse name (.message m :: rest) setting s j =
      say ("WebSocket error: " ++ problem.message) setting t k :=
  Handler.bind_of_ok (attempt_of_error setting s j failed) _

private theorem converse_silence (rest : List Received) : ∃ text,
    converse name (.silence :: rest) setting s j =
      (send name text >>= fun _ => converse name rest) setting s j := ⟨_, rfl⟩

/-- One event is answered and the conversation goes on, or a ping fails and the conversation with it, or
the conversation ends. -/
theorem converse_cases (event : Received) (rest : List Received) :
    (Answerable event ∧ ∃ limits k, taken name s.limits = .ok limits ∧
      converse name (event :: rest) setting s j = converse name rest setting { s with limits } k) ∨
    (event = .silence ∧ ∃ fault, taken name s.limits = .error fault ∧
      converse name (event :: rest) setting s j = (.error (.fault fault), s, j)) ∨
    (event ≠ .silence ∧ (Answerable event → ∃ fault, taken name s.limits = .error fault) ∧
      ∃ k, converse name (event :: rest) setting s j = (.ok (), s, k)) := by
  cases event with
  | silence =>
    obtain ⟨text, pinged⟩ := converse_silence name setting s j rest
    have sent := send_run name text setting s j
    cases taking : taken name s.limits with
    | error fault =>
      rw [taking] at sent
      exact .inr (.inl ⟨rfl, fault, rfl, pinged.trans (Handler.bind_of_error sent _)⟩)
    | ok limits =>
      rw [taking] at sent
      exact .inl ⟨trivial, limits, _, rfl, pinged.trans (Handler.bind_of_ok sent _)⟩
  | failure fault => exact .inr (.inr ⟨nofun, fun answerable => answerable.elim, _, rfl⟩)
  | message m =>
    obtain ⟨answerable, text, replied⟩ | ⟨unanswerable, problem, failed⟩ := reply_cases name setting s j m
    · have sent := replied.trans (send_run name text setting s j)
      cases taking : taken name s.limits with
      | error fault =>
        rw [taking] at sent
        exact .inr (.inr ⟨nofun, fun _ => ⟨fault, rfl⟩, _,
          converse_of_failed_reply name setting s j sent rest⟩)
      | ok limits =>
        rw [taking] at sent
        exact .inl ⟨answerable, limits, _, rfl, converse_of_reply name setting s j sent rest⟩
    · exact .inr (.inr ⟨nofun, fun answerable => absurd answerable unanswerable, _,
        converse_of_failed_reply name setting s j failed rest⟩)

end Step

/-! ## Departure, event by event -/

section Departure

variable {limits : List (String × Limit)} {name : String} {event : Received} {rest : List Received}

private theorem departs_of_answered {after : List (String × Limit)} (answerable : Answerable event)
    (done : taken name limits = .ok after) : Departs limits name (event :: rest) ↔ Departs after name rest := by
  -- The limit goes down by one as one event is answered, so the ping that fails stays where it is.
  have left := lookup_of_taken done name
  rw [if_pos rfl] at left
  constructor
  · rintro ⟨n, text, limited, silent, before⟩
    cases n with
    | zero =>
      rw [taken_eq_error.mpr limited] at done
      contradiction
    | succ n =>
      rw [limited] at left
      exact ⟨n, text, left, silent, fun event member => before event (List.mem_cons_of_mem _ member)⟩
  · rintro ⟨n, text, limited, silent, before⟩
    rw [left, Option.map_eq_some_iff] at limited
    obtain ⟨⟨m, fault⟩, limited, same⟩ := limited
    cases m with
    | zero =>
      rw [taken_eq_error.mpr limited] at done
      contradiction
    | succ m =>
      cases same
      refine ⟨m + 1, text, limited, silent, ?_⟩
      rw [List.take_succ_cons]
      exact List.forall_mem_cons.mpr ⟨answerable, before⟩

private theorem departs_of_ping {fault : Fault} (failed : taken name limits = .error fault) :
    Departs limits name (.silence :: rest) ↔ ∃ text, fault = .disconnected text := by
  rw [taken_eq_error] at failed
  constructor
  · rintro ⟨n, text, limited, _, _⟩
    rw [failed] at limited
    cases limited
    exact ⟨text, rfl⟩
  · rintro ⟨text, rfl⟩
    exact ⟨0, text, failed, rfl, nofun⟩

private theorem not_departs_of_end (loud : event ≠ .silence)
    (stopped : Answerable event → ∃ fault, taken name limits = .error fault) :
    ¬Departs limits name (event :: rest) := by
  rintro ⟨n, text, limited, silent, before⟩
  cases n with
  | zero => exact loud (Option.some.inj silent)
  | succ n =>
    obtain ⟨fault, failed⟩ := stopped (before event List.mem_cons_self)
    rw [taken_eq_error, limited] at failed
    cases failed

end Departure

/-! ## Whole conversations -/

/-- A conversation leaves the connections as they are, and fails with a departure exactly if the connection
departs. -/
theorem converse_end (name : String) (received : List Received) (setting : Setting) (s : State) (j : Journal) :
    (converse name received setting s j).2.1.connections = s.connections ∧
    ((∃ text, (converse name received setting s j).1 = .error (.fault (.disconnected text))) ↔
      Departs s.limits name received) := by
  induction received generalizing s j with
  | nil => exact ⟨rfl, nofun, nofun⟩
  | cons event rest ih =>
    obtain ⟨answerable, limits, k, done, step⟩ | ⟨rfl, fault, failed, step⟩ | ⟨loud, stopped, k, step⟩ :=
      converse_cases name setting s j event rest
    · rw [step, departs_of_answered answerable done]
      exact ih { s with limits } k
    · rw [step, departs_of_ping failed]
      simp
    · rw [step, iff_false_right (not_departs_of_end loud stopped)]
      exact ⟨rfl, nofun⟩

/-- Once accepted, the connection is given up if the conversation fails with a departure, and otherwise the
conversation is all that happens. -/
theorem serve_cases (name : String) (received : List Received) (setting : Setting) (s : State) (j : Journal) :
    let talk := converse name received setting { s with connections := s.connections ++ [name] }
      { j with sent := j.sent ++ [(name, "ACCEPT")] }
    (∃ text, talk.1 = .error (.fault (.disconnected text)) ∧
      serve name received setting s j = disconnect name setting talk.2.1 talk.2.2) ∨
    (∀ text, talk.1 ≠ .error (.fault (.disconnected text))) ∧ serve name received setting s j = talk := by
  have step : serve name received setting s j = Handler.orElse (converse name received) (giveUp name) setting
    { s with connections := s.connections ++ [name] } { j with sent := j.sent ++ [(name, "ACCEPT")] } := rfl
  rw [step, Handler.orElse]
  rcases converse name received setting { s with connections := s.connections ++ [name] }
    { j with sent := j.sent ++ [(name, "ACCEPT")] } with ⟨problem | _, t, k⟩
  · by_cases gone : ∃ text, problem = .fault (.disconnected text)
    · obtain ⟨text, rfl⟩ := gone
      exact .inl ⟨text, rfl, rfl⟩
    · refine .inr ⟨fun text same => gone ⟨text, Except.error.inj same⟩, ?_⟩
      cases problem with
      | refused status detail => rfl
      | fault cause =>
        cases cause with
        | disconnected text => exact absurd ⟨text, rfl⟩ gone
        | _ => rfl
  · exact .inr ⟨by simp, rfl⟩

private theorem disconnect_run {name : String} {s : State} (connected : name ∈ s.connections) (setting : Setting)
    (j : Journal) :
    disconnect name setting s j = (.ok (), { s with connections := s.connections.erase name }, j) := by
  have step : disconnect name setting s j =
      (if s.connections.contains name then update fun s => { s with connections := s.connections.erase name }
        else throw (.fault (.invalid "list.remove(x): x not in list")) : Handler Unit) setting s j := rfl
  rw [step, if_pos (List.contains_iff_mem.mpr connected)]
  rfl

/-- A connection that was not among the others is gone at the end of a conversation exactly if a ping has
failed because the other side has gone. If the conversation ends in any other way, the name stays. -/
theorem serve_gives_up_iff (name : String) (received : List Received) (setting : Setting) (s : State)
    (j : Journal) (new : name ∉ s.connections) :
    let after := (serve name received setting s j).2.1.connections
    (name ∉ after ↔ Departs s.limits name received) ∧
    after = if name ∈ after then s.connections ++ [name] else s.connections := by
  intro after
  obtain ⟨kept, departed⟩ := converse_end name received setting
    { s with connections := s.connections ++ [name] } { j with sent := j.sent ++ [(name, "ACCEPT")] }
  have member : name ∈ s.connections ++ [name] := List.mem_append_right _ List.mem_cons_self
  rw [← departed]
  obtain ⟨text, failed, run⟩ | ⟨other, run⟩ := serve_cases name received setting s j
  · have gone : after = s.connections := by
      rw [disconnect_run (by rw [kept]; exact member)] at run
      rw [show after = _ from congrArg (·.2.1.connections) run, show _ = _ from kept,
        List.erase_append_right _ new]
      simp
    rw [gone, if_neg new]
    exact ⟨⟨fun _ => ⟨text, failed⟩, fun _ => new⟩, rfl⟩
  · have stays : after = s.connections ++ [name] :=
      (congrArg (·.2.1.connections) run).trans kept
    rw [stays, if_pos member]
    exact ⟨⟨fun absent => absurd member absent, fun ⟨text, same⟩ => absurd same (other text)⟩, rfl⟩

/-- A client that sends an empty document, takes it back and has gone when it is sent a ping. -/
theorem serve_gives_up_iff_sample :
    let leaving : State := { limits := [("a", ⟨1, .disconnected "1001"⟩)] }
    let received : List Received := [.message (.text "\x7b\x7d"), .silence]
    Departs leaving.limits "a" received ∧
    "a" ∉ (serve "a" received ⟨default, default, default⟩ leaving {}).2.1.connections := by
  intro leaving received
  have departs : Departs leaving.limits "a" received := by
    refine ⟨1, "1001", rfl, rfl, ?_⟩
    intro event member
    obtain rfl := List.mem_singleton.mp member
    exact ⟨"\x7b\x7d", [], rfl, by rfl⟩
  exact ⟨departs, (serve_gives_up_iff "a" received ⟨default, default, default⟩ leaving {} nofun).1.mpr departs⟩

/-- A client that goes away while a message is awaited stays among the connections. -/
theorem serve_keeps_gone_client : ∀ setting j,
    (serve "a" [.failure (.disconnected "1001")] setting {} j).2.1.connections = ["a"] := fun _ _ => rfl

/-- So it is in the default setting, with nothing in the journal. -/
theorem serve_keeps_gone_client_sample :
    (serve "a" [.failure (.disconnected "1001")] ⟨default, default, default⟩ {} {}).2.1.connections = ["a"] :=
  serve_keeps_gone_client ⟨default, default, default⟩ {}

end ContractLint.Service
