import ContractLint.Proofs.Entries
import ContractLint.Proofs.Outcome
import ContractLint.Service.Handler

/-! # Texts to connections

A connection with a limit takes that many texts more and then fails with the fault of the limit. A text
to several connections is sent to one after the other until one of them fails; `heard` is the effect of
that on the limits, and nothing else of the state changes.
-/

namespace ContractLint.Service

variable {limits rest : List (String × Limit)} {names : List String} {name : String}

/-- What is left of a limit after some texts. -/
def Limit.after (limit : Limit) (texts : Nat) : Limit := { limit with left := limit.left - texts }

/-! ## One text -/

/-- A connection refuses a text exactly if its limit is used up. -/
theorem taken_eq_error {fault : Fault} :
    taken name limits = .error fault ↔ limits.lookup name = some ⟨0, fault⟩ := by
  induction limits with
  | nil => simp [taken]
  | cons entry rest ih =>
    obtain ⟨other, left, cause⟩ := entry
    by_cases same : name = other
    · subst same
      cases left <;> simp [taken]
    · rw [taken, if_neg (Ne.symm same), lookup_cons_of_ne same, ← ih]
      cases taken name rest <;> simp [Except.map]

/-- A text that is taken counts against the limit of its connection only. -/
theorem lookup_of_taken (done : taken name limits = .ok rest) (other : String) :
    rest.lookup other = (limits.lookup other).map (·.after (if other = name then 1 else 0)) := by
  induction limits generalizing rest with
  | nil =>
    cases done
    rfl
  | cons entry limits ih =>
    obtain ⟨owner, left, cause⟩ := entry
    rw [taken] at done
    split at done
    next same =>
      subst same
      cases left with
      | zero => contradiction
      | succ left =>
        cases done
        by_cases equal : other = owner
        · simp [equal, Limit.after]
        · simp [lookup_cons_of_ne equal, equal, Limit.after]
    next differs =>
      cases taking : taken name limits with
      | error fault => simp [taking, Except.map] at done
      | ok found =>
        rw [taking] at done
        cases done
        by_cases equal : other = owner
        · simp [equal, differs, Limit.after]
        · rw [lookup_cons_of_ne equal, lookup_cons_of_ne equal, ih taking]

/-- A text is sent unless the limit of the connection is reached. -/
theorem send_run (name text : String) (setting : Setting) (s : State) (j : Journal) :
    send name text setting s j =
      match taken name s.limits with
      | .ok limits => (.ok (), { s with limits }, { j with sent := j.sent ++ [(name, text)] })
      | .error fault => (.error (.fault fault), s, j) := by
  have lifted : send name text setting s j = Handler.andThen
      (fun _ state journal => ((taken name s.limits).mapError .fault, state, journal))
      (fun limits => do update fun s => { s with limits }; record name text) setting s j := rfl
  rw [lifted]
  cases taken name s.limits <;> rfl

/-! ## A text to all -/

/-- The limits after some connections have taken a text, unless one of them takes none. -/
def heard : List String → List (String × Limit) → Outcome (List (String × Limit))
  | [], limits => .ok limits
  | name :: rest, limits => taken name limits >>= heard rest

/-- A text that is taken counts against the limit of a connection once for each time it is sent. -/
theorem lookup_of_heard (done : heard names limits = .ok rest) (name : String) :
    rest.lookup name = (limits.lookup name).map (·.after (names.count name)) := by
  induction names generalizing limits with
  | nil =>
    cases done
    simp [Limit.after]
  | cons first names ih =>
    obtain ⟨between, one, others⟩ := Outcome.bind_eq_ok.mp done
    rw [ih others, lookup_of_taken one, Option.map_map]
    congr 1
    funext limit
    by_cases same : name = first
    · simp [same, Limit.after, Nat.sub_sub, Nat.add_comm]
    · simp [same, Limit.after, List.count_cons_of_ne (Ne.symm same)]

/-- If a text is taken by all, it does not exceed the limit of any. -/
theorem count_le_of_heard (done : heard names limits = .ok rest) {limit : Limit}
    (limited : limits.lookup name = some limit) : names.count name ≤ limit.left := by
  induction names generalizing limits limit with
  | nil => simp
  | cons first names ih =>
    obtain ⟨between, one, others⟩ := Outcome.bind_eq_ok.mp done
    have next := lookup_of_taken one name
    rw [limited, Option.map_some] at next
    have bound := ih others next
    by_cases same : name = first
    · subst same
      have positive : limit.left ≠ 0 := by
        intro used
        have refused : taken name limits = .error limit.fault :=
          taken_eq_error.mpr (by rw [limited, ← used])
        rw [refused] at one
        contradiction
      rw [List.count_cons_self]
      simp only [Limit.after, if_true] at bound
      omega
    · rw [List.count_cons_of_ne (Ne.symm same)]
      simpa [Limit.after, same] using bound

/-- A text that is not taken by all exceeds the limit of a connection that it is sent to. -/
theorem exceeds_of_heard {fault : Fault} (failed : heard names limits = .error fault) :
    ∃ name ∈ names, ∃ limit, limits.lookup name = some limit ∧ limit.fault = fault ∧
      limit.left < names.count name := by
  induction names generalizing limits with
  | nil => contradiction
  | cons first names ih =>
    rw [heard] at failed
    cases one : taken first limits with
    | error cause =>
      rw [one] at failed
      cases failed
      exact ⟨first, List.mem_cons_self, ⟨0, fault⟩, taken_eq_error.mp one, rfl, by simp⟩
    | ok between =>
      rw [one] at failed
      obtain ⟨name, member, limit, limited, same, less⟩ := ih failed
      rw [lookup_of_taken one, Option.map_eq_some_iff] at limited
      obtain ⟨limit, limited, rfl⟩ := limited
      refine ⟨name, List.mem_cons_of_mem _ member, limit, limited, same, ?_⟩
      by_cases equal : name = first
      · subst equal
        rw [List.count_cons_self]
        simp only [Limit.after, if_true] at less
        omega
      · rw [List.count_cons_of_ne (Ne.symm equal)]
        simpa [Limit.after, equal] using less

/-- Either two texts to all stay within every limit, or one of them exceeds a limit. -/
theorem heard_twice (names : List String) (limits : List (String × Limit)) :
    (∃ rest, (heard names limits >>= heard names) = .ok rest ∧
      ∀ name limit, limits.lookup name = some limit → 2 * names.count name ≤ limit.left) ∨
    ∃ name ∈ names, ∃ limit, limits.lookup name = some limit ∧ limit.left < 2 * names.count name ∧
      (heard names limits >>= heard names) = .error limit.fault := by
  cases first : heard names limits with
  | error fault =>
    obtain ⟨name, member, limit, limited, rfl, less⟩ := exceeds_of_heard first
    exact .inr ⟨name, member, limit, limited, by omega, rfl⟩
  | ok between =>
    have left (name : String) := lookup_of_heard first name
    rw [Outcome.ok_bind]
    cases second : heard names between with
    | error fault =>
      obtain ⟨name, member, limit, limited, rfl, less⟩ := exceeds_of_heard second
      rw [left, Option.map_eq_some_iff] at limited
      obtain ⟨limit, limited, rfl⟩ := limited
      simp only [Limit.after] at less
      exact .inr ⟨name, member, limit, limited, by omega, rfl⟩
    | ok rest =>
      refine .inl ⟨rest, rfl, fun name limit limited => ?_⟩
      have once := count_le_of_heard first limited
      have again := count_le_of_heard second (by rw [left, limited, Option.map_some])
      simp only [Limit.after] at again
      omega

/-- A text is sent to some connections until one of them fails. Only the limits change, and what was sent. -/
theorem sendEach_cases (text : String) (names : List String) (setting : Setting) (s : State) (j : Journal) :
    (∃ fault limits sent, heard names s.limits = .error fault ∧
      sendEach text names setting s j = (.error (.fault fault), { s with limits }, { j with sent })) ∨
    ∃ limits sent, heard names s.limits = .ok limits ∧
      sendEach text names setting s j = (.ok (), { s with limits }, { j with sent }) := by
  induction names generalizing s j with
  | nil => exact .inr ⟨s.limits, j.sent, rfl, rfl⟩
  | cons name names ih =>
    have step : sendEach text (name :: names) setting s j =
        Handler.andThen (send name text) (fun _ => sendEach text names) setting s j := rfl
    rw [step, Handler.andThen, send_run, heard]
    cases taken name s.limits with
    | error fault => exact .inl ⟨fault, s.limits, j.sent, rfl, rfl⟩
    | ok limits => exact ih { s with limits } { j with sent := j.sent ++ [(name, text)] }

end ContractLint.Service
