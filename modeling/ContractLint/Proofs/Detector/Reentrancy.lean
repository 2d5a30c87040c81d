import Mathlib.Data.List.Pairwise
import ContractLint.Detector.Reentrancy
import ContractLint.Proofs.Detector.Basic
import ContractLint.Proofs.Solidity.Shape

/-! # Which calls before state changes are reported

A call and a change of state are found at any depth of a statement, but their order is that of the statements
of the body of the function that they stand in. So a call that comes before a change in the same statement of
the body, such as a loop or a block, is not reported (`order_of_statements_decides`). Each call that is reported is
reported once, with the first change in the first later statement that has one (`first_later_change_reported`).
-/

namespace ContractLint.Detector.Reentrancy

open List Solidity Outcome

variable {statements : List Value} {calls : List Occurrence} {change : Occurrence}
  {function statement : Value} {call : Occurrence} {changes : List Occurrence}

/-! ## Functions that cannot change state -/

/-- The modifier says that the function cannot change state. -/
def isReading (modifier : Value) : Bool := (fieldOr modifier "name" .null).isOneOf ["view", "pure", "constant"]

/-- A modifier or the mutability of a function says that it cannot change state. -/
def readOnly (function : Value) : Bool :=
  (itemsOf (fieldOr function "modifiers" (.list []))).any isReading
    || (fieldOr function "stateMutability" .null).isOneOf ["view", "pure"]

/-- The look at one modifier, which is the last one if it says that the function cannot change state. -/
def look (modifier : Value) (_ : Option Bool × PUnit) : Outcome (ForInStep (Option Bool × PUnit)) := do
  if (← modifier.get "name").isOneOf ["view", "pure", "constant"] then return .done (some true, ())
  else return .yield (none, ())

private theorem forIn_look {modifiers : List Value} (objects : ∀ modifier ∈ modifiers, modifier.isObject) :
    forIn modifiers (none, ()) look = .ok (if modifiers.any isReading then some true else none, ()) := by
  induction modifiers with
  | nil => rfl
  | cons modifier rest ih =>
    obtain ⟨object, others⟩ := forall_mem_cons.mp objects
    rw [forIn_cons, look, get_of_isObject object, ok_bind, ← isReading, any_cons]
    cases isReading modifier with
    | true => rfl
    | false => exact ih others

private theorem isReadOnly_eq (known : isKind function "FunctionDefinition") (legible : Legible function) :
    isReadOnly function = .ok (readOnly function) := by
  have object := isObject_of_isKind known
  have listed := legible.modifiers known
  unfold isReadOnly readOnly
  rw [getOr_of_isObject object, ok_bind]
  generalize fieldOr function "modifiers" (.list []) = modifiers at listed ⊢
  cases modifiers with
  | list items =>
    change (forIn items (none, ()) look >>= _) = _
    rw [forIn_look (all_eq_true.mp listed), ok_bind, itemsOf]
    cases items.any isReading with
    | true => rfl
    | false =>
      rw [get_of_isObject object]
      rfl
  | _ => contradiction

/-! ## Calls and changes of state -/

private theorem exists_isExternalCall {tree node : Value} (legible : Throughout Legible tree)
    (member : node ∈ nodes tree) : ∃ b, isExternalCall node = .ok b := by
  unfold isExternalCall
  split
  next called =>
    have callee := (legible node member).callee called
    simp only [hasKind_of_isObject callee, ok_bind, getOr_of_isObject callee]
    split
    next access =>
      split
      next => exact ⟨true, rfl⟩
      next =>
        have inside := mem_nodes_of_field member access rfl
        have base := (legible _ inside).parts ("MemberAccess", "expression") (by simp [nodeFields]) access
        rw [isLikelyExternal, getOr_of_isObject callee, ok_bind, hasKind_of_isObject base]
        exact ⟨_, rfl⟩
    next => exact ⟨false, rfl⟩
  next => exact ⟨false, rfl⟩

theorem isKind_of_isExternalCall {node : Value} (external : isExternalCall node = .ok true) :
    isKind node "FunctionCall" := by
  unfold isExternalCall at external
  split at external
  next called => exact called
  next => cases external

mutual

/-- It can be told whether a legible node gives access to a name. -/
theorem exists_isNamedAccess : (v : Value) → v.isObject → Throughout Legible v → ∃ b, isNamedAccess v = .ok b
  | .object fields, _, legible => by
    have field (key kind : String) (known : isKind (.object fields) kind) (member : (kind, key) ∈ nodeFields) :
        ∃ b, isNamedField key fields = .ok b := by
      refine exists_isNamedField key fields fun v found => ?_
      have object := (legible.own rfl).parts (kind, key) member known
      rw [fieldOr, found] at object
      exact ⟨object, legible.of_lookup found⟩
    rw [isNamedAccess]
    split
    next => exact ⟨true, rfl⟩
    next =>
      split
      next known => exact field "baseExpression" "IndexAccess" known (by simp [nodeFields])
      next =>
        split
        next known => exact field "expression" "MemberAccess" known (by simp [nodeFields])
        next => exact ⟨false, rfl⟩

private theorem exists_isNamedField (key : String) : (fields : List (String × Value)) →
    (∀ v, fields.lookup key = some v → v.isObject ∧ Throughout Legible v) →
      ∃ b, isNamedField key fields = .ok b
  | [], _ => ⟨false, rfl⟩
  | (name, v) :: rest, found => by
    rw [isNamedField]
    split
    next same =>
      obtain ⟨object, legible⟩ := found v (by simp [same])
      exact exists_isNamedAccess v object legible
    next differs =>
      refine exists_isNamedField key rest fun v later => found v ?_
      rw [lookup_cons, beq_false_of_ne (Ne.symm differs)]
      exact later

end

/-- It can be told whether a legible node changes the state. -/
theorem exists_isStateChange {node : Value} (object : node.isObject) (legible : Throughout Legible node) :
    ∃ b, isStateChange node = .ok b := by
  have field (key kind : String) (known : isKind node kind) (member : (kind, key) ∈ nodeFields) :
      ∃ b, isNamedAccess (fieldOr node key (.object [])) = .ok b :=
    have inner := (legible.own object).parts (kind, key) member known
    exists_isNamedAccess _ inner (legible.of_field legible_empty key)
  unfold isStateChange
  split
  next known => exact field "left" "Assignment" known (by simp [nodeFields])
  next =>
    split
    next known =>
      split
      next => exact field "subExpression" "UnaryOperation" known (by simp [nodeFields])
      next => exact ⟨false, rfl⟩
    next => exact ⟨false, rfl⟩

/-- The tree holds a call of code outside the contract. -/
def Calls (tree : Value) : Prop := ∃ node ∈ nodes tree, isExternalCall node = .ok true

/-- The tree holds a change of state. -/
def Changes (tree : Value) : Prop := ∃ node ∈ nodes tree, isStateChange node = .ok true

/-! ## Occurrences in the statements of a body -/

/-- The nodes of some statements that have a property, each with the position of its statement. -/
def placed (ask : Value → Outcome Bool) (statements : List Value) : List Occurrence :=
  statements.zipIdx.flatMap fun place =>
    ((nodes place.1).filter fun node => (ask node).holds).map fun node => ⟨node, place.2⟩

/-- Placed are the nodes that answer yes, each with the number of its statement. -/
theorem mem_placed {ask : Value → Outcome Bool} {occurrence : Occurrence} :
    occurrence ∈ placed ask statements ↔
      ∃ statement, statements[occurrence.statement]? = some statement ∧ occurrence.node ∈ nodes statement ∧
        ask occurrence.node = .ok true := by
  obtain ⟨node, index⟩ := occurrence
  simp only [placed, mem_flatMap, mem_map, mem_filter, holds_iff, Prod.exists,
    mem_zipIdx_iff_getElem?]
  constructor
  · rintro ⟨statement, position, found, inner, ⟨member, yes⟩, same⟩
    cases same
    exact ⟨statement, found, member, yes⟩
  · rintro ⟨statement, found, member, yes⟩
    exact ⟨statement, index, found, node, ⟨member, yes⟩, rfl⟩

/-- The calls and the changes of state in a statement can be collected. -/
def Searched (statement : Value) : Prop :=
  (∃ calls, externalCalls statement = .ok calls) ∧ ∃ changes, stateChanges statement = .ok changes

private theorem occurrences_of_searched (searched : ∀ statement ∈ statements, Searched statement) :
    occurrences statements = .ok (placed isExternalCall statements, placed isStateChange statements) := by
  have each : ∀ place ∈ statements.zipIdx,
      (do
        let calls ← externalCalls place.1
        let changes ← stateChanges place.1
        return (calls.map fun node => Occurrence.mk node place.2,
          changes.map fun node => Occurrence.mk node place.2) : Outcome (List Occurrence × List Occurrence)) =
      .ok (((nodes place.1).filter fun node => (isExternalCall node).holds).map fun node => ⟨node, place.2⟩,
        ((nodes place.1).filter fun node => (isStateChange node).holds).map fun node => ⟨node, place.2⟩) := by
    intro place member
    obtain ⟨⟨calls, one⟩, changes, two⟩ := searched place.1 (fst_mem_of_mem_zipIdx member)
    rw [one, ok_bind, two, ok_bind, ← filterM_eq_filter one, ← filterM_eq_filter two]
    rfl
  rw [occurrences, mapM_eq_ok each, ok_bind, map_map, map_map]
  rfl

/-- A legible statement can be searched. -/
theorem searched_of_legible (legible : Throughout Legible statement) : Searched statement := by
  constructor
  · exact ⟨_, filterM_eq_ok fun node inside => eq_ok_holds (exists_isExternalCall legible inside)⟩
  · refine ⟨_, filterM_eq_ok fun node inside => eq_ok_holds ?_⟩
    exact exists_isStateChange (isObject_of_mem_nodes inside) (legible.below inside)

private theorem searched_of_wellShaped (shaped : WellShaped statement) : Searched statement :=
  searched_of_legible shaped.legible

private theorem callsBeforeChanges_eq_nil_iff :
    callsBeforeChanges calls changes = [] ↔
      ∀ call ∈ calls, ∀ change ∈ changes, ¬ call.statement < change.statement := by
  simp [callsBeforeChanges]

theorem mem_of_mem_callsBeforeChanges
    (member : (call, change) ∈ callsBeforeChanges calls changes) : call ∈ calls ∧ change ∈ changes := by
  obtain ⟨other, isCall, found⟩ := mem_filterMap.mp member
  obtain ⟨later, first, same⟩ := Option.map_eq_some_iff.mp found
  cases same
  exact ⟨isCall, mem_of_find?_eq_some first⟩

/-- There are no suspects exactly if no statement with a call comes before one with a change. -/
theorem placed_in_order_iff :
    callsBeforeChanges (placed isExternalCall statements) (placed isStateChange statements) = [] ↔
      statements.Pairwise fun earlier later => Calls earlier → ¬ Changes later := by
  rw [callsBeforeChanges_eq_nil_iff, pairwise_iff_getElem]
  constructor
  · rintro none i j first second before ⟨call, inCall, external⟩ ⟨change, inChange, changing⟩
    refine none ⟨call, i⟩ ?_ ⟨change, j⟩ ?_ before
    · exact mem_placed.mpr ⟨_, getElem?_eq_getElem first, inCall, external⟩
    · exact mem_placed.mpr ⟨_, getElem?_eq_getElem second, inChange, changing⟩
  · intro ordered call isCall change isChange before
    obtain ⟨earlier, first, inCall, external⟩ := mem_placed.mp isCall
    obtain ⟨later, second, inChange, changing⟩ := mem_placed.mp isChange
    obtain ⟨bound, rfl⟩ := List.getElem?_eq_some_iff.mp first
    obtain ⟨bound', rfl⟩ := List.getElem?_eq_some_iff.mp second
    exact ordered _ _ bound bound' before ⟨_, inCall, external⟩ ⟨_, inChange, changing⟩

/-! ## Each call with the change that follows it -/

def changesAfter (statements : List Value) (position : Nat) : Bool :=
  (statements.drop (position + 1)).any fun statement => (nodes statement).any fun node => (isStateChange node).holds

private theorem changesAfter_iff {position : Nat} :
    changesAfter statements position ↔
      ∃ later statement, position < later ∧ statements[later]? = some statement ∧ Changes statement := by
  simp only [changesAfter, any_eq_true, mem_iff_getElem?, getElem?_drop, holds_iff]
  constructor
  · rintro ⟨statement, ⟨index, known⟩, node, ⟨place, inside⟩, changing⟩
    exact ⟨position + 1 + index, statement, by omega, known, node, mem_of_getElem? inside, changing⟩
  · rintro ⟨later, statement, after, known, node, inside, changing⟩
    refine ⟨statement, ⟨later - (position + 1), ?_⟩, node, mem_iff_getElem?.mp inside, changing⟩
    rwa [Nat.add_sub_cancel' after]

/-- The change is the first one of the first statement after that of the call that has any. -/
structure FirstAfter (statements : List Value) (call change : Occurrence) : Prop where
  later : call.statement < change.statement
  /-- It is a change of state, and none comes before it in its statement. -/
  first : ∃ statement before after, statements[change.statement]? = some statement ∧
    nodes statement = before ++ change.node :: after ∧ isStateChange change.node = .ok true ∧
    ∀ node ∈ before, isStateChange node ≠ .ok true
  /-- No statement between the two changes state. -/
  earliest : ∀ position, call.statement < position → position < change.statement →
    ∀ statement, statements[position]? = some statement → ¬ Changes statement

private theorem find?_placed (ask : Value → Outcome Bool) (statements : List Value) (position : Nat) :
    (placed ask statements).find? (fun occurrence => decide (position < occurrence.statement)) =
      statements.zipIdx.findSome? fun place =>
        if position < place.2 then
          ((nodes place.1).find? fun node => (ask node).holds).map fun node => ⟨node, place.2⟩
        else none := by
  rw [placed, find?_flatMap]
  congr 1
  funext place
  rw [find?_map]
  split
  next after => simp [after, find?_filter]
  next notAfter => simp [notAfter]

private theorem find?_placed_isSome (statements : List Value) (position : Nat) :
    ((placed isStateChange statements).find? fun change => decide (position < change.statement)).isSome =
      changesAfter statements position := by
  rw [Bool.eq_iff_iff, find?_isSome, changesAfter_iff]
  constructor
  · rintro ⟨change, member, after⟩
    obtain ⟨statement, known, inside, changing⟩ := mem_placed.mp member
    exact ⟨change.statement, statement, of_decide_eq_true after, known, change.node, inside, changing⟩
  · rintro ⟨later, statement, after, known, node, inside, changing⟩
    exact ⟨⟨node, later⟩, mem_placed.mpr ⟨statement, known, inside, changing⟩, decide_eq_true after⟩

/-- Statements are listed by their positions. -/
theorem mem_earlier {earlier later : List (Value × Nat)} {place : Value × Nat}
    (places : statements.zipIdx = earlier ++ place :: later) {position : Nat}
    (known : statements[position]? = some statement) (before : position < place.2) :
    (statement, position) ∈ earlier := by
  have ordered : statements.zipIdx.Pairwise fun one other => one.2 < other.2 := by
    rw [← pairwise_map, zipIdx_map_snd]
    exact pairwise_lt_range'
  have member : (statement, position) ∈ statements.zipIdx := mem_zipIdx_iff_getElem?.mpr known
  rw [places, pairwise_append, pairwise_cons] at ordered
  rw [places, mem_append, mem_cons] at member
  rcases member with inEarlier | rfl | inLater
  · exact inEarlier
  · exact absurd before (Nat.lt_irrefl _)
  · exact absurd before (Nat.lt_asymm (ordered.2.1.1 _ inLater))

private theorem firstAfter_of_find?
    (found : (placed isStateChange statements).find? (fun change => decide (call.statement < change.statement)) =
      some change) : FirstAfter statements call change := by
  rw [find?_placed] at found
  obtain ⟨earlier, ⟨statement, position⟩, later, places, here, none⟩ := findSome?_eq_some_iff.mp found
  split at here
  next after =>
    obtain ⟨node, first, rfl⟩ := Option.map_eq_some_iff.mp here
    obtain ⟨changing, before, behind, whole, unchanged⟩ := find?_eq_some_iff_append.mp first
    refine ⟨after, ⟨statement, before, behind, ?_, whole, holds_iff.mp changing, ?_⟩, ?_⟩
    · have listed : (statement, position) ∈ statements.zipIdx := by simp [places]
      exact mem_zipIdx_iff_getElem?.mp listed
    · intro node member changing
      simpa [holds_iff.mpr changing] using unchanged node member
    · intro between afterCall beforeChange other known ⟨change, inside, changing⟩
      have silent := none _ (mem_earlier places known beforeChange)
      rw [if_pos afterCall, Option.map_eq_none_iff, find?_eq_none] at silent
      exact silent change inside (holds_iff.mpr changing)
  next => contradiction

/-- The calls that are reported are those with a change in a later statement, in their order. -/
theorem map_fst_callsBeforeChanges (calls : List Occurrence) (statements : List Value) :
    (callsBeforeChanges calls (placed isStateChange statements)).map Prod.fst =
      calls.filter fun call => changesAfter statements call.statement := by
  simp only [callsBeforeChanges, ← find?_placed_isSome]
  induction calls with
  | nil => rfl
  | cons call rest ih =>
    rw [filterMap_cons, filter_cons]
    cases (placed isStateChange statements).find? fun change => decide (call.statement < change.statement) with
    | none => exact ih
    | some change => exact congrArg (call :: ·) ih

private theorem firstAfter_of_mem
    (member : (call, change) ∈ callsBeforeChanges calls (placed isStateChange statements)) :
    FirstAfter statements call change := by
  obtain ⟨other, _, found⟩ := mem_filterMap.mp member
  obtain ⟨later, first, same⟩ := Option.map_eq_some_iff.mp found
  cases same
  exact firstAfter_of_find? first

/-! ## Functions -/

/-- Suspects are the calls before a change of state. -/
theorem suspects_of_searched (changing : isReadOnly function = .ok false)
    (block : isKind (functionBody function) "Block")
    (listed : (fieldOr (functionBody function) "statements" (.list [])).elements = .ok statements)
    (searched : ∀ statement ∈ statements, Searched statement) :
    suspects function =
      .ok (callsBeforeChanges (placed isExternalCall statements) (placed isStateChange statements)) := by
  have object := isObject_of_body block
  have inner := isObject_of_isKind block
  rw [suspects, changing, ok_bind, getOr_of_isObject object, ← functionBody]
  simp only [Bool.false_eq_true, if_false, ok_bind]
  rw [truthy_of_isKind block, hasKind_of_isObject inner, ok_bind, block, getOr_of_isObject inner, ok_bind, listed]
  change (occurrences statements >>= _) = _
  rw [occurrences_of_searched searched]
  rfl

/-- The calls of a function before a change of state, in a function that has the expected shape. -/
def suspectsIn (function : Value) : List (Occurrence × Occurrence) :=
  let statements := blockStatements (functionBody function)
  if readOnly function then []
  else if isKind (functionBody function) "Block" then
    callsBeforeChanges (placed isExternalCall statements) (placed isStateChange statements)
  else []

private theorem suspects_eq (known : isKind function "FunctionDefinition")
    (legible : Throughout Legible function) : suspects function = .ok (suspectsIn function) := by
  have object := isObject_of_isKind known
  have own := legible.own object
  have reading := isReadOnly_eq known own
  rw [suspectsIn]
  cases same : readOnly function with
  | true =>
    rw [suspects, reading, same]
    rfl
  | false =>
    cases block : isKind (functionBody function) "Block" with
    | false =>
      rw [suspects, reading, same, ok_bind, getOr_of_isObject object, ← functionBody]
      simp only [Bool.false_eq_true, if_false, ok_bind]
      cases present : (functionBody function).truthy with
      | false => rfl
      | true =>
        rw [hasKind_of_isObject (own.body known present), block]
        rfl
    | true =>
      have legible : Throughout Legible (functionBody function) := legible.of_field legible_empty "body"
      have own := legible.own (isObject_of_isKind block)
      refine suspects_of_searched (same ▸ reading) block ?_ fun statement member => ?_
      · rw [own.fieldOr_statements block]
        rfl
      · exact searched_of_legible (legible.below (own.mem_nodes_of_statement block member))

private theorem suspectsIn_ne_nil_iff :
    suspectsIn function ≠ [] ↔
      readOnly function = false ∧ isKind (functionBody function) "Block" ∧
        ∃ earlier later, [earlier, later].Sublist (blockStatements (functionBody function)) ∧
          Calls earlier ∧ Changes later := by
  unfold suspectsIn
  cases readOnly function with
  | true => simp
  | false =>
    cases isKind (functionBody function) "Block" with
    | false => simp
    | true =>
      simp only [Bool.false_eq_true, if_false, if_true, true_and, ne_eq, placed_in_order_iff,
        pairwise_iff_forall_sublist]
      simp

/-- The nodes of a suspect are nodes of the function. -/
theorem mem_of_mem_suspectsIn (object : function.isObject) (legible : Throughout Legible function)
    (member : (call, change) ∈ suspectsIn function) :
    call.node ∈ nodes function ∧ isExternalCall call.node = .ok true ∧ change.node ∈ nodes function := by
  unfold suspectsIn at member
  split at member
  next => contradiction
  next =>
    split at member
    next block =>
      have inside {ask : Value → Outcome Bool} {occurrence : Occurrence}
          (member : occurrence ∈ placed ask (blockStatements (functionBody function))) :
          occurrence.node ∈ nodes function ∧ ask occurrence.node = .ok true := by
        obtain ⟨statement, found, deep, yes⟩ := mem_placed.mp member
        have body := mem_nodes_of_field (mem_nodes_self object) block rfl
        have inBody := (legible _ body).mem_nodes_of_statement block (mem_of_getElem? found)
        exact ⟨mem_nodes_trans (mem_nodes_trans body inBody) deep, yes⟩
      obtain ⟨isCall, isChange⟩ := mem_of_mem_callsBeforeChanges member
      obtain ⟨inCall, external⟩ := inside isCall
      exact ⟨inCall, external, (inside isChange).1⟩
    next => contradiction

/-! ## Findings -/

/-- The finding is one of a call before a change of state, at the place of the function. -/
def IsAbout (source file : String) (function : Value) (finding : Finding) : Prop :=
  finding.kind = "reentrancy" ∧
    ∃ place, nodeLocation function source file = .ok place ∧ finding.location = some place

section Function

variable {settings : DetectorSettings} {source file : String} {function call change : Value} {finding : Finding}

/-- What a finding about a call before a change of state is made of, and what it shows of that. -/
structure Composed (settings : DetectorSettings) (source file : String) (function call change : Value)
    (finding : Finding) (callPlace changePlace place : Location) : Prop where
  atCall : nodeLocation call source file = .ok callPlace
  atChange : nodeLocation change source file = .ok changePlace
  atFunction : nodeLocation function source file = .ok place
  accepted : settings.Accepted
  kind : finding.kind = "reentrancy"
  location : finding.location = some place
  excerpt : finding.snippet = some (snippet source (firstMarked place callPlace.lineStart changePlace.lineStart)
    (some (lastMarked place callPlace.lineStart changePlace.lineStart)) 1)
  callLine : fieldOr finding.metadata "external_call_line" .null = .int callPlace.lineStart
  changeLine : fieldOr finding.metadata "state_change_line" .null = .int changePlace.lineStart

/-- A report is composed from the places of the function, the call and the change. -/
theorem composed_of_report (done : report settings function source file call change = .ok finding) :
    ∃ callPlace changePlace place,
      Composed settings source file function call change finding callPlace changePlace place := by
  obtain ⟨callPlace, first, done⟩ := bind_eq_ok.mp done
  obtain ⟨changePlace, second, done⟩ := bind_eq_ok.mp done
  obtain ⟨place, whole, done⟩ := bind_eq_ok.mp done
  obtain ⟨name, _, done⟩ := bind_eq_ok.mp done
  obtain ⟨details, _, done⟩ := bind_eq_ok.mp done
  obtain ⟨kind, location⟩ := Profile.report_keeps done
  obtain ⟨excerpt, facts⟩ := Profile.report_shows done
  refine ⟨callPlace, changePlace, place, first, second, whole, Profile.accepted_of_report done, kind, location,
    excerpt, ?_, ?_⟩
  · rw [facts rfl]
    rfl
  · rw [facts rfl]
    rfl

theorem isAbout_of_report (done : report settings function source file call change = .ok finding) :
    IsAbout source file function finding := by
  obtain ⟨_, _, place, composed⟩ := composed_of_report done
  exact ⟨composed.kind, place, composed.atFunction, composed.location⟩

/-- The finding tells of a call before a change of state: it is about the function and gives the lines of both. -/
structure TellsOf (source file : String) (function call change : Value) (finding : Finding) : Prop where
  about : IsAbout source file function finding
  callLine : ∃ place, nodeLocation call source file = .ok place ∧
    fieldOr finding.metadata "external_call_line" .null = .int place.lineStart
  changeLine : ∃ place, nodeLocation change source file = .ok place ∧
    fieldOr finding.metadata "state_change_line" .null = .int place.lineStart

private theorem tellsOf_of_report (done : report settings function source file call change = .ok finding) :
    TellsOf source file function call change finding := by
  obtain ⟨callPlace, changePlace, _, composed⟩ := composed_of_report done
  exact ⟨isAbout_of_report done, ⟨callPlace, composed.atCall, composed.callLine⟩,
    changePlace, composed.atChange, composed.changeLine⟩

private theorem exists_callType (external : isExternalCall call = .ok true) :
    ∃ details, callType call = .ok details := by
  have called := isKind_of_isExternalCall external
  rw [isExternalCall, if_pos called] at external
  obtain ⟨access, known, _⟩ := bind_eq_ok.mp external
  rw [callType, getOr_of_isObject (isObject_of_isKind called), ok_bind, known, ok_bind]
  cases access with
  | false => exact ⟨_, rfl⟩
  | true => exact ⟨_, getOr_of_isObject (isObject_of_hasKind known) _ _⟩

/-- A finding can be made exactly if the places of all three nodes can be read and the settings demand no severity
that there is not. -/
theorem exists_report_iff (object : function.isObject) (external : isExternalCall call = .ok true)
    (inner : change.isObject) :
    (∃ finding, report settings function source file call change = .ok finding) ↔
      settings.Accepted ∧ isReadable function ∧ isReadable call ∧ isReadable change := by
  have called := isObject_of_isKind (isKind_of_isExternalCall external)
  rw [← exists_nodeLocation_iff object source file, ← exists_nodeLocation_iff called source file,
    ← exists_nodeLocation_iff inner source file]
  constructor
  · rintro ⟨finding, done⟩
    obtain ⟨callPlace, changePlace, place, composed⟩ := composed_of_report done
    exact ⟨composed.accepted, ⟨place, composed.atFunction⟩, ⟨callPlace, composed.atCall⟩, changePlace,
      composed.atChange⟩
  · rintro ⟨accepted, ⟨place, whole⟩, ⟨callPlace, first⟩, changePlace, second⟩
    obtain ⟨details, through⟩ := exists_callType external
    rw [report, first, ok_bind, second, ok_bind, whole, ok_bind, getOr_of_isObject object, ok_bind, through, ok_bind]
    exact Profile.exists_report accepted profile _

/-- The analysis of a function succeeds exactly if there is nothing to report or a finding can be made for each
suspect. -/
theorem exists_analyzeFunction_iff (object : function.isObject) {pairs : List (Occurrence × Occurrence)}
    (known : suspects function = .ok pairs) (external : ∀ suspect ∈ pairs, isExternalCall suspect.1.node = .ok true)
    (inner : ∀ suspect ∈ pairs, suspect.2.node.isObject) :
    (∃ found, analyzeFunction settings source file function = .ok found) ↔
      pairs = [] ∨ settings.Accepted ∧ isReadable function ∧
        ∀ suspect ∈ pairs, isReadable suspect.1.node ∧ isReadable suspect.2.node := by
  have each (suspect : Occurrence × Occurrence) (member : suspect ∈ pairs) :
      (∃ finding, report settings function source file suspect.1.node suspect.2.node = .ok finding) ↔
        settings.Accepted ∧ isReadable function ∧ isReadable suspect.1.node ∧ isReadable suspect.2.node :=
    exists_report_iff object (external suspect member) (inner suspect member)
  rw [analyzeFunction, known, ok_bind, exists_mapM_iff]
  constructor
  · intro made
    cases pairs with
    | nil => exact .inl rfl
    | cons first rest =>
      obtain ⟨accepted, own, _⟩ := (each first mem_cons_self).mp (made first mem_cons_self)
      refine .inr ⟨accepted, own, fun suspect member => ?_⟩
      exact ((each suspect member).mp (made suspect member)).2.2
  · rintro (rfl | ⟨accepted, own, readable⟩) suspect member
    · contradiction
    · exact (each suspect member).mpr ⟨accepted, own, readable suspect member⟩

/-- The findings in a function, one for each suspect. -/
theorem exists_analyzeFunction_of_legible (accepted : settings.Accepted) (source file : String)
    (known : isKind function "FunctionDefinition") (legible : Throughout Legible function) :
    ∃ found, analyzeFunction settings source file function = .ok found ∧
      found.isEmpty = (suspectsIn function).isEmpty ∧
        ∀ finding ∈ found, IsAbout source file function finding := by
  have each : ∀ suspect ∈ suspectsIn function,
      ∃ finding, report settings function source file suspect.1.node suspect.2.node = .ok finding := by
    intro suspect member
    have object := isObject_of_isKind known
    obtain ⟨inCall, external, inChange⟩ := mem_of_mem_suspectsIn object legible member
    refine (exists_report_iff object external (isObject_of_mem_nodes inChange)).mpr ⟨accepted, ?_, ?_, ?_⟩
    · exact (legible.own object).position
    · exact (legible _ inCall).position
    · exact (legible _ inChange).position
  obtain ⟨found, done⟩ := exists_mapM each
  refine ⟨found, by rw [analyzeFunction, suspects_eq known legible]; exact done, isEmpty_of_mapM done, ?_⟩
  intro finding member
  obtain ⟨suspect, _, reported⟩ := mem_of_mapM done member
  exact isAbout_of_report reported

private theorem exists_analyzeFunction (accepted : settings.Accepted) (source file : String)
    (known : isKind function "FunctionDefinition") (shaped : WellShaped function) :
    ∃ found, analyzeFunction settings source file function = .ok found ∧
      found.isEmpty = (suspectsIn function).isEmpty ∧ ∀ finding ∈ found, IsAbout source file function finding :=
  exists_analyzeFunction_of_legible accepted source file known shaped.legible

end Function

/-- In a compiled file whose trees are as the compiler emits them the detector does not fail. -/
theorem exists_detect {settings : DetectorSettings} (accepted : settings.Accepted) {unit : Solidity.Unit}
    (emitted : ∀ contract ∈ unit.contracts, Throughout Emitted contract.ast) :
    ∃ found, detect settings unit = .ok found := by
  have each : ∀ contract ∈ unit.contracts, ∀ function ∈ functions contract.ast,
      ∃ own, analyzeFunction settings unit.source unit.file function = .ok own := by
    intro contract known function member
    obtain ⟨inside, kind⟩ := mem_functions.mp member
    obtain ⟨own, done, _⟩ := exists_analyzeFunction_of_legible accepted unit.source unit.file kind
      ((emitted contract known).legible.below inside)
    exact ⟨own, done⟩
  obtain ⟨found, done, _⟩ := exists_overFunctions each
  exact ⟨found, done⟩

/-- In a compiled file whose trees have the shape that the compiler gives them, something is reported about a
function exactly if the function can change state and one of the statements of its body that holds a call, at any
depth, comes before another one that holds a change of state. -/
theorem order_of_statements_decides {settings : DetectorSettings} (accepted : settings.Accepted)
    {unit : Solidity.Unit} (shaped : ∀ contract ∈ unit.contracts, WellShaped contract.ast) :
    ∃ found, detect settings unit = .ok found ∧
      ∀ contract ∈ unit.contracts, ∀ function ∈ functions contract.ast,
        ∃ own, analyzeFunction settings unit.source unit.file function = .ok own ∧ own <:+: found ∧
          (∀ finding ∈ own, IsAbout unit.source unit.file function finding) ∧
          (own ≠ [] ↔
            readOnly function = false ∧ isKind (functionBody function) "Block" ∧
              ∃ earlier later, [earlier, later].Sublist (blockStatements (functionBody function)) ∧
                Calls earlier ∧ Changes later) := by
  have each : ∀ contract ∈ unit.contracts, ∀ function ∈ functions contract.ast,
      ∃ own, analyzeFunction settings unit.source unit.file function = .ok own ∧
        own.isEmpty = (suspectsIn function).isEmpty ∧
        ∀ finding ∈ own, IsAbout unit.source unit.file function finding := by
    intro contract member function inside
    obtain ⟨inside, known⟩ := mem_functions.mp inside
    exact exists_analyzeFunction accepted unit.source unit.file known ((shaped contract member).below inside)
  obtain ⟨found, done, parts⟩ := exists_overFunctions fun contract member function inside =>
    (each contract member function inside).imp fun own known => known.1
  refine ⟨found, done, fun contract member function inside => ?_⟩
  obtain ⟨own, analyzed, part⟩ := parts contract member function inside
  obtain ⟨same, done, empty, about⟩ := each contract member function inside
  obtain rfl := Except.ok.inj (done.symm.trans analyzed)
  refine ⟨same, analyzed, part, about, ?_⟩
  rw [← suspectsIn_ne_nil_iff, ne_eq, ne_eq, ← List.isEmpty_iff, ← List.isEmpty_iff, empty]

/-- In a function that can change state, whose body is a block with statements that can be searched, one finding is
made for each call with a change of state in a later statement of the body, in the order of the calls, and none for
other calls. The change that it tells of is the first one in the first such statement. The analysis fails only if there
is something to report and a place cannot be read or the settings demand a severity that there is not. -/
theorem first_later_change_reported (settings : DetectorSettings) (source file : String) {function : Value}
    {statements : List Value} (changing : isReadOnly function = .ok false)
    (block : isKind (functionBody function) "Block")
    (listed : (fieldOr (functionBody function) "statements" (.list [])).elements = .ok statements)
    (searched : ∀ statement ∈ statements, Searched statement) :
    ∃ pairs : List (Occurrence × Occurrence),
      pairs.map Prod.fst =
        (placed isExternalCall statements).filter (fun call => changesAfter statements call.statement) ∧
      (∀ pair ∈ pairs, FirstAfter statements pair.1 pair.2) ∧
      (∀ found, analyzeFunction settings source file function = .ok found →
        List.Forall₂ (fun pair => TellsOf source file function pair.1.node pair.2.node) pairs found) ∧
      ((∃ found, analyzeFunction settings source file function = .ok found) ↔
        pairs = [] ∨ settings.Accepted ∧ isReadable function ∧
          ∀ pair ∈ pairs, isReadable pair.1.node ∧ isReadable pair.2.node) := by
  have known := suspects_of_searched changing block listed searched
  refine ⟨_, map_fst_callsBeforeChanges _ _, fun pair => firstAfter_of_mem, ?_,
    exists_analyzeFunction_iff (isObject_of_body block) known (fun pair member => ?_) fun pair member => ?_⟩
  · intro found done
    rw [analyzeFunction, known, ok_bind] at done
    exact (forall₂_of_mapM done).imp fun pair finding reported => tellsOf_of_report reported
  · obtain ⟨statement, _, _, external⟩ := mem_placed.mp (mem_of_mem_callsBeforeChanges member).1
    exact external
  · obtain ⟨statement, _, inside, _⟩ := mem_placed.mp (mem_of_mem_callsBeforeChanges member).2
    exact isObject_of_mem_nodes inside

/-- Two calls and a change between them in the first statement, and two changes in the last. -/
def busy : List Value := [
  block [alone (memberCall "a" "call"), assigned "x", alone (memberCall "b" "send")],
  alone (named "y"),
  block [assigned "x", assigned "z"]]

/-- Both calls are reported, and nothing else is. -/
theorem first_later_change_reported_busy :
    (∀ statement ∈ busy, Searched statement) ∧
      ∃ found, analyzeFunction {} "" "a.sol" (functionOf busy) = .ok found ∧ found.length = 2 := by
  have changing : isReadOnly (functionOf busy) = .ok false := rfl
  have shaped : ∀ statement ∈ busy, WellShaped statement := by decide
  have searched : ∀ statement ∈ busy, Searched statement := fun statement member =>
    searched_of_wellShaped (shaped statement member)
  obtain ⟨suspects, calls, first, told, succeeds⟩ :=
    first_later_change_reported {} "" "a.sol" changing rfl rfl searched
  have two : suspects.map Prod.fst = [⟨memberCall "a" "call", 0⟩, ⟨memberCall "b" "send", 0⟩] := calls.trans rfl
  have readable : ∀ suspect ∈ suspects, isReadable suspect.1.node ∧ isReadable suspect.2.node := by
    intro suspect member
    have called : suspect.1 ∈ suspects.map Prod.fst := mem_map_of_mem member
    rw [two] at called
    obtain ⟨statement, before, after, known, whole, _⟩ := (first suspect member).first
    refine ⟨?_, (shaped statement (mem_of_getElem? known) _ (by simp [whole])).position⟩
    obtain same | same := mem_pair.mp called
    · rw [same]
      rfl
    · rw [same]
      rfl
  obtain ⟨found, done⟩ := succeeds.mpr (.inr ⟨DetectorSettings.accepted_default, rfl, readable⟩)
  refine ⟨searched, found, done, ?_⟩
  rw [← (told found done).length_eq, ← length_map Prod.fst, two]
  rfl

/-! ## A call and a change in the body, and in a block of the body -/

/-- A call and then a change of state. -/
def exposed : List Value :=
  [alone (memberCall "a" "call"), alone (node "Assignment" [("left", named "x"), ("right", named "y")])]

/-- The change after the call is reported. -/
theorem order_of_statements_decides_sample :
    WellShaped (functionOf exposed) ∧ ∃ found finding, detect {} (fileOf (functionOf exposed)) = .ok found ∧
      finding ∈ found ∧ finding.kind = "reentrancy" := by
  have shaped : WellShaped (functionOf exposed) := by decide
  obtain ⟨found, done, parts⟩ :=
    order_of_statements_decides DetectorSettings.accepted_default (wellShaped_fileOf shaped)
  obtain ⟨own, _, part, about, reported⟩ := parts _ (mem_singleton_self _) (functionOf exposed) (.head _)
  obtain ⟨finding, member⟩ := exists_mem_of_ne_nil own <| reported.mpr
    ⟨rfl, rfl, _, _, List.Sublist.refl _, ⟨memberCall "a" "call", .tail _ (.head _), rfl⟩,
      ⟨_, .tail _ (.head _), rfl⟩⟩
  exact ⟨shaped, found, finding, done, part.subset member, (about finding member).1⟩

/-- The same statements in a block of their own are not reported. -/
theorem wrapped_order_not_reported :
    (∃ finding, detect {} (fileOf (functionOf exposed)) = .ok [finding]) ∧
      detect {} (fileOf (functionOf [block exposed])) = .ok [] :=
  ⟨⟨_, rfl⟩, rfl⟩

end ContractLint.Detector.Reentrancy
