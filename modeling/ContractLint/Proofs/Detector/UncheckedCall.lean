import ContractLint.Detector.UncheckedCall
import ContractLint.Proofs.Detector.Basic
import ContractLint.Proofs.Entries
import ContractLint.Proofs.Solidity.Shape

/-! # Which calls are reported as ignored

A call whose result is discarded is a statement of its own, at any depth of the body of a function. The
detector does not look at that statement but at the one of the body that it stands in, and takes every call
inside a condition for checked, those in its branches included (`discarded_calls_by_statement`). For the same reason a
call that `require` checks counts as ignored (`required_calls_reported`). A declaration that keeps a result is judged
by the name of its first variable, and the analysis fails if that is left out (`detect_failsIff`).
-/

namespace ContractLint.Detector.UncheckedCall

open List Solidity Outcome

variable {settings : DetectorSettings} {statement body call tree function : Value} {source file : String}
  {index : Nat} {fields : List (String × Value)} {calls : List PlacedCall} {field : String × Value}
  {items statements : List Value}

/-- The node is a call of a member of an address that reports success. -/
def isCall (node : Value) : Bool :=
  let callee := fieldOr node "expression" (.object [])
  isKind node "FunctionCall" && isKind callee "MemberAccess"
    && (fieldOr callee "memberName" (.text "")).isOneOf callMembers

/-- A statement of the tree consists of a low-level call alone. -/
def Discards (tree call : Value) : Prop :=
  isCall call ∧ ∃ statement ∈ nodes tree,
    isKind statement "ExpressionStatement" ∧ fieldOr statement "expression" .null = call

theorem isKind_of_isCall {node : Value} (called : isCall node) : isKind node "FunctionCall" := by
  simp only [isCall, Bool.and_eq_true] at called
  exact called.1.1

/-- It can be told whether a legible node is a low-level call. -/
theorem isLowLevelCall_eq {node : Value} (legible : Legible node) : isLowLevelCall node = .ok (isCall node) := by
  unfold isLowLevelCall isCall
  cases called : isKind node "FunctionCall" with
  | false => rfl
  | true =>
    have callee := legible.callee called
    simp only [if_true, hasKind_of_isObject callee, ok_bind, getOr_of_isObject callee]
    cases isKind (fieldOr node "expression" (.object [])) "MemberAccess" with
    | false => rfl
    | true => rfl

private theorem holds_isLowLevelCall (node : Value) : (isLowLevelCall node).holds = isCall node := by
  unfold isLowLevelCall isCall
  cases isKind node "FunctionCall" with
  | false => rfl
  | true =>
    simp only [if_true, Bool.true_and]
    generalize fieldOr node "expression" (.object []) = callee
    cases callee with
    | object fields =>
      rw [hasKind_of_isObject rfl, ok_bind, getOr_of_isObject rfl]
      cases isKind (.object fields) "MemberAccess" with
      | false => rfl
      | true => rfl
    | _ => rfl

private theorem lowLevelCalls_eq (legible : Throughout Legible tree) :
    lowLevelCalls tree = .ok ((nodes tree).filter isCall) :=
  filterM_eq_ok fun node member => isLowLevelCall_eq (legible node member)

private theorem eq_filter_of_lowLevelCalls {calls : List Value} (done : lowLevelCalls tree = .ok calls) :
    calls = (nodes tree).filter isCall := by
  rw [filterM_eq_filter done]
  simp only [holds_isLowLevelCall]

private theorem mem_calls_of_discards (discarded : Discards tree call) : call ∈ (nodes tree).filter isCall := by
  obtain ⟨called, statement, member, _, rfl⟩ := discarded
  exact mem_filter.mpr ⟨mem_nodes_of_field member (isKind_of_isCall called) rfl, called⟩

/-- Expressions hold no statements, so a statement with a discarded call neither declares nor assigns a variable. -/
theorem statementFree_of_discards (shaped : Shaped statement)
    (discarded : Discards statement call) : (kindOf statement).isOneOf statementFree = false := by
  obtain ⟨_, inner, deep, kind, _⟩ := discarded
  apply Bool.eq_false_iff.mpr
  intro plain
  rw [shaped.plain plain inner deep] at kind
  contradiction

/-! ## Calls and their statements -/

/-- The search for low-level calls in a statement of a body. -/
def callsIn (place : Value × Nat) : Outcome (List PlacedCall) := do
  return (← lowLevelCalls place.1).map fun call => ⟨call, some place.2⟩

/-- The low-level calls in a statement of a body. -/
def callsAt (place : Value × Nat) : List PlacedCall :=
  ((nodes place.1).filter isCall).map fun call => ⟨call, some place.2⟩

theorem callsInField_statements (items : List Value) :
    callsInField ("statements", .list items) = do return (← items.zipIdx.mapM callsIn).flatten := rfl

private theorem callsIn_eq {place : Value × Nat} (legible : Throughout Legible place.1) :
    callsIn place = .ok (callsAt place) := by
  rw [callsIn, lowLevelCalls_eq legible]
  rfl

/-- In legible statements the calls are found with their positions. -/
theorem callsInField_of_legible (legible : ∀ item ∈ items, Throughout Legible item) :
    callsInField ("statements", .list items) = .ok (items.zipIdx.flatMap callsAt) := by
  have each : ∀ place ∈ items.zipIdx, callsIn place = .ok (callsAt place) := fun place member =>
    callsIn_eq (legible place.1 (fst_mem_of_mem_zipIdx member))
  rw [callsInField_statements, mapM_eq_ok each, flatMap_def]
  rfl

private theorem eq_flatMap_of_callsInField
    (done : callsInField ("statements", .list items) = .ok calls) : calls = items.zipIdx.flatMap callsAt := by
  rw [callsInField_statements] at done
  obtain ⟨lists, each, done⟩ := bind_eq_ok.mp done
  cases done
  rw [flatMap_def, eq_map_of_mapM each fun place calls found => ?_]
  obtain ⟨nodes, known, found⟩ := bind_eq_ok.mp found
  cases found
  rw [callsAt, ← eq_filter_of_lowLevelCalls known]

private theorem callsInField_of_empty (empty : nodesOfFields [("", field.2)] = []) :
    callsInField field = .ok [] := by
  unfold callsInField
  split
  next items =>
    rw [nodesOfFields, nodesOfFields, append_nil, nodesOfItems_eq, flatMap_eq_nil_iff] at empty
    have each : ∀ place ∈ items.zipIdx, callsIn place = .ok [] := by
      intro place member
      rw [callsIn, lowLevelCalls, empty place.1 (fst_mem_of_mem_zipIdx member)]
      rfl
    change (do return (← items.zipIdx.mapM callsIn).flatten : Outcome _) = _
    rw [mapM_eq_ok each, ok_bind]
    exact congrArg Except.ok (by simp)
  next => rw [empty]; rfl

private theorem callsInFields_of_empty (empty : nodesOfFields fields = []) :
    ∃ lists, fields.mapM callsInField = .ok lists ∧ lists.flatten = [] := by
  rw [nodesOfFields_eq, flatMap_eq_nil_iff] at empty
  refine ⟨_, mapM_eq_ok fun field member => callsInField_of_empty (empty field member), ?_⟩
  simp

private theorem callsInBody_eq (block : isKind body "Block") (shaped : WellShaped body) :
    callsInBody body = .ok ((blockStatements body).zipIdx.flatMap callsAt) := by
  have own := shaped body (mem_nodes_self (isObject_of_isKind block))
  have tidy := own.tidy block
  have listed := own.legible.fieldOr_statements block
  have inside : ∀ s ∈ blockStatements body, Throughout Legible s := fun s member =>
    shaped.legible.below (own.legible.mem_nodes_of_statement block member)
  generalize blockStatements body = statements at tidy listed inside ⊢
  cases body with
  | object fields =>
    rw [nodes, length_cons, Nat.add_right_cancel_iff] at tidy
    rw [fieldOr] at listed
    rw [callsInBody]
    cases found : fields.lookup "statements" with
    | none =>
      rw [found] at listed
      cases listed
      obtain ⟨lists, done, flat⟩ := callsInFields_of_empty (eq_nil_of_length_eq_zero tidy)
      rw [done, ok_bind, flat]
      rfl
    | some v =>
      rw [found] at listed
      cases listed
      -- There is no room for nodes in the fields before and after the statements.
      obtain ⟨before, after, rfl, _⟩ := lookup_eq_some_iff.mp found
      rw [nodesOfFields_append, nodesOfFields, length_append, length_append] at tidy
      have first : nodesOfFields before = [] := eq_nil_of_length_eq_zero (by omega)
      have last : nodesOfFields after = [] := eq_nil_of_length_eq_zero (by omega)
      obtain ⟨earlier, done, flat⟩ := callsInFields_of_empty first
      obtain ⟨later, done', flat'⟩ := callsInFields_of_empty last
      rw [mapM_append, mapM_cons, done, done', callsInField_of_legible inside]
      refine congrArg Except.ok ?_
      rw [flatten_append, flatten_cons, flat, flat', nil_append, append_nil]
  | _ => contradiction

/-- The calls of the statements of a body are among its calls, whatever else it holds. -/
theorem infix_of_callsInBody (searched : callsInBody body = .ok calls) :
    (blockStatements body).zipIdx.flatMap callsAt <:+: calls := by
  cases body with
  | object fields =>
    obtain ⟨lists, each, done⟩ := bind_eq_ok.mp searched
    cases done
    rw [blockStatements, fieldOr]
    cases found : fields.lookup "statements" with
    | none => exact nil_infix
    | some v =>
      cases v with
      | list items =>
        obtain ⟨own, here, inside⟩ := infix_of_mapM each (mem_of_lookup found)
        rwa [eq_flatMap_of_callsInField here] at inside
      | _ => exact nil_infix
  | _ => exact nil_infix

/-! ## The verdict on a statement -/

private theorem statementsOf_of_placed (object : body.isObject)
    (placed : (blockStatements body)[index]? = some statement) : statementsOf body = .ok (blockStatements body) := by
  rw [statementsOf, getOr_of_isObject object, ok_bind]
  unfold blockStatements at placed ⊢
  generalize fieldOr body "statements" (.list []) = given at placed ⊢
  cases given with
  | list items => rfl
  | _ => contradiction

section Listed

variable {body statement : Value} {statements : List Value} {index : Nat}
  (listed : statementsOf body = .ok statements) (placed : statements[index]? = some statement)

include listed placed

theorem statementAt_eq : statementAt body (some index) = .ok statement := by
  rw [statementAt, listed, ok_bind, Option.bind_some, placed]
  rfl

/-- A call in any other statement is unchecked, unless the statement is a test. -/
theorem isUnchecked_of_other (object : statement.isObject)
    (declared : isKind statement "VariableDeclarationStatement" = false)
    (assigned : isKind statement "Assignment" = false) :
    isUnchecked body (some index) =
      .ok !(isKind statement "IfStatement" || isKind statement "RequireStatement") := by
  rw [isUnchecked, statementAt_eq listed placed, ok_bind]
  simp only [hasKind_of_isObject object, ok_bind, declared, assigned, Bool.false_eq_true, if_false]
  split
  next empty =>
    have bare (kind : String) : isKind statement kind = false :=
      Bool.eq_false_iff.mpr fun known => by simp [truthy_of_isKind known] at empty
    rw [bare, bare]
    rfl
  next => cases isKind statement "IfStatement" <;> rfl

end Listed

section Verdict

variable {body : Value} (legible : Throughout Legible body) (block : isKind body "Block")

include legible

private theorem exists_checksVariable (member : statement ∈ nodes body) (name : Value) :
    ∃ checked, checksVariable statement name = .ok checked := by
  have object := isObject_of_mem_nodes member
  unfold checksVariable
  simp only [hasKind_of_isObject object, getOr_of_isObject object, ok_bind]
  split
  next => exact ⟨_, rfl⟩
  next =>
    split
    next standing =>
      have inner := (legible statement member).parts ("ExpressionStatement", "expression") (by simp [nodeFields])
        standing
      simp only [hasKind_of_isObject inner, getOr_of_isObject inner, ok_bind]
      split
      next called =>
        have call := legible _ (mem_nodes_of_field member called rfl)
        have callee := call.callee called
        have arguments := call.arguments called
        simp only [get_of_isObject callee, ok_bind]
        split
        next =>
          generalize fieldOr _ "arguments" (.list []) = given at arguments ⊢
          cases given with
          | list items =>
            cases items with
            | nil => exact ⟨false, rfl⟩
            | cons first rest => exact ⟨_, rfl⟩
          | _ => contradiction
        next => exact ⟨false, rfl⟩
      next => exact ⟨false, rfl⟩
    next => exact ⟨false, rfl⟩

include block

theorem statementsOf_eq : statementsOf body = .ok (blockStatements body) := by
  have object := isObject_of_isKind block
  rw [statementsOf, getOr_of_isObject object, (legible.own object).fieldOr_statements block]
  rfl

theorem mem_nodes_of_statement (member : statement ∈ blockStatements body) : statement ∈ nodes body :=
  (legible.own (isObject_of_isKind block)).mem_nodes_of_statement block member

/-- It can be told whether a name is checked later on. -/
theorem exists_isCheckedAfter (position : Nat) (name : Value) :
    ∃ checked, isCheckedAfter body position name = .ok checked := by
  rw [isCheckedAfter, statementsOf_eq legible block, ok_bind]
  exact exists_anyM fun statement member =>
    exists_checksVariable legible (mem_nodes_of_statement legible block (mem_of_mem_drop member)) name

variable {index : Nat} {statement : Value} (placed : (blockStatements body)[index]? = some statement)

include placed

private theorem isUnchecked_of_declaration (declared : isKind statement "VariableDeclarationStatement") :
    FailsIff (.noMember "NoneType" "get") (omitsFirst statement) (isUnchecked body (some index)) := by
  have object := isObject_of_isKind declared
  have inside := mem_nodes_of_statement legible block (mem_of_getElem? placed)
  have first := (legible statement inside).declarations declared
  rw [isUnchecked, statementAt_eq (statementsOf_eq legible block) placed, ok_bind, omitsFirst, declared]
  simp only [truthy_of_isKind declared, hasKind_of_isObject object, getOr_of_isObject object, ok_bind, declared,
    Bool.not_true, Bool.false_eq_true, if_false, if_true]
  generalize fieldOr statement "declarations" (.list []) = declarations at first ⊢
  cases declarations with
  | list items =>
    cases items with
    | nil => exact .of_ok (by simp) ⟨true, rfl⟩
    | cons declaration rest =>
      cases declaration with
      | null => exact ⟨fun _ => rfl, fun good => absurd rfl good⟩
      | object fields =>
        refine .of_ok (by simp) ?_
        obtain ⟨checked, done⟩ := exists_isCheckedAfter legible block index (fieldOr (.object fields) "name" .null)
        have head : firstItem (.list (.object fields :: rest)) = .ok (.object fields) := rfl
        refine ⟨!checked, (if_pos rfl).trans ?_⟩
        rw [head, ok_bind, get_of_isObject rfl, ok_bind, done]
        rfl
      | _ => contradiction
  | _ => contradiction

private theorem exists_isUnchecked_of_assignment (assigned : isKind statement "Assignment") :
    ∃ ignored, isUnchecked body (some index) = .ok ignored := by
  have object := isObject_of_isKind assigned
  have inside := mem_nodes_of_statement legible block (mem_of_getElem? placed)
  have left := (legible statement inside).parts ("Assignment", "left") (by simp [nodeFields]) assigned
  have other : isKind statement "VariableDeclarationStatement" = false := isKind_unique assigned (by decide)
  rw [isUnchecked, statementAt_eq (statementsOf_eq legible block) placed, ok_bind]
  simp only [truthy_of_isKind assigned, hasKind_of_isObject object, getOr_of_isObject object, ok_bind, assigned, other,
    hasKind_of_isObject left, get_of_isObject left, Bool.not_true, Bool.false_eq_true, if_false, if_true]
  split
  next =>
    obtain ⟨checked, done⟩ := exists_isCheckedAfter legible block index
      (fieldOr (fieldOr statement "left" (.object [])) "name" .null)
    exact ⟨!checked, by rw [done]; rfl⟩
  next => exact ⟨true, rfl⟩

/-- The verdict on a statement fails exactly if the statement is a declaration that leaves out its first variable. -/
theorem isUnchecked_failsIff :
    FailsIff (.noMember "NoneType" "get") (omitsFirst statement) (isUnchecked body (some index)) := by
  cases declared : isKind statement "VariableDeclarationStatement" with
  | true => exact isUnchecked_of_declaration legible block placed declared
  | false =>
    refine .of_ok (by simp [omitsFirst, declared]) ?_
    cases assigned : isKind statement "Assignment" with
    | true => exact exists_isUnchecked_of_assignment legible block placed assigned
    | false =>
      have inside := mem_nodes_of_statement legible block (mem_of_getElem? placed)
      exact ⟨_, isUnchecked_of_other (statementsOf_eq legible block) placed (isObject_of_mem_nodes inside) declared
        assigned⟩

end Verdict

/-- Calls in a condition count as checked. Those in a statement that is no condition and does not keep their
result count as ignored. -/
theorem exists_isUnchecked (shaped : WellShaped body)
    (block : isKind body "Block") (placed : (blockStatements body)[index]? = some statement) :
    ∃ ignored, isUnchecked body (some index) = .ok ignored ∧
      (isKind statement "IfStatement" → ignored = false) ∧
      (isKind statement "IfStatement" = false → (kindOf statement).isOneOf statementFree = false →
        ignored = true) := by
  have inside := mem_nodes_of_statement shaped.legible block (mem_of_getElem? placed)
  obtain ⟨ignored, judged⟩ := (isUnchecked_failsIff shaped.legible block placed).succeeding
    (by simp [(shaped statement inside).omitsFirst])
  have other (declared : isKind statement "VariableDeclarationStatement" = false)
      (assigned : isKind statement "Assignment" = false) :
      ignored = !(isKind statement "IfStatement" || isKind statement "RequireStatement") :=
    Except.ok.inj (judged.symm.trans (isUnchecked_of_other (statementsOf_eq shaped.legible block) placed
      (isObject_of_mem_nodes inside) declared assigned))
  refine ⟨ignored, judged, fun condition => ?_, fun condition free => ?_⟩
  · rw [other (isKind_unique condition (by decide)) (isKind_unique condition (by decide)), condition]
    rfl
  · have none {kind : String} (member : kind ∈ statementFree) := isKind_of_isOneOf free member
    rw [other (none (by decide)) (none (by decide)), condition, none (by decide)]
    rfl

/-! ## Findings -/

/-- The findings about a statement of a body: none about the calls in a condition, and one about each
discarded call elsewhere. -/
structure Covers (settings : DetectorSettings) (source file : String) (function statement : Value)
    (found : List Finding) : Prop where
  conditional : isKind statement "IfStatement" → found = []
  otherwise : isKind statement "IfStatement" = false → ∀ call, Discards statement call →
    ∃ finding ∈ found, report settings function source file call = .ok finding

/-- The findings about a call. -/
def judge (settings : DetectorSettings) (source file : String) (function body : Value) (placed : PlacedCall) :
    Outcome (List Finding) := do
  if ← isUnchecked body placed.statement then return [← report settings function source file placed.call]
  else return []

/-- A call is reported exactly if it is judged unchecked. -/
theorem judge_of_call {ignored : Bool} (judged : isUnchecked body (some index) = .ok ignored)
    (settings : DetectorSettings) (source file : String) (function call : Value) :
    judge settings source file function body ⟨call, some index⟩ =
      if ignored then (do return [← report settings function source file call]) else .ok [] := by
  rw [judge, judged, ok_bind]
  rfl

section Judged

variable {settings : DetectorSettings} {source file : String} {function body statement : Value} {index : Nat}
  {lists : List (List Finding)}
  (done : (callsAt (statement, index)).mapM (judge settings source file function body) = .ok lists)

include done

/-- All calls of an unchecked statement are reported. -/
theorem reports_of_ignored (judged : isUnchecked body (some index) = .ok true) :
    ((nodes statement).filter isCall).mapM (report settings function source file) = .ok lists.flatten := by
  have each : (judge settings source file function body ∘ fun call => ⟨call, some index⟩) =
      fun call => (fun finding => [finding]) <$> report settings function source file call :=
    funext fun call => judge_of_call judged settings source file function call
  rw [callsAt, mapM_map, each, map_mapM, map_eq_ok] at done
  obtain ⟨findings, made, rfl⟩ := done
  rw [made, ← flatMap_def, flatMap_singleton']

/-- No call of a checked statement is reported. -/
theorem flatten_of_checked (judged : isUnchecked body (some index) = .ok false) : lists.flatten = [] := by
  rw [flatten_eq_nil_iff]
  intro list part
  obtain ⟨placed, member, same⟩ := mem_of_mapM done part
  obtain ⟨call, _, rfl⟩ := mem_map.mp member
  rw [judge_of_call judged] at same
  exact (Except.ok.inj same).symm

end Judged

theorem forall₂_flatten {property : Value → List Finding → Prop} {lists : List (List (List Finding))}
    (each : List.Forall₂ (fun place found => property place.1 found.flatten) statements.zipIdx lists) :
    List.Forall₂ property statements (lists.map List.flatten) := by
  rw [forall₂_map_right_iff, ← zipIdx_map_fst 0 statements, forall₂_map_left_iff]
  exact each

section Function

variable {settings : DetectorSettings} (accepted : settings.Accepted) (source file : String)
  {function : Value} (object : function.isObject)

include accepted object in
/-- A legible call can be reported. -/
theorem exists_report (called : isCall call) (legible : Legible call) :
    ∃ finding, report settings function source file call = .ok finding := by
  have kind := isKind_of_isCall called
  have node := isObject_of_isKind kind
  have callee := legible.callee kind
  obtain ⟨place, located⟩ := legible.exists_nodeLocation node source file
  rw [report, getOr_of_isObject object, ok_bind, getOr_of_isObject node, ok_bind, hasKind_of_isObject callee, ok_bind,
    getOr_of_isObject callee, located]
  split
  next => exact profile.exists_report accepted _
  next => exact profile.exists_report accepted _

variable (block : isKind (functionBody function) "Block")

include block in
/-- The calls in a block are judged one after the other. -/
theorem analyzeFunction_of_block :
    analyzeFunction settings source file function = do
      return (← (← callsInBody (functionBody function)).mapM
        (judge settings source file function (functionBody function))).flatten := by
  rw [analyzeFunction, callsOf, getOr_of_isObject (isObject_of_body block), ok_bind, ← functionBody,
    truthy_of_isKind block]
  simp only [Bool.not_true, Bool.false_eq_true, if_false, hasKind_of_isObject (isObject_of_isKind block), block,
    ok_bind, bind_assoc]
  refine bind_congr fun calls => ?_
  rw [pure_bind, mapM_map]
  rfl

include block in
/-- What is found in a function holds what is found in the statements of its body, one after the other. -/
theorem judged_of_analyzeFunction {found : List Finding}
    (done : analyzeFunction settings source file function = .ok found) :
    ∃ lists, lists.flatten.flatten <:+: found ∧
      ((blockStatements (functionBody function)).zipIdx.mapM fun place =>
        (callsAt place).mapM (judge settings source file function (functionBody function))) = .ok lists := by
  rw [analyzeFunction_of_block source file block] at done
  obtain ⟨calls, searched, done⟩ := bind_eq_ok.mp done
  obtain ⟨judgements, each, done⟩ := bind_eq_ok.mp done
  cases done
  obtain ⟨own, judged, inside⟩ := mapM_of_infix (infix_of_callsInBody searched) each
  rw [mapM_flatMap, map_eq_ok] at judged
  obtain ⟨lists, judged, rfl⟩ := judged
  obtain ⟨before, after, rfl⟩ := inside
  exact ⟨lists, ⟨before.flatten, after.flatten, by simp⟩, judged⟩

variable (shaped : WellShaped (functionBody function))

include block shaped in
private theorem analyzeFunction_eq :
    analyzeFunction settings source file function = do
      return (← ((blockStatements (functionBody function)).zipIdx.flatMap callsAt).mapM
        (judge settings source file function (functionBody function))).flatten := by
  rw [analyzeFunction_of_block source file block, callsInBody_eq block shaped, ok_bind]

include accepted object block shaped in
private theorem exists_covers (placed : (statement, index) ∈ (blockStatements (functionBody function)).zipIdx) :
    ∃ lists, (callsAt (statement, index)).mapM
        (judge settings source file function (functionBody function)) = .ok lists ∧
      Covers settings source file function statement lists.flatten := by
  have member := mk_mem_zipIdx_iff_getElem?.mp placed
  have inside := mem_nodes_of_statement shaped.legible block (mem_of_getElem? member)
  obtain ⟨ignored, judged, conditional, otherwise⟩ := exists_isUnchecked shaped block member
  have reported : ∀ call ∈ (nodes statement).filter isCall,
      ∃ finding, report settings function source file call = .ok finding := by
    intro call known
    obtain ⟨deep, called⟩ := mem_filter.mp known
    exact exists_report accepted source file object called (shaped call (mem_nodes_trans inside deep)).legible
  obtain ⟨lists, done⟩ : ∃ lists, (callsAt (statement, index)).mapM
      (judge settings source file function (functionBody function)) = .ok lists := by
    refine exists_mapM fun other listed => ?_
    obtain ⟨call, known, rfl⟩ := mem_map.mp listed
    obtain ⟨finding, made⟩ := reported call known
    rw [judge_of_call judged, made]
    cases ignored with
    | false => exact ⟨[], rfl⟩
    | true => exact ⟨[finding], rfl⟩
  refine ⟨lists, done, ⟨fun condition => ?_, fun condition call discarded => ?_⟩⟩
  · rw [conditional condition] at judged
    exact flatten_of_checked done judged
  · rw [otherwise condition (statementFree_of_discards (shaped statement inside) discarded)] at judged
    exact exists_mem_of_mapM (reports_of_ignored done judged) (mem_calls_of_discards discarded)

include accepted object block shaped in
/-- The findings in a function come one statement of its body after the other. -/
theorem analyzeFunction_covers :
    ∃ parts, analyzeFunction settings source file function = .ok parts.flatten ∧
      List.Forall₂ (Covers settings source file function)
        (blockStatements (functionBody function)) parts := by
  have each : ∀ place ∈ (blockStatements (functionBody function)).zipIdx,
      ∃ lists, (callsAt place).mapM
          (judge settings source file function (functionBody function)) = .ok lists ∧
        Covers settings source file function place.1 lists.flatten := fun place placed =>
    exists_covers accepted source file object block shaped placed
  obtain ⟨lists, done, covers⟩ := exists_forall₂_mapM each
  refine ⟨lists.map List.flatten, ?_, forall₂_flatten covers⟩
  rw [analyzeFunction_eq source file block shaped, mapM_flatMap, done]
  exact congrArg Except.ok flatten_flatten

end Function

/-- A function without a block has no unchecked calls. -/
theorem analyzeFunction_without_block (known : isKind function "FunctionDefinition") (legible : Legible function)
    (other : isKind (functionBody function) "Block" = false) :
    analyzeFunction settings source file function = .ok [] := by
  have none : callsOf function = .ok [] := by
    rw [callsOf, getOr_of_isObject (isObject_of_isKind known), ok_bind, ← functionBody]
    cases present : (functionBody function).truthy with
    | false => rfl
    | true =>
      simp only [Bool.not_true, Bool.false_eq_true, if_false,
        hasKind_of_isObject (legible.body known present), other, ok_bind]
      rfl
  rw [analyzeFunction, none]
  rfl

private theorem analyzeFunction_of_no_block (known : isKind function "FunctionDefinition") (shaped : Shaped function)
    (other : isKind (functionBody function) "Block" = false) :
    analyzeFunction settings source file function = .ok [] :=
  analyzeFunction_without_block known shaped.legible other

private theorem discards_block (block : isKind body "Block") (shaped : WellShaped body)
    (discarded : Discards body call) : ∃ statement ∈ blockStatements body, Discards statement call := by
  obtain ⟨called, inner, deep, kind, same⟩ := discarded
  rw [shaped.nodes_block block] at deep
  obtain rfl | deep := mem_cons.mp deep
  · rw [isKind_unique block (by decide)] at kind
    contradiction
  · rw [nodesOfItems_eq, mem_flatMap] at deep
    obtain ⟨statement, member, deep⟩ := deep
    exact ⟨statement, member, called, inner, deep, kind, same⟩

/-- In a compiled file whose trees have the shape that the compiler gives them, the findings in a function come
one statement of its body after the other. A call that is discarded at any depth of the body stands in one of
these statements, and it is reported exactly if that statement is no condition. -/
theorem discarded_calls_by_statement {settings : DetectorSettings} (accepted : settings.Accepted)
    {unit : Solidity.Unit} (shaped : ∀ contract ∈ unit.contracts, WellShaped contract.ast) :
    ∃ found, detect settings unit = .ok found ∧
      ∀ contract ∈ unit.contracts, ∀ function ∈ functions contract.ast,
        isKind (functionBody function) "Block" →
          (∀ call, Discards (functionBody function) call →
            ∃ statement ∈ blockStatements (functionBody function), Discards statement call) ∧
          ∃ parts, parts.flatten <:+: found ∧
            List.Forall₂ (Covers settings unit.source unit.file function)
              (blockStatements (functionBody function)) parts := by
  have body {contract : Contract} (known : contract ∈ unit.contracts) {function : Value}
      (member : function ∈ functions contract.ast) (block : isKind (functionBody function) "Block") :
      WellShaped (functionBody function) :=
    (shaped contract known).below (mem_nodes_of_field (mem_functions.mp member).1 block rfl)
  have covers {contract : Contract} (known : contract ∈ unit.contracts) {function : Value}
      (member : function ∈ functions contract.ast) (block : isKind (functionBody function) "Block") :=
    analyzeFunction_covers accepted unit.source unit.file (isObject_of_mem_nodes (mem_functions.mp member).1) block
      (body known member block)
  have each : ∀ contract ∈ unit.contracts, ∀ function ∈ functions contract.ast,
      ∃ own, analyzeFunction settings unit.source unit.file function = .ok own := by
    intro contract known function member
    obtain ⟨inside, kind⟩ := mem_functions.mp member
    cases block : isKind (functionBody function) "Block" with
    | false => exact ⟨[], analyzeFunction_of_no_block kind (shaped contract known function inside) block⟩
    | true =>
      obtain ⟨parts, done, _⟩ := covers known member block
      exact ⟨parts.flatten, done⟩
  obtain ⟨found, done, parts⟩ := exists_overFunctions each
  refine ⟨found, done, fun contract known function member block => ⟨fun call => ?_, ?_⟩⟩
  · exact discards_block block (body known member block)
  · obtain ⟨own, analyzed, inside⟩ := parts contract known function member
    obtain ⟨lists, done, covers⟩ := covers known member block
    obtain rfl := Except.ok.inj (done.symm.trans analyzed)
    exact ⟨lists, inside, covers⟩

/-! ## Calls that something requires -/

/-- The statement is a call of `require`, and a low-level call is the first argument. -/
structure Requires (statement call : Value) : Prop where
  standing : isKind statement "ExpressionStatement"
  called : isKind (fieldOr statement "expression" .null) "FunctionCall"
  required : fieldOr (fieldOr (fieldOr statement "expression" .null) "expression" .null) "name" .null = .text "require"
  first : ∃ others, fieldOr (fieldOr statement "expression" .null) "arguments" (.list []) = .list (call :: others)
  lowLevel : isCall call

private theorem Requires.mem_calls (requires : Requires statement call) : call ∈ (nodes statement).filter isCall := by
  obtain ⟨others, listed⟩ := requires.first
  have self := mem_nodes_self (isObject_of_isKind requires.standing)
  have inner := mem_nodes_of_field self requires.called rfl
  have object := isObject_of_isKind (isKind_of_isCall requires.lowLevel)
  exact mem_filter.mpr ⟨mem_nodes_of_item inner listed mem_cons_self object, requires.lowLevel⟩

/-- The findings about a statement of a body as far as it requires something: one about each call that a call of
`require` begins with, and none about the calls in a statement of a kind of its own. -/
structure Treats (settings : DetectorSettings) (source file : String) (function statement : Value)
    (found : List Finding) : Prop where
  argument : ∀ call, Requires statement call →
    ∃ finding ∈ found, report settings function source file call = .ok finding
  own : isKind statement "RequireStatement" → found = []

private theorem treats_of_judged {lists : List (List Finding)}
    (done : (callsAt (statement, index)).mapM (judge settings source file function body) = .ok lists)
    (listed : statementsOf body = .ok statements) (placed : statements[index]? = some statement) :
    Treats settings source file function statement lists.flatten := by
  have verdict {kind : String} (known : isKind statement kind) (declared : kind ≠ "VariableDeclarationStatement")
      (assigned : kind ≠ "Assignment") :=
    isUnchecked_of_other listed placed (isObject_of_isKind known) (isKind_unique known declared)
      (isKind_unique known assigned)
  constructor
  · intro call requires
    have judged := verdict requires.standing (by decide) (by decide)
    rw [isKind_unique requires.standing (by decide), isKind_unique requires.standing (by decide)] at judged
    exact exists_mem_of_mapM (reports_of_ignored done judged) requires.mem_calls
  · intro known
    have judged := verdict known (by decide) (by decide)
    rw [known, Bool.or_true] at judged
    exact flatten_of_checked done judged

/-- In a function whose body is a block, of whatever shape it is otherwise, a low-level call that a call of `require`
begins with is reported, although the function fails if the call does. The detector knows statements of a kind of their
own that require something, and it reports no call in them. The analysis succeeds if the body has the shape that
detectors expect and the settings demand no severity that there is not. -/
theorem required_calls_reported (settings : DetectorSettings) (source file : String) {function : Value}
    (block : isKind (functionBody function) "Block") :
    (∀ found, analyzeFunction settings source file function = .ok found →
      ∃ parts, parts.flatten <:+: found ∧
        List.Forall₂ (Treats settings source file function) (blockStatements (functionBody function)) parts) ∧
    (settings.Accepted → WellShaped (functionBody function) →
      ∃ found, analyzeFunction settings source file function = .ok found) := by
  constructor
  · intro found done
    obtain ⟨lists, inside, judged⟩ := judged_of_analyzeFunction source file block done
    have listed : ∀ place ∈ (blockStatements (functionBody function)).zipIdx,
        (blockStatements (functionBody function))[place.2]? = some place.1 :=
      fun place member => mem_zipIdx_iff_getElem?.mp member
    refine ⟨lists.map List.flatten, by rwa [← flatten_flatten], forall₂_flatten ?_⟩
    refine ((forall₂_and_left _ _).mpr ⟨listed, forall₂_of_mapM judged⟩).imp ?_
    rintro ⟨statement, index⟩ found ⟨placed, judged⟩
    exact treats_of_judged judged (statementsOf_of_placed (isObject_of_isKind block) placed) placed
  · intro accepted shaped
    obtain ⟨parts, done, _⟩ :=
      analyzeFunction_covers accepted source file (isObject_of_body block) block shaped
    exact ⟨parts.flatten, done⟩

def requires (arguments : List Value) : Value :=
  alone (node "FunctionCall" [("expression", named "require"), ("arguments", .list arguments)])

/-- A function that requires one call to succeed, with a message, and another one in a loop. -/
def careful : Value :=
  functionOf [
    requires [memberCall "a" "call", named "m"],
    node "WhileStatement" [("body", requires [memberCall "a" "send"])]]

/-- The first call is reported. -/
theorem required_calls_reported_careful :
    WellShaped (functionBody careful) ∧ ∃ found finding, analyzeFunction {} "" "a.sol" careful = .ok found ∧
      finding ∈ found ∧ report {} careful "" "a.sol" (memberCall "a" "call") = .ok finding := by
  have shaped : WellShaped (functionBody careful) := by decide
  have block : isKind (functionBody careful) "Block" := rfl
  obtain ⟨reported, succeeds⟩ := required_calls_reported {} "" "a.sol" block
  obtain ⟨found, done⟩ := succeeds DetectorSettings.accepted_default shaped
  obtain ⟨parts, inside, treats⟩ := reported found done
  cases treats with
  | cons first _ =>
    obtain ⟨finding, member, made⟩ := first.argument (memberCall "a" "call") ⟨rfl, rfl, rfl, ⟨_, rfl⟩, rfl⟩
    exact ⟨shaped, found, finding, done, inside.subset (by simp [member]), made⟩

/-- A call that is required to succeed is reported as one whose result is ignored. -/
theorem required_send_reported :
    Requires (requires [memberCall "a" "send"]) (memberCall "a" "send") ∧
      ∃ finding, detect {} (fileOf (functionOf [requires [memberCall "a" "send"]])) = .ok [finding] :=
  ⟨⟨rfl, rfl, rfl, ⟨_, rfl⟩, rfl⟩, _, rfl⟩

/-! ## Declarations that leave out their first variable -/

/-- A statement of the body of a function is a declaration that leaves out its first variable and holds a low-level
call. -/
def omits (function : Value) : Bool :=
  isKind (functionBody function) "Block" &&
    (blockStatements (functionBody function)).any fun statement => omitsFirst statement && (nodes statement).any isCall

/-- The call is one of the body, and of the statement whose position it is found with. -/
structure StandsIn (body : Value) (placed : PlacedCall) : Prop where
  lowLevel : isCall placed.call
  inside : placed.call ∈ nodes body
  position : ∀ index, placed.statement = some index →
    ∃ statement, (blockStatements body)[index]? = some statement ∧ placed.call ∈ nodes statement

section Distinct

variable {body : Value} (block : isKind body "Block") (legible : Throughout Legible body)
  (distinct : (fieldNames body).Nodup)

include block legible

private theorem exists_callsInField (same : body = .object fields)
    (distinct : (fields.map Prod.fst).Nodup) (member : field ∈ fields) :
    ∃ calls, callsInField field = .ok calls ∧ ∀ placed ∈ calls, StandsIn body placed := by
  have statements {statement : Value} (known : statement ∈ blockStatements body) : statement ∈ nodes body :=
    mem_nodes_of_statement legible block known
  unfold callsInField
  split
  next items =>
    have listed : blockStatements body = items := by
      rw [same, blockStatements, fieldOr, lookup_of_mem distinct member]
      rfl
    rw [← listed] at member ⊢
    refine ⟨_, callsInField_of_legible fun item known => legible.below (statements known), fun placed found => ?_⟩
    obtain ⟨⟨statement, index⟩, known, found⟩ := mem_flatMap.mp found
    obtain ⟨call, called, rfl⟩ := mem_map.mp found
    obtain ⟨deep, lowLevel⟩ := mem_filter.mp called
    have here := mk_mem_zipIdx_iff_getElem?.mp known
    refine ⟨lowLevel, mem_nodes_trans (statements (mem_of_getElem? here)) deep, fun position given => ?_⟩
    cases given
    exact ⟨statement, here, deep⟩
  next name v _ =>
    have inside {node : Value} (deep : node ∈ nodesOfFields [("", v)]) : node ∈ nodes body := by
      rw [same, nodes, nodesOfFields_eq]
      exact mem_cons_of_mem _ (mem_flatMap_of_mem member deep)
    rw [filterM_eq_ok fun node deep => isLowLevelCall_eq (legible node (inside deep)), ok_bind]
    refine ⟨_, rfl, fun placed found => ?_⟩
    obtain ⟨call, called, rfl⟩ := mem_map.mp found
    obtain ⟨deep, lowLevel⟩ := mem_filter.mp called
    refine ⟨lowLevel, inside deep, fun position given => ?_⟩
    contradiction

include distinct

private theorem exists_callsInBody :
    ∃ calls, callsInBody body = .ok calls ∧ ∀ placed ∈ calls, StandsIn body placed := by
  have object := isObject_of_isKind block
  cases same : body with
  | object fields =>
    rw [same] at distinct
    have each : ∀ field ∈ fields, ∃ calls, callsInField field = .ok calls ∧
        ∀ placed ∈ calls, StandsIn body placed :=
      fun field member => exists_callsInField block legible same distinct member
    obtain ⟨lists, done⟩ := exists_mapM fun field member => (each field member).imp fun _ => And.left
    refine ⟨lists.flatten, by rw [callsInBody, done]; rfl, fun placed found => ?_⟩
    obtain ⟨list, known, found⟩ := mem_flatten.mp found
    obtain ⟨field, member, one⟩ := mem_of_mapM done known
    obtain ⟨calls, other, stands⟩ := each field member
    obtain rfl := Except.ok.inj (one.symm.trans other)
    exact same ▸ stands placed found
  | _ =>
    rw [same] at object
    contradiction

end Distinct

section Failing

variable {settings : DetectorSettings} (accepted : settings.Accepted) (source file : String) {function : Value}

include accepted

/-- A call is judged without failure unless its statement is a declaration that leaves out its first variable. -/
theorem judge_failsIff (object : function.isObject) (block : isKind body "Block")
    (legible : Throughout Legible body) {placed : PlacedCall} (stands : StandsIn body placed) :
    FailsIff (.noMember "NoneType" "get")
      (∃ index statement, placed.statement = some index ∧ (blockStatements body)[index]? = some statement ∧
        omitsFirst statement)
      (judge settings source file function body placed) := by
  obtain ⟨finding, made⟩ := exists_report accepted source file object stands.lowLevel (legible _ stands.inside)
  have rest (ignored : Bool) : ∃ found, (if ignored then (do
      return [← report settings function source file placed.call]) else return [] : Outcome (List Finding)) =
        .ok found := by
    cases ignored with
    | false => exact ⟨[], rfl⟩
    | true => exact ⟨[finding], by rw [made]; rfl⟩
  unfold judge
  cases standing : placed.statement with
  | none =>
    have judged : isUnchecked body none = .ok true := by
      rw [isUnchecked, statementAt, statementsOf_eq legible block]
      rfl
    refine .of_ok (by simp) ?_
    rw [judged, ok_bind]
    exact rest true
  | some index =>
    obtain ⟨statement, here, _⟩ := stands.position index standing
    refine ((isUnchecked_failsIff legible block here).bind fun ignored _ => rest ignored).congr ?_
    constructor
    · intro omitted
      exact ⟨index, statement, rfl, here, omitted⟩
    · rintro ⟨_, other, given, known, omitted⟩
      cases given
      obtain rfl := Option.some.inj (here.symm.trans known)
      exact omitted

/-- The analysis of a function fails exactly if a low-level call stands in a declaration that leaves out its first
variable. -/
theorem analyzeFunction_failsIff (known : isKind function "FunctionDefinition")
    (emitted : Throughout Emitted function) :
    FailsIff (.noMember "NoneType" "get") (omits function) (analyzeFunction settings source file function) := by
  have object := isObject_of_isKind known
  unfold omits
  cases block : isKind (functionBody function) "Block" with
  | false => exact .of_ok (by simp) ⟨[], analyzeFunction_without_block known (emitted.own object).toLegible block⟩
  | true =>
    have below : Throughout Emitted (functionBody function) := emitted.of_field emitted_empty "body"
    have legible := below.legible
    obtain ⟨calls, searched, stand⟩ :=
      exists_callsInBody block legible (below.own (isObject_of_isKind block)).distinct
    have judged := FailsIff.mapM fun placed member =>
      judge_failsIff accepted source file object block legible (stand placed member)
    rw [analyzeFunction_of_block source file block, searched, ok_bind]
    refine (judged.bind fun lists _ => ⟨lists.flatten, rfl⟩).congr ?_
    simp only [Bool.true_and, any_eq_true, Bool.and_eq_true]
    constructor
    · rintro ⟨placed, member, index, statement, given, here, omitted⟩
      obtain ⟨other, same, deep⟩ := (stand placed member).position index given
      obtain rfl := Option.some.inj (here.symm.trans same)
      exact ⟨statement, mem_of_getElem? here, omitted, placed.call, deep, (stand placed member).lowLevel⟩
    · rintro ⟨statement, member, omitted, call, deep, lowLevel⟩
      obtain ⟨index, here⟩ := mem_iff_getElem?.mp member
      refine ⟨⟨call, some index⟩, (infix_of_callsInBody searched).subset ?_, index, statement, rfl, here,
        omitted⟩
      have called : (⟨call, some index⟩ : PlacedCall) ∈ callsAt (statement, index) :=
        mem_map_of_mem (mem_filter.mpr ⟨deep, lowLevel⟩)
      exact mem_flatMap_of_mem (mk_mem_zipIdx_iff_getElem?.mpr here) called

end Failing

/-- In a function of a compiled file a low-level call stands in a declaration that leaves out its first variable. -/
def omitsIn (unit : Solidity.Unit) : Bool :=
  unit.contracts.any fun contract => (functions contract.ast).any omits

/-- In a compiled file whose trees are as the compiler emits them the detector fails exactly if a low-level call stands
in a declaration that leaves out its first variable. -/
theorem detect_failsIff (accepted : settings.Accepted) {unit : Solidity.Unit}
    (emitted : ∀ contract ∈ unit.contracts, Throughout Emitted contract.ast) :
    FailsIff (.noMember "NoneType" "get") (omitsIn unit) (detect settings unit) := by
  have each : ∀ contract ∈ unit.contracts, ∀ function ∈ functions contract.ast,
      FailsIff (.noMember "NoneType" "get") (omits function)
        (analyzeFunction settings unit.source unit.file function) := by
    intro contract known function member
    obtain ⟨inside, kind⟩ := mem_functions.mp member
    exact analyzeFunction_failsIff accepted unit.source unit.file kind ((emitted contract known).below inside)
  refine (failsIff_overFunctions each).congr ?_
  simp only [omitsIn, any_eq_true]

/-! ## A call in a branch and one in a loop -/

def conditional (statements : List Value) : Value :=
  node "IfStatement" [("condition", named "c"), ("trueBody", block statements)]

def loop (statements : List Value) : Value :=
  node "WhileStatement" [("condition", named "c"), ("body", block statements)]

/-- A function that discards the results of a call in a branch and of another one in a loop. -/
def careless : Value := functionOf [conditional [alone (memberCall "a" "call")], loop [alone (memberCall "a" "send")]]

/-- The call in the loop is reported. -/
theorem discarded_calls_by_statement_loop :
    WellShaped careless ∧ ∃ found finding, detect {} (fileOf careless) = .ok found ∧ finding ∈ found ∧
      report {} careless "" "a.sol" (memberCall "a" "send") = .ok finding := by
  have shaped : WellShaped careless := by decide
  obtain ⟨found, done, parts⟩ :=
    discarded_calls_by_statement DetectorSettings.accepted_default (wellShaped_fileOf shaped)
  obtain ⟨_, lists, inside, covers⟩ := parts _ (mem_singleton_self _) careless (.head _) rfl
  cases covers with
  | cons _ covers =>
    cases covers with
    | cons second _ =>
      obtain ⟨finding, member, reported⟩ := second.otherwise rfl (memberCall "a" "send")
        ⟨rfl, alone _, .tail _ (.tail _ (.tail _ (.head _))), rfl, rfl⟩
      exact ⟨shaped, found, finding, done, inside.subset (by simp [member]), reported⟩

/-- The call in the branch of a condition is discarded but not reported. -/
theorem conditional_call_not_reported :
    let function := functionOf [conditional [alone (memberCall "a" "call")]]
    Discards (functionBody function) (memberCall "a" "call") ∧ detect {} (fileOf function) = .ok [] := by
  exact ⟨⟨rfl, alone _, .tail _ (.tail _ (.tail _ (.tail _ (.head _)))), rfl, rfl⟩, rfl⟩

end ContractLint.Detector.UncheckedCall
