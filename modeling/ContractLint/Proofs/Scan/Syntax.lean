import ContractLint.Proofs.Detector.Excerpt
import ContractLint.Proofs.Scan.Inference
import ContractLint.Proofs.Text.Glob

/-! # Open functions of contracts

A public function that stands in a contract and carries no modifier that guards it is open, and the look at the
functions of a contract finds it (`functionsFindings_open`). But it gives the offset of the function for its line, and
the look at the contract fails after that at a step that is not provided. The failure is printed and takes all findings
with it. So nothing is ever found in a tree, whatever the compiler answers, and the open functions of a file are
reported exactly if there are none (`open_functions_reported_iff`).
-/

namespace ContractLint.Scan.Syntax

open List Solidity Outcome

variable {around : Surroundings} {result : ToolResult}

/-! ## What is due -/

/-- The nodes that stand directly in a contract. -/
def membersOf (contract : Value) : List Value := itemsOf (fieldOr contract "nodes" (.list []))

def modifiersOf (function : Value) : List Value := itemsOf (fieldOr function "modifiers" (.list []))

def modifierName (modifier : Value) : Value := fieldOr (fieldOr modifier "modifierName" (.object [])) "name" .null

/-- A function that is public and carries no modifier that guards it. -/
def isOpen (function : Value) : Bool :=
  (fieldOr function "visibility" (.text "internal")).isText "public" &&
    !(modifiersOf function).any fun modifier => (modifierName modifier).isOneOf guards

def functionsOf (contract : Value) : List Value :=
  (membersOf contract).filter fun node => isKind node "FunctionDefinition"

/-- A function of a contract in a tree is open. -/
def Due (tree function : Value) : Prop :=
  ∃ contract ∈ contracts tree, function ∈ functionsOf contract ∧ isOpen function

/-- A node begins at an offset: the number is written before the first colon of its position. -/
def StartsAt (node : Value) (offset : Nat) : Prop :=
  ∃ first rest, fieldOr node "src" (.text "0:0:0") = .text (first ++ ":" ++ rest) ∧ ':' ∉ first.toList ∧
    Text.parseInt? first = some (offset : Int)

/-- The finding is about an open function. -/
def IsAccess (finding : Finding) : Prop := finding.detector = .text "ast_access_control"

/-- Some findings tell of a function under the line on which it begins. -/
def Tells (content : String) (found : List Finding) (function : Value) : Prop :=
  ∃ finding ∈ found, IsAccess finding ∧
    ∃ offset, StartsAt function offset ∧ finding.line = .int (lineAt content offset)

/-! ## The look at the functions of a contract -/

/-- A member of a contract as the compiler emits it. -/
structure Tidy (node : Value) : Prop where
  object : node.isObject
  starts : ∃ offset, StartsAt node offset
  named : ∃ name, fieldOr node "name" (.text "unknown") = .text name
  modifiers : isNodeList (fieldOr node "modifiers" (.list []))
  modifierNames : ∀ modifier ∈ modifiersOf node, (fieldOr modifier "modifierName" (.object [])).isObject

variable {node function contract : Value} {content : String}

/-- The offset of a node is taken for its line. -/
theorem lineOf_eq {offset : Nat} (object : node.isObject) (starts : StartsAt node offset) :
    lineOf node = .ok (offset : Int) := by
  obtain ⟨first, rest, known, before, written⟩ := starts
  have divided : (Value.text (first ++ ":" ++ rest)).has ":" = .ok true := by
    have inside : Text.contains (first ++ ":" ++ rest) ":" = true :=
      Text.contains_iff.mpr ⟨first.toList, rest.toList, by simp⟩
    rw [Value.has, inside]
    rfl
  have pieces : Text.splitOn (first ++ ":" ++ rest) ":" = first :: Text.splitOn rest ":" :=
    Text.splitOn_append rfl before rest
  have text : (Value.text (first ++ ":" ++ rest)).textFor "split" = .ok (first ++ ":" ++ rest) := rfl
  rw [lineOf, getOr_of_isObject object, ok_bind, known, divided, ok_bind, if_pos rfl, text, ok_bind, pieces]
  simp only [headD_cons, Value.integer, written]
  rfl

/-- A tidy function is guarded if a modifier has the name of a guard. -/
theorem isGuarded_eq (tidy : Tidy function) :
    isGuarded function = .ok ((modifiersOf function).any fun modifier => (modifierName modifier).isOneOf guards) := by
  have objects := (isNodeList_iff.mp tidy.modifiers).2
  rw [isGuarded, getOr_of_isObject tidy.object, ok_bind, elements_of_isNodeList tidy.modifiers, ok_bind]
  refine anyM_eq_ok fun modifier member => ?_
  rw [isGuard, getOr_of_isObject (objects modifier member), ok_bind,
    get_of_isObject (tidy.modifierNames modifier member), ok_bind]
  rfl

private theorem exists_signature (object : function.isObject) (content : String) :
    ∃ line, signature function content = .ok line := by
  rw [signature, getOr_of_isObject object, ok_bind]
  dsimp only
  split
  next => exact ⟨_, rfl⟩
  next => exact ⟨_, rfl⟩

/-- An open function is found, under the offset at which it begins. -/
theorem functionFindings_of_open (tidy : Tidy function) (content : String) (opened : isOpen function) :
    ∃ finding, functionFindings content function = .ok [finding] ∧ IsAccess finding ∧
      ∀ offset, StartsAt function offset → finding.line = .int offset := by
  obtain ⟨visible, unguarded⟩ := Bool.and_eq_true_iff.mp opened
  obtain ⟨offset, starts⟩ := tidy.starts
  obtain ⟨line, signed⟩ := exists_signature tidy.object content
  have place := lineOf_eq tidy.object starts
  rw [functionFindings, getOr_of_isObject tidy.object, ok_bind, getOr_of_isObject tidy.object, ok_bind, if_pos visible,
    isGuarded_eq tidy, ok_bind, if_neg (by simpa using unguarded), place, ok_bind, signed, ok_bind]
  refine ⟨_, rfl, rfl, fun other startsToo => ?_⟩
  have same := place.symm.trans (lineOf_eq tidy.object startsToo)
  rw [Except.ok.inj same]

private theorem functionFindings_of_closed (tidy : Tidy function) (content : String)
    (closed : isOpen function = false) : functionFindings content function = .ok [] := by
  rw [functionFindings, getOr_of_isObject tidy.object, ok_bind, getOr_of_isObject tidy.object, ok_bind]
  split
  next visible =>
    rw [isOpen, visible, Bool.true_and, Bool.not_eq_false_eq_eq_true] at closed
    rw [isGuarded_eq tidy, ok_bind, if_pos closed]
    rfl
  next => rfl

/-- The look at some functions finds those that are open, in their order, under the offsets at which they begin. -/
theorem functionsFindings_open {functions : List Value} (tidy : ∀ function ∈ functions, Tidy function)
    (content : String) :
    ∃ found, functionsFindings functions content = .ok found ∧
      List.Forall₂ (fun function finding => IsAccess finding ∧
        ∀ offset, StartsAt function offset → finding.line = .int offset) (functions.filter isOpen) found := by
  rw [functionsFindings]
  induction functions with
  | nil => exact ⟨[], rfl, .nil⟩
  | cons function rest ih =>
    obtain ⟨one, others⟩ := forall_mem_cons.mp tidy
    obtain ⟨found, done, each⟩ := ih others
    obtain ⟨lists, listed, rfl⟩ := map_eq_ok.mp done
    rw [mapM_cons]
    cases opened : isOpen function with
    | true =>
      obtain ⟨finding, made, access, line⟩ := functionFindings_of_open one content opened
      rw [made, ok_bind, listed, filter_cons_of_pos opened]
      exact ⟨finding :: lists.flatten, rfl, .cons ⟨access, line⟩ each⟩
    | false =>
      rw [functionFindings_of_closed one content opened, ok_bind, listed, filter_cons_of_neg (by simp [opened])]
      exact ⟨lists.flatten, rfl, each⟩

/-! ## The look at a contract -/

private theorem exists_declarationLine (name : String) (lines : List (Nat × String)) :
    ∃ found, declarationLine (.text name) lines = .ok found := by
  induction lines with
  | nil => exact ⟨none, rfl⟩
  | cons entry rest ih =>
    obtain ⟨number, line⟩ := entry
    rw [declarationLine]
    split
    next => exact ⟨_, rfl⟩
    next => exact ih

private theorem exists_declaration (tidy : Tidy node) (content : String) :
    ∃ line, declaration node content = .ok line := by
  obtain ⟨name, named⟩ := tidy.named
  obtain ⟨found, known⟩ := exists_declarationLine name (Excerpt.numbered (Text.lines content))
  rw [declaration, getOr_of_isObject tidy.object, ok_bind, named, known, ok_bind]
  cases found with
  | none => exact ⟨_, rfl⟩
  | some entry => exact ⟨_, rfl⟩

private theorem exists_variableFindings (tidy : Tidy node) (content : String) :
    ∃ found, variableFindings content node = .ok found := by
  obtain ⟨offset, starts⟩ := tidy.starts
  obtain ⟨line, declared⟩ := exists_declaration tidy content
  rw [variableFindings]
  simp only [get_of_isObject tidy.object, getOr_of_isObject tidy.object, lineOf_eq tidy.object starts, declared,
    ok_bind]
  split_ifs
  all_goals exact ⟨_, rfl⟩

/-- A contract as the compiler emits it. -/
structure TidyContract (contract : Value) : Prop where
  object : contract.isObject
  listed : isNodeList (fieldOr contract "nodes" (.list []))
  members : ∀ node ∈ membersOf contract, Tidy node

private theorem members_eq (tidy : TidyContract contract) (kind : String) :
    members contract kind = .ok ((membersOf contract).filter fun node => isKind node kind) := by
  have objects := (isNodeList_iff.mp tidy.listed).2
  rw [members, getOr_of_isObject tidy.object, ok_bind, elements_of_isNodeList tidy.listed, ok_bind]
  exact filterM_eq_ok fun node member => hasKind_of_isObject (objects node member) kind

theorem TidyContract.of_kind (tidy : TidyContract contract) (kind : String) :
    ∀ node ∈ (membersOf contract).filter (fun node => isKind node kind), Tidy node :=
  fun node member => tidy.members node (mem_filter.mp member).1

/-- The look at a contract as the compiler emits it fails at the step that is not provided, and nowhere before. -/
theorem contractFindings_eq (tidy : TidyContract contract) (content : String) :
    contractFindings content contract = .error (.noMember "ASTAnalyzer" "_analyze_modifiers") := by
  obtain ⟨accesses, looked, -⟩ := functionsFindings_open (tidy.of_kind "FunctionDefinition") content
  obtain ⟨lists, declared⟩ := exists_mapM fun node member =>
    exists_variableFindings (tidy.of_kind "VariableDeclaration" node member) content
  have states : variablesFindings ((membersOf contract).filter fun node => isKind node "VariableDeclaration") content =
      .ok lists.flatten := by
    rw [variablesFindings, declared]
    rfl
  simp only [contractFindings, members_eq tidy, ok_bind, looked, states]
  rfl

example : TidyContract (.object [("nodes", .list [.object [("name", .text "f"), ("src", .text "15:22:0")]])]) := by
  refine ⟨rfl, rfl, fun node member => ?_⟩
  obtain rfl := mem_singleton.mp member
  exact ⟨rfl, ⟨15, "15", "22:0", rfl, by decide, by decide +kernel⟩, ⟨"f", rfl⟩, rfl, fun _ none =>
    nomatch none⟩

/-- Whatever a contract is, the look at it fails. -/
theorem contractFindings_ne_ok (content : String) (contract : Value) (found : List Finding) :
    contractFindings content contract ≠ .ok found := by
  intro done
  unfold contractFindings at done
  obtain ⟨_, _, done⟩ := bind_eq_ok.mp done
  obtain ⟨_, _, done⟩ := bind_eq_ok.mp done
  obtain ⟨_, _, done⟩ := bind_eq_ok.mp done
  obtain ⟨_, _, done⟩ := bind_eq_ok.mp done
  obtain ⟨_, _, done⟩ := bind_eq_ok.mp done
  obtain ⟨_, _, done⟩ := bind_eq_ok.mp done
  cases done

/-! ## Scans -/

/-- There is always a tree, which may be null. -/
theorem parseTree_yields (content : Value) (around : Surroundings) :
    (parseTree content).Yields around fun _ => True := by
  refine (Run.Ensures.rescue (fun trace returned _ => ?_) fun fault => ?_).settle
  · cases returned with
    | error tree => trivial
    | ok tree => trivial
  · exact (say_yields around _).bind fun _ _ => .early trivial

private theorem runTool_yields {key program : String} {limit : Nat}
    (ended : around.tools.lookup key = some (.ended result)) :
    (runTool key program limit).Yields around (· = result) := by
  refine (surroundings_yields around).bind fun same found => ?_
  rw [found, ended]
  exact .pure rfl

/-- The tree is that in the answer of the compiler. -/
theorem parseTree_of_answer {tree : Value}
    (ended : around.tools.lookup "solc" = some (.ended result)) (answer : treeIn result.output = .ok tree)
    (content : String) : (parseTree (.text content)).Yields around (· = tree) := by
  refine (Run.Yields.rescue ?_ _).settle
  refine (Run.Yields.ofOutcome rfl).bind fun _ _ => (runTool_yields ended).bind fun got same => ?_
  rw [same]
  exact (Run.Yields.ofOutcome answer).bind fun read known => .atEnd known

/-- A scan of a tree finds nothing: it fails at the first contract, and a failure is printed and forgotten. -/
theorem analyze_yields (content : Value) (around : Surroundings) : (analyze content).Yields around (· = []) := by
  refine (Run.Ensures.rescue ?_ fun fault => ?_).settle
  · refine (Run.Ensures.anything _).bind fun tree _ => ?_
    split
    next => exact Run.Yields.ensures (.early rfl)
    next =>
      refine (Run.Ensures.ofOutcome _).bind fun text _ => ?_
      cases contracts tree with
      | nil => exact Run.Yields.ensures (.early rfl)
      | cons contract rest =>
        have failing : Run.Ensures around ((contract :: rest).mapM fun contract =>
            Run.ofOutcome (contractFindings text contract)) fun _ => False :=
          (Run.Ensures.ofOutcome _).bind fun found looked => absurd looked (contractFindings_ne_ok text contract found)
        exact failing.bind fun _ impossible => impossible.elim
  · exact (say_yields around _).bind fun _ _ => .early rfl

/-- Open functions are reported exactly if there are none: nothing is found in any tree. -/
theorem open_functions_reported_iff (content : String) (around : Surroundings) (trace : Trace) :
    ∃ tree found, (parseTree (.text content) around trace).1 = .ok tree ∧
      (analyze (.text content) around trace).1 = .ok found ∧
      ((∀ function, Due tree function → Tells content found function) ↔ ∀ function, ¬Due tree function) ∧
      (∀ result, around.tools.lookup "solc" = some (.ended result) →
        ∀ answer, treeIn result.output = .ok answer → tree = answer) ∧
      found = [] ∧
      ∀ contract ∈ contracts tree, TidyContract contract →
        contractFindings content contract = .error (.noMember "ASTAnalyzer" "_analyze_modifiers") ∧
        ∃ accesses, functionsFindings (functionsOf contract) content = .ok accesses ∧
          List.Forall₂ (fun function finding => IsAccess finding ∧
            ∀ offset, StartsAt function offset → finding.line = .int offset)
            ((functionsOf contract).filter isOpen) accesses := by
  obtain ⟨tree, parsed, -⟩ := parseTree_yields (.text content) around trace
  obtain ⟨found, done, rfl⟩ := analyze_yields (.text content) around trace
  refine ⟨tree, [], parsed, done,
    ⟨fun told function due => ?_, fun none function due => absurd due (none function)⟩,
    fun result ended answer read => ?_, rfl, fun contract member tidy => ⟨contractFindings_eq tidy content, ?_⟩⟩
  · obtain ⟨finding, member, -⟩ := told function due
    cases member
  · exact (parseTree_of_answer ended read content).ensures trace tree parsed
  · exact functionsFindings_open (tidy.of_kind "FunctionDefinition") content

/-- What an output of one line is read as has a property if the characters are read so. -/
theorem exists_treeIn {cs : List Char} {property : Value → Bool} (single : Text.linesFrom [] cs = [cs])
    (begins : ['\x7b', '"'].isPrefixOf cs)
    (read : (Document.Json.value? (cs.length + 1) (Document.Json.skipBlanks cs)).any fun found =>
      (Document.Json.skipBlanks found.2).isEmpty && property found.1) :
    ∃ tree, treeIn (String.ofList cs) = .ok tree ∧ property tree := by
  cases value : Document.Json.value? (cs.length + 1) (Document.Json.skipBlanks cs) with
  | none =>
    rw [value] at read
    cases read
  | some found =>
    rw [value] at read
    obtain ⟨ended, holds⟩ := Bool.and_eq_true_iff.mp read
    have parsed : Document.Json.parse? (String.ofList cs) = some found.1 := by
      simp only [Document.Json.parse?, String.toList_ofList, value]
      exact if_pos ended
    have lines : Text.lines (String.ofList cs) = [String.ofList cs] := by
      rw [Text.lines, String.toList_ofList, single, map_singleton]
    have first : Text.startsWith (String.ofList cs) "\x7b\"" = true := by simpa [Text.startsWith] using begins
    refine ⟨found.1, ?_, holds⟩
    simp only [treeIn, lines, find?_cons, first, parsed]
    rfl

def openFile : String := "contract A \x7b\n  function f() public \x7b\x7d\n\x7d"

/-- A compiler that answers with a contract that has one open function. -/
def openAnswer : ToolResult where
  output :=
    "\x7b\"nodeType\":\"ContractDefinition\",\"nodes\":[\x7b\"nodeType\":\"FunctionDefinition\",\"name\":\"f\",\"visibility\":\"public\",\"src\":\"15:22:0\"\x7d]\x7d"
  complaints := ""
  status := .int 0

set_option maxRecDepth 1000 in
private theorem openAnswer_due : ∃ tree function, treeIn openAnswer.output = .ok tree ∧ Due tree function ∧
    StartsAt function 15 := by
  have read : ∃ tree, treeIn openAnswer.output = .ok tree ∧ ((contracts tree).any fun contract =>
      (functionsOf contract).any fun function =>
        isOpen function && (fieldOr function "src" (.text "0:0:0")).isText "15:22:0") = true :=
    exists_treeIn (by decide +kernel) (by decide +kernel) (by decide +kernel)
  obtain ⟨tree, answer, among⟩ := read
  obtain ⟨contract, inTree, among⟩ := any_eq_true.mp among
  obtain ⟨function, inContract, found⟩ := any_eq_true.mp among
  obtain ⟨opened, place⟩ := Bool.and_eq_true_iff.mp found
  refine ⟨tree, function, answer, ⟨contract, inTree, inContract, opened⟩, "15", "22:0",
    ?_, by decide, by decide +kernel⟩
  exact isText_iff.mp place

/-- An open function that begins on the second line of its file is not reported. -/
theorem open_function_not_reported :
    let around : Surroundings := { (default : Surroundings) with tools := [("solc", .ended openAnswer)] }
    ∃ tree found function, (parseTree (.text openFile) around {}).1 = .ok tree ∧
      (analyze (.text openFile) around {}).1 = .ok found ∧ Due tree function ∧ StartsAt function 15 ∧
      lineAt openFile 15 = 2 ∧ ¬Tells openFile found function := by
  intro around
  obtain ⟨tree, function, read, due, starts⟩ := openAnswer_due
  have ended : around.tools.lookup "solc" = some (.ended openAnswer) := rfl
  obtain ⟨same, parsed, rfl⟩ := parseTree_of_answer ended read openFile {}
  obtain ⟨found, done, rfl⟩ := analyze_yields (.text openFile) around {}
  refine ⟨same, [], function, parsed, done, due, starts, by decide +kernel, ?_⟩
  rintro ⟨finding, member, -⟩
  cases member

end ContractLint.Scan.Syntax
