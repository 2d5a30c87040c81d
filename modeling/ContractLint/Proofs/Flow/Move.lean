import ContractLint.Flow.Control
import ContractLint.Proofs.Outcome
import ContractLint.Proofs.Program.Nesting

/-! # Building a control flow graph move by move

A control flow graph is built by small moves: a block is made, a statement is put into a block, a
block is noted as a fork or an end, two blocks are joined. `moves` lists the moves that the statements
of a block call for, in their order, and `addBlock_eq` says that these are the moves that building
makes. What holds of the graph is then shown once for each kind of move.
-/

namespace ContractLint.Flow

open Program

variable {s : Stmt} {current : String} {draft : Draft} {result : Draft × String} {block : List Stmt}

/-! ## Names -/

/-- What the name of a block adds to the name of the block before it. -/
inductive Suffix where
  | thenWay
  | elseWay
  | merge
  | header
  | body
  | exit
deriving DecidableEq

def Suffix.text : Suffix → String
  | thenWay => "_then"
  | elseWay => "_else"
  | merge => "_merge"
  | header => "_loop_header"
  | body => "_loop_body"
  | exit => "_loop_exit"

/-- The name of a block that comes after a block. -/
def below (current : String) (suffix : Suffix) : String := current ++ suffix.text

/-- The name of the block where the control goes on after a statement. -/
def afterOf (current : String) : Stmt → String
  | .branch .. => below current .merge
  | .loop .. => below current .exit
  | .assign .. => current
  | .ret .. => current
  | .plain .. => current

/-- The name of the block where the control goes on after some statements. -/
def after (current : String) (block : List Stmt) : String := block.foldl afterOf current

/-! ## Moves -/

/-- One change to a control flow graph under construction. -/
inductive Move where
  /-- Puts a block under its name. -/
  | make (block : Block)
  /-- Adds a statement to the block of a name. -/
  | place (name : String) (s : Stmt)
  /-- Notes that the control goes different ways from a block. -/
  | fork (name : String)
  /-- Notes that the function may end in a block. -/
  | stop (name : String)
  | join (edge : Edge)

namespace Move

/-- The names under which a move puts blocks. -/
def made : Move → List String
  | make block => [block.id]
  | _ => []

def joined : Move → List Edge
  | join edge => [edge]
  | _ => []

/-- The statements that a move adds, each with the name of its block. -/
def placed : Move → List (String × Stmt)
  | make block => block.statements.map fun s => (block.id, s)
  | place name s => [(name, s)]
  | _ => []

end Move

namespace Draft

def perform (draft : Draft) : Move → Draft
  | .make block => draft.on fun graph => graph.put block
  | .place name s => draft.on fun graph => graph.addStatement name s
  | .fork name => draft.on fun graph => graph.change name fun block => { block with isBranch := true }
  | .stop name =>
    { graph := draft.graph.change name fun block => { block with isExit := true }
      ends := draft.ends ++ [name] }
  | .join edge => draft.on fun graph => graph.join [edge]

def run (draft : Draft) (moves : List Move) : Draft := moves.foldl perform draft

@[simp] theorem run_nil (draft : Draft) : draft.run [] = draft := rfl

@[simp] theorem run_cons (draft : Draft) (move : Move) (moves : List Move) :
    draft.run (move :: moves) = (draft.perform move).run moves := rfl

private theorem run_append (draft : Draft) (first second : List Move) :
    draft.run (first ++ second) = (draft.run first).run second := List.foldl_append

end Draft

/-! ## The moves of a block -/

/-- The moves for a statement without blocks. -/
def leafMoves (current : String) (s : Stmt) : List Move :=
  .place current s :: if s.isReturn then [.stop current] else []

def branchMoves (current : String) (s : Stmt) (hasElse : Bool) : List Move :=
  [.place current s, .fork current, .make { id := below current .thenWay }]
  ++ (if hasElse then [.make { id := below current .elseWay }] else [])
  ++ [.make { id := below current .merge, isMerge := true },
    .join ⟨current, below current .thenWay, .whenTrue⟩,
    .join ⟨current, below current (if hasElse then .elseWay else .merge), .whenFalse⟩]

/-- The moves that join the ways of a branch. -/
def mergeMoves (current : String) (thenBlock elseBlock : List Stmt) : List Move :=
  (if elseBlock.isEmpty then []
  else [.join ⟨after (below current .elseWay) elseBlock, below current .merge, .controlFlow⟩])
  ++ [.join ⟨after (below current .thenWay) thenBlock, below current .merge, .controlFlow⟩]

def loopMoves (current : String) (s : Stmt) : List Move :=
  [.make { id := below current .header, statements := [s], isBranch := true },
    .make { id := below current .body },
    .make { id := below current .exit },
    .join ⟨current, below current .header, .controlFlow⟩,
    .join ⟨below current .header, below current .body, .whenTrue⟩,
    .join ⟨below current .header, below current .exit, .whenFalse⟩]

mutual

/-- The moves for a statement after a block. -/
def movesOf (current : String) : Stmt → List Move
  | .branch id condition thenBlock elseBlock =>
    branchMoves current (.branch id condition thenBlock elseBlock) (!elseBlock.isEmpty)
    ++ moves (below current .thenWay) thenBlock
    ++ moves (below current .elseWay) elseBlock
    ++ mergeMoves current thenBlock elseBlock
  | .loop id condition body =>
    loopMoves current (.loop id condition body)
    ++ moves (below current .body) body
    ++ [.join ⟨after (below current .body) body, below current .header, .loopBack⟩]
  | .assign id target value => leafMoves current (.assign id target value)
  | .ret id value => leafMoves current (.ret id value)
  | .plain id kind => leafMoves current (.plain id kind)
termination_by structural s => s

/-- The moves for the statements of a block after a block. -/
def moves (current : String) : List Stmt → List Move
  | [] => []
  | s :: rest => movesOf current s ++ moves (afterOf current s) rest
termination_by structural block => block

end

@[simp] theorem moves_nil (current : String) : moves current [] = [] := rfl

theorem moves_branch (current id : String) (condition : Option Expr) (thenBlock elseBlock rest : List Stmt) :
    moves current (.branch id condition thenBlock elseBlock :: rest) =
      branchMoves current (.branch id condition thenBlock elseBlock) (!elseBlock.isEmpty)
      ++ moves (below current .thenWay) thenBlock
      ++ moves (below current .elseWay) elseBlock
      ++ mergeMoves current thenBlock elseBlock
      ++ moves (below current .merge) rest := rfl

theorem moves_loop (current id : String) (condition : Option Expr) (body rest : List Stmt) :
    moves current (.loop id condition body :: rest) =
      loopMoves current (.loop id condition body)
      ++ moves (below current .body) body
      ++ [.join ⟨after (below current .body) body, below current .header, .loopBack⟩]
      ++ moves (below current .exit) rest := rfl

@[simp] theorem after_nil (current : String) : after current [] = current := rfl

@[simp] theorem after_branch (current id : String) (condition : Option Expr) (thenBlock elseBlock rest : List Stmt) :
    after current (.branch id condition thenBlock elseBlock :: rest) =
      after (below current .merge) rest := rfl

@[simp] theorem after_loop (current id : String) (condition : Option Expr) (body rest : List Stmt) :
    after current (.loop id condition body :: rest) = after (below current .exit) rest := rfl

theorem after_leaf (leaf : s.isLeaf) (current : String) (rest : List Stmt) :
    after current (s :: rest) = after current rest := by
  cases s with
  | branch => contradiction
  | loop => contradiction
  | assign | ret | plain => rfl

theorem moves_leaf (leaf : s.isLeaf) (current : String) (rest : List Stmt) :
    moves current (s :: rest) = leafMoves current s ++ moves current rest := by
  cases s with
  | branch => contradiction
  | loop => contradiction
  | assign | ret | plain => rfl

/-! ## Building makes the moves -/

private theorem openBranch_eq (draft : Draft) (current : String) (s : Stmt) (hasElse : Bool) :
    draft.openBranch current s hasElse = draft.run (branchMoves current s hasElse) := by
  cases hasElse <;>
    simp [Draft.openBranch, branchMoves, Draft.perform, Draft.on, ControlGraph.join, below, Suffix.text]

private theorem openLoop_eq (draft : Draft) (current : String) (s : Stmt) :
    draft.openLoop current s = draft.run (loopMoves current s) := by
  simp [Draft.openLoop, loopMoves, Draft.perform, Draft.on, ControlGraph.join, below, Suffix.text]

private theorem closeWays_eq (draft : Draft) (current : String) (thenBlock elseBlock : List Stmt) :
    Draft.closeWay
      (if !elseBlock.isEmpty then draft.closeWay (after (below current .elseWay) elseBlock) current
      else draft)
      (after (below current .thenWay) thenBlock) current =
      draft.run (mergeMoves current thenBlock elseBlock) := by
  cases elseBlock <;> rfl

private theorem addStmt_leaf (leaf : s.isLeaf) (simple : s.decides = false) (draft : Draft) (current : String) :
    addStmt draft current s = .ok (draft.run (leafMoves current s), current) := by
  cases s with
  | branch => contradiction
  | loop => contradiction
  | assign | ret => rfl
  | plain id kind =>
    cases kind with
    | branch | whileLoop => contradiction
    | _ => rfl

/-- A statement without blocks that can be added is no branch or loop by kind. -/
theorem simple_of_addStmt (leaf : s.isLeaf) (step : addStmt draft current s = .ok result) : s.decides = false := by
  cases s with
  | branch => contradiction
  | loop => contradiction
  | assign | ret => rfl
  | plain id kind =>
    cases kind with
    | branch | whileLoop => contradiction
    | _ => rfl

private theorem addBlock_cons {next : Draft} {name : String} (step : addStmt draft current s = .ok (next, name))
    (rest : List Stmt) : addBlock draft current (s :: rest) = addBlock next name rest := by
  rw [addBlock, step]
  rfl

/-- Building makes the moves of a block, and goes on after it. -/
theorem addBlock_eq (whole : Whole block) (draft : Draft) (current : String) :
    addBlock draft current block = .ok (draft.run (moves current block), after current block) := by
  induction block using blockInduction generalizing draft current with
  | nil => rfl
  | branch id condition thenBlock elseBlock rest ihThen ihElse ihRest =>
    obtain ⟨wholeThen, wholeElse, wholeRest⟩ := whole_branch.mp whole
    have step : addStmt draft current (.branch id condition thenBlock elseBlock) =
        .ok (draft.run (movesOf current (.branch id condition thenBlock elseBlock)),
          below current .merge) := by
      simp only [addStmt, openBranch_eq]
      rw [ihThen wholeThen, Outcome.ok_bind, ihElse wholeElse, Outcome.ok_bind]
      simp only [movesOf, Draft.run_append, ← closeWays_eq]
      rfl
    rw [addBlock_cons step, ihRest wholeRest, moves, Draft.run_append]
    rfl
  | loop id condition body rest ihBody ihRest =>
    obtain ⟨wholeBody, wholeRest⟩ := whole_loop.mp whole
    have step : addStmt draft current (.loop id condition body) =
        .ok (draft.run (movesOf current (.loop id condition body)), below current .exit) := by
      simp only [addStmt, openLoop_eq]
      rw [ihBody wholeBody, Outcome.ok_bind]
      simp only [movesOf, Draft.run_append]
      rfl
    rw [addBlock_cons step, ihRest wholeRest, moves, Draft.run_append]
    rfl
  | leaf s rest leaf ihRest =>
    obtain ⟨simple, wholeRest⟩ := (whole_leaf leaf).mp whole
    rw [addBlock_cons (addStmt_leaf leaf simple draft current), ihRest wholeRest, moves_leaf leaf,
      Draft.run_append, after_leaf leaf]

/-- Building fails on a block in which a branch or loop lacks its blocks. -/
theorem whole_of_addBlock (built : addBlock draft current block = .ok result) : Whole block := by
  induction block using blockInduction generalizing draft current result with
  | nil => simp [Whole]
  | branch id condition thenBlock elseBlock rest ihThen ihElse ihRest =>
    obtain ⟨_, step, builtRest⟩ := Outcome.bind_eq_ok.mp built
    obtain ⟨_, builtThen, step⟩ := Outcome.bind_eq_ok.mp step
    obtain ⟨_, builtElse, _⟩ := Outcome.bind_eq_ok.mp step
    exact whole_branch.mpr ⟨ihThen builtThen, ihElse builtElse, ihRest builtRest⟩
  | loop id condition body rest ihBody ihRest =>
    obtain ⟨_, step, builtRest⟩ := Outcome.bind_eq_ok.mp built
    obtain ⟨_, builtBody, _⟩ := Outcome.bind_eq_ok.mp step
    exact whole_loop.mpr ⟨ihBody builtBody, ihRest builtRest⟩
  | leaf s rest leaf ihRest =>
    obtain ⟨_, step, builtRest⟩ := Outcome.bind_eq_ok.mp built
    exact (whole_leaf leaf).mpr ⟨simple_of_addStmt leaf step, ihRest builtRest⟩

end ContractLint.Flow
