import ContractLint.Flow.Graph
import ContractLint.Program.Module

/-! # Control flow

The statements of a function are put into blocks, joined by edges where the control may go on. A
block is named after the block before it, so that the names tell the way from the entry. Statements
after a return stay in the block of the return.
-/

namespace ContractLint.Flow

open Program

structure Block where
  id : String
  statements : List Stmt := []
  /-- The function begins here. -/
  isEntry : Bool := false
  /-- The function may end here. -/
  isExit : Bool := false
  /-- The control goes different ways from here. -/
  isBranch : Bool := false
  /-- Different ways meet here. -/
  isMerge : Bool := false
deriving Inhabited

def Block.isBasic (block : Block) : Bool := !block.statements.isEmpty && !block.isBranch

structure ControlGraph where
  /-- The blocks by name, in the order in which they were made. -/
  blocks : List (String × Block) := []
  edges : List Edge := []
  /-- The name of the block where the function begins. -/
  entry : Option String := none
  /-- The blocks where the function may end, once for every way to end there. -/
  exits : List Block := []
deriving Inhabited

namespace ControlGraph

def names (graph : ControlGraph) : List String := graph.blocks.map Prod.fst

/-- Puts a block under its name; a block of that name is replaced. -/
def put (graph : ControlGraph) (block : Block) : ControlGraph :=
  if graph.names.contains block.id then
    { graph with blocks := graph.blocks.map fun entry =>
        if entry.1 == block.id then (block.id, block) else entry }
  else { graph with blocks := graph.blocks ++ [(block.id, block)] }

def change (graph : ControlGraph) (id : String) (f : Block → Block) : ControlGraph :=
  { graph with blocks := graph.blocks.map fun entry =>
      if entry.1 == id then (entry.1, f entry.2) else entry }

def addStatement (graph : ControlGraph) (id : String) (s : Stmt) : ControlGraph :=
  graph.change id fun block => { block with statements := block.statements ++ [s] }

def join (graph : ControlGraph) (edges : List Edge) : ControlGraph :=
  { graph with edges := graph.edges ++ edges }

end ControlGraph

/-- A control flow graph under construction: the graph so far, and the names of the blocks where
the function may end. -/
structure Draft where
  graph : ControlGraph := {}
  /-- The names of the blocks where the function may end. -/
  ends : List String := []

namespace Draft

def on (draft : Draft) (f : ControlGraph → ControlGraph) : Draft :=
  { draft with graph := f draft.graph }

def addReturn (draft : Draft) (current : String) (s : Stmt) : Draft where
  graph := (draft.graph.addStatement current s).change current fun block =>
    { block with isExit := true }
  ends := draft.ends ++ [current]

/-- Puts a branch into a block, and makes the blocks for its ways and for where they meet. -/
def openBranch (draft : Draft) (current : String) (s : Stmt) (hasElse : Bool) : Draft :=
  draft.on fun graph =>
    let graph := (graph.addStatement current s).change current fun block =>
      { block with isBranch := true }
    let graph := graph.put { id := current ++ "_then" }
    let graph := if hasElse then graph.put { id := current ++ "_else" } else graph
    let graph := graph.put { id := current ++ "_merge", isMerge := true }
    graph.join [
      ⟨current, current ++ "_then", .whenTrue⟩,
      ⟨current, if hasElse then current ++ "_else" else current ++ "_merge", .whenFalse⟩]

/-- Joins the last block of a way of a branch with the block where the ways meet. -/
def closeWay (draft : Draft) (last current : String) : Draft :=
  draft.on fun graph => graph.join [⟨last, current ++ "_merge", .controlFlow⟩]

/-- Makes the blocks of a loop that follows a block. -/
def openLoop (draft : Draft) (current : String) (s : Stmt) : Draft :=
  draft.on fun graph =>
    let graph := graph.put
      { id := current ++ "_loop_header", statements := [s], isBranch := true }
    let graph := graph.put { id := current ++ "_loop_body" }
    let graph := graph.put { id := current ++ "_loop_exit" }
    graph.join [
      ⟨current, current ++ "_loop_header", .controlFlow⟩,
      ⟨current ++ "_loop_header", current ++ "_loop_body", .whenTrue⟩,
      ⟨current ++ "_loop_header", current ++ "_loop_exit", .whenFalse⟩]

def closeLoop (draft : Draft) (last current : String) : Draft :=
  draft.on fun graph => graph.join [⟨last, current ++ "_loop_header", .loopBack⟩]

end Draft

mutual

/-- Adds a statement after a block, and gives the block where the control goes on. A statement that
is a branch or a loop by kind alone has no blocks to go on in. A second block without statements
makes no way of its own. -/
def addStmt (draft : Draft) (current : String) : Stmt → Outcome (Draft × String)
  | .branch id condition thenBlock elseBlock => do
    let hasElse := !elseBlock.isEmpty
    let draft := draft.openBranch current (.branch id condition thenBlock elseBlock) hasElse
    let (draft, last) ← addBlock draft (current ++ "_then") thenBlock
    let (draft, lastElse) ← addBlock draft (current ++ "_else") elseBlock
    let draft := if hasElse then draft.closeWay lastElse current else draft
    return (draft.closeWay last current, current ++ "_merge")
  | .loop id condition body => do
    let draft := draft.openLoop current (.loop id condition body)
    let (draft, last) ← addBlock draft (current ++ "_loop_body") body
    return (draft.closeLoop last current, current ++ "_loop_exit")
  | .ret id value => pure (draft.addReturn current (.ret id value), current)
  | .assign id target value =>
    pure (draft.on fun graph => graph.addStatement current (.assign id target value), current)
  | .plain id kind =>
    match kind with
    | .branch => throw (.noMember "IRStatement" "else_block")
    | .whileLoop => throw (.noMember "IRStatement" "body")
    | .return => pure (draft.addReturn current (.plain id .return), current)
    | kind => pure (draft.on fun graph => graph.addStatement current (.plain id kind), current)
termination_by structural s => s

def addBlock (draft : Draft) (current : String) : List Stmt → Outcome (Draft × String)
  | [] => pure (draft, current)
  | s :: rest => do
    let (draft, current) ← addStmt draft current s
    addBlock draft current rest
termination_by structural block => block

end

/-- The finished graph: the last block is an end too, unless a return made it one. -/
def Draft.finish (draft : Draft) (last : String) : ControlGraph :=
  let isExit := ((draft.graph.blocks.lookup last).map Block.isExit).getD true
  let ends := if isExit then draft.ends else draft.ends ++ [last]
  let graph := draft.graph.change last fun block => { block with isExit := true }
  { graph with exits := ends.filterMap fun id => graph.blocks.lookup id }

/-- The control flow of a function. A function without statements has no blocks. -/
def controlGraph (f : Function) : Outcome ControlGraph := do
  if f.body.isEmpty then return {}
  let entry := f.name ++ "_entry"
  let start : Draft :=
    { graph := { blocks := [(entry, { id := entry, isEntry := true })], entry := some entry } }
  let (draft, last) ← addBlock start entry f.body
  return draft.finish last

namespace ControlGraph

/-- The names of blocks that cannot be reached from the entry, in ascending order. -/
def unreachable (graph : ControlGraph) : List String :=
  match graph.entry with
  | none => []
  | some entry =>
    let reached := reachable graph.edges entry
    (graph.names.filter fun name => !reached.contains name).mergeSort fun a b => decide (a ≤ b)

/-- The number of independent ways through a graph. -/
def complexity (graph : ControlGraph) : Int :=
  (graph.edges.length : Int) - graph.blocks.length + 2

def components (graph : ControlGraph) : List (List String) :=
  Flow.components graph.edges graph.names

end ControlGraph

instance : ToValue Block where
  write block := .object [
    ("id", .text block.id),
    ("statements", .ofTexts (block.statements.map Stmt.id)),
    ("entry", .bool block.isEntry),
    ("exit", .bool block.isExit),
    ("branch", .bool block.isBranch),
    ("merge", .bool block.isMerge),
    ("basic_block", .bool block.isBasic)]

def ControlGraph.toValue (graph : ControlGraph) : Value :=
  .object [
    ("nodes", .list (graph.blocks.map fun (key, block) =>
      match Value.of block with
      | .object fields => .object (("key", .text key) :: fields)
      | other => other)),
    ("edges", .of graph.edges),
    ("entry", .of graph.entry),
    ("exits", .ofTexts (graph.exits.map Block.id))]

mutual

/-- The greatest depth met once a statement at a depth has been looked at, `deepest` being the one met before. The
statements inside it, if there are any, are one level deeper, those of a second block after those of the first. -/
def deepenOf (deepest depth : Nat) : Stmt → Nat
  | .branch _ _ thenBlock elseBlock =>
    if thenBlock.isEmpty && elseBlock.isEmpty then deepest
    else deepen (deepen (max deepest (depth + 1)) (depth + 1) thenBlock) (depth + 1) elseBlock
  | .loop _ _ body =>
    if body.isEmpty then deepest else deepen (max deepest (depth + 1)) (depth + 1) body
  | .assign .. => deepest
  | .ret .. => deepest
  | .plain .. => deepest
termination_by structural s => s

/-- The greatest depth met once the statements of a list have been looked at one after the other. -/
def deepen (deepest depth : Nat) : List Stmt → Nat
  | [] => deepest
  | s :: rest => deepen (deepenOf deepest depth s) depth rest
termination_by structural block => block

end

/-- The depth to which branches and loops are nested in a block. -/
def nesting (block : List Stmt) : Nat := deepen 0 0 block

end ContractLint.Flow
