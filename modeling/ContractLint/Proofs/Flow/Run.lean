import ContractLint.Proofs.Flow.Fresh

/-! # What building leaves behind

The moves of building fit, so each of them adds to the graph what it makes and takes nothing away.
The finished graph has the entry and the blocks made for the statements of the function, each under
a name of its own, and its edges are those that were joined.
-/

namespace ContractLint.Flow

open List Program

variable {graph : ControlGraph} {f : Function} {draft : Draft}

/-! ## Names and edges -/

namespace Valid

variable {names : List String} {moves : List Move}

/-- Moves that fit never take a name twice. -/
theorem nodup (valid : Valid names moves) (distinct : names.Nodup) : (names ++ moves.flatMap Move.made).Nodup := by
  induction moves generalizing names with
  | nil => simpa using distinct
  | cons move rest ih =>
    obtain ⟨fits, valid⟩ := valid
    rw [flatMap_cons, ← append_assoc]
    apply ih valid
    cases move with
    | make block =>
      refine nodup_append.mpr ⟨distinct, by simp [Move.made], ?_⟩
      intro name taken other new same
      obtain rfl := mem_singleton.mp new
      exact fits (same ▸ taken)
    | place | fork | stop | join => simpa [Move.made] using distinct

/-- Moves that fit join blocks that are there. -/
theorem joined_mem (valid : Valid names moves) :
    ∀ edge ∈ moves.flatMap Move.joined, edge.source ∈ names ++ moves.flatMap Move.made ∧
      edge.target ∈ names ++ moves.flatMap Move.made := by
  induction moves generalizing names with
  | nil => simp
  | cons move rest ih =>
    obtain ⟨fits, valid⟩ := valid
    rw [flatMap_cons, flatMap_cons, ← append_assoc, forall_mem_append]
    refine ⟨?_, ih valid⟩
    intro edge member
    cases move with
    | join edge =>
      obtain rfl := mem_singleton.mp member
      exact ⟨by simp [fits.1], by simp [fits.2]⟩
    | make | place | fork | stop => contradiction

end Valid

namespace ControlGraph

/-- To change a block keeps the names. -/
theorem names_change (graph : ControlGraph) (id : String) (f : Block → Block) :
    (graph.change id f).names = graph.names := by
  simp only [names, change, map_map]
  apply map_congr_left
  intro entry _
  simp only [Function.comp_apply]
  split <;> rfl

/-- A new block is named last. -/
theorem names_put {block : Block} (fresh : block.id ∉ graph.names) :
    (graph.put block).names = graph.names ++ [block.id] := by
  rw [put, if_neg (by simpa using fresh)]
  simp [names]

end ControlGraph

namespace Draft

/-- A move that fits adds the names that it makes. -/
theorem perform_names {move : Move} (fits : move.Fits draft.graph.names) :
    (draft.perform move).graph.names = draft.graph.names ++ move.made := by
  cases move with
  | make block => exact ControlGraph.names_put fits
  | place name s => simp [perform, on, ControlGraph.addStatement, ControlGraph.names_change, Move.made]
  | fork name => simp [perform, on, ControlGraph.names_change, Move.made]
  | stop name => simp [perform, ControlGraph.names_change, Move.made]
  | join edge => simp [perform, on, ControlGraph.join, ControlGraph.names, Move.made]

private theorem run_names {moves : List Move} (valid : Valid draft.graph.names moves) :
    (draft.run moves).graph.names = draft.graph.names ++ moves.flatMap Move.made := by
  induction moves generalizing draft with
  | nil => simp
  | cons move rest ih =>
    obtain ⟨fits, valid⟩ := valid
    have names := perform_names fits
    rw [run_cons, ih (by rwa [names]), names, flatMap_cons, append_assoc]

private theorem perform_edges (draft : Draft) (move : Move) :
    (draft.perform move).graph.edges = draft.graph.edges ++ move.joined := by
  cases move with
  | make block =>
    simp only [perform, on, ControlGraph.put]
    split <;> simp [Move.joined]
  | place | fork | stop | join =>
    simp [perform, on, ControlGraph.addStatement, ControlGraph.change, ControlGraph.join, Move.joined]

private theorem run_edges (draft : Draft) (moves : List Move) :
    (draft.run moves).graph.edges = draft.graph.edges ++ moves.flatMap Move.joined := by
  induction moves generalizing draft with
  | nil => simp
  | cons move rest ih => rw [run_cons, ih, perform_edges, flatMap_cons, append_assoc]

private theorem perform_entry (draft : Draft) (move : Move) : (draft.perform move).graph.entry = draft.graph.entry := by
  cases move with
  | make block =>
    simp only [perform, on, ControlGraph.put]
    split <;> rfl
  | place | fork | stop | join => rfl

private theorem run_entry (draft : Draft) (moves : List Move) : (draft.run moves).graph.entry = draft.graph.entry := by
  induction moves generalizing draft with
  | nil => rfl
  | cons move rest ih => rw [run_cons, ih, perform_entry]

end Draft

/-! ## Blocks under their own names -/

/-- Every block stands under its own name. -/
def Keyed (graph : ControlGraph) : Prop := ∀ entry ∈ graph.blocks, entry.2.id = entry.1

theorem Keyed.change (keyed : Keyed graph) (id : String) {f : Block → Block}
    (same : ∀ block, (f block).id = block.id) : Keyed (graph.change id f) := by
  intro entry member
  obtain ⟨before, known, rfl⟩ := mem_map.mp member
  have id := keyed before known
  split
  · exact (same before.2).trans id
  · exact id

private theorem Keyed.put (keyed : Keyed graph) (block : Block) : Keyed (graph.put block) := by
  intro entry member
  rw [ControlGraph.put] at member
  split at member
  · obtain ⟨before, known, rfl⟩ := mem_map.mp member
    split
    · rfl
    · exact keyed before known
  · obtain known | new := mem_append.mp member
    · exact keyed entry known
    · obtain rfl := mem_singleton.mp new
      rfl

private theorem Draft.perform_keyed (keyed : Keyed draft.graph) (move : Move) : Keyed (draft.perform move).graph := by
  cases move with
  | make block => exact keyed.put block
  | place | fork | stop => exact keyed.change _ fun _ => rfl
  | join => exact keyed

private theorem Draft.run_keyed (keyed : Keyed draft.graph) (moves : List Move) : Keyed (draft.run moves).graph := by
  induction moves generalizing draft with
  | nil => exact keyed
  | cons move rest ih => exact ih (draft.perform_keyed keyed move)

/-! ## The edges made for a block -/

/-- The edges joined for some statements, in their order. -/
def madeEdges (current : String) (block : List Stmt) : List Edge :=
  (moves current block).flatMap Move.joined

@[simp] theorem madeEdges_nil (current : String) : madeEdges current [] = [] := rfl

theorem madeEdges_branch (current id : String) (condition : Option Expr) (thenBlock elseBlock rest : List Stmt) :
    madeEdges current (.branch id condition thenBlock elseBlock :: rest) =
      [⟨current, below current .thenWay, .whenTrue⟩,
        ⟨current, below current (if elseBlock.isEmpty then .merge else .elseWay), .whenFalse⟩]
      ++ madeEdges (below current .thenWay) thenBlock
      ++ madeEdges (below current .elseWay) elseBlock
      ++ (if elseBlock.isEmpty then []
        else [⟨after (below current .elseWay) elseBlock, below current .merge, .controlFlow⟩])
      ++ [⟨after (below current .thenWay) thenBlock, below current .merge, .controlFlow⟩]
      ++ madeEdges (below current .merge) rest := by
  cases elseBlock <;> simp [madeEdges, moves_branch, branchMoves, mergeMoves, Move.joined]

theorem madeEdges_loop (current id : String) (condition : Option Expr) (body rest : List Stmt) :
    madeEdges current (.loop id condition body :: rest) =
      [⟨current, below current .header, .controlFlow⟩,
        ⟨below current .header, below current .body, .whenTrue⟩,
        ⟨below current .header, below current .exit, .whenFalse⟩]
      ++ madeEdges (below current .body) body
      ++ [⟨after (below current .body) body, below current .header, .loopBack⟩]
      ++ madeEdges (below current .exit) rest := by
  simp [madeEdges, moves_loop, loopMoves, Move.joined]

theorem madeEdges_leaf {s : Stmt} (leaf : s.isLeaf) (current : String) (rest : List Stmt) :
    madeEdges current (s :: rest) = madeEdges current rest := by
  have none : (leafMoves current s).flatMap Move.joined = [] := by
    simp only [leafMoves]
    split <;> rfl
  rw [madeEdges, moves_leaf leaf, flatMap_append, none]
  rfl

/-! ## The finished graph -/

/-- The name of the block where a function begins. -/
def entryName (f : Function) : String := f.name ++ "_entry"

def Draft.start (entry : String) : Draft :=
  { graph := { blocks := [(entry, { id := entry, isEntry := true })], entry := some entry } }

/-- The graph that the moves for the statements of a function make. -/
def finished (f : Function) : ControlGraph :=
  ((Draft.start (entryName f)).run (moves (entryName f) f.body)).finish (after (entryName f) f.body)

/-- A loop around a branch with one way, then a branch with two ways. -/
def sample : Function where
  name := "f"
  body := [
    .loop "loop" none [.branch "inner" none [.ret "return" none] [], .plain "last" .functionCall],
    .branch "outer" none [] [.plain "only" .throw],
    .ret "end" none]

theorem Draft.finish_names (draft : Draft) (last : String) : (draft.finish last).names = draft.graph.names := by
  change (draft.graph.change last fun block => { block with isExit := true }).names = _
  rw [ControlGraph.names_change]

private theorem Draft.finish_keyed (keyed : Keyed draft.graph) (last : String) : Keyed (draft.finish last) := by
  change Keyed (draft.graph.change last fun block => { block with isExit := true })
  exact keyed.change last fun _ => rfl

/-- The graph of a whole body is built. -/
theorem controlGraph_eq (nonempty : f.body ≠ []) (whole : Whole f.body) : controlGraph f = .ok (finished f) := by
  rw [controlGraph, if_neg (by simpa using nonempty)]
  change (addBlock (Draft.start (entryName f)) (entryName f) f.body >>= _) = _
  rw [addBlock_eq whole, Outcome.ok_bind]
  rfl

theorem controlGraph_empty (empty : f.body = []) : controlGraph f = .ok {} := by
  rw [controlGraph, empty]
  rfl

/-- A graph that can be made is that of a function whose branches and loops hold their blocks. -/
theorem whole_of_controlGraph (built : controlGraph f = .ok graph) : Whole f.body := by
  by_cases empty : f.body = []
  · simp [empty, Whole]
  · rw [controlGraph, if_neg (by simpa using empty)] at built
    obtain ⟨_, built, _⟩ := Outcome.bind_eq_ok.mp built
    exact whole_of_addBlock built

/-- A graph that can be made is empty or finished. -/
theorem controlGraph_cases (built : controlGraph f = .ok graph) :
    (f.body = [] ∧ graph = {}) ∨ (f.body ≠ [] ∧ graph = finished f) := by
  by_cases empty : f.body = []
  · rw [controlGraph_empty empty] at built
    exact .inl ⟨empty, (Except.ok.inj built).symm⟩
  · rw [controlGraph_eq empty (whole_of_controlGraph built)] at built
    exact .inr ⟨empty, (Except.ok.inj built).symm⟩

/-- The graph can be made if the branches and loops of the function hold their blocks. -/
theorem exists_controlGraph (whole : Whole f.body) : ∃ graph, controlGraph f = .ok graph := by
  by_cases empty : f.body = []
  · exact ⟨_, controlGraph_empty empty⟩
  · exact ⟨_, controlGraph_eq empty whole⟩

theorem start_ready (entry : String) : Ready (Draft.start entry).graph.names entry where
  present := mem_singleton_self entry
  alone := fun _ member _ => mem_singleton.mp member

/-- All moves for the statements of a function fit. -/
theorem body_valid (f : Function) : Valid (Draft.start (entryName f)).graph.names (moves (entryName f) f.body) :=
  moves_valid (start_ready (entryName f))

/-- The blocks are the entry and what the body makes. -/
theorem finished_names (f : Function) : (finished f).names = entryName f :: madeNames (entryName f) f.body := by
  rw [finished, Draft.finish_names, Draft.run_names (body_valid f)]
  rfl

/-- No name is given twice. -/
theorem finished_nodup (f : Function) : (finished f).names.Nodup := by
  rw [finished_names]
  exact (body_valid f).nodup (by simp [Draft.start, ControlGraph.names])

/-- The edges are those that the body makes. -/
theorem finished_edges (f : Function) : (finished f).edges = madeEdges (entryName f) f.body :=
  Draft.run_edges (Draft.start (entryName f)) (moves (entryName f) f.body)

theorem finished_entry (f : Function) : (finished f).entry = some (entryName f) :=
  Draft.run_entry (Draft.start (entryName f)) (moves (entryName f) f.body)

theorem finished_keyed (f : Function) : Keyed (finished f) := by
  have start : Keyed (Draft.start (entryName f)).graph := by simp [Keyed, Draft.start]
  exact Draft.finish_keyed (Draft.run_keyed start _) _

/-- Both ends of every edge are blocks of the graph. -/
theorem finished_endpoints (f : Function) :
    ∀ edge ∈ (finished f).edges,
      edge.source ∈ (finished f).names ∧ edge.target ∈ (finished f).names := by
  rw [finished_names, finished_edges]
  exact (body_valid f).joined_mem

end ContractLint.Flow
