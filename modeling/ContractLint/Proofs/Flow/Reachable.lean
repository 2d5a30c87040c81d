import ContractLint.Proofs.Flow.Run
import Mathlib.Logic.Relation

/-! # Nodes that can be reached

The search looks at its start and, once for each edge out of a visited node, at the end of the edge. So it
stops, whatever cycles, loops and repeated edges the graph has. All it meets can be reached, and where the
edges of a visited node lead is visited or still pending; when nothing is pending, the visited nodes are
those to which some chain of edges leads.

Each block of a control flow graph is joined to a block made before it when it is made, and edges out of a block with
a return are kept. So a chain of edges leads from the entry to every block, and the search finds none that cannot be
reached.
-/

namespace ContractLint.Flow

open List

variable {edges : List Edge} {name : String} {graph : ControlGraph} {f : Function}

/-- Some edge leads from a node to another. -/
def Joined (edges : List Edge) (source target : String) : Prop :=
  ∃ edge ∈ edges, edge.source = source ∧ edge.target = target

/-- A chain of edges leads from a node to another. -/
def Reaches (edges : List Edge) : String → String → Prop := Relation.ReflTransGen (Joined edges)

theorem Reaches.refl (edges : List Edge) (name : String) : Reaches edges name name :=
  Relation.ReflTransGen.refl

theorem Reaches.trans {first second third : String} (start : Reaches edges first second)
    (rest : Reaches edges second third) : Reaches edges first third := Relation.ReflTransGen.trans start rest

theorem Reaches.along {source target : String} {kind : EdgeKind}
    (member : ⟨source, target, kind⟩ ∈ edges) : Reaches edges source target :=
  .single ⟨_, member, rfl, rfl⟩

/-- What edges never lead out of, chains of edges never lead out of. -/
theorem Reaches.keeps {first last : String} (reaches : Reaches edges first last) (inside : String → Prop)
    (closed : ∀ node, inside node → ∀ other, Joined edges node other → inside other) (start : inside first) :
    inside last := by
  induction reaches with
  | refl => exact start
  | tail _ step ih => exact closed _ ih _ step

theorem mem_successors {source target : String} :
    target ∈ successors edges source ↔ Joined edges source target := by
  simp [successors, Joined, and_assoc]

namespace Walk

/-- The search comes from one state to another by a number of steps. -/
inductive Runs (edges : List Edge) : Nat → Walk → Walk → Prop where
  | refl (walk : Walk) : Runs edges 0 walk walk
  | head {steps : Nat} {first next last : Walk} (taken : first.step edges = some next)
      (rest : Runs edges steps next last) : Runs edges (steps + 1) first last

variable {edges : List Edge} {start : String} {walk next : Walk}

/-- The number of steps is the number of nodes that were looked at. -/
theorem Runs.work {steps : Nat} {first last : Walk} (runs : Runs edges steps first last) :
    last.work edges + steps = first.work edges := by
  induction runs with
  | refl walk => rfl
  | head taken rest ih => rw [← Nat.add_assoc, ih, step_work taken]

/-- Finishing a search is a run that ends where no step is left. -/
theorem finish_runs (edges : List Edge) (walk : Walk) :
    ∃ steps, Runs edges steps walk (walk.finish edges) ∧ (walk.finish edges).step edges = none := by
  fun_induction walk.finish edges with
  | case1 walk ended => exact ⟨0, .refl walk, ended⟩
  | case2 walk next taken ih =>
    obtain ⟨steps, runs, ended⟩ := ih
    exact ⟨steps + 1, .head taken runs, ended⟩

/-- A walk ends only if nothing is pending. -/
theorem pending_of_step (ended : walk.step edges = none) : walk.pending = [] := by
  rw [step] at ended
  split at ended
  next none => exact none
  next => split at ended <;> contradiction

/-- A node has been visited, or it is pending. -/
def Meets (walk : Walk) (name : String) : Prop := name ∈ walk.visited ∨ name ∈ walk.pending

/-- A step loses no node. -/
theorem Meets.step (meets : walk.Meets name) (taken : walk.step edges = some next) : next.Meets name := by
  obtain ⟨node, pending, waiting, step⟩ := step_cases taken
  rw [Meets, waiting, mem_cons] at meets
  obtain ⟨old, rfl⟩ | ⟨-, rfl⟩ := step
  · obtain visited | rfl | later := meets
    · exact .inl visited
    · exact .inl old
    · exact .inr later
  · obtain visited | rfl | later := meets
    · exact .inl (mem_cons_of_mem _ visited)
    · exact .inl mem_cons_self
    · exact .inr (mem_append_right _ later)

/-- What is true of a search from a node at any time: it visits no node twice, it has met the node from
which it starts, all that it meets can be reached from there, and it meets whatever the edges of a visited
node lead to. -/
structure Explores (edges : List Edge) (start : String) (walk : Walk) : Prop where
  distinct : walk.visited.Nodup
  begun : walk.Meets start
  sound : ∀ name, walk.Meets name → Reaches edges start name
  closed : ∀ node ∈ walk.visited, ∀ other, Joined edges node other → walk.Meets other

private theorem explores_start (edges : List Edge) (start : String) : Explores edges start { pending := [start] } where
  distinct := nodup_nil
  begun := .inr (mem_singleton_self start)
  sound := by
    rintro name (visited | waiting)
    · contradiction
    · obtain rfl := mem_singleton.mp waiting
      exact .refl edges name
  closed := fun _ visited => nomatch visited

/-- A step of a walk goes on exploring. -/
theorem Explores.step (explores : Explores edges start walk) (taken : walk.step edges = some next) :
    Explores edges start next := by
  have begun := explores.begun.step taken
  have kept {node other : String} (visited : node ∈ walk.visited) (joined : Joined edges node other) :
      next.Meets other := (explores.closed node visited other joined).step taken
  obtain ⟨node, pending, waiting, step⟩ := step_cases taken
  have reached : ∀ name ∈ node :: pending, Reaches edges start name :=
    fun name later => explores.sound name (.inr (waiting ▸ later))
  obtain ⟨-, rfl⟩ | ⟨new, rfl⟩ := step
  · refine ⟨explores.distinct, begun, ?_, fun _ visited _ => kept visited⟩
    rintro name (visited | later)
    · exact explores.sound name (.inl visited)
    · exact reached name (mem_cons_of_mem _ later)
  · refine ⟨nodup_cons.mpr ⟨new, explores.distinct⟩, begun, ?_, ?_⟩
    · rintro name (visited | later)
      · obtain rfl | visited := mem_cons.mp visited
        · exact reached name mem_cons_self
        · exact explores.sound name (.inl visited)
      · obtain successor | later := mem_append.mp later
        · have joined := mem_successors.mp (mem_reverse.mp successor)
          exact (reached node mem_cons_self).trans (.single joined)
        · exact reached name (mem_cons_of_mem _ later)
    · -- the successors of the new node are pending, those of the others have been met before
      intro source visited other joined
      obtain rfl | visited := mem_cons.mp visited
      · exact .inr (mem_append_left _ (mem_reverse.mpr (mem_successors.mpr joined)))
      · exact kept visited joined

private theorem Explores.run {steps : Nat} {first last : Walk} (runs : Runs edges steps first last)
    (explores : Explores edges start first) : Explores edges start last := by
  induction runs with
  | refl walk => exact explores
  | head taken rest ih => exact ih (explores.step taken)

/-- When nothing is pending, exactly the nodes that can be reached have been visited. -/
theorem Explores.mem_visited (explores : Explores edges start walk) (none : walk.pending = []) :
    name ∈ walk.visited ↔ Reaches edges start name := by
  have visited {name : String} (meets : walk.Meets name) : name ∈ walk.visited := by
    rw [Meets, none] at meets
    exact meets.resolve_right not_mem_nil
  constructor
  · intro member
    exact explores.sound name (.inl member)
  · intro reaches
    exact reaches.keeps (· ∈ walk.visited)
      (fun node member other joined => visited (explores.closed node member other joined))
      (visited explores.begun)

theorem step_finish (edges : List Edge) (walk : Walk) : (walk.finish edges).step edges = none := by
  obtain ⟨_, -, ended⟩ := finish_runs edges walk
  exact ended

/-- A walk explores up to its end. -/
theorem explores_finish (edges : List Edge) (start : String) :
    Explores edges start (finish edges { pending := [start] }) := by
  obtain ⟨_, runs, -⟩ := finish_runs edges { pending := [start] }
  exact (explores_start edges start).run runs

/-- Edges are unused, or they start at a visited node. -/
theorem unused_add_countP (edges : List Edge) (visited : List String) :
    unused edges visited + edges.countP (fun edge => edge.source ∈ visited) = edges.length := by
  rw [Nat.add_comm, unused, length_eq_countP_add_countP fun edge : Edge => decide (edge.source ∈ visited)]
  simp

/-- A search from a node takes one step for this node and one for each edge out of a visited node. -/
theorem finish_steps (edges : List Edge) (start : String) :
    Runs edges
      (1 + edges.countP fun edge => edge.source ∈ (finish edges { pending := [start] }).visited)
      { pending := [start] } (finish edges { pending := [start] }) := by
  obtain ⟨steps, runs, ended⟩ := finish_runs edges { pending := [start] }
  have first : work edges { pending := [start] } = 1 + edges.length := by simp [work, unused]
  have last := runs.work
  rw [first, work, pending_of_step ended, length_nil, Nat.zero_add] at last
  have used := unused_add_countP edges (finish edges { pending := [start] }).visited
  obtain rfl : steps =
      1 + edges.countP fun edge => edge.source ∈ (finish edges { pending := [start] }).visited := by
    omega
  exact runs

end Walk

/-- The search meets exactly the nodes that can be reached. -/
theorem mem_reachable {start : String} : name ∈ reachable edges start ↔ Reaches edges start name :=
  (Walk.explores_finish edges start).mem_visited (Walk.pending_of_step (Walk.step_finish edges _))

/-- The search for what can be reached from a node ends, after one step for the node and one for each edge
out of a node that it has visited, so after one step more than there are edges at the latest. Then it has
visited every node to which a chain of edges leads, and no other, each once. -/
theorem search_ends_with_reachable (edges : List Edge) (start : String) :
    (∃ last, Walk.Runs edges (1 + edges.countP fun edge => edge.source ∈ reachable edges start)
        { pending := [start] } last ∧
      last.step edges = none ∧ last.visited = reachable edges start) ∧
      (reachable edges start).Nodup ∧
      ∀ name, name ∈ reachable edges start ↔ Reaches edges start name := by
  refine ⟨?_, (Walk.explores_finish edges start).distinct, fun _ => mem_reachable⟩
  exact ⟨_, Walk.finish_steps edges start, Walk.step_finish edges _, rfl⟩

/-! ## Every block can be reached -/

open Program

/-- Edges lead to every block that was made for some statements. -/
theorem reaches_made {current : String} {block : List Stmt} (subset : madeEdges current block ⊆ edges)
    (member : name ∈ current :: madeNames current block) : Reaches edges current name := by
  induction block using blockInduction generalizing current name with
  | nil =>
    obtain rfl := mem_singleton.mp member
    exact .refl _ _
  | branch id condition thenBlock elseBlock rest ihThen ihElse ihRest =>
    simp only [madeEdges_branch, append_subset, cons_subset, nil_subset, and_true] at subset
    obtain ⟨⟨⟨⟨⟨⟨toThen, toElse⟩, inThen⟩, inElse⟩, -⟩, toMerge⟩, inRest⟩ := subset
    have viaThen {name : String}
        (member : name ∈ below current .thenWay :: madeNames (below current .thenWay) thenBlock) :
        Reaches edges current name := (Reaches.along toThen).trans (ihThen inThen member)
    have merge : Reaches edges current (below current .merge) :=
      (viaThen (after_mem _ _)).trans (.along toMerge)
    have viaElse {name : String} (some : elseBlock ≠ [])
        (member : name ∈ below current .elseWay :: madeNames (below current .elseWay) elseBlock) :
        Reaches edges current name := by
      rw [isEmpty_eq_false_iff.mpr some] at toElse
      exact (Reaches.along toElse).trans (ihElse inElse member)
    simp only [madeNames_branch, mem_cons, mem_append, mem_branchNames] at member
    obtain rfl | (((rfl | ⟨some, rfl⟩ | rfl) | made) | made) | made := member
    · exact .refl _ _
    · exact viaThen mem_cons_self
    · exact viaElse (by simpa using some) mem_cons_self
    · exact merge
    · exact viaThen (mem_cons_of_mem _ made)
    · exact viaElse (by rintro rfl; contradiction) (mem_cons_of_mem _ made)
    · exact merge.trans (ihRest inRest (mem_cons_of_mem _ made))
  | loop id condition body rest ihBody ihRest =>
    simp only [madeEdges_loop, append_subset, cons_subset, nil_subset, and_true] at subset
    obtain ⟨⟨⟨⟨toHeader, toBody, toExit⟩, inBody⟩, -⟩, inRest⟩ := subset
    have header : Reaches edges current (below current .header) := .along toHeader
    have exit : Reaches edges current (below current .exit) := header.trans (.along toExit)
    have viaBody {name : String}
        (member : name ∈ below current .body :: madeNames (below current .body) body) :
        Reaches edges current name := (header.trans (.along toBody)).trans (ihBody inBody member)
    simp only [madeNames_loop, mem_cons, mem_append, mem_loopNames] at member
    obtain rfl | ((rfl | rfl | rfl) | made) | made := member
    · exact .refl _ _
    · exact header
    · exact viaBody mem_cons_self
    · exact exit
    · exact viaBody (mem_cons_of_mem _ made)
    · exact exit.trans (ihRest inRest (mem_cons_of_mem _ made))
  | leaf s rest leaf ihRest =>
    rw [madeNames_leaf leaf] at member
    rw [madeEdges_leaf leaf] at subset
    exact ihRest subset member

/-- The entry leads to every block of a finished graph. -/
theorem finished_reached (member : name ∈ (finished f).names) :
    Reaches (finished f).edges (entryName f) name := by
  rw [finished_names] at member
  rw [finished_edges]
  exact reaches_made (List.Subset.refl _) member

/-- A graph whose entry leads to every block has none that cannot be reached. -/
theorem ControlGraph.unreachable_eq_nil {entry : String} (start : graph.entry = some entry)
    (reached : ∀ name ∈ graph.names, Reaches graph.edges entry name) : graph.unreachable = [] := by
  have none : graph.names.filter (fun name => !(reachable graph.edges entry).contains name) = [] := by
    apply filter_eq_nil_iff.mpr
    intro name member
    simpa using mem_reachable.mpr (reached name member)
  simp only [unreachable, start, none, mergeSort_nil]

/-- The entry of a control flow graph leads to every block. -/
theorem reached_of_controlGraph (built : controlGraph f = .ok graph) (member : name ∈ graph.names) :
    ∃ entry, graph.entry = some entry ∧ Reaches graph.edges entry name := by
  obtain ⟨-, rfl⟩ | ⟨-, rfl⟩ := controlGraph_cases built
  · contradiction
  · exact ⟨entryName f, finished_entry f, finished_reached member⟩

/-- No block of a control flow graph is found unreachable. -/
theorem unreachable_of_controlGraph (built : controlGraph f = .ok graph) : graph.unreachable = [] := by
  obtain ⟨-, rfl⟩ | ⟨-, rfl⟩ := controlGraph_cases built
  · rfl
  · exact ControlGraph.unreachable_eq_nil (finished_entry f) fun _ => finished_reached

end ContractLint.Flow
