import ContractLint.Proofs.Flow.Search

/-! # The components that the search finds

When the search leaves a node and came back to none below it, then nothing leads from what is above the
node on the stack to what is below, so the node and what is above it are a component. At the end the
stack is empty, since what is left on it would lead to a node below. Hence the components found are
exactly the strongly connected components (`Decomposes`).
-/

namespace ContractLint.Flow

open List Program

variable {nodes : List String} {search : Search} {node : String} {edges : List Edge} {depth : Nat}
  {above rest : List String}

/-! ## Leaving a node -/

/-- Closing takes off the stack what is above a node, with the node. -/
theorem Search.close_eq (stack : search.stack = above ++ [node] ++ rest) (new : node ∉ above) :
    search.close node =
      { search with
        stack := rest
        components := search.components ++ [above ++ [node]] } := by
  have other : ∀ name ∈ above, (name != node) = true := by
    intro name member
    simpa using fun same : name = node => new (same ▸ member)
  simp [Search.close, stack, takeWhile_append_of_pos other, dropWhile_append_of_pos other]

namespace Busy

variable {edges : List Edge} {nodes done above : List String} {node : String}
  {before after : Search} {least : Nat}

theorem node_waiting (busy : Busy edges nodes node done before above least after) :
    node ∈ after.stack := busy.mem_stack.mpr (.inl (by simp))

theorem not_above (busy : Busy edges nodes node done before above least after) : node ∉ above := by
  have distinct := (nodup_append.mp busy.sound.shared_nodup).1
  rw [busy.stack] at distinct
  exact fun member =>
    (nodup_append.mp (nodup_append.mp distinct).1).2.2 node member node (by simp) rfl

section Leave

variable (busy : Busy edges nodes node done before above least after)
  (all : ∀ other, Joined edges node other → other ∈ done)

include busy all

/-- All edges from the nodes met meanwhile have been followed. -/
theorem followed_all : ∀ source ∈ after.met, source ∉ before.met → ∀ target,
    Joined edges source target → target ∈ after.met :=
  fun source member new target edge =>
    busy.followed source member new target ⟨edge, fun same => all target (same ▸ edge)⟩

/-- If the search came back to a node below, leaving the node leaves it on the stack. -/
theorem leave_waiting (inner : least ≠ before.numbers.length) :
    Visited edges nodes node before (above ++ [node]) least after where
  sound := busy.sound
  numbers := busy.numbers
  components := busy.components
  stack := busy.stack
  followed := busy.followed_all all
  reached := busy.reached
  bound := busy.bound
  attained := busy.attained
  crossing := by
    intro source member target waiting edge
    exact busy.crossing source member target waiting ⟨edge, fun same => all target (same ▸ edge)⟩
  entered := busy.sound.met_iff.mpr (.inl busy.node_waiting)
  returns := by
    obtain ⟨last, waiting, -, reaches⟩ := busy.attained.resolve_left inner
    intro source member
    obtain inAbove | same := mem_append.mp member
    · obtain ⟨target, known, further⟩ := busy.returns source inAbove
      obtain rfl | below := mem_cons.mp known
      · exact ⟨last, waiting, further.trans reaches⟩
      · exact ⟨target, below, further⟩
    · obtain rfl := mem_singleton.mp same
      exact ⟨last, waiting, reaches⟩

variable (sound : Sound edges nodes before)

include sound

/-- If the search came back to no node below, edges lead from the node and what is above it to
themselves and to components found before. -/
theorem closed (root : least = before.numbers.length) :
    ∀ source ∈ above ++ [node], ∀ target, Joined edges source target →
      target ∈ above ++ [node] ∨ target ∈ after.components.flatten := by
  intro source member target edge
  have met : target ∈ after.met :=
    busy.followed_all all source (busy.sound.met_iff.mpr (.inl (busy.mem_stack.mpr (.inl member))))
      (busy.fresh_new sound member) target edge
  obtain waiting | found := busy.sound.met_iff.mp met
  · obtain fresh | below := busy.mem_stack.mp waiting
    · exact .inl fresh
    -- The edge would lead below the node, to a number that is too small.
    · obtain ⟨number, numbered⟩ := Search.mem_met.mp (sound.met_iff.mpr (.inl below))
      have small := sound.numbered.lt_length numbered
      have large := busy.crossing source member target below
        ⟨edge, fun same => all target (same ▸ edge)⟩ number numbered
      omega
  · exact .inr found

/-- A root reaches only its own component and those found before. -/
theorem mem_of_reaches (root : least = before.numbers.length) {source target : String}
    (member : source ∈ above ++ [node]) (reaches : Reaches edges source target) :
    target ∈ above ++ [node] ∨ target ∈ after.components.flatten := by
  refine reaches.keeps (fun name => name ∈ above ++ [node] ∨ name ∈ after.components.flatten) ?_
    (.inl member)
  rintro name (fresh | found) other edge
  · exact busy.closed all sound root name fresh other edge
  · exact .inr (busy.sound.settled.mem_of_reaches (.single edge) found)

/-- If the search came back to no node below, what is above the node leads back to it. -/
theorem reaches_node (root : least = before.numbers.length) {source : String}
    (member : source ∈ above ++ [node]) : Reaches edges source node := by
  obtain inAbove | same := mem_append.mp member
  · obtain ⟨target, waiting, reaches⟩ := busy.returns source inAbove
    obtain rfl | below := mem_cons.mp waiting
    · exact reaches
    · obtain fresh | found := busy.mem_of_reaches all sound root member reaches
      · exact absurd fresh (busy.not_fresh below)
      · exact absurd found (busy.sound.not_component (busy.mem_stack.mpr (.inr below)))
  · obtain rfl := mem_singleton.mp same
    exact .refl _ _

private theorem isComponent (root : least = before.numbers.length) : IsComponent edges (above ++ [node]) where
  nonempty := by simp
  mem_iff := by
    intro source member target
    constructor
    · intro other
      exact ⟨(busy.reaches_node all sound root member).trans (busy.reached target other),
        (busy.reaches_node all sound root other).trans (busy.reached source member)⟩
    · rintro ⟨there, back⟩
      refine (busy.mem_of_reaches all sound root member there).resolve_right fun found => ?_
      exact busy.sound.not_component (busy.mem_stack.mpr (.inl member))
        (busy.sound.settled.mem_of_reaches back found)

private theorem close_sound (root : least = before.numbers.length) : Sound edges nodes (after.close node) := by
  rw [Search.close_eq busy.stack busy.not_above]
  refine ⟨busy.sound.numbered, busy.sound.within, ?_, ?_⟩
  · have shared := busy.sound.shared
    rw [busy.stack] at shared
    refine List.Perm.trans ?_ shared
    rw [flatten_append, flatten_singleton, ← append_assoc,
      append_assoc (above ++ [node])]
    exact perm_append_comm
  · exact busy.sound.settled.snoc (busy.isComponent all sound root) (busy.closed all sound root)

/-- If the search came back to no node below, leaving the node makes a component. -/
theorem leave_closing (root : least = before.numbers.length) :
    Visited edges nodes node before [] least (after.close node) := by
  have closing := busy.close_sound all sound root
  rw [Search.close_eq busy.stack busy.not_above] at closing ⊢
  exact {
    sound := closing
    numbers := busy.numbers
    components := busy.components.trans (prefix_append _ _)
    stack := rfl
    followed := busy.followed_all all
    reached := by simp
    bound := busy.bound
    attained := busy.attained
    crossing := by simp
    entered := busy.sound.met_iff.mpr (.inl busy.node_waiting)
    returns := by simp }

end Leave

end Busy

/-! ## Visiting nodes -/

/-- No edge leads out of a set of nodes. -/
def Within (edges : List Edge) (nodes : List String) : Prop :=
  ∀ edge ∈ edges, edge.source ∈ nodes ∧ edge.target ∈ nodes

private theorem Within.target (within : Within edges nodes)
    {other : String} (edge : Joined edges node other) : other ∈ nodes := by
  obtain ⟨joint, member, -, rfl⟩ := edge
  exact (within joint member).2

/-- The search goes on from a node unless it was met before. -/
def visitNew (edges : List Edge) (depth : Nat) (search : Search) (node : String) : Search :=
  if (search.numbers.lookup node).isSome then search
  else (Search.visit (successors edges) depth node search).2

section Visit

variable {edges : List Edge} {nodes : List String} (within : Within edges nodes)

include within

private theorem Busy.foldl {before : Search} (sound : Sound edges nodes before)
    (enough : nodes.length ≤ depth + (before.enter node).numbers.length)
    (visit : ∀ (other : String) (search : Search), Sound edges nodes search → other ∈ nodes →
      other ∉ search.met → nodes.length ≤ depth + search.numbers.length →
      ∃ fresh, Visited edges nodes other search fresh
        (Search.visit (successors edges) depth other search).1
        (Search.visit (successors edges) depth other search).2)
    {done : List String} (state : Nat × Search)
    (joined : ∀ other ∈ rest, Joined edges node other)
    (busy : Busy edges nodes node done before above state.1 state.2) :
    ∃ above, Busy edges nodes node (done ++ rest) before above
      (rest.foldl (Search.follow (successors edges) depth) state).1
      (rest.foldl (Search.follow (successors edges) depth) state).2 := by
  induction rest generalizing done above state with
  | nil => exact ⟨above, by simpa using busy⟩
  | cons other rest ih =>
    obtain ⟨edge, joined⟩ := forall_mem_cons.mp joined
    rw [foldl_cons, append_cons]
    cases known : state.2.numbers.lookup other with
    | some number =>
      have busy := busy.known sound edge (Search.mem_of_lookup known)
      exact ih _ joined (by simpa only [Search.follow, known] using busy)
    | none =>
      have unknown := Search.lookup_eq_none.mp known
      have longer := busy.entered.length_le
      obtain ⟨fresh, visited⟩ := visit _ state.2 busy.sound (within.target edge) unknown (by omega)
      have busy := busy.new sound edge unknown visited
      exact ih _ joined (by simpa only [Search.follow, known] using busy)

/-- What the search does from a new node on, if its depth suffices for the nodes not met yet. -/
theorem visit_visited (sound : Sound edges nodes search) (present : node ∈ nodes) (new : node ∉ search.met)
    (enough : nodes.length ≤ depth + search.numbers.length) :
    ∃ fresh, Visited edges nodes node search fresh
      (Search.visit (successors edges) depth node search).1
      (Search.visit (successors edges) depth node search).2 := by
  induction depth generalizing node search with
  | zero =>
    have := sound.length_lt new present
    omega
  | succ depth ih =>
    have enough : nodes.length ≤ depth + (search.enter node).numbers.length := by
      simp only [Search.enter, length_cons]
      omega
    obtain ⟨above, busy⟩ := Busy.foldl within sound enough (fun _ _ => ih)
      (search.numbers.length, search.enter node) (fun _ => mem_successors.mp) (Busy.start sound new present)
    have all : ∀ other, Joined edges node other → other ∈ [] ++ successors edges node :=
      fun _ edge => mem_successors.mpr edge
    rw [Search.visit_succ]
    dsimp only
    split
    next root => exact ⟨[], busy.leave_closing all sound root⟩
    next inner => exact ⟨_, busy.leave_waiting all inner⟩

/-- Between nodes that it is given, the search leaves nothing on the stack. -/
theorem visitNew_sound (enough : nodes.length ≤ depth) (present : node ∈ nodes)
    (sound : Sound edges nodes search) (empty : search.stack = []) :
    Sound edges nodes (visitNew edges depth search node) ∧
      (visitNew edges depth search node).stack = [] ∧
      ∀ other ∈ node :: search.met, other ∈ (visitNew edges depth search node).met := by
  rw [visitNew]
  cases known : search.numbers.lookup node with
  | some number =>
    have met : node ∈ search.met := Search.mem_met.mpr ⟨number, Search.mem_of_lookup known⟩
    rw [if_pos (by simp)]
    exact ⟨sound, empty, forall_mem_cons.mpr ⟨met, fun _ => id⟩⟩
  | none =>
    rw [if_neg (by simp)]
    have enough : nodes.length ≤ depth + search.numbers.length := by omega
    obtain ⟨fresh, visited⟩ :=
      visit_visited within sound present (Search.lookup_eq_none.mp known) enough
    refine ⟨visited.sound, ?_, forall_mem_cons.mpr ⟨visited.entered, fun _ => visited.met_mono⟩⟩
    -- What is left on the stack would lead to a node below, of which there is none.
    have none : fresh = [] := by
      refine eq_nil_iff_forall_not_mem.mpr fun source member => ?_
      obtain ⟨_, below, -⟩ := visited.returns source member
      rw [empty] at below
      contradiction
    rw [visited.stack, none, empty, append_nil]

private theorem foldl_visitNew (enough : nodes.length ≤ depth) {pending : List String}
    (present : ∀ node ∈ pending, node ∈ nodes) (sound : Sound edges nodes search) (empty : search.stack = []) :
    Sound edges nodes (pending.foldl (visitNew edges depth) search) ∧
      (pending.foldl (visitNew edges depth) search).stack = [] ∧
      ∀ node ∈ pending ++ search.met, node ∈ (pending.foldl (visitNew edges depth) search).met := by
  induction pending generalizing search with
  | nil => exact ⟨sound, empty, fun _ => id⟩
  | cons node rest ih =>
    obtain ⟨here, present⟩ := forall_mem_cons.mp present
    obtain ⟨sound, empty, met⟩ := visitNew_sound within enough here sound empty
    obtain ⟨sound, empty, later⟩ := ih present sound empty
    refine ⟨sound, empty, ?_⟩
    simp only [mem_append, mem_cons] at met later ⊢
    grind

end Visit

/-! ## The components found -/

/-- The strongly connected components of a graph, each after those that can be reached from it. -/
structure Decomposes (edges : List Edge) (nodes : List String) (components : List (List String)) : Prop where
  strong : ∀ component ∈ components, IsComponent edges component
  covers : ∀ node, node ∈ components.flatten ↔ node ∈ nodes
  /-- No node is in two components, or twice in one. -/
  once : components.flatten.Nodup
  /-- Two nodes are in the same component just in case each leads to the other. -/
  together : ∀ node ∈ nodes, ∀ other ∈ nodes,
    (∃ component ∈ components, node ∈ component ∧ other ∈ component) ↔ Mutual edges node other
  /-- No component leads to one that comes after it. -/
  ordered : components.Pairwise fun earlier later => ∀ node ∈ earlier, ∀ other ∈ later,
    ¬ Reaches edges node other

private theorem Sound.decomposes (sound : Sound edges nodes search) (empty : search.stack = [])
    (met : ∀ node ∈ nodes, node ∈ search.met) : Decomposes edges nodes search.components := by
  have distinct := sound.shared_nodup
  have found (node : String) : node ∈ search.met ↔ node ∈ search.components.flatten := by
    rw [sound.met_iff, empty]
    simp
  rw [empty, nil_append] at distinct
  have strong := sound.settled.isComponent
  refine ⟨strong, ?_, distinct, ?_, sound.settled.ordered distinct⟩
  · intro node
    exact ⟨fun member => sound.within node ((found node).mpr member),
      fun member => (found node).mp (met node member)⟩
  · intro node present other _
    constructor
    · rintro ⟨component, member, one, two⟩
      exact ((strong component member).mem_iff node one other).mp two
    · intro both
      obtain ⟨component, member, one⟩ := mem_flatten.mp ((found node).mp (met node present))
      exact ⟨component, member, one, ((strong component member).mem_iff node one other).mpr both⟩

/-- The components decompose the graph. -/
theorem components_decomposes (within : Within edges nodes) : Decomposes edges nodes (components edges nodes) := by
  have enough : nodes.length ≤ (nodes ++ edges.map Edge.target).length := by simp
  obtain ⟨sound, empty, met⟩ := foldl_visitNew within enough (fun _ => id) Sound.start rfl
  exact sound.decomposes empty fun node member => met node (mem_append_left _ member)

/-- The edges of a control flow graph join its blocks. -/
theorem controlGraph_within {f : Function} {graph : ControlGraph} (built : controlGraph f = .ok graph) :
    Within graph.edges graph.names := by
  obtain ⟨-, rfl⟩ | ⟨-, rfl⟩ := controlGraph_cases built
  · simp [Within]
  · exact finished_endpoints f

/-- The search finds exactly the strongly connected components of every graph whose edges join its
nodes, whatever cycles, repeated edges and edges from a node to itself it has; in particular of every
control flow graph. -/
theorem components_are_strong :
    (∀ (edges : List Edge) (nodes : List String), Within edges nodes →
      Decomposes edges nodes (components edges nodes)) ∧
    ∀ (f : Function) (graph : ControlGraph), controlGraph f = .ok graph →
      Within graph.edges graph.names ∧ Decomposes graph.edges graph.names graph.components := by
  refine ⟨fun _ _ => components_decomposes, fun f graph built => ?_⟩
  have within := controlGraph_within built
  exact ⟨within, components_decomposes within⟩

/-- Two nodes on a cycle that leads to a third one, which leads to itself. -/
def sampleEdges : List Edge :=
  [⟨"a", "b", .controlFlow⟩, ⟨"b", "a", .loopBack⟩, ⟨"b", "c", .controlFlow⟩, ⟨"c", "c", .loopBack⟩]

theorem components_are_strong_sample :
    Within sampleEdges ["a", "b", "c"] ∧
      components sampleEdges ["a", "b", "c"] = [["c"], ["b", "a"]] ∧
      Decomposes sampleEdges ["a", "b", "c"] [["c"], ["b", "a"]] ∧
      controlGraph sample = .ok (finished sample) ∧
      Decomposes (finished sample).edges (finished sample).names (finished sample).components := by
  have within : Within sampleEdges ["a", "b", "c"] := by simp [Within, sampleEdges]
  have found : components sampleEdges ["a", "b", "c"] = [["c"], ["b", "a"]] := by decide
  have built : controlGraph sample = .ok (finished sample) :=
    controlGraph_eq (cons_ne_nil _ _) (by decide)
  exact ⟨within, found, found ▸ components_are_strong.1 _ _ within, built,
    (components_are_strong.2 _ _ built).2⟩

end ContractLint.Flow
