import ContractLint.Document.Codec

/-! # Directed graphs

A graph is given by its edges, which join nodes known by name. Edges may be repeated, and may join
names that no node bears.
-/

namespace ContractLint.Flow

inductive EdgeKind where
  | controlFlow
  | dataFlow
  | call
  | whenTrue
  | whenFalse
  | loopBack
  | exception
deriving DecidableEq, Inhabited

namespace EdgeKind

def all : List EdgeKind :=
  [controlFlow, dataFlow, call, whenTrue, whenFalse, loopBack, exception]

def name : EdgeKind → String
  | controlFlow => "control_flow"
  | dataFlow => "data_flow"
  | call => "call"
  | whenTrue => "conditional_true"
  | whenFalse => "conditional_false"
  | loopBack => "loop_back"
  | exception => "exception"

end EdgeKind

instance : OfValue EdgeKind := ⟨Value.member "EdgeType" EdgeKind.all EdgeKind.name⟩

structure Edge where
  /-- Where it starts. -/
  source : String
  /-- Where it ends. -/
  target : String
  /-- What it stands for. -/
  kind : EdgeKind
deriving DecidableEq, Inhabited

instance : ToValue Edge :=
  ⟨fun edge => .ofTexts [edge.source, edge.target, edge.kind.name]⟩

def successors (edges : List Edge) (node : String) : List String :=
  (edges.filter fun edge => edge.source == node).map Edge.target

def predecessors (edges : List Edge) (node : String) : List String :=
  (edges.filter fun edge => edge.target == node).map Edge.source

/-! ## Reachability -/

/-- A search under way. -/
structure Walk where
  /-- The nodes that have been visited, the last one first. -/
  visited : List String := []
  /-- The nodes to look at, the next one first. A node may stand here several times. -/
  pending : List String

namespace Walk

/-- Looks at the next pending node. Unless it was visited before, it is now, and the nodes to which its
edges lead are pending too, the last one first. Without a pending node there is no step. -/
def step (edges : List Edge) (walk : Walk) : Option Walk :=
  match walk.pending with
  | [] => none
  | node :: pending =>
    if node ∈ walk.visited then some { walk with pending }
    else some ⟨node :: walk.visited, (successors edges node).reverse ++ pending⟩

def unused (edges : List Edge) (visited : List String) : Nat :=
  edges.countP fun edge => edge.source ∉ visited

/-- The number of nodes that may still be looked at: the pending ones, and those that edges may add. -/
def work (edges : List Edge) (walk : Walk) : Nat := walk.pending.length + unused edges walk.visited

theorem unused_cons {visited : List String} {node : String} (new : node ∉ visited) (edges : List Edge) :
    (successors edges node).length + unused edges (node :: visited) = unused edges visited := by
  have own : (edges.filter fun edge => edge.source == node).countP (fun edge => edge.source ∉ visited) =
      (edges.filter fun edge => edge.source == node).length := by
    rw [List.countP_eq_length]
    intro edge member
    obtain ⟨-, same⟩ := List.mem_filter.mp member
    simpa [eq_of_beq same] using new
  have others : (edges.filter fun edge => !edge.source == node).countP (fun edge => edge.source ∉ visited) =
      unused edges (node :: visited) := by
    rw [List.countP_filter, unused]
    congr 1
    funext edge
    by_cases same : edge.source = node <;> simp [same]
  rw [successors, List.length_map, ← own, ← others, unused,
    List.countP_eq_countP_filter_add edges _ fun edge => edge.source == node]

/-- A step takes a pending node, and visits it if it has not been visited. -/
theorem step_cases {edges : List Edge} {walk next : Walk} (taken : walk.step edges = some next) :
    ∃ node pending, walk.pending = node :: pending ∧
      (node ∈ walk.visited ∧ next = ⟨walk.visited, pending⟩ ∨
        node ∉ walk.visited ∧
          next = ⟨node :: walk.visited, (successors edges node).reverse ++ pending⟩) := by
  rw [step] at taken
  split at taken
  next => contradiction
  next node pending waiting =>
    refine ⟨node, pending, waiting, ?_⟩
    split at taken
    next old => exact .inl ⟨old, (Option.some.inj taken).symm⟩
    next new => exact .inr ⟨new, (Option.some.inj taken).symm⟩

/-- With every step one node less is left to look at. -/
theorem step_work {edges : List Edge} {walk next : Walk} (taken : walk.step edges = some next) :
    next.work edges + 1 = walk.work edges := by
  obtain ⟨node, pending, waiting, ⟨-, rfl⟩ | ⟨new, rfl⟩⟩ := step_cases taken
  · simp only [work, waiting, List.length_cons]
    omega
  · have used := unused_cons new edges
    simp only [work, waiting, List.length_append, List.length_reverse, List.length_cons]
    omega

/-- Takes steps until no node is pending. -/
def finish (edges : List Edge) (walk : Walk) : Walk :=
  match _taken : walk.step edges with
  | none => walk
  | some next => next.finish edges
termination_by walk.work edges
decreasing_by exact Nat.lt_of_succ_le (Nat.le_of_eq (step_work _taken))

end Walk

/-- The nodes reachable from a node by any number of edges. -/
def reachable (edges : List Edge) (start : String) : List String :=
  (Walk.finish edges { pending := [start] }).visited

/-! ## Strongly connected components -/

/-- The state of the search for components: the numbers of the nodes met so far, those not yet in a
component, the last one first, and the components found. -/
structure Search where
  /-- The number of each node met, in the order of meeting. -/
  numbers : List (String × Nat) := []
  /-- The nodes met that are in no component yet, the last one first. -/
  stack : List String := []
  components : List (List String) := []

/-- Takes a node and those above it off the stack and makes them a component. -/
def Search.close (search : Search) (node : String) : Search :=
  { search with
    stack := (search.stack.dropWhile (· != node)).drop 1
    components := search.components ++ [search.stack.takeWhile (· != node) ++ [node]] }

/-- Searches from a node that has not been met. Gives the least number of a node on the stack to
which the search came back. The first argument bounds the depth of the search. -/
def Search.visit (next : String → List String) : Nat → String → Search → Nat × Search
  | 0, _, search => (search.numbers.length, search)
  | depth + 1, node, search =>
    let number := search.numbers.length
    let entered : Search :=
      { search with numbers := (node, number) :: search.numbers, stack := node :: search.stack }
    let (least, search) := (next node).foldl
      (fun (least, search) other =>
        match search.numbers.lookup other with
        | none =>
          let (below, search) := visit next depth other search
          (min least below, search)
        | some known => (if search.stack.contains other then min least known else least, search))
      (number, entered)
    (least, if least = number then search.close node else search)

/-- The strongly connected components, searched from the given nodes in their order. A component is
found after those that can be reached from it. -/
def components (edges : List Edge) (nodes : List String) : List (List String) :=
  let depth := (nodes ++ edges.map Edge.target).length
  let search := nodes.foldl
    (fun search node =>
      if (search.numbers.lookup node).isSome then search
      else (Search.visit (successors edges) depth node search).2)
    ({} : Search)
  search.components

def hasExit (edges : List Edge) (nodes : List String) : Bool :=
  nodes.any fun node => (successors edges node).any fun next => !nodes.contains next

end ContractLint.Flow
