import ContractLint.Flow.Graph
import ContractLint.Program.Module

/-! # Calls between functions -/

namespace ContractLint.Flow

open Program

structure CallNode where
  function : Function
  /-- The calls of it. -/
  sites : List Expr := []
  /-- It was found to call itself. -/
  isRecursive : Bool := false

/-- Functions by name, and edges between names. -/
structure CallGraph where
  nodes : List (String × CallNode) := []
  edges : List Edge := []

namespace CallGraph

/-- Puts a function under its name; the place of a name that is already there is kept. -/
def add (graph : CallGraph) (f : Function) : CallGraph :=
  let node : CallNode := { function := f }
  if (graph.nodes.lookup f.name).isSome then
    { graph with nodes := graph.nodes.map fun entry =>
        if entry.1 == f.name then (f.name, node) else entry }
  else { graph with nodes := graph.nodes ++ [(f.name, node)] }

/-- The graph of some functions, which has no edges yet. -/
def ofFunctions (functions : List Function) : CallGraph := functions.foldl add {}

def names (graph : CallGraph) : List String := graph.nodes.map Prod.fst

def calls (graph : CallGraph) : List Edge := graph.edges.filter fun edge => edge.kind = .call

def callers (graph : CallGraph) (name : String) : List String := predecessors graph.calls name

def callees (graph : CallGraph) (name : String) : List String := successors graph.calls name

/-- The names to which calls lead, call by call. -/
def called (graph : CallGraph) : List String := graph.calls.map Edge.target

theorem called_of_callees {graph : CallGraph} {name callee : String}
    (known : callee ∈ graph.callees name) : callee ∈ graph.called := by
  obtain ⟨edge, member, rfl⟩ := List.mem_map.mp known
  exact List.mem_map_of_mem (List.mem_filter.mp member).1

def unvisited (names visited : List String) : Nat := names.countP fun name => name ∉ visited

theorem unvisited_le (names visited : List String) (name : String) :
    unvisited names (name :: visited) ≤ unvisited names visited := by
  apply List.countP_mono_left
  intro other _ new
  simp only [List.mem_cons, not_or, decide_eq_true_eq] at new ⊢
  exact new.2

theorem unvisited_lt {names visited : List String} {name : String} (known : name ∈ names)
    (new : name ∉ visited) : unvisited names (name :: visited) < unvisited names visited := by
  obtain ⟨before, after, rfl⟩ := List.append_of_mem known
  have earlier := unvisited_le before visited name
  have later := unvisited_le after visited name
  rw [unvisited] at earlier later ⊢
  rw [unvisited, List.countP_append, List.countP_append, List.countP_cons_of_neg (by simp),
    List.countP_cons_of_pos (by simpa using new)]
  exact Nat.lt_succ_of_le (Nat.add_le_add earlier later)

/-- Some way of calls goes on from a name until it meets the target among the names that have been
visited. A way that meets any other of them ends there. -/
def returnsTo (graph : CallGraph) (target : String) (visited : List String) (name : String) : Bool :=
  if _met : name ∈ visited then name == target
  else (graph.callees name).attach.any fun callee => graph.returnsTo target (name :: visited) callee
-- Calls lead to every name but the one at which the search starts.
termination_by unvisited graph.called visited + if name ∈ graph.called then 0 else 1
decreasing_by
  rw [if_pos (called_of_callees callee.property)]
  split
  next known => exact unvisited_lt known _met
  next => exact Nat.lt_succ_of_le (unvisited_le graph.called visited name)

/-- Some way of calls from a function meets the target twice and nothing else twice before. -/
def hasCycle (graph : CallGraph) (start target : String) : Bool := graph.returnsTo target [] start

/-- The names of the functions that call themselves, directly or through others. -/
def recursive (graph : CallGraph) : List String :=
  graph.names.filter fun name => graph.hasCycle name name

def markRecursive (graph : CallGraph) : CallGraph :=
  let found := graph.recursive
  { graph with nodes := graph.nodes.map fun (name, node) =>
      (name, { node with isRecursive := node.isRecursive || found.contains name }) }

def addSite (graph : CallGraph) (name : String) (call : Expr) : Outcome CallGraph :=
  if (graph.nodes.lookup name).isNone then throw (.missingKey (.text name))
  else pure { graph with nodes := graph.nodes.map fun entry =>
    if entry.1 == name then (name, { entry.2 with sites := entry.2.sites ++ [call] }) else entry }

def sitesOf (graph : CallGraph) (name : String) : List Expr :=
  ((graph.nodes.lookup name).map CallNode.sites).getD []

end CallGraph

end ContractLint.Flow
