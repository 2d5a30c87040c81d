import ContractLint.Analysis.ControlFlow
import ContractLint.Flow.Call
import ContractLint.Flow.Data
import ContractLint.Script

/-! # Scripts about graphs

The graphs of a program are looked at and changed step by step.
-/

namespace ContractLint.Flow

open Program

def ascending (texts : List String) : List String := texts.mergeSort fun a b => decide (a ≤ b)

def ControlGraph.dropEdges (graph : ControlGraph) (source target : String) : ControlGraph :=
  { graph with edges := graph.edges.filter fun edge =>
      !(edge.source == source && edge.target == target) }

def ControlGraph.steps (f : Function) : Steps ControlGraph := [
  ("succ", .ask fun graph => successors graph.edges),
  ("pred", .ask fun graph => predecessors graph.edges),
  ("reach", .ask fun graph start => ascending (reachable graph.edges start)),
  ("unreachable", .ask unreachable),
  ("add_edge", .turn fun graph source target kind =>
    let next := graph.join [⟨source, target, kind⟩]
    (next.edges.length, next)),
  ("drop_edges", .turn fun graph source target =>
    let next := graph.dropEdges source target
    (next.edges.length, next)),
  ("add_node", .turn fun graph id statements =>
    let next := graph.put { id, statements }
    (next.blocks.length, next)),
  ("scc", .ask components),
  ("has_exit", .ask fun graph => hasExit graph.edges),
  ("complexity", .ask complexity),
  ("nesting", .ask fun _ => nesting f.body),
  ("detect", .ask fun graph (name : String) =>
    (Analysis.ControlFlow.checks.lookup name).map fun check => check f graph)]

/-- The names of the functions that are noted to call themselves. -/
def CallGraph.marked (graph : CallGraph) : List String :=
  (graph.nodes.filter fun (_, node) => node.isRecursive).map Prod.fst

def CallGraph.connect (graph : CallGraph) (edge : Edge) : CallGraph :=
  { graph with edges := graph.edges ++ [edge] }

/-- Steps about the calls between functions. An edge is a call unless its kind is told. -/
def CallGraph.steps : Steps CallGraph := [
  ("edge", fun graph args =>
    Step.turn (fun graph source target kind =>
      let next := graph.connect ⟨source, target, kind⟩
      (next.edges.length, next)) graph (args ++ [.text EdgeKind.call.name])),
  ("callers", .ask callers),
  ("callees", .ask callees),
  ("recursive", .turn fun graph =>
    let next := graph.markRecursive
    ((graph.recursive, next.marked), next)),
  ("path", .ask hasCycle),
  ("site", .turn fun graph name (call : Expr) => do
    let next ← graph.addSite name call
    return ((next.sitesOf name).map Expr.id, next))]

def DataGraph.steps : Steps DataGraph := [
  ("node", .turn fun graph name id isDefinition uses =>
    let next := graph.add name { id, isDefinition, uses }
    ((next.ofVariable name).length, next)),
  ("defs", .ask fun graph name => (graph.definitions name).map DataNode.id),
  ("uses", .ask fun graph name => (graph.uses name).map DataNode.id)]

end ContractLint.Flow
