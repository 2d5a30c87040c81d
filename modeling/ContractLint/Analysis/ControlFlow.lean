import ContractLint.Finding
import ContractLint.Flow.Control

/-! # Checks of control flow

Each function with statements gets a control flow graph, and each check looks at one graph. A
function whose graph cannot be made gets a finding that says so.
-/

namespace ContractLint.Analysis

open Program ContractLint.Flow

def functionFinding (detector : String) (f : Function) (id title description : String)
    (severity : Severity) (kind : String) : Finding where
  id
  title
  description
  severity
  location := f.location
  kind
  confidence := .real 1.0
  snippet := none
  recommendation := none
  references := .list []
  metadata := .object []
  detector
  timestamp := none

namespace ControlFlow

def report := functionFinding "control_flow_analyzer"

def unreachableCode (f : Function) (graph : ControlGraph) : List Finding :=
  let blocks := graph.unreachable.filter fun id =>
    match graph.blocks.lookup id with
    | some block => !block.statements.isEmpty
    | none => false
  blocks.map fun id =>
    report f ("unreachable_code_" ++ f.name ++ "_" ++ id) "Unreachable Code"
      ("Code block in function " ++ f.name ++ " is unreachable") .medium "dead_code"

/-- Cycles of more than one block that nothing leads out of. The cycles of one function share their
identifier. -/
def infiniteLoops (f : Function) (graph : ControlGraph) : List Finding :=
  let cycles := graph.components.filter fun cycle =>
    1 < cycle.length && !hasExit graph.edges cycle
  cycles.map fun _ =>
    report f ("infinite_loop_" ++ f.name ++ "_HASH") "Potential Infinite Loop"
      ("Function " ++ f.name ++ " contains a potential infinite loop") .high "infinite_loop"

def missingReturns (f : Function) (graph : ControlGraph) : List Finding :=
  if f.result.isNone then []
  else
    let ends := graph.exits.filter fun block => !block.statements.any Stmt.isReturn
    ends.map fun block =>
      report f ("missing_return_" ++ f.name ++ "_" ++ block.id) "Missing Return Statement"
        ("Function " ++ f.name ++ " has execution path without return statement") .medium
        "missing_return"

def complexityLimit : Int := 15

def nestingLimit : Nat := 6

/-- Functions with many ways through them or deep nesting. -/
def complexFlow (f : Function) (graph : ControlGraph) : List Finding :=
  (if complexityLimit < graph.complexity then
    [report f ("high_complexity_" ++ f.name) "High Cyclomatic Complexity"
      ("Function " ++ f.name ++ " has high cyclomatic complexity ("
        ++ Number.intText graph.complexity ++ ")") .low "code_quality"]
  else [])
  ++ if nestingLimit < nesting f.body then
    [report f ("deep_nesting_" ++ f.name) "Deep Nesting"
      ("Function " ++ f.name ++ " has deep nesting level ("
        ++ Number.digitsText (nesting f.body) ++ ")") .low "code_quality"]
  else []

def afterReturn? (statements : List Stmt) : Option Nat :=
  match statements.findIdx? Stmt.isReturn with
  | some index => if index + 1 < statements.length then some (index + 1) else none
  | none => none

def deadCode (f : Function) (graph : ControlGraph) : List Finding :=
  graph.blocks.filterMap fun (_, block) =>
    (afterReturn? block.statements).map fun position =>
      report f
        ("dead_code_after_return_" ++ f.name ++ "_" ++ block.id ++ "_"
          ++ Number.digitsText position)
        "Dead Code After Return" ("Code after return statement in function " ++ f.name) .low
        "dead_code"

/-- The checks by name, in the order in which they are made. -/
def checks : List (String × (Function → ControlGraph → List Finding)) := [
  ("unreachable_code", unreachableCode),
  ("infinite_loops", infiniteLoops),
  ("missing_returns", missingReturns),
  ("complex_control_flow", complexFlow),
  ("dead_code_after_returns", deadCode)]

def functionFindings (f : Function) : List Finding :=
  if f.body.isEmpty then []
  else
    match controlGraph f with
    | .ok graph => checks.flatMap fun (_, check) => check f graph
    | .error fault =>
      [report f ("control_flow_error_" ++ f.name) "Control Flow Analysis Error"
        ("Failed to analyze control flow in function " ++ f.name ++ ": " ++ fault.message) .low
        "analysis_error"]

/-- The findings about a module: functions outside contracts first. -/
def moduleFindings (m : Module) : List Finding := m.allFunctions.flatMap functionFindings

/-- Adds the graph of a function to graphs by name, if it can be made. Of functions of the same name
the last one counts. -/
def addGraph (known : List (String × ControlGraph)) (f : Function) : List (String × ControlGraph) :=
  if f.body.isEmpty then known
  else match controlGraph f with
    | .error _ => known
    | .ok graph =>
      if (known.lookup f.name).isSome then
        known.map fun entry => if entry.1 == f.name then (f.name, graph) else entry
      else known ++ [(f.name, graph)]

/-- The graphs of the functions of a module by name, as far as they can be made. -/
def graphs (m : Module) : List (String × ControlGraph) := m.allFunctions.foldl addGraph []

/-- The checks with the graphs that they have seen since the last module was begun. -/
structure Inspector where
  graphs : List (String × ControlGraph) := []

namespace Inspector

def function (inspector : Inspector) (f : Function) : List Finding × Inspector :=
  (functionFindings f, ⟨addGraph inspector.graphs f⟩)

def functions (inspector : Inspector) : List Function → List Finding × Inspector
  | [] => ([], inspector)
  | f :: rest =>
    let (found, inspector) := inspector.function f
    let (others, inspector) := inspector.functions rest
    (found ++ others, inspector)

/-- Checks a module; the graphs of the one before are forgotten. -/
def module (inspector : Inspector) (m : Module) : List Finding × Inspector :=
  { inspector with graphs := [] }.functions m.allFunctions

end Inspector

/-- Numbers about the graphs of a module. -/
structure Statistics where
  functions : Nat
  blocks : Nat
  edges : Nat
  complexities : List Int

def statistics (graphs : List (String × ControlGraph)) : Statistics where
  functions := graphs.length
  blocks := (graphs.map fun (_, graph) => graph.blocks.length).sum
  edges := (graphs.map fun (_, graph) => graph.edges.length).sum
  complexities := graphs.map fun (_, graph) => graph.complexity

/-- The document of the numbers, averages being written by a given function. There is none without
functions. -/
def Statistics.toValue (average : Float → Value) (s : Statistics) : Value :=
  match s.complexities with
  | [] => .object []
  | first :: rest =>
    let perFunction (total : Int) : Value := average (Float.ofInt total / Float.ofNat s.functions)
    .object [
      ("total_functions", .int s.functions),
      ("total_nodes", .int s.blocks),
      ("total_edges", .int s.edges),
      ("avg_nodes_per_function", perFunction s.blocks),
      ("avg_edges_per_function", perFunction s.edges),
      ("avg_complexity", perFunction s.complexities.sum),
      ("max_complexity", .int (rest.foldl max first)),
      ("min_complexity", .int (rest.foldl min first))]

end ControlFlow

end ContractLint.Analysis
