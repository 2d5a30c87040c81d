import ContractLint.Analysis.Analyzer
import ContractLint.Analysis.Collection
import ContractLint.Analysis.Engine
import ContractLint.Script
import ContractLint.Solidity.Scenario

/-! # Scripts about collections and engines

Modules are collected, looked at and analysed step by step.
-/

namespace ContractLint.Analysis

open Program

/-- The module that a program in a language is read into. Only one language can be read. -/
def readProgram (language : String) (data : Value) : Outcome Module := do
  if language = Language.solidity.name then
    Solidity.Lowering.module (← data.read : Solidity.Unit).contracts
  else Solidity.Lowering.untold "IRModule"

def functionNames (functions : List Function) : List (String × String) :=
  functions.map fun f => (f.name, f.id)

def Collection.steps : Steps Collection := [
  ("add", .turn fun c path m =>
    let next := c.put path m
    (Settings.ascending (next.modules.map Prod.fst), next)),
  ("build", .turn fun c language path data => do
    return ("built", c.put path (← readProgram language data))),
  ("cfgs", .ask fun c => show Outcome Value from do
    return .object ((← c.controlGraphs).map fun (id, graph) =>
      (id, .of [graph.blocks.length, graph.edges.length]))),
  ("dfgs", .ask fun c =>
    Value.object (c.dataGraphs.map fun (id, graph) => (id, .of graph.nodes.length))),
  ("call_graph", .ask fun c => c.callGraph.names),
  ("module", .ask fun c (path : String) => (c.modules.lookup path).map Module.name),
  ("modules", .ask fun c => c.modules.map Prod.fst),
  ("contracts", .ask fun c => c.contracts.map Contract.name),
  ("functions", .ask fun c => functionNames c.functions),
  ("variables", .ask fun c => c.vars.map Variable.name),
  ("find_function", .ask fun c (name : String) =>
    functionNames (c.functions.filter fun f => f.name = name)),
  ("find_contract", .ask fun c (name : String) =>
    (c.contracts.filter fun contract => contract.name = name).map fun contract =>
      (contract.name, contract.id)),
  ("validate", .ask complaints),
  ("stats", .ask statistics),
  ("clear", .turn fun _ => (((0 : Nat), true), ({} : Collection)))]

def Engine.readStep (language : Language) : Step Engine :=
  .turn fun e (_ : Value) data =>
    let (result, next) := e.analyzeRead (readProgram language.name data)
    (result.toValue, next)

def Engine.steps : Steps Engine := [
  ("multi", .ask fun e modules => (e.settings.analyzeTogether modules).toValue),
  ("solidity", readStep .solidity),
  ("rust", readStep .rust),
  ("go", readStep .go),
  ("track", .turn fun e m => (e.modules.length + 1, e.track m)),
  ("cache", .turn fun e key => ((e.cache key).cached.length, e.cache key)),
  ("stats", .ask statistics),
  ("enabled", .ask fun e => e.settings.enabled),
  ("validate", .ask fun e => e.settings.validate),
  ("clear", .turn fun e => (((0 : Nat), (0 : Nat)), e.clear)),
  ("post", .ask fun _ findings => (merged findings).map fun f =>
    [f.id, f.severity.name, f.description])]

def Target.ofValue (v : Value) : Outcome Target := do
  if ← v.has "module" then return .module (← v.need "module")
  else return .function (← v.need "function")

/-- The reports of some passes about described targets, one after the other. -/
def Analyzer.analyzeEach (analyzer : Analyzer) (passes : List Pass) (desk : Desk) :
    List Value → Outcome (List (List Issue) × Desk)
  | [] => pure ([], desk)
  | described :: rest => do
    let target ← Target.ofValue described
    let (issues, desk) := analyzer.analyze desk target passes
    let issues ← issues
    let (others, desk) ← analyzer.analyzeEach passes desk rest
    return (issues :: others, desk)

def Desk.document (desk : Desk) (issue : Issue) : Value :=
  let report := desk.read issue.place
  .object [("type", .of issue.pass.name), ("findings", .of report.findings),
    ("metadata", .object report.facts)]

/-- The documents of what some passes report on described targets, all by one analyzer that knows the
offered passes. They are made when all targets have been analysed. -/
def reportsOn (offered passes : List Pass) (targets : List Value) : Outcome Value := do
  let (analyzer, desk) := Analyzer.new offered
  let (issues, desk) ← analyzer.analyzeEach passes desk targets
  return .of (issues.map fun some => some.map desk.document)

/-- The documents of the findings about modules and of the numbers about their graphs, all by one
inspector. -/
def ControlFlow.Inspector.documents (average : Float → Value) (inspector : Inspector) :
    List Module → List Value
  | [] => []
  | m :: rest =>
    let (found, inspector) := inspector.module m
    .object [("findings", .of found),
        ("stats", (statistics inspector.graphs).toValue average)]
      :: inspector.documents average rest

/-- Settings by the name of a preset, or by their parts. -/
def Settings.ofChoice (preset : Value) (parts : List (String × Value)) : Outcome Settings :=
  match preset with
  | .null => Settings.ofParts parts
  | name =>
    match (name.asText.toOption).bind (List.lookup · Settings.presets) with
    | some settings => pure settings
    | none => throw (.missingKey name)

end ContractLint.Analysis
