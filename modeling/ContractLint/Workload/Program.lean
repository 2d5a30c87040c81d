import ContractLint.Analysis.Collection
import ContractLint.Analysis.Engine
import ContractLint.Program.Outline
import ContractLint.Solidity.Scenario
import ContractLint.Workload.Finding

/-! # Sample programs

Functions whose branches nest to a given depth, modules with a given number of such functions, and
what the analyses say about them.
-/

namespace ContractLint.Workload

open Program ContractLint.Flow Analysis

def named (name : String) : Option Expr := some (.identifier name name)

def step : Stmt := .assign "step" (named "x") (some (.binary "sum" "+" (named "x") (named "y")))

/-- A branch and a loop, the branch holding blocks of the depth below. Only at even depths has the
branch a second block. -/
def nested : Nat → List Stmt
  | 0 => [step]
  | depth + 1 =>
    let inner := nested depth
    [step, .branch "branch" (named "flag") inner (if depth % 2 = 0 then [] else inner),
      .loop "loop" (named "flag") [step]]

/-- The type of the parameters. -/
def word : Ty := { name := "uint256", isPrimitive := true }

def function (name : String) (depth : Nat) (visibility : Visibility) : Function where
  name
  id := name
  parameters := [⟨.text "p", some word⟩]
  visibility
  body := nested depth

def holder (name : String) : Variable := { name, id := name, type := some word }

def visibilities : List Visibility := [.public, .private, .internal, .external]

/-- A module with a contract of as many functions as asked for, a contract of one function, and a
function outside of contracts. -/
def module (name : String) (size : Int) : Module where
  name
  id := name
  contracts := [
    { name := "Main"
      functions := (below size).map fun i =>
        function ("f" ++ Number.digitsText i) 3 (turn visibilities .public i)
      vars := [holder "a", holder "b"] },
    { name := "Side", functions := [function "g0" 1 .public], vars := [holder "c"] }]
  functions := [function "top" 1 .public]
  vars := [holder "d"]

/-- Entries in the order of their names. -/
def byName (v : Value) : List (String × Value) := v.parts.mergeSort fun a b => decide (a.1 ≤ b.1)

/-! ## Types and parts -/

/-- The number of parts right below the first one of an outline. -/
def width (outline : List Entry) : Nat := (outline.filter fun entry => entry.depth = 1).length

def typeTexts (i : Nat) : List String :=
  let number := Number.digitsText i
  let base : Ty := { name := "uint" ++ number, isPrimitive := true }
  let array : Ty :=
    { name := "array", isArray := true, size := .int (i % 8 : Nat), element := some base }
  let mapping : Ty := { name := "mapping", isMapping := true, key := some base, item := some base }
  let pair : Ty :=
    { name := "S" ++ number, isStruct := true, fields := [("a", some base), ("b", some array)] }
  [base, array, mapping, pair].map Ty.text

/-- How many parts the expressions and statements of each sort have, and what a variable is. -/
def widths : List Value :=
  let x := named "x"
  let expressions : List Expr :=
    [.binary "" "+" x x, .unary "" "-" x, .call "" "f" [default, default]]
  let statements : List Stmt :=
    [step, .ret "" x, .loop "" x [step], .branch "" x [step] [step]]
  expressions.map (fun e => Value.of (width (e.outline 0)))
    ++ statements.map (fun s => .of (width (s.outline 0)))
    ++ ((holder "x").outline 0).map fun entry => .of entry.sort

/-- Types and parts, as often as asked for. -/
def typesAndParts (size : Int) : Outcome Value :=
  return .list ((below size).flatMap fun i => [.of (typeTexts i), .list widths])

/-! ## Graphs -/

/-- Numbers about the control flow graph of a function: blocks, edges, blocks that cannot be reached
and that can, and the edges into and out of the entry. -/
def controlNumbers (f : Function) : Outcome (List Nat) := do
  let graph ← controlGraph f
  let entry := graph.entry.getD ""
  return [graph.blocks.length, graph.edges.length, graph.unreachable.length,
    (reachable graph.edges entry).length, (predecessors graph.edges entry).length,
    (successors graph.edges entry).length]

/-- Numbers about the graphs of functions of different depths, then the calls of the first one,
which calls itself. -/
def graphs (size : Int) : Outcome Value := do
  let functions := (below size).map fun i =>
    function ("fn" ++ Number.digitsText i) (2 + i % 3) .public
  let numbers ← functions.mapM fun f => do
    let flow := dataGraph f
    return [← controlNumbers f, [(flow.definitions "x").length, (flow.uses "x").length]]
  match functions with
  | [] => throw .outOfRange
  | first :: _ =>
    let calls : CallGraph :=
      { CallGraph.ofFunctions functions with edges := [⟨first.name, first.name, .call⟩] }
    let noted ← calls.addSite first.name (.call "" first.name [])
    let place : DataNode := { id := "x", isDefinition := true, uses := [.text "step"] }
    let flow := (dataGraph first).add "x" place
    let block : Block := { id := "block", statements := [step] }
    return .list (numbers.flatten.map .of ++ [
      .list [.of (calls.callers first.name).length, .of (calls.callees first.name).length,
        .of calls.recursive],
      .of [!(flow.definitions "x").isEmpty, !(flow.uses "x").isEmpty],
      .of block.isBasic,
      .of (noted.sitesOf first.name).length])

/-! ## Collections -/

/-- The modules of a project: one in each language, and a small one besides. -/
def project (size : Int) : List Module :=
  (Language.all.map fun language => module ("proj" ++ language.ending) size)
    ++ [module "small.sol" 2]

/-- Numbers about a project, what is wrong with it, the outcomes of reading programs, and the
modules that are left when all are dropped. -/
def collection (size : Int) : Outcome Value := do
  let c := (project size).foldl (fun c m => c.put m.name m) ({} : Collection)
  let read := Language.all.map fun language =>
    match (if language = .solidity then Solidity.Lowering.module []
      else Solidity.Lowering.untold "IRModule" : Outcome Module) with
    | .ok _ => "ok"
    | .error _ => "terr"
  let numbers := [(← c.controlGraphs).length, c.dataGraphs.length, c.callGraph.names.length,
    c.modules.length, c.contracts.length, c.functions.length, c.vars.length,
    (c.functions.filter fun f => f.name = "f0").length,
    (c.contracts.filter fun contract => contract.name = "Main").length]
  return .list (numbers.map .of ++ [
    .of ((c.modules.lookup "proj.sol").map Module.name),
    .of (← c.complaints).length,
    .of (byName c.statistics)] ++ read.map .of ++ [.of ({} : Collection).modules.length])

/-! ## Analyses -/

def withoutParameters (m : Module) : Outcome Module := do
  match m.contracts with
  | contract :: others =>
    match contract.functions with
    | first :: rest =>
      let functions := { first with parameters := [] } :: rest
      return { m with contracts := { contract with functions } :: others }
    | [] => throw .outOfRange
  | [] => throw .outOfRange

/-- The numbers of findings of all passes about two modules that disagree on a function, the number
of passes over that function, and the number of disagreements. -/
def passes (size : Int) : Outcome Value := do
  let m := module "proj.sol" size
  let other ← withoutParameters (module "proj.rs" size)
  let counts ← [m, other].mapM fun m => Pass.all.mapM fun pass => do
    return Value.list [.of pass.name, .of (← pass.onModule m).findings.length]
  let first ← (other.contracts.flatMap Contract.functions).head?.elim (throw .outOfRange)
    fun f => Pass.all.mapM fun pass => pass.onFunction f
  return .list (counts.flatten
    ++ [.of first.length, .of (← interfaceFindings [m, other]).length])

/-- The findings of the checks of control flow about a module, and the numbers about its graphs. -/
def controlFlow (size : Int) : Outcome Value :=
  let m := module "proj.sol" size
  let numbers := (ControlFlow.statistics (ControlFlow.graphs m)).toValue .real
  return .list [.of (ControlFlow.moduleFindings m).length, .of (byName numbers)]

/-- The numbers of weaknesses in modules of each language and of none: all of them, and those of the
classes that nothing is recognised as. -/
def weaknessCounts (size : Int) : Outcome Value :=
  let endings := Language.all.map Language.ending ++ [".txt"]
  let counts := endings.flatMap fun ending =>
    let found := weaknesses (module ("proj" ++ ending) size)
    found.length :: unrecognised.map fun kind => (found.filter fun f => f.kind = kind).length
  return .list (counts.map .of ++ [.of weaknessClasses])

/-- Settings that leave an analysis possible: those of all modes, and with an analyzer that is not
known. -/
def usable : List Settings :=
  [{ mode := .fast }, { mode := .standard }, { mode := .deep },
    { mode := .custom, analyzers := ["bogus", "ir_analyzer"] }]

def unusable : Settings where
  analyzers := ["bogus"]
  maxTime := .int 0
  maxMemory := .int 0
  symbolicDepth := .int 0

def measured : List String := ["analysis_time", "memory_usage"]

/-- For each of the settings the number of findings about modules in all languages, what is known
about the run and about the engine, and what is wrong with the settings. -/
def engine (size : Int) : Outcome Value := do
  let modules := Language.all.map fun language => module ("proj" ++ language.ending) size
  let runs ← usable.mapM fun settings => do
    let result := settings.analyzeTogether modules
    let known := Settings.ascending (measured ++ result.statistics.map Prod.fst)
    let facts := byName (Engine.statistics { settings })
    return [Value.list [.of result.findings.length, .of known], .of (facts.map Prod.fst),
      .of (← settings.validate)]
  return .list (runs.flatten ++ [.of (← unusable.validate)])

end ContractLint.Workload
