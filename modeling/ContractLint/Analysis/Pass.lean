import ContractLint.Analysis.ControlFlow
import ContractLint.Flow.Data

/-! # Passes over a program

A pass visits the functions of a module, those of contracts first, and reports findings and facts
about each function. Some passes have nothing to report yet.
-/

namespace ContractLint.Analysis

open Program ContractLint.Flow

inductive Pass where
  | controlFlow
  | dataFlow
  | taint
  | reachability
  | deadCode
  | vulnerability
deriving DecidableEq, Inhabited

structure Report where
  findings : List Finding := []
  facts : List (String × Value) := []

/-- Two reports in one; of facts of the same name the later one counts. -/
def Report.merge (a b : Report) : Report where
  findings := a.findings ++ b.findings
  facts := b.facts.foldl (fun facts (name, fact) => Entries.put facts name fact) a.facts

namespace Pass

/-- All passes. -/
def all : List Pass := [controlFlow, dataFlow, taint, reachability, deadCode, vulnerability]

def name : Pass → String
  | controlFlow => "control_flow"
  | dataFlow => "data_flow"
  | taint => "taint_analysis"
  | reachability => "reachability"
  | deadCode => "dead_code"
  | vulnerability => "vulnerability"

/-- Blocks that cannot be reached, and loops. -/
def controlFlowReport (f : Function) : Outcome Report := do
  let graph ← controlGraph f
  let unreachable := graph.unreachable
  let report := functionFinding "control_flow_analyzer" f
  return {
    findings :=
      (if unreachable.isEmpty then []
      else [report ("unreachable_code_" ++ f.name) "Unreachable Code"
        ("Function " ++ f.name ++ " contains unreachable code blocks") .medium "dead_code"])
      ++ if graph.edges.any fun edge => edge.kind = .loopBack then
        [report ("infinite_loop_" ++ f.name) "Potential Infinite Loop"
          ("Function " ++ f.name ++ " may contain an infinite loop") .high "infinite_loop"]
      else []
    facts := [("cfg_" ++ f.name, .object [
      ("nodes", .int graph.blocks.length),
      ("edges", .int graph.edges.length),
      ("unreachable_nodes", .int unreachable.length)])] }

def dataFlowReport (f : Function) : Report where
  facts := [("dfg_" ++ f.name, .object [("variables", .int (dataGraph f).variableCount)])]

def vulnerabilityReport (f : Function) : Report where
  findings :=
    if f.visibility = .public && f.modifiers.isEmpty then
      [functionFinding "vulnerability_analyzer" f ("missing_access_control_" ++ f.name)
        "Missing Access Control"
        ("Public function " ++ f.name ++ " lacks access control modifiers") .medium
        "access_control"]
    else []

def onFunction (pass : Pass) (f : Function) : Outcome Report :=
  match pass with
  | controlFlow => controlFlowReport f
  | dataFlow => pure (dataFlowReport f)
  | vulnerability => pure (vulnerabilityReport f)
  | taint => pure {}
  | reachability => pure {}
  | deadCode => pure {}

def onModule (pass : Pass) (m : Module) : Outcome Report := do
  let reports ← (m.contracts.flatMap Contract.functions ++ m.functions).mapM pass.onFunction
  return reports.foldl Report.merge {}

end Pass

instance : OfValue Pass := ⟨Value.member "AnalysisType" Pass.all Pass.name⟩

end ContractLint.Analysis
