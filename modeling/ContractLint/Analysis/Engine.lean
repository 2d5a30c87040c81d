import ContractLint.Analysis.Interface
import ContractLint.Analysis.Pass
import ContractLint.Analysis.Weakness
import ContractLint.Solidity.Lowering

/-! # Analysis of several modules

An engine runs the enabled analyzers over modules, one module after the other, and merges what they
report: of findings with the same identifier one is kept, and the rest is put in the order of
severity. A failure ends the run; what was found before is reported with it.
-/

namespace ContractLint.Analysis

open Program

/-- How thorough an analysis is. -/
inductive Mode where
  | fast
  | standard
  | deep
  | custom
deriving DecidableEq, Inhabited

namespace Mode

def all : List Mode := [fast, standard, deep, custom]

def name : Mode → String
  | fast => "fast"
  | standard => "standard"
  | deep => "deep"
  | custom => "custom"

/-- The analyzers of a mode, in ascending order. -/
def analyzers : Mode → List String
  | fast => ["ir_analyzer", "vulnerability_detector"]
  | standard =>
    ["control_flow", "data_flow", "ir_analyzer", "semantic_analyzer", "vulnerability_detector"]
  | deep =>
    ["control_flow", "data_flow", "ir_analyzer", "semantic_analyzer", "symbolic_execution",
      "taint_analysis", "vulnerability_detector"]
  | custom => []

end Mode

instance : OfValue Mode := ⟨Value.member "AnalysisMode" Mode.all Mode.name⟩

structure Settings where
  /-- How thorough the analysis is. -/
  mode : Mode := .standard
  /-- The analyzers that are asked for, in ascending order; if there are none, the mode decides. -/
  analyzers : List String := []
  maxTime : Value := .int 300
  maxMemory : Value := .int 1024
  /-- Whether interfaces are compared across modules. -/
  crossLanguage : Value := .bool true
  symbolic : Value := .bool true
  /-- How deep paths are executed. -/
  symbolicDepth : Value := .int 10
  taint : Value := .bool true

namespace Settings

/-- The names of all settings. -/
def keys : List String := ["mode", "enabled_analyzers", "max_analysis_time", "max_memory_usage",
  "enable_cross_language", "enable_symbolic_execution", "symbolic_execution_depth",
  "enable_taint_analysis", "taint_sources", "taint_sinks"]

/-- Texts in ascending order, each once. -/
def ascending (texts : List String) : List String :=
  texts.eraseDups.mergeSort fun a b => decide (a ≤ b)

def ofParts (parts : List (String × Value)) : Outcome Settings := do
  let mode ← ((parts.lookup "mode").map Value.read).getD (pure .standard)
  let analyzers : Option (List String) ← ((parts.lookup "enabled_analyzers").getD .null).read
  match parts.find? fun (key, _) => !keys.contains key with
  | some (key, _) => throw (.unknownPart "AnalysisConfiguration" key)
  | none =>
    let field (key : String) (default : Value) : Value := (parts.lookup key).getD default
    return {
      mode
      analyzers := ascending (analyzers.getD [])
      maxTime := field "max_analysis_time" (.int 300)
      maxMemory := field "max_memory_usage" (.int 1024)
      crossLanguage := field "enable_cross_language" (.bool true)
      symbolic := field "enable_symbolic_execution" (.bool true)
      symbolicDepth := field "symbolic_execution_depth" (.int 10)
      taint := field "enable_taint_analysis" (.bool true) }

def presets : List (String × Settings) := [
  ("quick_scan",
    { mode := .fast, maxTime := .int 60, symbolic := .bool false, taint := .bool false }),
  ("security_audit", { mode := .deep, maxTime := .int 600, symbolicDepth := .int 15 }),
  ("ci_integration", { maxTime := .int 180, symbolicDepth := .int 8 }),
  ("development", { maxTime := .int 120, symbolic := .bool false })]

def enabled (s : Settings) : List String :=
  if s.analyzers.isEmpty then s.mode.analyzers else s.analyzers

def isPositive (v : Value) : Outcome Bool :=
  match v.asNumber? with
  | some _ => Value.less "<" (.int 0) v
  | none => throw (.notOrdered "<=" v.kindName "int")

def validate (s : Settings) : Outcome (List String) := do
  let limits ← [("max_analysis_time", s.maxTime), ("max_memory_usage", s.maxMemory),
    ("symbolic_execution_depth", s.symbolicDepth)].mapM fun (name, limit) => do
      return if ← isPositive limit then [] else [name ++ " must be positive"]
  let unknown := s.analyzers.filter fun name => !Mode.deep.analyzers.contains name
  return limits.flatten ++ if unknown.isEmpty then [] else
    ["Invalid analyzers: \x7b" ++ String.intercalate ", " (unknown.map Text.quoted) ++ "\x7d"]

end Settings

/-! ## Merging findings -/

/-- Puts a finding among findings with distinct identifiers. A finding that is already there gives
way to one whose severity has a name that comes later in the alphabet. -/
def addDistinct (kept : List Finding) (f : Finding) : List Finding :=
  if kept.any fun k => k.id = f.id then
    kept.map fun k => if k.id = f.id ∧ k.severity.name < f.severity.name then f else k
  else kept ++ [f]

/-- The order of findings: the gravest first, then by headline. -/
def inOrder (f g : Finding) : Bool :=
  f.severity.rank < g.severity.rank
    || (f.severity.rank = g.severity.rank && decide (f.title ≤ g.title))

/-- One finding for each identifier, the gravest first. -/
def merged (findings : List Finding) : List Finding :=
  (findings.foldl addDistinct []).mergeSort inOrder

/-! ## Running analyzers -/

def generalPasses : List Pass :=
  [.controlFlow, .dataFlow, .reachability, .deadCode, .vulnerability]

def generalReport (m : Module) : Outcome Report := do
  return (← generalPasses.mapM fun pass => pass.onModule m).foldl Report.merge {}

/-- What an analyzer reports about a module. Analyzers without a criterion report nothing. -/
def analyzerReport (m : Module) : String → Outcome Report
  | "ir_analyzer" => generalReport m
  | "control_flow" => pure { findings := ControlFlow.moduleFindings m }
  | "vulnerability_detector" => pure { findings := weaknesses m }
  | _ => pure {}

def analyzerOrder : List String := ["ir_analyzer", "control_flow", "data_flow", "taint_analysis",
  "symbolic_execution", "vulnerability_detector", "semantic_analyzer"]

def untilFailure (sofar : Report) : List (Outcome Report) → Report × Option Fault
  | [] => (sofar, none)
  | .error fault :: _ => (sofar, some fault)
  | .ok report :: rest => untilFailure (sofar.merge report) rest

structure Result where
  findings : List Finding := []
  /-- Numbers about the analysis. -/
  statistics : List (String × Value) := []
  errors : List String := []

namespace Result

def failed (fault : Fault) : Result := { errors := [fault.message] }

def toValue (r : Result) : Value :=
  .object [("findings", .of r.findings), ("statistics", .object r.statistics),
    ("errors", .of r.errors), ("warnings", .list [])]

end Result

def Settings.analyze (s : Settings) (modules : List Module) : Result :=
  let running := analyzerOrder.filter s.enabled.contains
  let (report, fault) := untilFailure {} (modules.flatMap fun m => running.map (analyzerReport m))
  let findings := if fault.isSome then report.findings else merged report.findings
  let numbers := [("total_modules", Value.int modules.length),
    ("total_findings", .int findings.length), ("analyzers_run", .of s.enabled)]
  { findings
    statistics := numbers.foldl (fun facts (name, fact) => Entries.put facts name fact)
      report.facts
    errors := fault.toList.map Fault.message }

/-- Runs the enabled analyzers over modules and compares their interfaces, if that is enabled. -/
def Settings.analyzeTogether (s : Settings) (modules : List Module) : Result :=
  let result := s.analyze modules
  if s.crossLanguage.truthy then
    match interfaceFindings modules with
    | .ok found => { result with findings := result.findings ++ found }
    | .error fault => .failed fault
  else result

/-! ## Engines -/

structure Engine where
  settings : Settings := {}
  modules : List Module := []
  /-- The keys under which results are kept. -/
  cached : List String := []

namespace Engine

def track (e : Engine) (m : Module) : Engine := { e with modules := e.modules ++ [m] }

def cache (e : Engine) (key : String) : Engine :=
  { e with cached := if e.cached.contains key then e.cached else e.cached ++ [key] }

/-- Forgets what was seen. -/
def clear (e : Engine) : Engine := { settings := e.settings }

/-- Numbers about what was seen. -/
def statistics (e : Engine) : Value :=
  let languages := e.modules.filterMap fun m => (Language.ofEnding? m.name).map Language.name
  .object [
    ("modules_analyzed", .of e.modules.length),
    ("total_contracts", .of (e.modules.flatMap Module.contracts).length),
    ("total_functions", .of (e.modules.flatMap Module.allFunctions).length),
    ("languages_detected", .of (Settings.ascending languages)),
    ("cache_hits", .of e.cached.length),
    ("configuration", .object [
      ("mode", .of e.settings.mode.name),
      ("cross_language_enabled", e.settings.crossLanguage),
      ("symbolic_execution_enabled", e.settings.symbolic),
      ("taint_analysis_enabled", e.settings.taint)])]

def analyzeRead (e : Engine) (read : Outcome Module) : Result × Engine :=
  match read with
  | .ok m => (e.settings.analyze [m], e.track m)
  | .error fault => (.failed fault, e)

end Engine

end ContractLint.Analysis
