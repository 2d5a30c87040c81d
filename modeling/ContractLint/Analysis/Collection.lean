import ContractLint.Analysis.Weakness
import ContractLint.Flow.Call
import ContractLint.Flow.Data
import ContractLint.Path

/-! # Collections of modules

The modules of a project by the paths of their files. -/

namespace ContractLint.Analysis

open Program ContractLint.Flow

/-- Modules by path, in the order in which they were added. -/
structure Collection where
  modules : List (String × Module) := []

namespace Collection

/-- Puts a module under a path; the place of a path that is already there is kept. -/
def put (c : Collection) (path : String) (m : Module) : Collection :=
  if (c.modules.lookup path).isSome then
    ⟨c.modules.map fun entry => if entry.1 == path then (path, m) else entry⟩
  else ⟨c.modules ++ [(path, m)]⟩

def contracts (c : Collection) : List Contract := c.modules.flatMap fun (_, m) => m.contracts

def functions (c : Collection) : List Function := c.modules.flatMap fun (_, m) => m.allFunctions

def vars (c : Collection) : List Variable :=
  c.modules.flatMap fun (_, m) => m.vars ++ m.contracts.flatMap Contract.vars

def namedFunctions (c : Collection) : List (String × Function) :=
  c.modules.flatMap fun (path, m) =>
    (m.functions.map fun f => (path ++ "::" ++ f.name, f))
    ++ m.contracts.flatMap fun contract => contract.functions.map fun f =>
      (path ++ "::" ++ contract.name ++ "::" ++ f.name, f)

/-- Entries by name, of which the last one of a name counts. -/
def byName {α : Type} (entries : List (String × α)) : List (String × α) :=
  entries.foldl
    (fun known (name, item) =>
      if (known.lookup name).isSome then
        known.map fun entry => if entry.1 == name then (name, item) else entry
      else known ++ [(name, item)])
    []

def controlGraphs (c : Collection) : Outcome (List (String × ControlGraph)) := do
  return byName (← c.namedFunctions.mapM fun (name, f) => return (name, ← controlGraph f))

def dataGraphs (c : Collection) : List (String × DataGraph) :=
  byName (c.namedFunctions.map fun (name, f) => (name, dataGraph f))

def callGraph (c : Collection) : CallGraph := CallGraph.ofFunctions c.functions

/-- Complaints about names that several contracts bear, `known` being the names with the paths where
they were first seen. -/
def duplicates (known : List (String × String)) : List (String × String) → List String
  | [] => []
  | (name, path) :: rest =>
    match known.lookup name with
    | some first =>
      ("Duplicate contract name '" ++ name ++ "' found in " ++ path ++ " and " ++ first)
        :: duplicates known rest
    | none => duplicates (known ++ [(name, path)]) rest

/-- Complaints about functions without statements in contracts that are no interfaces. -/
def missingBodies (c : Collection) : List String :=
  (c.contracts.filter fun contract => !contract.isInterface).flatMap fun contract =>
    (contract.functions.filter fun f => f.body.isEmpty && !f.isConstructor).map fun f =>
      "Function '" ++ f.name ++ "' in contract '" ++ contract.name ++ "' has no body"

/-- Complaints about code that cannot be reached. -/
def unreachableCode (graphs : List (String × ControlGraph)) : List String :=
  (graphs.filter fun (_, graph) => !graph.unreachable.isEmpty).map fun (name, graph) =>
    "Unreachable code detected in function " ++ name ++ ": nodes "
      ++ (Value.ofTexts graph.unreachable).display

def complaints (c : Collection) : Outcome (List String) := do
  let named := c.modules.flatMap fun (path, m) =>
    m.contracts.map fun contract => (contract.name, path)
  return duplicates [] named ++ c.missingBodies ++ unreachableCode (← c.controlGraphs)

/-- The languages of the modules by the suffixes of their paths, in ascending order. -/
def languages (c : Collection) : List String :=
  let found := c.modules.filterMap fun (path, _) =>
    Language.all.find? fun language => (Path.ofText path).suffix == language.ending
  (found.eraseDups.map Language.name).mergeSort fun a b => decide (a ≤ b)

/-- The document of the numbers about the modules. -/
def statistics (c : Collection) : Value :=
  .object [
    ("modules", .int c.modules.length),
    ("contracts", .int c.contracts.length),
    ("functions", .int c.functions.length),
    ("variables", .int c.vars.length),
    ("languages", .ofTexts c.languages)]

end Collection

end ContractLint.Analysis
