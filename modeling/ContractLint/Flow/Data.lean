import ContractLint.Program.Module

/-! # Flow of data

Places where variables get their values, and places where the values are used.
-/

namespace ContractLint.Flow

structure DataNode where
  id : String
  /-- The variable gets a value here. -/
  isDefinition : Bool := false
  uses : List Value := []

/-- The places of variables, in the order in which they were added. -/
structure DataGraph where
  /-- Variables and places. -/
  nodes : List (String × DataNode) := []

namespace DataGraph

def ofVariable (graph : DataGraph) (name : String) : List DataNode :=
  (graph.nodes.filter fun entry => entry.1 == name).map Prod.snd

def add (graph : DataGraph) (name : String) (node : DataNode) : DataGraph :=
  ⟨graph.nodes ++ [(name, node)]⟩

/-- The places where a variable gets a value. -/
def definitions (graph : DataGraph) (name : String) : List DataNode :=
  (graph.ofVariable name).filter DataNode.isDefinition

def uses (graph : DataGraph) (name : String) : List DataNode :=
  (graph.ofVariable name).filter fun node => !node.uses.isEmpty

def variableCount (graph : DataGraph) : Nat := (graph.nodes.map Prod.fst).eraseDups.length

end DataGraph

/-- The flow of data in a function, of which nothing is known at first. -/
def dataGraph (_ : Program.Function) : DataGraph := {}

end ContractLint.Flow
