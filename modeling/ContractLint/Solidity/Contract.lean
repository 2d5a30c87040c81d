import ContractLint.Document.Access

/-! # Compiled contracts -/

namespace ContractLint.Solidity

structure Contract where
  name : String
  source : String
  /-- The syntax tree, or null. -/
  ast : Value
  /-- The machine code, or null. -/
  bytecode : Value := .null
  /-- The interface, or null. -/
  abi : Value := .null
  /-- The map from machine code to source, or null. -/
  sourceMap : Value := .null
deriving Inhabited

/-- What is known about a source file after compilation. -/
structure Unit where
  file : String
  source : String
  contracts : List Contract
  /-- What the compiler rejected. -/
  errors : List String
  warnings : List String
  version : Value
deriving Inhabited

/-- The account of a file counts as present, whatever it says. -/
def Unit.truthy (_ : Unit) : Bool := true

end ContractLint.Solidity
