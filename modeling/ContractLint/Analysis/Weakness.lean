import ContractLint.Analysis.ControlFlow

/-! # Weaknesses of functions in any language

A pattern looks at one function. Patterns apply to modules by their language, which the name of the
module tells. Of the patterns only the one for missing access control has a criterion; what the
others look for is never recognised.
-/

namespace ContractLint.Analysis

open Program

inductive Language where
  | solidity
  | rust
  | go
deriving DecidableEq, Inhabited

namespace Language

def all : List Language := [solidity, rust, go]

def name : Language → String
  | solidity => "solidity"
  | rust => "rust"
  | go => "go"

def ending : Language → String
  | solidity => ".sol"
  | rust => ".rs"
  | go => ".go"

def ofEnding? (name : String) : Option Language :=
  all.find? fun language => Text.endsWith name language.ending

end Language

/-- The classes of weaknesses, in ascending order. -/
def weaknessClasses : List String := ["access_control", "cryptographic", "denial_of_service",
  "frontrunning", "integer_overflow", "logic_error", "memory_safety", "oracle_manipulation",
  "race_condition", "reentrancy"]

/-- The classes for which there is a pattern without a criterion. -/
def unrecognised : List String :=
  ["reentrancy", "integer_overflow", "oracle_manipulation", "denial_of_service"]

def missingAccessControl (f : Function) : List Finding :=
  if f.visibility = .public && f.modifiers.isEmpty && !f.isView && !f.isPure then
    [functionFinding "vulnerability_detector" f ("missing_access_control_" ++ f.name)
      "Missing Access Control"
      ("Public function " ++ f.name ++ " lacks access control modifiers") .medium
      "access_control"]
  else []

/-- The findings about a module: functions of contracts first. A module in no known language has
none. -/
def weaknesses (m : Module) : List Finding :=
  if (Language.ofEnding? m.name).isNone then []
  else (m.contracts.flatMap Contract.functions ++ m.functions).flatMap missingAccessControl

end ContractLint.Analysis
