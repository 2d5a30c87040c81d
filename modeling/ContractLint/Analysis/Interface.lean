import ContractLint.Analysis.ControlFlow

/-! # Interfaces across modules

A public function of a contract is known by the names of both. Modules that declare the same
function must agree on its parameters and its result.
-/

namespace ContractLint.Analysis

open Program

def parametersAgree : List Parameter → List Parameter → Outcome Bool
  | [], [] => pure true
  | a :: as, b :: bs =>
    match a.type, b.type with
    | some s, some t => if s.name = t.name then parametersAgree as bs else pure false
    | _, _ => throw (.noMember "NoneType" "name")
  | _, _ => pure false

/-- Results agree: both have the same name, or there is none. -/
def resultsAgree : Option Ty → Option Ty → Bool
  | none, none => true
  | some s, some t => s.name = t.name
  | _, _ => false

def signaturesAgree (f g : Function) : Outcome Bool := do
  if f.parameters.length ≠ g.parameters.length then return false
  if ← parametersAgree f.parameters g.parameters then return resultsAgree f.result g.result
  else return false

def publicFunctions (modules : List Module) : List (String × Function) :=
  modules.flatMap fun m => m.contracts.flatMap fun c =>
    (c.functions.filter fun f => f.visibility = .public).map fun f =>
      (c.name ++ "::" ++ f.name, f)

/-- The finding about a function that disagrees with an earlier one of its name. -/
def mismatch (key : String) (f : Function) : Finding :=
  functionFinding "ir_analyzer" f ("interface_mismatch_" ++ key) "Interface Mismatch"
    ("Function " ++ key ++ " has incompatible signatures across modules") .high
    "interface_consistency"

def mismatches (known : List (String × Function)) : List (String × Function) →
    Outcome (List Finding)
  | [] => pure []
  | (key, f) :: rest =>
    match known.lookup key with
    | none => mismatches (known ++ [(key, f)]) rest
    | some first => do
      let agree ← signaturesAgree first f
      let others ← mismatches known rest
      return if agree then others else mismatch key f :: others

def interfaceFindings (modules : List Module) : Outcome (List Finding) :=
  mismatches [] (publicFunctions modules)

end ContractLint.Analysis
