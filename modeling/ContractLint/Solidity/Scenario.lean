import ContractLint.Document.Codec
import ContractLint.Solidity.Compiler

/-! # Described compilers and compiled files

A compiler can be given by a document: its installed versions and what it answers. A compiled file
can be given by its source and the trees of its contracts.
-/

namespace ContractLint.Solidity

def complaintText (message : String) : String :=
  Text.strip (message ++ "\n> command: ``\n> return code: `None`\n> stdout:\nNone\n> stderr:\nNone")

/-- The answer of a described compiler: a text is a refusal, and an object may hold a complaint. -/
def describedAnswer (v : Value) : Outcome Value :=
  match v with
  | .text s => throw (.invalid s)
  | .object fields =>
    match fields.lookup "solc_error" with
    | some message => throw (.compiler (complaintText message.display))
    | none => pure v
  | _ => pure v

/-- The described compiler; a document that mentions none describes a missing one. -/
def Compiler.ofValue (v : Value) : Outcome Compiler := do
  if !((← v.has "compiled") || (← v.has "solc")) then return .missing
  let tools ← v.getOr "solc" (.object [])
  let installed : Except ListingFailure (List String) ←
    match ← tools.get "raise" with
    | .text "SolcNotInstalled" => pure (.error .nothingInstalled)
    | .text _ => pure (.error .other)
    | _ => Except.ok <$> tools.maybe "installed" ["0.8.0"]
  let described := describedAnswer (← v.get "compiled")
  let reported ← if ← tools.has "active" then some <$> tools.field "active" else pure none
  return .present {
    installed
    canInstall := !(← tools.get "install_fails").truthy
    reported
    answer := fun _ _ => described }

/-- The described compiled file. -/
def Unit.ofValue (v : Value) : Outcome Unit := do
  let source ← v.maybe "source" ""
  let contracts ← (← v.maybe "contracts" ([] : List Value)).mapM fun contract => do
    let name := (← contract.getOr "name" (.text "C")).display
    let ast ← contract.get "ast"
    return ({ name, source, ast } : Contract)
  let complaints ← v.maybe "compilation_errors" ([] : List Value)
  return {
    file := ← v.maybe "file_path" "a.sol"
    source
    contracts
    errors := complaints.map Value.display
    warnings := []
    version := .text "v" }

instance : OfValue Unit := ⟨Unit.ofValue⟩

instance : ToValue Action where
  write
    | .install version => .list [.text "install", version]
    | .select version => .list [.text "set", version]
    | .compile unit => .list [.text "compile", .text unit.file]

end ContractLint.Solidity
