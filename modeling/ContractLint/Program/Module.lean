import ContractLint.Location
import ContractLint.Program.Statement

/-! # Modules of a program

A module is what one source file holds: contracts, functions and variables, whatever the language
it was written in.
-/

namespace ContractLint.Program

structure Parameter where
  name : Value
  type : Option Ty

structure Function where
  name : String
  id : String := ""
  parameters : List Parameter := []
  /-- The type of its result, if it has one. -/
  result : Option Ty := none
  /-- From where it can be called. -/
  visibility : Visibility := .private
  body : List Stmt := []
  /-- It sets up a contract. -/
  isConstructor : Bool := false
  /-- It reads only. -/
  isView : Bool := false
  /-- It does not even read. -/
  isPure : Bool := false
  modifiers : List Value := []
  location : Option Location := none
deriving Inhabited

structure Variable where
  name : String
  id : String := ""
  type : Option Ty := none
  /-- From where it can be used. -/
  visibility : Visibility := .private
deriving Inhabited

structure Contract where
  name : String
  id : String := ""
  functions : List Function := []
  vars : List Variable := []
  /-- It only declares functions. -/
  isInterface : Bool := false
deriving Inhabited

structure Module where
  name : String
  id : String := ""
  contracts : List Contract := []
  functions : List Function := []
  vars : List Variable := []
deriving Inhabited

/-- All functions of a module: those outside contracts first. -/
def Module.allFunctions (m : Module) : List Function :=
  m.functions ++ m.contracts.flatMap Contract.functions

/-- The described place; columns that are not given are zero. -/
def placeOf (v : Value) : Outcome Location := do
  return {
    file := ← v.need "file_path"
    lineStart := ← v.need "line_start"
    lineEnd := some (← v.need "line_end")
    columnStart := some (← v.maybe "column_start" 0)
    columnEnd := some (← v.maybe "column_end" 0) }

def Parameter.ofValue (v : Value) : Outcome Parameter := do
  return { name := ← v.getOr "name" (.text ""), type := ← typeOf (← v.get "type") }

instance : OfValue Parameter := ⟨Parameter.ofValue⟩

def Function.ofValue (v : Value) : Outcome Function := do
  let name ← v.maybe "name" ""
  let parameters ← v.maybe "params" []
  let result ← typeOf (← v.get "returns")
  let visibility ← v.maybe "visibility" Visibility.private
  let body ← blockOf (← v.getOr "body" (.list []))
  let location ← match ← v.get "loc" with
    | .null => pure none
    | place => some <$> placeOf place
  return {
    name
    id := ← v.maybe "id" ""
    parameters
    result
    visibility
    body
    isConstructor := ← v.maybe "is_constructor" false
    isView := ← v.maybe "is_view" false
    isPure := ← v.maybe "is_pure" false
    modifiers := ← v.maybe "modifiers" []
    location }

instance : OfValue Function := ⟨Function.ofValue⟩

def Variable.ofValue (v : Value) : Outcome Variable := do
  return {
    name := ← v.maybe "name" ""
    id := ← v.maybe "id" ""
    type := ← typeOf (← v.get "type")
    visibility := ← v.maybe "visibility" .private }

instance : OfValue Variable := ⟨Variable.ofValue⟩

def Contract.ofValue (v : Value) : Outcome Contract := do
  return {
    name := ← v.maybe "name" ""
    id := ← v.maybe "id" ""
    functions := ← v.maybe "functions" []
    vars := ← v.maybe "variables" []
    isInterface := ← v.maybe "is_interface" false }

instance : OfValue Contract := ⟨Contract.ofValue⟩

def Module.ofValue (v : Value) : Outcome Module := do
  return {
    name := ← v.maybe "name" ""
    id := ← v.maybe "id" ""
    contracts := ← v.maybe "contracts" []
    functions := ← v.maybe "functions" []
    vars := ← v.maybe "variables" [] }

instance : OfValue Module := ⟨Module.ofValue⟩

end ContractLint.Program
