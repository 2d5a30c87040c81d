import ContractLint.Document.Access

/-! # Values for typed things

Numbers, texts, lists and the records of the domain are written as values and read back from them.
Reading fails with a fault that names the kind of value found.
-/

namespace ContractLint

class ToValue (α : Type) where
  write : α → Value

class OfValue (α : Type) where
  read : Value → Outcome α

namespace Value

variable {α β : Type}

def asText (v : Value) : Outcome String :=
  match v with
  | text s => pure s
  | other => throw (.mistyped ("expected a text, not " ++ other.kindName))

def asText? (v : Value) : Outcome (Option String) :=
  match v with
  | null => pure none
  | other => some <$> other.asText

/-- The integer that a field must hold. -/
def asInt (v : Value) : Outcome Int :=
  match v with
  | int n => pure n
  | bool flag => pure (if flag then 1 else 0)
  | other => throw (.mistyped ("expected an integer, not " ++ other.kindName))

/-- The integer of a field that may be null. -/
def asInt? (v : Value) : Outcome (Option Int) :=
  match v with
  | null => pure none
  | other => some <$> other.asInt

def asTexts (v : Value) : Outcome (List String) := do
  (← v.elements).mapM asText

def of [ToValue α] (a : α) : Value := ToValue.write a

def read [OfValue α] (v : Value) : Outcome α := OfValue.read v

/-- The thing in a field, which must be there. -/
def need [OfValue α] (v : Value) (key : String) : Outcome α := do (← v.field key).read

/-- The thing in a field, or a default for a field that is not there. -/
def maybe [OfValue α] (v : Value) (key : String) (default : α) : Outcome α := do
  if ← v.has key then v.need key else return default

/-- The fields of the object in a field that may be missing. -/
def table (v : Value) (key : String) : Outcome (List (String × Value)) := do
  (← v.getOr key (object [])).entries

/-- The fields of an object; other values have none. -/
def parts : Value → List (String × Value)
  | object fields => fields
  | _ => []

def record (v : Value) (key : String) : Outcome (List (String × Value)) := do
  return parts (← v.getOr key (object []))

def member (family : String) (all : List α) (name : α → String) (v : Value) : Outcome α :=
  match all.find? fun a => v.isText (name a) with
  | some a => pure a
  | none => throw (.notAMember family v)

end Value

variable {α β : Type}

instance : ToValue Value := ⟨id⟩
instance : ToValue Unit := ⟨fun _ => .null⟩
instance : ToValue Bool := ⟨.bool⟩
instance : ToValue String := ⟨.text⟩
instance : ToValue Int := ⟨.int⟩
instance : ToValue Nat := ⟨fun n => .int n⟩

instance [ToValue α] : ToValue (List α) := ⟨fun items => .list (items.map Value.of)⟩

instance [ToValue α] : ToValue (Option α) := ⟨fun item => (item.map Value.of).getD .null⟩

instance [ToValue α] [ToValue β] : ToValue (α × β) :=
  ⟨fun pair => .list [.of pair.1, .of pair.2]⟩

instance : OfValue Value := ⟨pure⟩
instance : OfValue Bool := ⟨fun v => pure v.truthy⟩
instance : OfValue String := ⟨Value.asText⟩
instance : OfValue Int := ⟨Value.asInt⟩

instance [OfValue α] : OfValue (List α) := ⟨fun v => do (← v.elements).mapM Value.read⟩

instance [OfValue α] : OfValue (Option α) where
  read
    | .null => pure none
    | v => some <$> v.read

end ContractLint
