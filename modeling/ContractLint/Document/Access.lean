import ContractLint.Fault
import ContractLint.Text.Digit
import ContractLint.Text.Search

/-! # Reading documents of unknown shape

Documents come from outside, so every step into one may fail. Each operation here says for which
kinds of values it is defined and which fault it raises for the others.
-/

namespace ContractLint.Value

def charTexts (s : String) : List Value := s.toList.map fun c => text (String.ofList [c])

/-- The field of an object, or a default for a field it lacks. -/
def getOr (v : Value) (key : String) (default : Value) : Outcome Value :=
  match v with
  | object fields => pure ((fields.lookup key).getD default)
  | other => throw (.noMember other.kindName "get")

/-- The field of an object, or null for a field it lacks. -/
def get (v : Value) (key : String) : Outcome Value := v.getOr key null

/-- The fields of an object. -/
def entries (v : Value) : Outcome (List (String × Value)) :=
  match v with
  | object fields => pure fields
  | other => throw (.noMember other.kindName "items")

/-- The field of an object, which must be there. -/
def field (v : Value) (key : String) : Outcome Value :=
  match v with
  | object fields =>
    match fields.lookup key with
    | some item => pure item
    | none => throw (.missingKey (text key))
  | list _ => throw (.badListIndex "str")
  | text _ => throw (.badTextIndex "str")
  | other => throw (.notIndexable other.kindName)

/-- The item at a position, counted from the end when negative. -/
def itemAt (v : Value) (position : Int) : Outcome Value :=
  let pick (items : List Value) : Outcome Value :=
    let index := if position < 0 then position + items.length else position
    if index < 0 then throw .outOfRange
    else match items[index.toNat]? with
      | some item => pure item
      | none => throw .outOfRange
  match v with
  | list items => pick items
  | text s =>
    match pick (charTexts s) with
    | .ok item => pure item
    | .error _ => throw (.mistyped "string index out of range")
  | object _ => throw (.missingKey (int position))
  | other => throw (.notIndexable other.kindName)

/-- The value holds this text: as a field name, as an item, or as a part. -/
def has (v : Value) (key : String) : Outcome Bool :=
  match v with
  | object fields => pure (fields.any fun entry => entry.1 == key)
  | list items => pure (items.any fun item => item.isText key)
  | text s => pure (Text.contains s key)
  | other => throw (.notSearchable other.kindName)

/-- The items of a value: of a list, the names of an object's fields, or the characters of a
text. -/
def elements (v : Value) : Outcome (List Value) :=
  match v with
  | list items => pure items
  | object fields => pure (fields.map fun entry => text entry.1)
  | text s => pure (charTexts s)
  | other => throw (.notIterable other.kindName)

def textFor (v : Value) (operation : String) : Outcome String :=
  match v with
  | text s => pure s
  | other => throw (.noMember other.kindName operation)

def integer (s : String) : Outcome Int :=
  match Text.parseInt? s with
  | some n => pure n
  | none => throw (.invalid ("invalid literal for int() with base 10: " ++ Text.quoted s))

/-- The number of items, fields or characters. -/
def count (v : Value) : Outcome Nat :=
  match v with
  | list items => pure items.length
  | object fields => pure fields.length
  | text s => pure s.length
  | other => throw (.mistyped s!"object of type '{other.kindName}' has no len()")

def hashable (v : Value) : Outcome Unit :=
  match v with
  | list _ => throw (.notHashable "list")
  | object _ => throw (.notHashable "dict")
  | _ => pure ()

/-- The value is less than the other: numbers by quantity, texts by their characters. -/
def less (relation : String) (a b : Value) : Outcome Bool :=
  match a, b with
  | text s, text t => pure (decide (s < t))
  | a, b =>
    match a.asNumber?, b.asNumber? with
    | some (.inl x), some (.inl y) => pure (decide (x < y))
    | some (.inl x), some (.inr y) => pure (Number.greaterThanInt y x)
    | some (.inr x), some (.inl y) => pure (Number.lessThanInt x y)
    | some (.inr x), some (.inr y) => pure (decide (x < y))
    | _, _ => throw (.notOrdered relation a.kindName b.kindName)

end ContractLint.Value
