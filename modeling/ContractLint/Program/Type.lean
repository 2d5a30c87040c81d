import ContractLint.Document.Codec

/-! # Types of a program

A type is known by its name, and may besides be an array, a mapping or a record. The text of a type
shows the first of these that applies.
-/

namespace ContractLint.Program

/-- A type of values in a program. -/
structure Ty where
  name : String
  /-- It is built into the language. -/
  isPrimitive : Bool := false
  isArray : Bool := false
  size : Value := .null
  element : Option Ty := none
  isMapping : Bool := false
  key : Option Ty := none
  /-- The type of the values of a mapping. -/
  item : Option Ty := none
  /-- It is a record. -/
  isStruct : Bool := false
  fields : List (String × Option Ty) := []
deriving Inhabited

mutual

def Ty.text : Ty → String
  | ⟨name, _, isArray, size, element, isMapping, key, item, isStruct, fields⟩ =>
    if isArray then
      typeText element ++ if size.truthy then "[" ++ size.display ++ "]" else "[]"
    else if isMapping then "mapping(" ++ typeText key ++ " => " ++ typeText item ++ ")"
    else if isStruct then
      "struct " ++ name ++ " \x7b " ++ String.intercalate ", " (fieldTexts fields) ++ " \x7d"
    else name
termination_by structural type => type

def typeText : Option Ty → String
  | none => "None"
  | some type => type.text
termination_by structural type => type

def fieldTexts : List (String × Option Ty) → List String
  | [] => []
  | field :: rest => fieldText field :: fieldTexts rest
termination_by structural fields => fields

def fieldText : String × Option Ty → String
  | (name, type) => name ++ ": " ++ typeText type
termination_by structural field => field

end

mutual

/-- The document of a type. -/
def Ty.toValue : Ty → Value
  | ⟨name, isPrimitive, isArray, size, element, isMapping, key, item, isStruct, fields⟩ =>
    let self : Ty :=
      ⟨name, isPrimitive, isArray, size, element, isMapping, key, item, isStruct, fields⟩
    .object [
      ("name", .text name),
      ("is_primitive", .bool isPrimitive),
      ("is_array", .bool isArray),
      ("is_mapping", .bool isMapping),
      ("is_struct", .bool isStruct),
      ("element", typeValue element),
      ("key", typeValue key),
      ("value", typeValue item),
      ("str", .text self.text)]
termination_by structural type => type

def typeValue : Option Ty → Value
  | none => .null
  | some type => type.toValue
termination_by structural type => type

end

instance : ToValue Ty := ⟨Ty.toValue⟩

def Ty.partNames : List String := [
  "name", "is_primitive", "is_array", "array_size", "element_type", "is_mapping", "key_type",
  "value_type", "is_struct", "struct_fields", "is_nullable"]

/-- What a field of a described type holds: a type, or the types of fields. -/
structure TypeParts where
  type : Outcome (Option Ty)
  fields : Outcome (List (String × Option Ty))

/-- The type made from parts, the types among them having been read. -/
def Ty.ofParts (parts : List (String × Value)) (types : List (String × TypeParts)) : Outcome Ty := do
  let typeOf (key : String) : Outcome (Option Ty) :=
    match types.lookup key with
    | some part => part.type
    | none => pure none
  let element ← typeOf "element_type"
  let key ← typeOf "key_type"
  let item ← typeOf "value_type"
  let fields ← match types.lookup "struct_fields" with
    | some part => part.fields
    | none => pure []
  if let some (name, _) := parts.find? fun part => !partNames.contains part.1 then
    throw (.unknownPart "IRType" name)
  match parts.lookup "name" with
  | none => throw (.missingParts "IRType" ["name"])
  | some name =>
    let flag (key : String) : Bool := ((parts.lookup key).map Value.truthy).getD false
    return {
      name := ← name.asText
      isPrimitive := flag "is_primitive"
      isArray := flag "is_array"
      size := (parts.lookup "array_size").getD .null
      element
      isMapping := flag "is_mapping"
      key
      item
      isStruct := flag "is_struct"
      fields }

mutual

/-- The type that a value describes: by its name alone, or by its parts. -/
def typeOf : Value → Outcome (Option Ty)
  | .null => pure none
  | .text name => pure (some { name })
  | .object parts => some <$> Ty.ofParts parts (typeParts parts)
  | other => throw (.mistyped ("no type: " ++ other.kindName))
termination_by structural v => v

def typeParts : List (String × Value) → List (String × TypeParts)
  | [] => []
  | part :: rest => typePart part :: typeParts rest
termination_by structural parts => parts

def typePart : String × Value → String × TypeParts
  | (name, v) => (name, ⟨typeOf v, fieldTypes v⟩)
termination_by structural part => part

def fieldTypes : Value → Outcome (List (String × Option Ty))
  | .object fields => fieldTypesOf fields
  | other => throw (.noMember other.kindName "items")
termination_by structural v => v

def fieldTypesOf : List (String × Value) → Outcome (List (String × Option Ty))
  | [] => pure []
  | field :: rest => do
    let first ← fieldType field
    return first :: (← fieldTypesOf rest)
termination_by structural fields => fields

def fieldType : String × Value → Outcome (String × Option Ty)
  | (name, v) => do return (name, ← typeOf v)
termination_by structural field => field

end

end ContractLint.Program
