import ContractLint.Entries
import ContractLint.Number.Shortest
import ContractLint.Text.Quoted

/-! # Document values

The values that configuration files, syntax trees, tool outputs and reports are made of. Objects
keep their fields in the order in which they were first written, and integers and doubles are kept
apart, because both show in reports.
-/

namespace ContractLint

/-- A document: a scalar, a list, or an object with named fields. -/
inductive Value where
  | null
  | bool (flag : Bool)
  | int (n : Int)
  | real (x : Float)
  | text (s : String)
  | list (items : List Value)
  | object (fields : List (String × Value))
deriving Inhabited, BEq, Repr

namespace Value

/-- The name of the kind of a value, as error messages show it. -/
def kindName : Value → String
  | null => "NoneType"
  | bool _ => "bool"
  | int _ => "int"
  | real _ => "float"
  | text _ => "str"
  | list _ => "list"
  | object _ => "dict"

/-- The value counts as present: everything but null, false, zero and what is empty. -/
def truthy : Value → Bool
  | null => false
  | bool flag => flag
  | int n => n != 0
  | real x => x != 0
  | text s => s != ""
  | list items => !items.isEmpty
  | object fields => !fields.isEmpty

mutual

/-- The text of a value as it is written inside a larger value. -/
def literal : Value → String
  | null => "None"
  | bool flag => if flag then "True" else "False"
  | int n => Number.intText n
  | real x => Number.floatText x
  | text s => Text.quoted s
  | list items => "[" ++ String.intercalate ", " (literalItems items) ++ "]"
  | object fields => "\x7b" ++ String.intercalate ", " (literalFields fields) ++ "\x7d"
termination_by structural v => v

def literalItems : List Value → List String
  | [] => []
  | v :: rest => literal v :: literalItems rest
termination_by structural items => items

def literalFields : List (String × Value) → List String
  | [] => []
  | (key, v) :: rest => (Text.quoted key ++ ": " ++ literal v) :: literalFields rest
termination_by structural fields => fields

end

/-- The text of a value on its own: a text as it is, anything else as inside a larger value. -/
def display : Value → String
  | text s => s
  | v => v.literal

/-- The number a value stands for in comparisons; the truth values are one and zero. -/
def asNumber? : Value → Option (Int ⊕ Float)
  | bool flag => some (.inl (if flag then 1 else 0))
  | int n => some (.inl n)
  | real x => some (.inr x)
  | _ => none

/-- Numbers are equal when they denote the same quantity. -/
def sameNumber : Int ⊕ Float → Int ⊕ Float → Bool
  | .inl a, .inl b => a == b
  | .inl a, .inr b => Number.equalsInt b a
  | .inr a, .inl b => Number.equalsInt a b
  | .inr a, .inr b => a == b

mutual

/-- Two values are equal: numbers by quantity, lists item by item, objects field by field in any
order. -/
def same : Value → Value → Bool
  | null, null => true
  | text a, text b => a == b
  | list a, list b => sameItems a b
  | object a, object b => a.length == b.length && sameFields a b
  | a, b =>
    match a.asNumber?, b.asNumber? with
    | some x, some y => sameNumber x y
    | _, _ => false
termination_by structural a => a

def sameItems : List Value → List Value → Bool
  | [], [] => true
  | a :: as, b :: bs => same a b && sameItems as bs
  | _, _ => false
termination_by structural a => a

/-- Every field has an equal one of the same name in the other object. -/
def sameFields : List (String × Value) → List (String × Value) → Bool
  | [], _ => true
  | (key, a) :: rest, others =>
    (match others.lookup key with
      | some b => same a b
      | none => false) && sameFields rest others
termination_by structural a => a

end

def isText (v : Value) (s : String) : Bool :=
  match v with
  | text t => t == s
  | _ => false

def isOneOf (v : Value) (names : List String) : Bool :=
  match v with
  | text t => names.contains t
  | _ => false

def isObject : Value → Bool
  | object _ => true
  | _ => false

/-- The object with one entry per field, later values replacing earlier ones in place. -/
def ofEntries (entries : List (String × Value)) : Value :=
  object (entries.foldl (fun fields entry => Entries.put fields entry.1 entry.2) [])

def ofText? : Option String → Value
  | some s => text s
  | none => null

def ofInt? : Option Int → Value
  | some n => int n
  | none => null

def ofTexts (texts : List String) : Value := list (texts.map text)

end Value

end ContractLint
