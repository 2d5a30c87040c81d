import ContractLint.Document.Yaml.Node

/-! # Reading YAML

The value that a document denotes. A scalar without quotes stands for what its text says, unless
its type is told; a mapping takes over the pairs of the mappings under its merge key.
-/

namespace ContractLint.Document.Yaml

def keyOf : Value → String
  | .text s => s
  | .null => "null"
  | .bool flag => if flag then "true" else "false"
  | v => v.display

def noValue {α : Type} (context : Option (String × Mark)) (text : String) (mark : Mark) : Except Problem α :=
  throw ⟨.values, context.map (·.1), context.map (·.2), text, mark⟩

/-- The types that come with the format, with the text in front of their names. -/
def standardType (name : String) : String := "tag:yaml.org,2002:" ++ name

def unknownType {α : Type} (type : String) (start : Mark) : Except Problem α :=
  noValue none ("could not determine a constructor for the tag " ++ Text.quoted type) start

def checkType (name : String) (start : Mark) : Option String → Except Problem Unit
  | none => pure ()
  | some type =>
    if type = "!" || type = standardType name then pure () else unknownType type start

def scalarValue (type : Option String) (start : Mark) (text : String) (plain : Bool) : Except Problem Value :=
  let resolved : Except Problem Value :=
    if text = "=" then unknownType (standardType "value") start else pure (resolve text)
  match type with
  | none => if plain then resolved else pure (.text text)
  | some type =>
    if type = "!" then resolved
    else if type = standardType "str" then pure (.text text)
    else if type = standardType "null" then pure .null
    else if type = standardType "float" then
      match resolve text with
      | .int n => pure (.real (Float.ofInt n))
      | v => pure v
    else if type = standardType "int" || type = standardType "bool" then pure (resolve text)
    else unknownType type start

/-- The pairs of a mapping: those of merged mappings come first. -/
def mergedPairs : Nat → Mark → List (Node × Node) → Except Problem (List (Node × Node))
  | 0, _, pairs => pure pairs
  | steps + 1, start, pairs => do
    let context := some ("while constructing a mapping", start)
    let refused (what : String) (node : Node) : Except Problem (List (Node × Node)) :=
      noValue context (s!"expected {what} for merging, but found " ++ node.kind) node.start
    let parts ← pairs.mapM fun (key, value) =>
      match key with
      | .scalar none _ "<<" true =>
        match value with
        | .mapping _ inner pairs => return (← mergedPairs steps inner pairs, [])
        | .sequence _ _ items => do
          let groups ← items.mapM fun item =>
            match item with
            | .mapping _ inner pairs => mergedPairs steps inner pairs
            | other => refused "a mapping" other
          return (groups.reverse.flatten, [])
        | other => return (← refused "a mapping or list of mappings" other, [])
      | _ => return ([], [(key, value)])
    return (parts.map (·.1)).flatten ++ (parts.map (·.2)).flatten

/-- The value of a node; the number of steps bounds its depth. -/
def Node.value : Nat → Node → Except Problem Value
  | 0, _ => pure .null
  | _ + 1, .scalar type start text plain => scalarValue type start text plain
  | steps + 1, .sequence type start items => do
    checkType "seq" start type
    return .list (← items.mapM (Node.value steps))
  | steps + 1, .mapping type start pairs => do
    checkType "map" start type
    let pairs ← mergedPairs steps start pairs
    let fields ← pairs.foldlM (fun fields (key, value) => do
      let name ← match ← key.value steps with
        | .list _ | .object _ =>
          noValue (some ("while constructing a mapping", start)) "found unhashable key" key.start
        | v => pure (keyOf v)
      return Entries.put fields name (← value.value steps)) []
    return .object fields

def isAllowed (c : Char) : Bool :=
  c = '\t' || c = '\n' || c = '\r' || (' ' ≤ c && c ≤ '~') || c.toNat = 0x85
    || (0xa0 ≤ c.toNat && c.toNat ≤ 0xd7ff) || (0xe000 ≤ c.toNat && c.toNat ≤ 0xfffd)
    || 0x10000 ≤ c.toNat

/-- The failure of a text with a character that may not stand there. -/
def notAllowed (name : String) (position : Nat) (c : Char) : Fault :=
  let digits := Nat.toDigits 16 c.toNat
  let code := String.ofList (List.replicate (4 - digits.length) '0' ++ digits)
  let place := Number.digitsText position
  .malformed .characters
    (s!"unacceptable character #x{code}: special characters are not allowed\n"
      ++ s!"  in \"{name}\", position {place}")

/-- The document in a text; failures tell the name of its file. -/
def parse (name s : String) : Outcome Value := do
  let cs := s.toList
  if let some c := cs.find? (!isAllowed ·) then
    throw (notAllowed name (cs.takeWhile isAllowed).length c)
  let (tokens, ending) := Token.scan cs
  match (Node.ofTokens tokens ending) with
  | .error problem => throw (problem.fault name)
  | .ok none => return .null
  | .ok (some node) => (node.value (4 * tokens.length + 8)).mapError (Problem.fault name)

end ContractLint.Document.Yaml
