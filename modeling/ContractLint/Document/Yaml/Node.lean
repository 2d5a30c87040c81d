import ContractLint.Document.Yaml.Token.Lexer

/-! # Nodes of a YAML document

A document is a tree of scalars, sequences and mappings. A node may have a name, by which later
places refer to it, and a type.
-/

namespace ContractLint.Document.Yaml

inductive Node where
  /-- A text, and whether it stands without quotes. -/
  | scalar (type : Option String) (start : Mark) (text : String) (plain : Bool)
  | sequence (type : Option String) (start : Mark) (items : List Node)
  | mapping (type : Option String) (start : Mark) (pairs : List (Node × Node))
deriving Inhabited

namespace Node

def start : Node → Mark
  | scalar _ start _ _ => start
  | sequence _ start _ => start
  | mapping _ start _ => start

def kind : Node → String
  | scalar .. => "scalar"
  | sequence .. => "sequence"
  | mapping .. => "mapping"

def empty (start : Mark) : Node := .scalar none start "" true

end Node

/-! ## Reading tokens -/

/-- The tokens to be read and the names of the nodes read so far. -/
structure Feed where
  tokens : List Token
  ending : Option Problem
  names : List (String × Node) := []

/-- Reading of tokens. -/
abbrev Composing := StateT Feed (Except Problem)

namespace Composing

def peek : Composing Token := do
  let feed ← get
  match feed.tokens, feed.ending with
  | token :: _, _ => return token
  | [], some problem => throw problem
  | [], none => return default

def peekKind : Composing TokenKind := return (← peek).kind

def pass : Composing Unit := modify fun feed => { feed with tokens := feed.tokens.drop 1 }

def accept (kind : TokenKind) : Composing Bool := do
  if (← peekKind) = kind then
    pass
    return true
  else return false

def sees (kinds : List TokenKind) : Composing Bool := return kinds.contains (← peekKind)

def fail {α : Type} (context : Option String) (start : Option Mark) (expectation : String) : Composing α := do
  let token ← peek
  throw ⟨.nesting, context, start, s!"{expectation} " ++ Text.quoted token.kind.label, token.start⟩

def unknown {α : Type} (text : String) (mark : Mark) : Composing α :=
  throw ⟨.references, none, none, text, mark⟩

/-- The name and the type in front of a node, in any order. -/
def properties : Composing (Option (String × Mark) × Option (Option String × String × Mark)) := do
  match ← peek with
  | ⟨.anchor name, mark⟩ =>
    pass
    match ← peek with
    | ⟨.tag handle suffix, place⟩ =>
      pass
      return (some (name, mark), some (handle, suffix, place))
    | _ => return (some (name, mark), none)
  | ⟨.tag handle suffix, place⟩ =>
    pass
    match ← peek with
    | ⟨.anchor name, mark⟩ =>
      pass
      return (some (name, mark), some (handle, suffix, place))
    | _ => return (none, some (handle, suffix, place))
  | _ => return (none, none)

def handles : List (String × String) := [("!", "!"), ("!!", "tag:yaml.org,2002:")]

def fullType (start : Mark) : Option String × String × Mark → Composing String
  | (none, suffix, _) => return suffix
  | (some handle, suffix, mark) =>
    match handles.lookup handle with
    | some front => return front ++ suffix
    | none =>
      throw ⟨.nesting, some "while parsing a node", some start,
        "found undefined tag handle " ++ Text.quoted handle, mark⟩

def keep (name : Option (String × Mark)) (node : Node) : Composing Node := do
  if let some (name, _) := name then
    modify fun feed => { feed with names := feed.names ++ [(name, node)] }
  return node

def checkName (start : Mark) : Option (String × Mark) → Composing Unit
  | none => return
  | some (name, _) => do
    if let some first := (← get).names.lookup name then
      let shown := Text.quoted name
      throw ⟨.references, some s!"found duplicate anchor {shown}; first occurrence",
        some first.start, "second occurrence", start⟩

mutual

/-- A node. In a block it may be a block itself, and as the value of a key also a sequence that is
not indented further. -/
def node (block indentless : Bool) : Nat → Composing Node
  | 0 => fail none none "expected the node content, but found"
  | steps + 1 => do
    let token ← peek
    if let .reference name := token.kind then
      pass
      match (← get).names.lookup name with
      | some node => return node
      | none => unknown ("found undefined alias " ++ Text.quoted name) token.start
    else
    let (name, tag) ← properties
    let start := token.start
    let type ← tag.mapM (fullType start)
    let next ← peek
    match next.kind with
    | .blockEntry =>
      if indentless then
        checkName start name
        keep name (.sequence type start (← indentlessItems steps))
      else bare block start name type
    | .scalar text plain =>
      pass
      checkName start name
      keep name (.scalar type start text plain)
    | .flowSequenceStart =>
      pass
      checkName start name
      keep name (.sequence type start (← flowItems next.start true steps))
    | .flowMappingStart =>
      pass
      checkName start name
      keep name (.mapping type start (← flowPairs next.start true steps))
    | .blockSequenceStart =>
      if block then
        pass
        checkName start name
        keep name (.sequence type start (← blockItems next.start steps))
      else bare block start name type
    | .blockMappingStart =>
      if block then
        pass
        checkName start name
        keep name (.mapping type start (← blockPairs next.start steps))
      else bare block start name type
    | _ => bare block start name type

/-- A node without content, which only a name or a type allows. -/
def bare (block : Bool) (start : Mark) (name : Option (String × Mark)) (type : Option String) : Composing Node := do
  if name.isSome || type.isSome then
    checkName start name
    keep name (.scalar type start "" type.isNone)
  else
    let kind := if block then "block" else "flow"
    fail (some s!"while parsing a {kind} node") (some start) "expected the node content, but found"

/-- A node, or nothing if a token of one of the kinds follows. -/
def nodeUnless (block indentless : Bool) (kinds : List TokenKind) : Nat → Composing Node
  | 0 => return .empty (← peek).start
  | steps + 1 => do
    if ← sees kinds then return .empty (← peek).start else node block indentless steps

def blockItems (start : Mark) : Nat → Composing (List Node)
  | 0 => return []
  | steps + 1 => do
    if ← accept .blockEntry then
      let item ← nodeUnless true false [.blockEntry, .blockEnd] steps
      return item :: (← blockItems start steps)
    else if ← accept .blockEnd then return []
    else
      fail (some "while parsing a block collection") (some start) "expected <block end>, but found"

/-- The items of a sequence that is not indented further than the mapping around it. -/
def indentlessItems : Nat → Composing (List Node)
  | 0 => return []
  | steps + 1 => do
    if ← accept .blockEntry then
      let item ← nodeUnless true false [.blockEntry, .key, .value, .blockEnd] steps
      return item :: (← indentlessItems steps)
    else return []

def blockPairs (start : Mark) : Nat → Composing (List (Node × Node))
  | 0 => return []
  | steps + 1 => do
    if ← accept .key then
      let key ← nodeUnless true true [.key, .value, .blockEnd] steps
      let value ← valueUnless true [.key, .value, .blockEnd] steps
      return (key, value) :: (← blockPairs start steps)
    else if ← accept .blockEnd then return []
    else
      fail (some "while parsing a block mapping") (some start) "expected <block end>, but found"

/-- The value of a key, or nothing if it has none. -/
def valueUnless (block : Bool) (kinds : List TokenKind) : Nat → Composing Node
  | 0 => return .empty (← peek).start
  | steps + 1 => do
    if ← accept .value then nodeUnless block block kinds steps
    else return Node.empty (← peek).start

/-- The items of a sequence between brackets. An item may be a pair, which counts as a mapping. -/
def flowItems (start : Mark) (first : Bool) : Nat → Composing (List Node)
  | 0 => return []
  | steps + 1 => do
    if ← accept .flowSequenceEnd then return []
    if !first then
      if !(← accept .flowEntry) then
        fail (some "while parsing a flow sequence") (some start) "expected ',' or ']', but got"
    let place := (← peek).start
    if ← accept .key then
      let key ← nodeUnless false false [.value, .flowEntry, .flowSequenceEnd] steps
      let value ← valueUnless false [.flowEntry, .flowSequenceEnd] steps
      return .mapping none place [(key, value)] :: (← flowItems start false steps)
    else if ← accept .flowSequenceEnd then return []
    else
      let item ← node false false steps
      return item :: (← flowItems start false steps)

/-- The pairs of a mapping between braces. A key may stand alone. -/
def flowPairs (start : Mark) (first : Bool) : Nat → Composing (List (Node × Node))
  | 0 => return []
  | steps + 1 => do
    if ← accept .flowMappingEnd then return []
    if !first then
      if !(← accept .flowEntry) then
        fail (some "while parsing a flow mapping") (some start) "expected ',' or '\x7d', but got"
    if ← accept .key then
      let key ← nodeUnless false false [.value, .flowEntry, .flowMappingEnd] steps
      let value ← valueUnless false [.flowEntry, .flowMappingEnd] steps
      return (key, value) :: (← flowPairs start false steps)
    else if ← accept .flowMappingEnd then return []
    else
      let key ← node false false steps
      let value := Node.empty (← peek).start
      return (key, value) :: (← flowPairs start false steps)

end

def passAll (kind : TokenKind) : Nat → Composing Unit
  | 0 => return
  | steps + 1 => do if ← accept kind then passAll kind steps

def explicitStart (steps : Nat) : Composing Unit := do
  passAll .directive steps
  if !(← accept .documentStart) then fail none none "expected '<document start>', but found"

/-- The only document of a text, or nothing if there is none. -/
def document (steps : Nat) : Composing (Option Node) := do
  passAll .documentEnd steps
  if ← sees [.streamEnd] then return none
  let root ←
    if ← sees [.directive, .documentStart] then do
      explicitStart steps
      nodeUnless true false [.directive, .documentStart, .documentEnd, .streamEnd] steps
    else node true false steps
  passAll .documentEnd steps
  if ← sees [.streamEnd] then return some root
  let next := (← peek).start
  explicitStart steps
  throw ⟨.references, some "expected a single document in the stream", some root.start,
    "but found another document", next⟩

end Composing

/-- The document that tokens denote, or nothing if there is none. -/
def Node.ofTokens (tokens : List Token) (ending : Option Problem) : Except Problem (Option Node) :=
  (Composing.document (4 * tokens.length + 8)).run' { tokens, ending }

end ContractLint.Document.Yaml
