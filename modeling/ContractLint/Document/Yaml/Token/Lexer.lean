import ContractLint.Document.Yaml.Token
import ContractLint.Document.Yaml.Token.Text

/-! # From characters to tokens

Indentation becomes tokens that start and end blocks. A mapping needs no token in front of a key:
each place where a key may start is remembered until its line ends, and the colon that follows puts
the token there.
-/

namespace ContractLint.Document.Yaml

structure KeyPlace where
  depth : Nat
  number : Nat
  /-- Nothing else may stand there. -/
  required : Bool
  /-- The number of characters before it. -/
  index : Nat
  mark : Mark

/-- The state of reading tokens. -/
structure Lexer where
  /-- The place that has been reached. -/
  cursor : Cursor
  tokens : Array Token := #[]
  depth : Nat := 0
  indent : Int := -1
  /-- The indentations of the blocks around it. -/
  outer : List Int := []
  keyAllowed : Bool := true
  places : List KeyPlace := []
  /-- The text has been read. -/
  finished : Bool := false

namespace Lexer

/-- The place that has been reached. -/
def mark (lexer : Lexer) : Mark := lexer.cursor.toMark

/-- The place is inside of brackets or braces. -/
def inFlow (lexer : Lexer) : Bool := lexer.depth != 0

def emit (lexer : Lexer) (kind : TokenKind) : Lexer :=
  { lexer with tokens := lexer.tokens.push ⟨kind, lexer.mark⟩ }

def insert (lexer : Lexer) (place : KeyPlace) (kind : TokenKind) : Lexer :=
  let before := lexer.tokens.extract 0 place.number
  let after := lexer.tokens.extract place.number lexer.tokens.size
  { lexer with tokens := before.push ⟨kind, place.mark⟩ ++ after }

/-- The place after some characters. -/
def skip (lexer : Lexer) (count : Nat) : Lexer :=
  { lexer with cursor := lexer.cursor.skip count }

/-- The failure of a token that may not stand at the place. -/
def misplaced {α : Type} (lexer : Lexer) (text : String) : Except Problem α :=
  throw ⟨.tokens, none, none, text, lexer.mark⟩

/-- Forgets the places of a kind; one that had to be a key is a problem. -/
def forget (lexer : Lexer) (p : KeyPlace → Bool) : Except Problem Lexer := do
  match lexer.places.find? fun place => p place && place.required with
  | some place =>
    lexer.cursor.fail "while scanning a simple key" place.mark "could not find expected ':'"
  | none => return { lexer with places := lexer.places.filter fun place => !p place }

def forgetHere (lexer : Lexer) : Except Problem Lexer :=
  lexer.forget (·.depth = lexer.depth)

/-- Forgets the places that are too far behind: a key ends on its line, within a number of
characters. -/
def forgetStale (lexer : Lexer) : Except Problem Lexer :=
  lexer.forget fun place =>
    place.mark.line != lexer.cursor.line || lexer.cursor.index - place.index > 1024

def remember (lexer : Lexer) : Except Problem Lexer := do
  if !lexer.keyAllowed then return lexer
  let lexer ← lexer.forgetHere
  let required := !lexer.inFlow && lexer.indent = lexer.cursor.column
  let place : KeyPlace :=
    ⟨lexer.depth, lexer.tokens.size, required, lexer.cursor.index, lexer.mark⟩
  return { lexer with places := lexer.places ++ [place] }

/-- The number of blocks that are indented further than a column, and the blocks around them. -/
def blocksBeyond (column indent : Int) : List Int → Nat × Int × List Int
  | [] => (0, indent, [])
  | around :: outer =>
    if indent > column then
      let (count, rest) := blocksBeyond column around outer
      (count + 1, rest)
    else (0, indent, around :: outer)

/-- Ends the blocks that are indented further than a column. -/
def unwind (lexer : Lexer) (column : Int) : Lexer :=
  if lexer.inFlow then lexer
  else
    let (count, indent, outer) := blocksBeyond column lexer.indent lexer.outer
    Nat.repeat (emit · .blockEnd) count { lexer with indent, outer }

/-- Starts a block at a column, if that is further than the one around it. -/
def deepen (lexer : Lexer) (column : Nat) : Option Lexer :=
  if lexer.indent < column then
    some { lexer with indent := column, outer := lexer.indent :: lexer.outer }
  else none

/-- The first place of a token from here on. Outside of brackets and braces a key may start on
every line. -/
def approach : Nat → Lexer → Lexer
  | 0, lexer => lexer
  | steps + 1, lexer =>
    let cursor := lexer.cursor.skipWhile (· = ' ')
    let cursor :=
      if cursor.peek = some '#' then cursor.skipWhile fun c => !endsLine c else cursor
    match cursor.lineBreak with
    | ([], _) => { lexer with cursor }
    | (_, after) =>
      approach steps
        { lexer with cursor := after, keyAllowed := lexer.keyAllowed || !lexer.inFlow }

/-! ## Names of nodes and types -/

def isNameChar (c : Char) : Bool := c.isAlphanum || c = '-' || c = '_'

/-- The name of a node, whose indicator stands at the place. -/
def nodeName (what : String) (cursor : Cursor) : Except Problem (String × Cursor) := do
  let start := cursor.toMark
  let cursor := cursor.next
  let name := cursor.run isNameChar
  let after := cursor.skip name.length
  let ends := after.separated 0 || (after.peek.map "?:,]\x7d%@`".toList.contains).getD true
  if name.isEmpty || !ends then
    after.fail ("while scanning an " ++ what) start
      ("expected alphabetic or numeric character, but found " ++ after.shown)
  return (String.ofList name, after)

def typeName (start : Mark) (cursor : Cursor) : Except Problem (String × Cursor) := do
  let name := cursor.run fun c =>
    c.isAlphanum || "-;/?:@&=+$,_.!~*'()[]%".toList.contains c
  if name.isEmpty then
    cursor.fail "while parsing a tag" start ("expected URI, but found " ++ cursor.shown)
  return (String.ofList name, cursor.skip name.length)

def typeHandle (start : Mark) (cursor : Cursor) : Except Problem (String × Cursor) := do
  if (cursor.rest.drop 1).takeWhile (fun c => c != ' ' && !endsLine c) |>.contains '!' then
    let name := (cursor.rest.drop 1).takeWhile isNameChar
    let after := cursor.skip (name.length + 1)
    if after.peek != some '!' then
      after.fail "while scanning a tag" start ("expected '!', but found " ++ after.shown)
    return ("!" ++ String.ofList name ++ "!", after.next)
  else return ("!", cursor.next)

/-- The type of a node, whose indicator stands at the place. -/
def typeTag (cursor : Cursor) : Except Problem (TokenKind × Cursor) := do
  let start := cursor.toMark
  let (kind, after) ←
    if cursor.peekAt 1 = some '<' then do
      let (name, after) ← typeName start (cursor.skip 2)
      if after.peek != some '>' then
        after.fail "while parsing a tag" start ("expected '>', but found " ++ after.shown)
      pure (TokenKind.tag none name, after.next)
    else if cursor.separated 1 then pure (.tag none "!", cursor.next)
    else do
      let (handle, after) ← typeHandle start cursor
      let (name, after) ← typeName start after
      pure (.tag (some handle) name, after)
  unless after.atLineEnd || after.peek = some ' ' do
    after.fail "while scanning a tag" start ("expected ' ', but found " ++ after.shown)
  return (kind, after)

/-! ## Tokens -/

/-- Ends all blocks before a token that stands outside of them. -/
def leaveBlocks (lexer : Lexer) : Except Problem Lexer := do
  let lexer ← (lexer.unwind (-1)).forgetHere
  return { lexer with keyAllowed := false }

def endText (lexer : Lexer) : Except Problem Lexer := do
  let lexer ← lexer.leaveBlocks
  return { lexer.emit .streamEnd with places := [], finished := true }

/-- A line for the reader. -/
def directive (lexer : Lexer) : Except Problem Lexer := do
  let lexer ← lexer.leaveBlocks
  let lexer := lexer.emit .directive
  return { lexer with cursor := lexer.cursor.skipWhile fun c => !endsLine c }

/-- The start or the end of a document. -/
def marker (kind : TokenKind) (lexer : Lexer) : Except Problem Lexer := do
  let lexer ← lexer.leaveBlocks
  return (lexer.emit kind).skip 3

def openFlow (kind : TokenKind) (lexer : Lexer) : Except Problem Lexer := do
  let lexer ← lexer.remember
  return ({ lexer with depth := lexer.depth + 1, keyAllowed := true }.emit kind).skip 1

def closeFlow (kind : TokenKind) (lexer : Lexer) : Except Problem Lexer := do
  let lexer ← lexer.forgetHere
  return ({ lexer with depth := lexer.depth - 1, keyAllowed := false }.emit kind).skip 1

/-- A comma. -/
def flowEntry (lexer : Lexer) : Except Problem Lexer := do
  let lexer ← { lexer with keyAllowed := true }.forgetHere
  return (lexer.emit .flowEntry).skip 1

/-- Starts a block at the place, if it needs one; outside of brackets and braces a block may only
start where a key may. -/
def startBlock (kind : TokenKind) (refusal : String) (lexer : Lexer) : Except Problem Lexer := do
  if lexer.inFlow then return lexer
  if !lexer.keyAllowed then lexer.misplaced refusal
  return ((lexer.deepen lexer.cursor.column).map (emit · kind)).getD lexer

/-- A hyphen in front of an item. -/
def blockEntry (lexer : Lexer) : Except Problem Lexer := do
  let lexer ← lexer.startBlock .blockSequenceStart "sequence entries are not allowed here"
  let lexer ← { lexer with keyAllowed := true }.forgetHere
  return (lexer.emit .blockEntry).skip 1

def key (lexer : Lexer) : Except Problem Lexer := do
  let lexer ← lexer.startBlock .blockMappingStart "mapping keys are not allowed here"
  let lexer ← { lexer with keyAllowed := !lexer.inFlow }.forgetHere
  return (lexer.emit .key).skip 1

/-- A colon in front of a value: what stands at the remembered place is its key. -/
def value (lexer : Lexer) : Except Problem Lexer := do
  match lexer.places.find? (·.depth = lexer.depth) with
  | some place =>
    let lexer := { lexer with places := lexer.places.filter (·.depth != lexer.depth) }
    let lexer := lexer.insert place .key
    let lexer :=
      if lexer.inFlow then lexer
      else ((lexer.deepen place.mark.column).map (insert · place .blockMappingStart)).getD lexer
    return ({ lexer with keyAllowed := false }.emit .value).skip 1
  | none =>
    let lexer ← lexer.startBlock .blockMappingStart "mapping values are not allowed here"
    let lexer ← { lexer with keyAllowed := !lexer.inFlow }.forgetHere
    return (lexer.emit .value).skip 1

/-- A token that may be a key, or come in front of one. -/
def keyLike (read : Cursor → Except Problem (TokenKind × Cursor)) (lexer : Lexer) : Except Problem Lexer := do
  let lexer ← lexer.remember
  let (kind, cursor) ← read lexer.cursor
  return { lexer.emit kind with cursor, keyAllowed := false }

def quoted (double : Bool) (cursor : Cursor) : Except Problem (TokenKind × Cursor) := do
  let (text, after) ←
    cursor.next.quotedText double cursor.toMark (cursor.rest.length + 1)
  return (.scalar (String.ofList text) false, after)

/-- A scalar without quotes. -/
def plain (lexer : Lexer) : Except Problem Lexer := do
  let lexer ← lexer.remember
  let (text, ended, cursor) :=
    lexer.cursor.plainText lexer.inFlow (lexer.indent + 1) [] false (lexer.cursor.rest.length + 1)
  return { lexer.emit (.scalar (String.ofList text) true) with cursor, keyAllowed := ended }

def block (folded : Bool) (lexer : Lexer) : Except Problem Lexer := do
  let lexer ← { lexer with keyAllowed := true }.forgetHere
  let (text, cursor) ← lexer.cursor.next.blockText folded lexer.indent lexer.mark
  return { lexer.emit (.scalar (String.ofList text) false) with cursor }

/-- A scalar without quotes may start with a character. -/
def startsPlain (lexer : Lexer) (c : Char) : Bool :=
  !("-?:,[]\x7b\x7d#&*!|>'\"%@`".toList.contains c || lexer.cursor.separated 0)
    || (!lexer.cursor.separated 1
      && (c = '-' || (!lexer.inFlow && (c = '?' || c = ':'))))

def token (lexer : Lexer) (c : Char) : Except Problem Lexer :=
  let first := lexer.cursor.column = 0
  let followed := lexer.cursor.separated 1
  if first && c = '%' then lexer.directive
  else if first && lexer.cursor.atMarker then
    lexer.marker (if c = '-' then .documentStart else .documentEnd)
  else if c = '[' then lexer.openFlow .flowSequenceStart
  else if c = '\x7b' then lexer.openFlow .flowMappingStart
  else if c = ']' then lexer.closeFlow .flowSequenceEnd
  else if c = '\x7d' then lexer.closeFlow .flowMappingEnd
  else if c = ',' then lexer.flowEntry
  else if c = '-' && followed then lexer.blockEntry
  else if c = '?' && (lexer.inFlow || followed) then lexer.key
  else if c = ':' && (lexer.inFlow || followed) then lexer.value
  else if c = '*' then
    lexer.keyLike fun cursor => do
      let (name, after) ← nodeName "alias" cursor
      return (.reference name, after)
  else if c = '&' then
    lexer.keyLike fun cursor => do
      let (name, after) ← nodeName "anchor" cursor
      return (.anchor name, after)
  else if c = '!' then lexer.keyLike typeTag
  else if c = '|' && !lexer.inFlow then lexer.block false
  else if c = '>' && !lexer.inFlow then lexer.block true
  else if c = '\'' then lexer.keyLike (quoted false)
  else if c = '"' then lexer.keyLike (quoted true)
  else if lexer.startsPlain c then lexer.plain
  else
    throw ⟨.tokens, some "while scanning for the next token", none,
      "found character " ++ lexer.cursor.shown ++ " that cannot start any token", lexer.mark⟩

/-- Reads on by one token, with the tokens of the blocks that end or start there. -/
def advance (lexer : Lexer) : Except Problem Lexer := do
  let lexer ← (approach (lexer.cursor.rest.length + 1) lexer).forgetStale
  let lexer := lexer.unwind lexer.cursor.column
  match lexer.cursor.peek with
  | none => lexer.endText
  | some c => lexer.token c

/-- The tokens that can be told apart from keys for sure. -/
def settled (lexer : Lexer) : List Token :=
  let count := (lexer.places.map (·.number)).foldl min lexer.tokens.size
  (lexer.tokens.extract 0 count).toList

/-- Reads all tokens; a problem comes after those that are settled by then. -/
def run : Nat → Lexer → List Token × Option Problem
  | 0, lexer => (lexer.settled, none)
  | steps + 1, lexer =>
    if lexer.finished then (lexer.tokens.toList, none)
    else
      match lexer.advance with
      | .ok lexer => run steps lexer
      | .error problem => (lexer.settled, some problem)

end Lexer

/-- The tokens of a text, and the problem that follows them, if any. A byte order mark in front
does not count. -/
def Token.scan (cs : List Char) : List Token × Option Problem :=
  let cursor := Cursor.start cs
  let cursor := if (cs.head?.map Char.toNat) = some 0xfeff then cursor.next else cursor
  Lexer.run (cs.length + 2) { cursor }

end ContractLint.Document.Yaml
