import ContractLint.Document.Codec
import ContractLint.Path
import ContractLint.Text.Utf8

/-! # Files

A tree of files below a working directory. A file holds a text, bytes, or a number of letters.
-/

namespace ContractLint

instance : OfValue Path := ⟨fun v => Path.ofText <$> v.read⟩

instance : ToValue Path := ⟨fun p => .text p.text⟩

/-- What a file holds. -/
inductive Content where
  | text (s : String)
  | bytes (list : List Nat)
  | letters (letter : Char) (count : Nat)

namespace Content

/-- The number of bytes. -/
def size : Content → Nat
  | text s => s.utf8ByteSize
  | bytes list => list.length
  | letters letter count => letter.utf8Size * count

def decode : Content → Outcome String
  | text s => pure s
  | letters letter count => pure (String.ofList (List.replicate count letter))
  | bytes list =>
    match Text.Utf8.decode list with
    | .ok s => pure s
    | .error failure => throw (.undecodable failure.message)

/-- Line ends of all three kinds become line feeds. -/
def plainLines : List Char → List Char
  | [] => []
  | '\r' :: '\n' :: rest => '\n' :: plainLines rest
  | '\r' :: rest => '\n' :: plainLines rest
  | c :: rest => c :: plainLines rest

def read (content : Content) : Outcome String := do
  return String.ofList (plainLines (← content.decode).toList)

/-- The described content; a number asks for that many of a letter. -/
def ofValue (letter : Char) : Value → Outcome Content
  | .text s => pure (text s)
  | .int n => pure (letters letter n.toNat)
  | v => do return bytes ((← v.read : List Int).map Int.toNat)

end Content

/-- Files by the names on the way to them from the working directory. -/
structure Files where
  entries : List (List String × Content) := []

namespace Files

def ofFields (fields : List (String × Value)) : Outcome Files := do
  return ⟨← fields.mapM fun (name, content) =>
    return ((Path.ofText name).names, ← Content.ofValue 'x' content)⟩

/-- The directories above a place and the place itself, except for the working directory. -/
def waysTo (names : List String) : List (List String) :=
  (List.range names.length).map fun i => names.take (i + 1)

def places (files : Files) : List (List String) :=
  (files.entries.flatMap fun (names, _) => waysTo names).eraseDups

def fileAt? (files : Files) (place : List String) : Option Content := files.entries.lookup place

def hasDirectory (files : Files) (place : List String) : Bool :=
  place.isEmpty || (files.places.contains place && (files.fileAt? place).isNone)

def hasPlace (files : Files) (place : List String) : Bool :=
  place.isEmpty || files.places.contains place

/-- The place that names lead to, step by step from a directory. -/
def walk (files : Files) (place : List String) : List String → Option (List String)
  | [] => some place
  | name :: rest =>
    if !files.hasDirectory place then none
    else if name = ".." then
      if place.isEmpty then none else files.walk place.dropLast rest
    else if files.hasPlace (place ++ [name]) then files.walk (place ++ [name]) rest
    else none

/-- The place of a path, if there is something there. -/
def locate (files : Files) (p : Path) : Option (List String) :=
  if p.root = "" then files.walk [] p.names else none

def file? (files : Files) (p : Path) : Option Content :=
  (files.locate p).bind files.fileAt?

def isDirectory (files : Files) (p : Path) : Bool :=
  match files.locate p with
  | some place => files.hasDirectory place
  | none => false

def contains (files : Files) (p : Path) : Bool := (files.locate p).isSome

/-- The path without steps upwards; each of them takes back the name before it. -/
def resolve (p : Path) : Path where
  root := p.root
  names := p.names.foldl
    (fun names name => if name = ".." then names.dropLast else names ++ [name]) []

/-- The places below a directory, all of them or only those directly in it, whose names fit a
pattern, as paths that start with the path of the directory. -/
def search (files : Files) (directory : Path) (deep : Bool) (pattern : String) : List Path :=
  match files.locate directory with
  | none => []
  | some place =>
    files.places.filterMap fun found =>
      let below := found.drop place.length
      if place.isPrefixOf found && 0 < below.length && (deep || below.length = 1)
          && Text.Glob.accepts pattern (below.getLast?.getD "") then
        some { directory with names := directory.names ++ below }
      else none

def read (files : Files) (p : Path) : Outcome String :=
  match files.file? p with
  | some content => content.read
  | none =>
    if files.contains p then
      throw (.isDirectory ("[Errno 21] Is a directory: " ++ Text.quoted p.text))
    else throw (.absent ("[Errno 2] No such file or directory: " ++ Text.quoted p.text))

def isBlocked (files : Files) (p : Path) : Bool :=
  (waysTo p.names.dropLast).any fun names => (files.file? { p with names }).isSome

/-- Puts a text into a file, which is created if it is not there. The file is `shown` in
complaints. -/
def write (files : Files) (p : Path) (shown text : String) : Outcome Files :=
  match p.names.getLast?, files.locate { p with names := p.names.dropLast } with
  | some name, some place =>
    if files.isBlocked p then
      throw (.notDirectory ("[Errno 20] Not a directory: " ++ Text.quoted shown))
    else if name = ".." || files.hasDirectory (place ++ [name]) then
      throw (.isDirectory ("[Errno 21] Is a directory: " ++ Text.quoted shown))
    else
      let others := files.entries.filter fun entry => entry.1 ≠ place ++ [name]
      return ⟨others ++ [(place ++ [name], .text text)]⟩
  | none, _ => throw (.isDirectory ("[Errno 21] Is a directory: " ++ Text.quoted shown))
  | _, none =>
    if files.isBlocked p then
      throw (.notDirectory ("[Errno 20] Not a directory: " ++ Text.quoted shown))
    else throw (.absent ("[Errno 2] No such file or directory: " ++ Text.quoted shown))

/-- Puts a text into a file and creates the directories on the way to it. -/
def writeDeep (files : Files) (p : Path) (text : String) : Outcome Files :=
  let parent : Path := { p with names := p.names.dropLast }
  if (files.file? parent).isSome then
    throw (.alreadyExists ("[Errno 17] File exists: " ++ Text.quoted parent.text))
  else if files.isBlocked parent then
    throw (.notDirectory ("[Errno 20] Not a directory: " ++ Text.quoted parent.text))
  else if files.contains parent || p.names.contains ".." then files.write p p.text text
  else return ⟨files.entries ++ [(p.names, .text text)]⟩

/-- The number of bytes at a place; directories have a fixed one. -/
def sizeOf (files : Files) (p : Path) : Nat :=
  match files.file? p with
  | some content => content.size
  | none => 4096

end Files

end ContractLint
