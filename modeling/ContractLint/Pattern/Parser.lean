import ContractLint.Document.Json.Reader
import ContractLint.Pattern.Basic

/-! # Reading patterns

The usual notation of regular expressions: classes, groups with and without numbers and names,
look-around of fixed width, back references, inline flags, and greedy, lazy and possessive
repetition. A text that is not well formed is no pattern. Each function has a supply of steps that
the length of the text bounds.
-/

namespace ContractLint.Pattern

/-- The switches under which a part of a pattern is read. -/
structure Flags where
  /-- Capital and small letters count as the same. -/
  ignoreCase : Bool
  /-- The line anchors also hold inside the text. -/
  multiline : Bool
  /-- The dot also stands for a line feed. -/
  dotAll : Bool
  /-- Blanks and comments in the pattern are skipped. -/
  verbose : Bool
deriving DecidableEq, Repr

/-- No switch is set. -/
def Flags.plain : Flags := ⟨false, false, false, false⟩

/-- Only the switch for letters is set. -/
def Flags.anyCase : Flags := ⟨true, false, false, false⟩

/-- What is known about the groups read so far. -/
structure Groups where
  next : Nat
  /-- The numbers of the groups that are not closed yet. -/
  unclosed : List Nat
  names : List (String × Nat)
  /-- The widths of closed groups, least and greatest. -/
  widths : List (Nat × Nat × Option Nat)

/-- The least and greatest width of one pattern after another. -/
def addWidths (a b : Nat × Option Nat) : Nat × Option Nat :=
  (a.1 + b.1, match a.2, b.2 with | some x, some y => some (x + y) | _, _ => none)

/-- The least and greatest width of one pattern or another. -/
def eitherWidth (a b : Nat × Option Nat) : Nat × Option Nat :=
  (min a.1 b.1, match a.2, b.2 with | some x, some y => some (max x y) | _, _ => none)

/-- The least and the greatest number of characters a pattern consumes. -/
def width (groups : List (Nat × Nat × Option Nat)) : Pattern → Nat × Option Nat
  | empty => (0, some 0)
  | char _ => (1, some 1)
  | any _ => (1, some 1)
  | anchor _ => (0, some 0)
  | seq first second => addWidths (width groups first) (width groups second)
  | alt first second => eitherWidth (width groups first) (width groups second)
  | rep body low high _ =>
    let (least, most) := width groups body
    (least * low, match most, high with
      | some m, some h => some (m * h)
      | some 0, none => some 0
      | _, _ => none)
  | group _ body => width groups body
  | again number _ => (groups.lookup number).getD (0, some 0)
  | ahead _ _ => (0, some 0)
  | behind _ _ _ => (0, some 0)
  | atomic body => width groups body
  | ifGroup _ yes no => eitherWidth (width groups yes) (width groups no)

/-- A part of a pattern, with what a repetition mark after it needs to know. -/
structure Part where
  body : Pattern
  repeatable : Bool

/-- One character, as written. -/
def literal (flags : Flags) (c : Char) : Pattern := char ⟨[.single c], false, flags.ignoreCase⟩

/-- A class with a name. -/
def categoryChar (kind : Category) (inside : Bool) : Pattern :=
  char ⟨[.category kind inside], false, false⟩

/-- The number of exactly `count` hexadecimal digits. -/
def hexDigits? : Nat → Nat → List Char → Option (Nat × List Char)
  | 0, value, cs => some (value, cs)
  | count + 1, value, c :: rest =>
    match Document.Json.hexValue? c with
    | some digit => hexDigits? count (value * 16 + digit) rest
    | none => none
  | _ + 1, _, [] => none

def isOctal (c : Char) : Bool := decide ('0' ≤ c ∧ c ≤ '7')

def octalValue (digits : List Char) : Nat :=
  digits.foldl (fun acc c => acc * 8 + (c.toNat - 48)) 0

/-- Escapes for single characters that are the same inside and outside a set. -/
def charEscape? (c : Char) (rest : List Char) : Option (Option (Char × List Char)) :=
  match c with
  | 'a' => some (some (Char.ofNat 7, rest))
  | 'f' => some (some (Char.ofNat 12, rest))
  | 'n' => some (some ('\n', rest))
  | 'r' => some (some ('\r', rest))
  | 't' => some (some ('\t', rest))
  | 'v' => some (some (Char.ofNat 11, rest))
  | '\\' => some (some ('\\', rest))
  | 'x' => some ((hexDigits? 2 0 rest).map fun (n, rest) => (Char.ofNat n, rest))
  | 'u' => some ((hexDigits? 4 0 rest).map fun (n, rest) => (Char.ofNat n, rest))
  | 'U' => some (match hexDigits? 8 0 rest with
    | some (n, rest) => if n < 0x110000 then some (Char.ofNat n, rest) else none
    | none => none)
  | _ => none

def categoryEscape? : Char → Option (Category × Bool)
  | 'd' => some (.digit, true)
  | 'D' => some (.digit, false)
  | 's' => some (.space, true)
  | 'S' => some (.space, false)
  | 'w' => some (.word, true)
  | 'W' => some (.word, false)
  | _ => none

def isAsciiLetter (c : Char) : Bool := c.isAlpha

/-- An escape inside a set, its backslash having been read. -/
def setEscape? : List Char → Option (SetItem × List Char)
  | [] => none
  | c :: rest =>
    match categoryEscape? c with
    | some (kind, inside) => some (.category kind inside, rest)
    | none =>
      if c = 'b' then some (.single (Char.ofNat 8), rest)
      else match charEscape? c rest with
        | some result => result.map fun (d, rest) => (.single d, rest)
        | none =>
          if isOctal c then
            let digits := (c :: rest).takeWhile isOctal |>.take 3
            let value := octalValue digits
            if 0o377 < value then none
            else some (.single (Char.ofNat value), (c :: rest).drop digits.length)
          else if c.isDigit || isAsciiLetter c then none
          else some (.single c, rest)

def setMember? : List Char → Option (SetItem × List Char)
  | '\\' :: rest => setEscape? rest
  | c :: rest => some (.single c, rest)
  | [] => none

/-- A member of a set, or a range of two members with a dash between them. A dash before the closing
bracket is a member of its own. -/
def setEntry? (cs : List Char) : Option (SetItem × List Char) :=
  match setMember? cs with
  | none => none
  | some (item, rest) =>
    match rest with
    | '-' :: ']' :: _ => some (item, rest)
    | '-' :: more =>
      match item, setMember? more with
      | .single low, some (.single high, rest) =>
        if high < low then none else some (.between low high, rest)
      | _, _ => none
    | _ => some (item, rest)

/-- The members of a set up to its closing bracket; `done` holds the earlier ones, last first, and
`first` says that a bracket would be a member. -/
def setItems? : Nat → Bool → List SetItem → List Char → Option (List SetItem × List Char)
  | 0, _, _, _ => none
  | steps + 1, first, done, cs =>
    match first, cs with
    | false, ']' :: rest => some (done.reverse, rest)
    | _, _ =>
      match setEntry? cs with
      | some (item, rest) => setItems? steps false (item :: done) rest
      | none => none

/-- A set of characters, its opening bracket having been read. -/
def set? (flags : Flags) (cs : List Char) : Option (Pattern × List Char) :=
  let (negated, cs) :=
    match cs with
    | '^' :: rest => (true, rest)
    | _ => (false, cs)
  (setItems? (cs.length + 1) true [] cs).map fun (items, rest) =>
    (char ⟨items, negated, flags.ignoreCase⟩, rest)

def reference? (flags : Flags) (groups : Groups) (number : Nat) : Option Pattern :=
  if number < groups.next && !groups.unclosed.contains number then
    some (again number flags.ignoreCase)
  else none

/-- An escape outside a set, its backslash having been read. -/
def escape? (flags : Flags) (groups : Groups) : List Char → Option (Part × List Char)
  | [] => none
  | c :: rest =>
    match categoryEscape? c with
    | some (kind, inside) => some (⟨categoryChar kind inside, true⟩, rest)
    | none =>
      match c with
      | 'A' => some (⟨anchor .textStart, false⟩, rest)
      | 'Z' => some (⟨anchor .textEnd, false⟩, rest)
      | 'b' => some (⟨anchor .wordBoundary, false⟩, rest)
      | 'B' => some (⟨anchor .insideWord, false⟩, rest)
      | '0' =>
        let digits := rest.takeWhile isOctal |>.take 2
        some (⟨literal flags (Char.ofNat (octalValue digits)), true⟩, rest.drop digits.length)
      | _ =>
        match charEscape? c rest with
        | some result => result.map fun (d, rest) => (⟨literal flags d, true⟩, rest)
        | none =>
          if c.isDigit then
            match rest with
            | d :: e :: more =>
              if isOctal c && isOctal d && isOctal e then
                let value := octalValue [c, d, e]
                if 0o377 < value then none
                else some (⟨literal flags (Char.ofNat value), true⟩, more)
              else numbered c rest
            | _ => numbered c rest
          else if isAsciiLetter c then none
          else some (⟨literal flags c, true⟩, rest)
where
  /-- A reference of one or two digits. -/
  numbered (c : Char) (rest : List Char) : Option (Part × List Char) :=
    let (number, rest) :=
      match rest with
      | d :: more =>
        if d.isDigit then ((c.toNat - 48) * 10 + (d.toNat - 48), more) else (c.toNat - 48, rest)
      | [] => (c.toNat - 48, rest)
    (reference? flags groups number).map fun body => (⟨body, true⟩, rest)

/-- The bounds between braces after a repetition mark; nothing when the braces are plain text. -/
def bounds? (cs : List Char) : Option (Nat × Option Nat × List Char) :=
  let low := cs.takeWhile Char.isDigit
  let rest := cs.drop low.length
  match rest with
  | '\x7d' :: rest =>
    if low.isEmpty then none
    else
      let n := Document.Json.digitsValue low
      some (n, some n, rest)
  | ',' :: rest =>
    let high := rest.takeWhile Char.isDigit
    match rest.drop high.length with
    | '\x7d' :: rest =>
      let top := if high.isEmpty then none else some (Document.Json.digitsValue high)
      some (Document.Json.digitsValue low, top, rest)
    | _ => none
  | _ => none

/-- A repetition mark at the front: its bounds and the rest. -/
def mark? (cs : List Char) : Option (Nat × Option Nat × List Char) :=
  match cs with
  | '*' :: rest => some (0, none, rest)
  | '+' :: rest => some (1, none, rest)
  | '?' :: rest => some (0, some 1, rest)
  | '\x7b' :: rest => bounds? rest
  | _ => none

def isNameChar (c : Char) : Bool := Text.isWord c

def name? (close : Char) (cs : List Char) : Option (String × List Char) :=
  let name := cs.takeWhile isNameChar
  match name, cs.drop name.length with
  | c :: _, d :: rest =>
    if d = close && !Text.isDigit c then some (String.ofList name, rest) else none
  | _, _ => none

/-- Sets or clears the switch that a letter stands for. -/
def Flags.switch? (flags : Flags) (on : Bool) : Char → Option Flags
  | 'i' => some { flags with ignoreCase := on }
  | 'm' => some { flags with multiline := on }
  | 's' => some { flags with dotAll := on }
  | 'x' => some { flags with verbose := on }
  | 'u' => if on then some flags else none
  | _ => none

def Flags.switchAll? (flags : Flags) (on : Bool) : List Char → Option Flags
  | [] => some flags
  | c :: rest =>
    match flags.switch? on c with
    | some flags => flags.switchAll? on rest
    | none => none

def skipVerbose : Nat → List Char → List Char
  | 0, cs => cs
  | _ + 1, [] => []
  | steps + 1, c :: rest =>
    if c = ' ' ∨ (9 ≤ c.toNat ∧ c.toNat ≤ 13) then skipVerbose steps rest
    else if c = '#' then skipVerbose steps (rest.dropWhile (· != '\n'))
    else c :: rest

mutual

/-- Alternatives up to a closing parenthesis or the end. -/
def alternatives? : Nat → Flags → Groups → List Char → Option (Pattern × Groups × List Char)
  | 0, _, _, _ => none
  | steps + 1, flags, groups, cs =>
    match sequence? steps flags groups [] cs with
    | none => none
    | some (first, groups, rest) =>
      match rest with
      | '|' :: rest =>
        match alternatives? steps flags groups rest with
        | some (second, groups, rest) => some (alt first second, groups, rest)
        | none => none
      | _ => some (first, groups, rest)

/-- A sequence of parts; `done` holds the earlier ones, last first. -/
def sequence? : Nat → Flags → Groups → List Part → List Char →
    Option (Pattern × Groups × List Char)
  | 0, _, _, _, _ => none
  | steps + 1, flags, groups, done, cs =>
    let cs := if flags.verbose then skipVerbose (cs.length + 1) cs else cs
    let finish (rest : List Char) : Option (Pattern × Groups × List Char) :=
      some (done.foldl (fun later part => match later with
        | empty => part.body
        | _ => seq part.body later) empty, groups, rest)
    match cs with
    | [] => finish []
    | '|' :: _ => finish cs
    | ')' :: _ => finish cs
    | '\\' :: rest =>
      match escape? flags groups rest with
      | some (part, rest) => sequence? steps flags groups (part :: done) rest
      | none => none
    | '[' :: rest =>
      match set? flags rest with
      | some (body, rest) => sequence? steps flags groups (⟨body, true⟩ :: done) rest
      | none => none
    | '.' :: rest => sequence? steps flags groups (⟨any flags.dotAll, true⟩ :: done) rest
    | '^' :: rest =>
      let place := if flags.multiline then .lineStart else .textStart
      sequence? steps flags groups (⟨anchor place, false⟩ :: done) rest
    | '$' :: rest =>
      let place := if flags.multiline then .lineEnd else .lastLineEnd
      sequence? steps flags groups (⟨anchor place, false⟩ :: done) rest
    | '(' :: rest => group? steps flags groups done rest
    | c :: rest =>
      match mark? cs with
      | some (low, high, rest) =>
        match done with
        | [] => none
        | part :: earlier =>
          if !part.repeatable || (match high with | some h => decide (h < low) | none => false) then
            none
          else
            let (greed, rest) : Greed × List Char :=
              match rest with
              | '?' :: more => (.lazy, more)
              | '+' :: more => (.possessive, more)
              | _ => (.greedy, rest)
            sequence? steps flags groups (⟨rep part.body low high greed, false⟩ :: earlier) rest
      | none =>
        if c = '*' || c = '+' || c = '?' then none
        else sequence? steps flags groups (⟨literal flags c, true⟩ :: done) rest

/-- A group, its opening parenthesis having been read, and the parts after it. -/
def group? : Nat → Flags → Groups → List Part → List Char →
    Option (Pattern × Groups × List Char)
  | 0, _, _, _, _ => none
  | steps + 1, flags, groups, done, cs =>
    match cs with
    | '?' :: ':' :: rest => body? steps flags flags groups done rest (fun _ body => some body)
    | '?' :: '>' :: rest =>
      body? steps flags flags groups done rest (fun _ body => some (atomic body))
    | '?' :: '=' :: rest =>
      body? steps flags flags groups done rest (fun _ body => some (ahead true body))
    | '?' :: '!' :: rest =>
      body? steps flags flags groups done rest (fun _ body => some (ahead false body))
    | '?' :: '<' :: '=' :: rest => body? steps flags flags groups done rest (lookBehind true)
    | '?' :: '<' :: '!' :: rest => body? steps flags flags groups done rest (lookBehind false)
    | '?' :: '#' :: rest =>
      match rest.dropWhile (· != ')') with
      | _ :: rest => sequence? steps flags groups done rest
      | [] => none
    | '?' :: 'P' :: '<' :: rest =>
      match name? '>' rest with
      | some (name, rest) =>
        if (groups.names.lookup name).isSome then none
        else
          let number := groups.next
          capture? steps flags
            { groups with next := number + 1, unclosed := number :: groups.unclosed,
                          names := (name, number) :: groups.names } number done rest
      | none => none
    | '?' :: 'P' :: '=' :: rest =>
      match name? ')' rest with
      | some (name, rest) =>
        match (groups.names.lookup name).bind (reference? flags groups) with
        | some body => sequence? steps flags groups (⟨body, true⟩ :: done) rest
        | none => none
      | none => none
    | '?' :: '(' :: rest => conditional? steps flags groups done rest
    | '?' :: rest =>
      let on := rest.takeWhile Char.isAlpha
      let rest := rest.drop on.length
      match rest with
      | ':' :: rest =>
        match flags.switchAll? true on with
        | some inner => body? steps flags inner groups done rest (fun _ body => some body)
        | none => none
      | '-' :: rest =>
        let off := rest.takeWhile Char.isAlpha
        match rest.drop off.length with
        | ':' :: rest =>
          if off.isEmpty || on.any off.contains then none
          else match (flags.switchAll? true on).bind (·.switchAll? false off) with
            | some inner => body? steps flags inner groups done rest (fun _ body => some body)
            | none => none
        | _ => none
      | _ => none
    | _ =>
      let number := groups.next
      capture? steps flags
        { groups with next := number + 1, unclosed := number :: groups.unclosed } number done cs

def capture? : Nat → Flags → Groups → Nat → List Part → List Char →
    Option (Pattern × Groups × List Char)
  | 0, _, _, _, _, _ => none
  | steps + 1, flags, groups, number, done, cs =>
    match alternatives? steps flags groups cs with
    | some (body, groups, ')' :: rest) =>
      let groups :=
        { groups with
          unclosed := groups.unclosed.erase number,
          widths := (number, width groups.widths body) :: groups.widths }
      sequence? steps flags groups (⟨group number body, true⟩ :: done) rest
    | _ => none

/-- A group without a number; `build` makes its pattern from its body. -/
def body? : Nat → Flags → Flags → Groups → List Part → List Char →
    (Groups → Pattern → Option Pattern) → Option (Pattern × Groups × List Char)
  | 0, _, _, _, _, _, _ => none
  | steps + 1, flags, inner, groups, done, cs, build =>
    match alternatives? steps inner groups cs with
    | some (body, groups, ')' :: rest) =>
      match build groups body with
      | some whole => sequence? steps flags groups (⟨whole, true⟩ :: done) rest
      | none => none
    | _ => none

/-- A choice by whether a group has matched, its condition being next. -/
def conditional? : Nat → Flags → Groups → List Part → List Char →
    Option (Pattern × Groups × List Char)
  | 0, _, _, _, _ => none
  | steps + 1, flags, groups, done, cs =>
    let key := cs.takeWhile (· != ')')
    let number? : Option Nat :=
      if key.isEmpty then none
      else if key.all Char.isDigit then
        let n := Document.Json.digitsValue key
        if n = 0 then none else some n
      else groups.names.lookup (String.ofList key)
    match number?, cs.drop key.length with
    | some number, _ :: rest =>
      if groups.next ≤ number then none
      else match sequence? steps flags groups [] rest with
        | some (yes, groups, '|' :: rest) =>
          match sequence? steps flags groups [] rest with
          | some (no, groups, ')' :: rest) =>
            sequence? steps flags groups (⟨ifGroup number yes no, true⟩ :: done) rest
          | _ => none
        | some (yes, groups, ')' :: rest) =>
          sequence? steps flags groups (⟨ifGroup number yes empty, true⟩ :: done) rest
        | _ => none
    | _, _ => none

/-- A look behind, whose body must have one width only. -/
def lookBehind (positive : Bool) (groups : Groups) (body : Pattern) : Option Pattern :=
  match width groups.widths body with
  | (least, some most) => if least = most then some (behind positive least body) else none
  | _ => none

end

/-- Switches for the whole pattern in front of it, and the rest. -/
def globalFlags? : Nat → Flags → List Char → Option (Flags × List Char)
  | 0, flags, cs => some (flags, cs)
  | steps + 1, flags, cs =>
    match cs with
    | '(' :: '?' :: rest =>
      let on := rest.takeWhile Char.isAlpha
      match on, rest.drop on.length with
      | _ :: _, ')' :: more =>
        match flags.switchAll? true on with
        | some flags => globalFlags? steps flags more
        | none => none
      | _, _ => some (flags, cs)
    | _ => some (flags, cs)

/-- The pattern that characters write under the given switches, if it is well formed. -/
def parseChars? (flags : Flags) (cs : List Char) : Option Pattern :=
  match globalFlags? (cs.length + 1) flags cs with
  | none => none
  | some (flags, cs) =>
    match alternatives? (8 * cs.length + 16) flags ⟨1, [], [], []⟩ cs with
    | some (pattern, _, []) => some pattern
    | _ => none

/-- The pattern that a text writes under the given switches, if it is well formed. -/
def parse? (flags : Flags) (s : String) : Option Pattern := parseChars? flags s.toList

def nothing : Pattern := char ⟨[], false, false⟩

/-- The pattern that a text writes; a text that is not well formed matches nothing. -/
def ofText (flags : Flags) (s : String) : Pattern := (parse? flags s).getD nothing

end ContractLint.Pattern
