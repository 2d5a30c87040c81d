import ContractLint.Pattern.Basic

/-! # Matching

A pattern runs at a place of a text and hands each way of matching, the preferred one first, to
the rest of the match, until the rest succeeds. `search?` finds the leftmost match of a text and
`findAll` all matches that do not overlap, from left to right.
-/

namespace ContractLint.Pattern

/-- A place in a text with the texts remembered so far. -/
structure Place where
  /-- The characters before the place, nearest first. -/
  before : List Char
  after : List Char
  /-- The number of characters before the place. -/
  position : Nat
  /-- The remembered texts, latest first. -/
  groups : List (Nat × List Char)

namespace Place

/-- The beginning of a text. -/
def start (cs : List Char) : Place := ⟨[], cs, 0, []⟩

/-- The next place, when a character follows that passes a test. -/
def step? (place : Place) (test : Char → Bool) : Option Place :=
  match place.after with
  | c :: rest =>
    if test c then
      some { place with
        before := c :: place.before, after := rest, position := place.position + 1 }
    else none
  | [] => none

/-- The place after these characters, when they follow. -/
def advance? (place : Place) (ignoreCase : Bool) : List Char → Option Place
  | [] => some place
  | c :: rest =>
    match place.step? (fun d => if ignoreCase then Text.sameLetter c d else c == d) with
    | some next => next.advance? ignoreCase rest
    | none => none

/-- The place `count` characters earlier. -/
def back? (place : Place) : Nat → Option Place
  | 0 => some place
  | count + 1 =>
    match place.before with
    | c :: rest =>
      Place.back? { place with
        before := rest, after := c :: place.after, position := place.position - 1 } count
    | [] => none

def wordBefore (place : Place) : Bool :=
  match place.before with
  | c :: _ => Text.isWord c
  | [] => false

def wordAfter (place : Place) : Bool :=
  match place.after with
  | c :: _ => Text.isWord c
  | [] => false

end Place

def Anchor.holds : Anchor → Place → Bool
  | textStart, place => place.before.isEmpty
  | textEnd, place => place.after.isEmpty
  | lastLineEnd, place => place.after.isEmpty || place.after == ['\n']
  | lineStart, place => place.before.isEmpty || place.before.head? == some '\n'
  | lineEnd, place => place.after.isEmpty || place.after.head? == some '\n'
  | wordBoundary, place => place.wordBefore != place.wordAfter
  | insideWord, place => place.wordBefore == place.wordAfter

/-- The rest of a match: it accepts a place or sends the search back. -/
abbrev Rest := Place → Option Place

/-- Rounds of a step, as many as possible, then the rest. A round beyond the required ones must
consume something. The first argument bounds the number of rounds. -/
def greedyRounds (step : Place → Rest → Option Place) :
    Nat → Nat → Option Nat → Place → Rest → Option Place
  | 0, low, _, place, rest => if low = 0 then rest place else none
  | rounds + 1, low, high, place, rest =>
    if high = some 0 then rest place
    else if 0 < low then
      step place fun next => greedyRounds step rounds (low - 1) (high.map (· - 1)) next rest
    else
      match step place fun next =>
          if next.position = place.position then none
          else greedyRounds step rounds 0 (high.map (· - 1)) next rest with
      | some last => some last
      | none => rest place

/-- Rounds of a step, as few as possible, then the rest. -/
def lazyRounds (step : Place → Rest → Option Place) :
    Nat → Nat → Option Nat → Place → Rest → Option Place
  | 0, low, _, place, rest => if low = 0 then rest place else none
  | rounds + 1, low, high, place, rest =>
    if high = some 0 then rest place
    else if 0 < low then
      step place fun next => lazyRounds step rounds (low - 1) (high.map (· - 1)) next rest
    else
      match rest place with
      | some last => some last
      | none =>
        step place fun next =>
          if next.position = place.position then none
          else lazyRounds step rounds 0 (high.map (· - 1)) next rest

/-- The characters between an earlier place and a later one, when `count` of them stand before
the later one. -/
def lastChars (place : Place) (count : Nat) : List Char := (place.before.take count).reverse

def run : Pattern → Place → Rest → Option Place
  | empty, place, rest => rest place
  | char test, place, rest =>
    match place.step? test.holds with
    | some next => rest next
    | none => none
  | any newlines, place, rest =>
    match place.step? (fun c => newlines || c != '\n') with
    | some next => rest next
    | none => none
  | anchor spot, place, rest => if spot.holds place then rest place else none
  | seq first second, place, rest => first.run place fun next => second.run next rest
  | alt first second, place, rest =>
    match first.run place rest with
    | some last => some last
    | none => second.run place rest
  | rep body low high greed, place, rest =>
    let bound := low + place.after.length + 1
    match greed with
    | .greedy => greedyRounds (fun next rest => body.run next rest) bound low high place rest
    | .lazy => lazyRounds (fun next rest => body.run next rest) bound low high place rest
    | .possessive =>
      match greedyRounds (fun next rest => body.run next rest) bound low high place some with
      | some next => rest next
      | none => none
  | group number body, place, rest =>
    body.run place fun next =>
      let text := lastChars next (next.position - place.position)
      rest { next with groups := (number, text) :: next.groups }
  | again number ignoreCase, place, rest =>
    match place.groups.lookup number with
    | some cs =>
      match place.advance? ignoreCase cs with
      | some next => rest next
      | none => none
    | none => none
  | ahead positive body, place, rest =>
    match body.run place some with
    | some next => if positive then rest { place with groups := next.groups } else none
    | none => if positive then none else rest place
  | behind positive width body, place, rest =>
    match (place.back? width).bind fun earlier => body.run earlier some with
    | some next => if positive then rest { place with groups := next.groups } else none
    | none => if positive then none else rest place
  | atomic body, place, rest =>
    match body.run place some with
    | some next => rest next
    | none => none
  | ifGroup number yes no, place, rest =>
    if (place.groups.lookup number).isSome then yes.run place rest else no.run place rest

/-- A match: where it starts and ends, and the texts of its groups. -/
structure Found where
  /-- The number of characters before the match. -/
  start : Nat
  /-- The number of characters up to its end. -/
  stop : Nat
  chars : List Char
  /-- The texts of the groups, latest first. -/
  groups : List (Nat × List Char)

/-- The place where a match that starts exactly at a place ends. When `advance` is set, the match
must not be empty. -/
def endFrom? (pattern : Pattern) (advance : Bool) (place : Place) : Option Place :=
  pattern.run place fun last =>
    if advance && last.position == place.position then none else some last

def Found.between (first last : Place) : Found :=
  ⟨first.position, last.position, lastChars last (last.position - first.position), last.groups⟩

/-- The first match that starts after the characters `before`, nearest first, or later, and the
place where it ends. When `advance` is set, a match at the very first place must not be empty. -/
def searchFrom? (pattern : Pattern) (advance : Bool) (before : List Char) (position : Nat) :
    List Char → Option (Found × Place)
  | [] =>
    let place : Place := ⟨before, [], position, []⟩
    (pattern.endFrom? advance place).map fun last => (.between place last, last)
  | c :: rest =>
    let place : Place := ⟨before, c :: rest, position, []⟩
    match pattern.endFrom? advance place with
    | some last => some (.between place last, last)
    | none => searchFrom? pattern false (c :: before) (position + 1) rest

/-- The leftmost match in a text. -/
def search? (pattern : Pattern) (s : String) : Option Found :=
  (searchFrom? pattern false [] 0 s.toList).map (·.1)

def occurs (pattern : Pattern) (s : String) : Bool := (pattern.search? s).isSome

/-- The matches from a place on; the first argument bounds their number. -/
def findFrom (pattern : Pattern) : Nat → Bool → Place → List Found
  | 0, _, _ => []
  | limit + 1, advance, place =>
    match searchFrom? pattern advance place.before place.position place.after with
    | some (found, last) => found :: findFrom pattern limit (found.start == found.stop) last
    | none => []

/-- All matches in a text that do not overlap, from left to right. -/
def findAll (pattern : Pattern) (s : String) : List Found :=
  let cs := s.toList
  findFrom pattern (2 * cs.length + 2) false (.start cs)

end ContractLint.Pattern
