import ContractLint.Fault

/-! # Points in time

A date and a time of day, with or without an offset from universal time. The written form is the
one of ISO 8601; reading also accepts the compact form, dates by week, and fractions of a second.
-/

namespace ContractLint

structure Timestamp where
  year : Nat
  /-- The month, from one. -/
  month : Nat
  /-- The day of the month, from one. -/
  day : Nat
  hour : Nat
  minute : Nat
  second : Nat
  micros : Nat
  /-- The distance from universal time in millionths of a second. -/
  offset : Option Int
deriving DecidableEq, Repr, Inhabited

namespace Timestamp

def padded (width n : Nat) : String :=
  let digits := Nat.toDigits 10 n
  String.ofList (List.replicate (width - digits.length) '0' ++ digits)

def offsetText (offset : Int) : String :=
  let size := offset.natAbs
  let micros := size % 1000000
  let seconds := size / 1000000
  let minutes := (if offset < 0 then "-" else "+") ++ padded 2 (seconds / 3600) ++ ":"
    ++ padded 2 (seconds / 60 % 60)
  let tail := if micros ≠ 0 then "." ++ padded 6 micros else ""
  if micros ≠ 0 ∨ seconds % 60 ≠ 0 then minutes ++ ":" ++ padded 2 (seconds % 60) ++ tail
  else minutes

def clockText (t : Timestamp) : String :=
  padded 2 t.hour ++ ":" ++ padded 2 t.minute ++ ":" ++ padded 2 t.second

def dayText (t : Timestamp) : String :=
  padded 4 t.year ++ "-" ++ padded 2 t.month ++ "-" ++ padded 2 t.day

def text (t : Timestamp) : String :=
  t.dayText ++ "T" ++ t.clockText
    ++ (if t.micros ≠ 0 then "." ++ padded 6 t.micros else "")
    ++ (match t.offset with | some offset => offsetText offset | none => "")

def isLeap (year : Nat) : Bool := year % 4 == 0 && (year % 100 != 0 || year % 400 == 0)

def daysInMonth (year month : Nat) : Nat :=
  match month with
  | 2 => if isLeap year then 29 else 28
  | 4 | 6 | 9 | 11 => 30
  | _ => 31

/-- The number of days before a year, counted from the year one. -/
def daysBeforeYear (year : Nat) : Int :=
  let y : Int := (year : Int) - 1
  y * 365 + Int.fdiv y 4 - Int.fdiv y 100 + Int.fdiv y 400

/-- The weekday of the first of January, Monday being zero. -/
def firstWeekday (year : Nat) : Nat := (Int.fmod (daysBeforeYear year) 7).toNat

/-- The month and the day of a day of a year, counted from zero, from a month on. -/
def monthAndDay (year : Nat) (days : Nat) : Nat → Nat → Nat × Nat
  | 0, month => (month, days + 1)
  | more + 1, month =>
    let length := daysInMonth year month
    if days < length then (month, days + 1)
    else monthAndDay year (days - length) more (month + 1)

def ofWeek? (year week weekday : Nat) : Option (Nat × Nat × Nat) :=
  let first := firstWeekday year
  let long := first == 3 || (first == 2 && isLeap year)
  if week = 0 ∨ 53 < week ∨ (week = 53 ∧ !long) ∨ weekday = 0 ∨ 7 < weekday then none
  else
    let monday : Int := if 3 < first then 7 - (first : Int) else -(first : Int)
    let day : Int := monday + ((week : Int) - 1) * 7 + weekday - 1
    let length := if isLeap year then 366 else 365
    if day < 0 then
      let previous := year - 1
      let size := if isLeap previous then 366 else 365
      let (month, d) := monthAndDay previous ((size : Int) + day).toNat 11 1
      some (previous, month, d)
    else if length ≤ day.toNat then
      let (month, d) := monthAndDay (year + 1) (day.toNat - length) 11 1
      some (year + 1, month, d)
    else
      let (month, d) := monthAndDay year day.toNat 11 1
      some (year, month, d)

/-- The number of exactly `count` digits at the front, and the rest. -/
def digits? (count : Nat) (cs : List Char) : Option (Nat × List Char) :=
  let front := cs.take count
  if front.length = count && front.all Char.isDigit then
    some (front.foldl (fun n c => n * 10 + (c.toNat - 48)) 0, cs.drop count)
  else none

/-- The number of characters of the date at the front of a written time. -/
def dateLength (cs : List Char) : Option Nat :=
  let size := cs.length
  let charAt (i : Nat) : Char := cs.getD i '?'
  if size = 7 then some 7
  else if charAt 4 = '-' then
    if charAt 5 = 'W' then
      if 8 < size ∧ charAt 8 = '-' then
        if size = 9 then none
        else if 10 < size && (charAt 10).isDigit then some 8
        else some 10
      else some 8
    else some 10
  else if charAt 4 = 'W' then
    let last := 7 + ((cs.drop 7).takeWhile Char.isDigit).length
    if last < 9 then some last else some (if last % 2 = 0 then 7 else 8)
  else some 8

def date? (cs : List Char) : Option (Nat × Nat × Nat) := do
  let (year, rest) ← digits? 4 cs
  let separated := rest.head? == some '-'
  let rest := if separated then rest.drop 1 else rest
  if rest.head? == some 'W' then
    let (week, rest) ← digits? 2 (rest.drop 1)
    if rest.isEmpty then ofWeek? year week 1
    else
      if separated && rest.head? != some '-' then none
      else
        let (weekday, _) ← digits? 1 (if separated then rest.drop 1 else rest)
        ofWeek? year week weekday
  else
    let (month, rest) ← digits? 2 rest
    if separated && rest.head? != some '-' then none
    else
      let (day, _) ← digits? 2 (if separated then rest.drop 1 else rest)
      some (year, month, day)

/-- A time of day, or an offset: hours, minutes, seconds and millionths. -/
structure Clock where
  /-- Hours, minutes and seconds, as far as they are written. -/
  parts : List Nat
  micros : Nat

/-- The fraction of a second written at the front; the flag says that something follows it. -/
def fraction? (parts : List Nat) (cs : List Char) : Option (Clock × Bool) := do
  let size := min 6 cs.length
  let (value, rest) ← digits? size cs
  some (⟨parts, value * Nat.pow 10 (6 - size)⟩, !(rest.dropWhile Char.isDigit).isEmpty)

/-- Hours, minutes, seconds and a fraction, of which the earlier parts are given; the flag says
that something follows. -/
def clockFrom? (separated : Bool) (parts : List Nat) : Nat → List Char → Option (Clock × Bool)
  | 0, cs => fraction? parts cs
  | more + 1, cs => do
    let (value, rest) ← digits? 2 cs
    let parts := parts ++ [value]
    match rest with
    | [] => some (⟨parts, 0⟩, false)
    | [_] => some (⟨parts, 0⟩, true)
    | c :: tail =>
      let separated := if parts.length = 1 then c == ':' else separated
      if separated && c == ':' then clockFrom? separated parts more tail
      else if c = '.' ∨ c = ',' then fraction? parts tail
      else if !separated then clockFrom? separated parts more rest
      else none

def timeOfDay? (cs : List Char) : Option (Clock × Option Int) :=
  let isZone (c : Char) : Bool := c == '+' || c == '-' || c == 'Z'
  let front := cs.takeWhile fun c => !isZone c
  let rest := cs.drop front.length
  match clockFrom? true [] 3 front with
  | none => none
  | some (clock, more) =>
    match rest with
    | [] => if more then none else some (clock, none)
    | 'Z' :: tail => if tail.isEmpty then some (clock, some 0) else none
    | sign :: tail =>
      match clockFrom? true [] 3 tail with
      | some (zone, false) =>
        let seconds := zone.parts.getD 0 0 * 3600 + zone.parts.getD 1 0 * 60 + zone.parts.getD 2 0
        let size : Int := if seconds = 0 then 0 else seconds * 1000000 + zone.micros
        some (clock, some (if sign = '-' then -size else size))
      | _ => none

def checked (t : Timestamp) : Outcome Timestamp :=
  if t.year = 0 ∨ 9999 < t.year then
    throw (.invalid ("year " ++ Number.digitsText t.year ++ " is out of range"))
  else if t.month = 0 ∨ 12 < t.month then throw (.invalid "month must be in 1..12")
  else if t.day = 0 ∨ daysInMonth t.year t.month < t.day then
    throw (.invalid "day is out of range for month")
  else if 23 < t.hour then throw (.invalid "hour must be in 0..23")
  else if 59 < t.minute then throw (.invalid "minute must be in 0..59")
  else if 59 < t.second then throw (.invalid "second must be in 0..59")
  else pure t

/-- A length of time in words: days, seconds and millionths, of which only the days may be
negative. -/
def lengthText (micros : Int) : String :=
  let days := Int.fdiv micros 86400000000
  let seconds := Int.fdiv (Int.fmod micros 86400000000) 1000000
  let rest := Int.fmod micros 1000000
  let part (name : String) (n : Int) : List String :=
    if n = 0 then [] else [name ++ "=" ++ Number.intText n]
  let parts := part "days" days ++ part "seconds" seconds ++ part "microseconds" rest
  "datetime.timedelta(" ++ (if parts.isEmpty then "0" else String.intercalate ", " parts) ++ ")"

def checkOffset (offset : Int) : Outcome Unit :=
  if offset.natAbs < 86400000000 then pure ()
  else throw (.invalid ("offset must be a timedelta strictly between -timedelta(hours=24) and "
    ++ "timedelta(hours=24), not " ++ lengthText offset ++ "."))

def parse (s : String) : Outcome Timestamp :=
  let cs := s.toList
  let unreadable : Fault := .invalid ("Invalid isoformat string: " ++ Text.quoted s)
  if cs.length < 7 then throw unreadable
  else match dateLength cs with
    | none => throw unreadable
    | some size =>
      match date? (cs.take size) with
      | none => throw unreadable
      | some (year, month, day) =>
        if cs.length ≤ size then checked ⟨year, month, day, 0, 0, 0, 0, none⟩
        else match timeOfDay? (cs.drop (size + 1)) with
          | none => throw unreadable
          | some (clock, offset) => do
            offset.forM checkOffset
            checked ⟨year, month, day, clock.parts.getD 0 0, clock.parts.getD 1 0,
              clock.parts.getD 2 0, clock.micros, offset⟩

end Timestamp

end ContractLint
