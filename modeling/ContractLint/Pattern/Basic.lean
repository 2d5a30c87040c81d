import ContractLint.Text.Case
import ContractLint.Text.Digit
import ContractLint.Text.Word

/-! # Search patterns

The abstract form of regular expressions with captures, look-around and back references, and the
test of a single character.
-/

namespace ContractLint.Pattern

/-- A class of characters with a name of its own. -/
inductive Category where
  | digit
  | space
  | word
deriving DecidableEq, Repr

def Category.holds : Category → Char → Bool
  | digit, c => Text.isDigit c
  | space, c => Text.isBlank c
  | word, c => Text.isWord c

inductive SetItem where
  | single (c : Char)
  | between (low high : Char)
  | category (kind : Category) (inside : Bool)
deriving DecidableEq, Repr

def foldedBetween (low high c : Char) : Bool :=
  (Text.letterForms c).any fun d => decide (low ≤ d ∧ d ≤ high)

def SetItem.holds (ignoreCase : Bool) : SetItem → Char → Bool
  | single d, c => if ignoreCase then Text.sameLetter d c else d == c
  | between low high, c =>
    if ignoreCase then foldedBetween low high c else decide (low ≤ c ∧ c ≤ high)
  | category kind inside, c => kind.holds c == inside

structure CharTest where
  items : List SetItem
  /-- The set is meant to be left out. -/
  negated : Bool
  /-- Capital and small letters count as the same. -/
  ignoreCase : Bool
deriving DecidableEq, Repr

def CharTest.holds (test : CharTest) (c : Char) : Bool :=
  test.items.any (fun item => item.holds test.ignoreCase c) != test.negated

/-- A place in the text that a pattern may require. -/
inductive Anchor where
  /-- The very beginning. -/
  | textStart
  | textEnd
  /-- The end, or just before a line feed that is the last character. -/
  | lastLineEnd
  /-- The beginning, or just after a line feed. -/
  | lineStart
  /-- The end, or just before a line feed. -/
  | lineEnd
  /-- Between a word character and another one or an end of the text. -/
  | wordBoundary
  /-- Anywhere else. -/
  | insideWord
deriving DecidableEq, Repr

/-- How eagerly a repetition takes further rounds. -/
inductive Greed where
  /-- As many rounds as possible, giving back when the rest fails. -/
  | greedy
  /-- As few rounds as possible. -/
  | lazy
  /-- As many rounds as possible, never giving back. -/
  | possessive
deriving DecidableEq, Repr

end ContractLint.Pattern

namespace ContractLint

/-- A regular expression. -/
inductive Pattern where
  | empty
  | char (test : Pattern.CharTest)
  /-- Any character; without `newlines` no line feed. -/
  | any (newlines : Bool)
  /-- A place, without a character. -/
  | anchor (place : Pattern.Anchor)
  /-- One after the other. -/
  | seq (first second : Pattern)
  | alt (first second : Pattern)
  /-- Repetition from `low` times on, up to `high` times if there is a limit. -/
  | rep (body : Pattern) (low : Nat) (high : Option Nat) (greed : Pattern.Greed)
  /-- A part whose text is remembered under a number. -/
  | group (number : Nat) (body : Pattern)
  /-- The text remembered under a number, once more. -/
  | again (number : Nat) (ignoreCase : Bool)
  /-- What follows here matches, or does not, without being consumed. -/
  | ahead (positive : Bool) (body : Pattern)
  /-- What precedes here, `width` characters of it, matches or does not. -/
  | behind (positive : Bool) (width : Nat) (body : Pattern)
  /-- The body, with its first way of matching only. -/
  | atomic (body : Pattern)
  /-- One of two patterns, by whether a group has matched. -/
  | ifGroup (number : Nat) (yes no : Pattern)
deriving Repr

end ContractLint
