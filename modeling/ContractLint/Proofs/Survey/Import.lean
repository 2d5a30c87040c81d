import ContractLint.Proofs.Text.Numeral
import ContractLint.Proofs.Text.Split
import ContractLint.Survey.Go

/-! # Imports of a Go file

A file of import declarations and other lines is written line by line (`Item.lines`). Reading it back gives the
imported paths in order (`imports_joinLines`): what is found in the lines of a declaration does not depend on what
follows, and after it no block of imports is open (`importsIn_lines`).
-/

namespace ContractLint

open List

variable {c : Char} {before : List Char}

namespace Text

private theorem stripFront_append (blank : ∀ c ∈ before, isBlank c) (rest : List Char) :
    stripFront (before ++ rest) = stripFront rest := dropWhile_append_of_pos blank

private theorem stripFront_cons (visible : isBlank c = false) (rest : List Char) :
    stripFront (c :: rest) = c :: rest := dropWhile_cons_of_neg (by simp [visible])

private theorem stripList_subset (cs : List Char) : stripList cs ⊆ cs := by
  intro c member
  have front := (dropWhile_sublist _).subset (mem_reverse.mp member)
  exact (dropWhile_sublist _).subset (mem_reverse.mp front)

/-- Blanks around a text are dropped, and nothing else if it neither starts nor ends with one. -/
theorem strip_between {before text after : String} (blank : ∀ c ∈ before.toList ++ after.toList, isBlank c)
    {d : Char} (first : text.toList.head? = some c) (start : isBlank c = false)
    (last : text.toList.getLast? = some d) (stop : isBlank d = false) : strip (before ++ text ++ after) = text := by
  obtain ⟨front, back⟩ := forall_mem_append.mp blank
  obtain ⟨cs, first⟩ := head?_eq_some_iff.mp first
  obtain ⟨ds, last⟩ := getLast?_eq_some_iff.mp last
  have kept : stripFront (text.toList ++ after.toList) = text.toList ++ after.toList := by
    rw [first, cons_append, stripFront_cons start]
  have rest : stripFront (after.toList.reverse ++ text.toList.reverse) = text.toList.reverse := by
    rw [stripFront_append (by simpa using back), last, reverse_concat, stripFront_cons stop]
  rw [strip, String.toList_append, String.toList_append, stripList, append_assoc, stripFront_append front, kept,
    reverse_append, rest, reverse_reverse, String.ofList_toList]

private theorem prefix_of_not_mem {start after : List Char} (missing : c ∉ start)
    (starts : start <+: before ++ c :: after) : start <+: before := by
  obtain ⟨rest, same⟩ := starts
  obtain ⟨middle, rfl, -⟩ | ⟨middle, rfl, tail⟩ := append_eq_append_iff.mp same
  · exact prefix_append start middle
  · cases middle with
    | nil => simp
    | cons first middle =>
      obtain ⟨rfl, -⟩ := List.cons.inj tail
      simp at missing

end Text

namespace Survey.Go

/-! ## Declarations -/

/-- What stands around the text of a line. -/
structure Margin where
  before : String
  after : String
  blank : ∀ c ∈ before.toList ++ after.toList, Text.isBlank c ∧ c ≠ '\n'

def Margin.around (m : Margin) (text : String) : String := m.before ++ text ++ m.after

/-- A name for what is imported: an identifier, a low line or a dot. It has no blanks, quotes or brackets. -/
structure Alias where
  name : String
  some : name.toList ≠ []
  plain : ∀ c ∈ name.toList, Text.isBlank c = false ∧ c ≠ '"' ∧ c ≠ '('

/-- An imported path, which may get a name. -/
structure Spec where
  alias? : Option Alias
  path : String
  plain : ∀ c ∈ path.toList, c ≠ '"' ∧ c ≠ '\n'

/-- What stands before the quotes. -/
def Spec.front (s : Spec) : String :=
  match s.alias? with
  | some a => a.name ++ " "
  | none => ""

def Spec.text (s : Spec) : String := s.front ++ "\"" ++ s.path ++ "\""

/-- A line inside a block of imports. -/
inductive Inner where
  | spec (margin : Margin) (spec : Spec)
  | other (line : String) (single : '\n' ∉ line.toList) (unquoted : '"' ∉ line.toList)
    (inside : Text.strip line ≠ ")")

def Inner.line : Inner → String
  | .spec margin s => margin.around s.text
  | .other line .. => line

def Inner.paths : Inner → List String
  | .spec _ s => [s.path]
  | .other .. => []

/-- An import declaration, or a line that starts none. -/
inductive Item where
  | single (margin : Margin) (spec : Spec)
  | block (opening : Margin) (inner : List Inner) (closing : Margin)
  | other (line : String) (single : '\n' ∉ line.toList) (apart : Text.startsWith (Text.strip line) "import " = false)

def Item.lines : Item → List String
  | single margin spec => [margin.around ("import " ++ spec.text)]
  | block opening inner closing =>
    opening.around "import (" :: inner.map Inner.line ++ [closing.around ")"]
  | other line .. => [line]

def Item.paths : Item → List String
  | single _ spec => [spec.path]
  | block _ inner _ => inner.flatMap Inner.paths
  | other .. => []

/-! ## Lines -/

variable (margin : Margin) (s : Spec) (rest : List String)

/-- Stripping removes the margin. -/
theorem Margin.strip_around {text : String} {d : Char} (first : text.toList.head? = some c)
    (start : Text.isBlank c = false) (last : text.toList.getLast? = some d) (stop : Text.isBlank d = false) :
    Text.strip (margin.around text) = text :=
  Text.strip_between (fun c member => (margin.blank c member).1) first start last stop

/-- Before a path stands no quote, bracket or line break. -/
theorem Spec.front_plain : ∀ c ∈ s.front.toList, c ≠ '"' ∧ c ≠ '(' ∧ c ≠ '\n' := by
  rw [Spec.front]
  split
  next a _ =>
    have plain : ∀ c ∈ a.name.toList, c ≠ '"' ∧ c ≠ '(' ∧ c ≠ '\n' := by
      intro c member
      obtain ⟨visible, quote, bracket⟩ := a.plain c member
      refine ⟨quote, bracket, ?_⟩
      rintro rfl
      contradiction
    simpa [or_imp, forall_and] using plain
  next => simp

theorem Spec.toList_text : s.text.toList = s.front.toList ++ '"' :: s.path.toList ++ ['"'] := by
  simp [Spec.text]

theorem Spec.getLast?_text (before : String) : (before ++ s.text).toList.getLast? = some '"' := by
  rw [String.toList_append, s.toList_text, ← append_assoc, getLast?_concat]

private theorem Spec.strip_line : Text.strip (margin.around s.text) = s.text := by
  have first : ∃ c, s.text.toList.head? = some c ∧ Text.isBlank c = false := by
    rw [s.toList_text, Spec.front]
    split
    next a _ =>
      obtain ⟨c, cs, name⟩ := exists_cons_of_ne_nil a.some
      exact ⟨c, by simp [name], (a.plain c (by simp [name])).1⟩
    next => exact ⟨'"', by simp, by decide⟩
  obtain ⟨c, first, start⟩ := first
  exact margin.strip_around first start (by simpa using s.getLast?_text "") (by decide)

private theorem Spec.strip_import : Text.strip (margin.around ("import " ++ s.text)) = "import " ++ s.text :=
  margin.strip_around (c := 'i') (by simp) (by decide) (s.getLast?_text "import ") (by decide)

/-- The quoted text of a declaration is its path. -/
theorem quotedIn_text (before : String) (unquoted : '"' ∉ before.toList) :
    quotedIn (before ++ s.text) = [s.path] := by
  have missing : '"' ∉ (before ++ s.front).toList := by
    simpa [unquoted] using fun member => (s.front_plain _ member).1 rfl
  have inside : '"' ∉ s.path.toList := fun member => (s.plain _ member).1 rfl
  have parts : before ++ s.text = before ++ s.front ++ "\"" ++ (s.path ++ "\"" ++ "") := by
    simp [Spec.text, String.append_assoc]
  rw [quotedIn, parts, Text.splitOn_append rfl missing, Text.splitOn_append rfl inside]
  rfl

/-- A single declaration opens no list. -/
theorem not_opening (before : String) (free : '(' ∉ before.toList) :
    Text.startsWith (before ++ s.text) "import (" = false := by
  have missing : '(' ∉ (before ++ s.front).toList := by
    simpa [free] using fun member => (s.front_plain _ member).2.1 rfl
  have parts : (before ++ s.text).toList = (before ++ s.front).toList ++ '"' :: (s.path.toList ++ ['"']) := by
    simp [Spec.text]
  rw [Text.startsWith, parts, Bool.eq_false_iff, ne_eq, isPrefixOf_iff_prefix]
  exact fun starts => missing ((Text.prefix_of_not_mem (by decide) starts).subset (by decide))

/-! ## Reading -/

private theorem importsIn_opening (inBlock : Bool) : importsIn inBlock ("import (" :: rest) = importsIn true rest := by
  rw [importsIn, if_pos (by decide)]

private theorem importsIn_closing : importsIn true (")" :: rest) = importsIn false rest := by
  rw [importsIn, if_neg (by decide), if_pos rfl, if_pos rfl]

private theorem importsIn_single :
    importsIn false (("import " ++ s.text) :: rest) = s.path :: importsIn false rest := by
  have starts : Text.startsWith ("import " ++ s.text) "import " := by
    rw [Text.startsWith, String.toList_append, isPrefixOf_iff_prefix]
    exact prefix_append _ _
  rw [importsIn, if_neg (by simp [not_opening s "import " (by decide)]), if_neg (by decide), if_pos starts,
    quotedIn_text s "import " (by decide)]
  rfl

private theorem importsIn_apart {line : String} (apart : Text.startsWith line "import " = false) :
    importsIn false (line :: rest) = importsIn false rest := by
  have closed : Text.startsWith line "import (" = false := by
    rw [Text.startsWith, Bool.eq_false_iff, ne_eq, isPrefixOf_iff_prefix] at apart ⊢
    exact fun starts => apart (List.IsPrefix.trans (by decide) starts)
  rw [importsIn, if_neg (by simp [closed]), if_neg (by decide), if_neg (by simp [apart])]

private theorem importsIn_inner (inner : Inner) :
    importsIn true (Text.strip inner.line :: rest) = inner.paths ++ importsIn true rest := by
  cases inner with
  | spec margin s =>
    have opening := not_opening s "" (by decide)
    have quoted := quotedIn_text s "" (by decide)
    rw [String.empty_append] at opening quoted
    have closing : s.text ≠ ")" := by
      intro same
      rw [same] at quoted
      contradiction
    rw [Inner.line, s.strip_line, importsIn, if_neg (by simp [opening]), if_pos rfl, if_neg closing, quoted]
    rfl
  | other line single unquoted inside =>
    have missing : '"' ∉ (Text.strip line).toList := by
      rw [Text.strip, String.toList_ofList]
      exact fun member => unquoted (Text.stripList_subset _ member)
    have quoted : quotedIn (Text.strip line) = [] := by
      rw [quotedIn, Text.splitOn, Text.splitList, show "\"".toList = ['"'] from rfl, Text.splitFrom_of_not_mem missing]
      rfl
    rw [Inner.line, importsIn, if_pos rfl, if_neg inside, quoted]
    exact ite_self _

private theorem importsIn_block (inner : List Inner) :
    importsIn true (inner.map (fun one => Text.strip one.line) ++ rest) =
      inner.flatMap Inner.paths ++ importsIn true rest := by
  induction inner with
  | nil => rfl
  | cons one others ih =>
    rw [map_cons, cons_append, importsIn_inner, ih, flatMap_cons, append_assoc]

/-- From outside of a block, the lines of a declaration give its paths and lead outside of a block again. -/
theorem importsIn_lines (item : Item) :
    importsIn false (item.lines.map Text.strip ++ rest) = item.paths ++ importsIn false rest := by
  cases item with
  | single margin s =>
    rw [Item.lines, map_singleton, s.strip_import, singleton_append, importsIn_single]
    rfl
  | block opening inner closing =>
    have opened : Text.strip (opening.around "import (") = "import (" :=
      opening.strip_around (c := 'i') (d := '(') (by simp) (by decide) (by simp) (by decide)
    have closed : Text.strip (closing.around ")") = ")" :=
      closing.strip_around (c := ')') (d := ')') (by simp) (by decide) (by simp) (by decide)
    have lines : (Item.block opening inner closing).lines.map Text.strip ++ rest =
        "import (" :: (inner.map (fun one => Text.strip one.line) ++ ")" :: rest) := by
      simp [Item.lines, opened, closed, Function.comp_def]
    rw [lines, importsIn_opening, importsIn_block, importsIn_closing]
    rfl
  | other line single apart => exact importsIn_apart rest apart

private theorem importsIn_items (items : List Item) :
    importsIn false ((items.flatMap Item.lines).map Text.strip) = items.flatMap Item.paths := by
  induction items with
  | nil => rfl
  | cons item items ih => rw [flatMap_cons, map_append, importsIn_lines, ih, flatMap_cons]

private theorem Margin.single_around {text : String} (single : '\n' ∉ text.toList) :
    '\n' ∉ (margin.around text).toList := by
  have none : '\n' ∉ margin.before.toList ++ margin.after.toList := fun member => (margin.blank _ member).2 rfl
  simpa [Margin.around, single] using none

private theorem Spec.single_text : '\n' ∉ s.text.toList := by
  have front : '\n' ∉ s.front.toList := fun member => (s.front_plain _ member).2.2 rfl
  have path : '\n' ∉ s.path.toList := fun member => (s.plain _ member).2 rfl
  simp [s.toList_text, front, path]

private theorem Item.single_lines (item : Item) : ∀ line ∈ item.lines, '\n' ∉ line.toList := by
  cases item with
  | single margin s => simpa [Item.lines] using margin.single_around (by simpa using s.single_text)
  | block opening inner closing =>
    have each : ∀ one ∈ inner, '\n' ∉ one.line.toList := by
      rintro (⟨margin, s⟩ | ⟨line, single, _, _⟩) _
      · exact margin.single_around s.single_text
      · exact single
    have first : '\n' ∉ (opening.around "import (").toList := opening.single_around (by decide)
    have last : '\n' ∉ (closing.around ")").toList := closing.single_around (by decide)
    simpa [Item.lines, or_imp, forall_and] using ⟨first, each, last⟩
  | other line single apart => simpa [Item.lines] using single

/-- The imports of a file that has been written line by line are the paths of its declarations in order. -/
theorem imports_joinLines (items : List Item) :
    imports (.text (Text.joinLines (items.flatMap Item.lines))) = .ok (items.flatMap Item.paths) := by
  have read (s : String) : imports (.text s) = .ok (importsIn false ((Text.splitNewlines s).map Text.strip)) := rfl
  cases items with
  | nil => rfl
  | cons item items =>
    have some : (item :: items).flatMap Item.lines ≠ [] := by
      cases item <;> simp [Item.lines]
    have single : ∀ line ∈ (item :: items).flatMap Item.lines, '\n' ∉ line.toList := by
      intro line member
      obtain ⟨one, -, inside⟩ := mem_flatMap.mp member
      exact one.single_lines line inside
    rw [read, Text.splitNewlines_joinLines some single, importsIn_items]

end Survey.Go

end ContractLint
