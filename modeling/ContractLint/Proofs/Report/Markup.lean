import ContractLint.Number.Binary

/-! # Tags of a page

A tag is opened by a `<` with a letter, a slash or one of the marks `!` and `?` after it, and ends at the next `>`. A
page that is put together from markup and texts has the tags of the markup exactly if no text opens a tag
(`tags_content_iff`): every opening in a page either begins a tag or stands inside of one, so a text that opens a tag
adds one to the page or is left inside of another.
-/

namespace ContractLint.Report.Markup

open List

variable {cs back front : List Char} {s : String} {c : Char} {α : Type}

/-- A character that makes the `<` before it the start of a tag. -/
def opens (c : Char) : Bool := c.isAlpha || c == '/' || c == '!' || c == '?'

/-- A character opens a tag, given what stands after it. -/
def isOpening (c : Char) (rest : List Char) : Bool := c == '<' && rest.head?.any opens

/-- The tags of some characters, and the one that is still open at their end. A tag that is open at their start has
been read up to them, last character first. -/
def scan : Option (List Char) → List Char → List (List Char) × Option (List Char)
  | tag, [] => ([], tag)
  | some tag, c :: rest =>
    if c = '>' then (tag.reverse :: (scan none rest).1, (scan none rest).2) else scan (some (c :: tag)) rest
  | none, c :: rest => scan (if isOpening c rest then some [] else none) rest

def tags (page : String) : List (List Char) := (scan none page.toList).1

/-- The number of places at which a tag is opened, inside of tags or not. -/
def openings : List Char → Nat
  | [] => 0
  | c :: rest => (if isOpening c rest then 1 else 0) + openings rest

/-! ## Characters in sequence -/

/-- No tag is opened where the two meet. -/
def Parted (front back : List Char) : Prop := front.getLast? = some '<' → back.head?.any opens = false

theorem isOpening_of_ne (other : c ≠ '<') (rest : List Char) : isOpening c rest = false := by
  simp [isOpening, other]

theorem isOpening_append {rest : List Char} (parted : Parted (c :: rest) back) :
    isOpening c (rest ++ back) = isOpening c rest := by
  cases rest with
  | cons first rest => rfl
  | nil =>
    by_cases same : c = '<'
    · subst same
      simpa [isOpening] using parted rfl
    · rw [isOpening_of_ne same, isOpening_of_ne same]

theorem Parted.tail {rest : List Char} (parted : Parted (c :: rest) back) : Parted rest back := by
  cases rest with
  | nil => simp [Parted]
  | cons first rest => exact fun last => parted (by rwa [getLast?_cons_cons])

/-- Between parted texts no tag begins. -/
theorem openings_append (parted : Parted front back) :
    openings (front ++ back) = openings front + openings back := by
  induction front with
  | nil => simp [openings]
  | cons c rest ih =>
    rw [cons_append, openings, openings, isOpening_append parted, ih parted.tail, Nat.add_assoc]

/-- A scan goes on where the first text left it. -/
theorem scan_append (parted : Parted front back) (tag : Option (List Char)) :
    scan tag (front ++ back) =
      ((scan tag front).1 ++ (scan (scan tag front).2 back).1, (scan (scan tag front).2 back).2) := by
  induction front generalizing tag with
  | nil => cases tag <;> simp [scan]
  | cons c rest ih =>
    cases tag with
    | none => rw [cons_append, scan, scan, isOpening_append parted, ih parted.tail]
    | some tag =>
      rw [cons_append, scan, scan]
      split
      · rw [ih parted.tail]
        rfl
      · exact ih parted.tail _

/-- Without an angle bracket no tag begins. -/
theorem openings_of_not_mem (missing : '<' ∉ cs) : openings cs = 0 := by
  induction cs with
  | nil => rfl
  | cons c rest ih =>
    have other := (ne_of_not_mem_cons missing).symm
    rw [openings, isOpening_of_ne other, ih (not_mem_of_not_mem_cons missing)]
    rfl

theorem openings_append_of_not_mem (missing : '<' ∉ front) (back : List Char) :
    openings (front ++ back) = openings back := by
  rw [openings_append fun last => absurd (mem_of_getLast? last) missing, openings_of_not_mem missing, Nat.zero_add]

private theorem scan_of_openings (unopened : openings cs = 0) : scan none cs = ([], none) := by
  induction cs with
  | nil => rfl
  | cons c rest ih =>
    rw [openings] at unopened
    rw [scan]
    cases opening : isOpening c rest with
    | false => exact ih (by omega)
    | true => simp [opening] at unopened

/-! ## Every opening is that of a tag or inside of one -/

/-- The openings of some tags, their own and those inside. -/
def weight (tags : List (List Char)) : Nat := (tags.map fun tag => openings tag + 1).sum

/-- If no tag is open at the end, the tags account for all openings. -/
theorem weight_scan {tag : Option (List Char)} (closed : (scan tag cs).2 = none) :
    weight (scan tag cs).1 = tag.elim (openings cs) fun tag => openings (tag.reverse ++ cs) + 1 := by
  induction cs generalizing tag with
  | nil =>
    cases tag with
    | none => rfl
    | some tag => cases closed
  | cons c rest ih =>
    cases tag with
    | none =>
      rw [scan] at closed ⊢
      rw [ih closed, Option.elim_none, openings]
      cases isOpening c rest with
      | false => simp
      | true => simp [Nat.add_comm]
    | some tag =>
      rw [scan] at closed ⊢
      split at closed
      next same =>
        subst same
        have parted : Parted tag.reverse ('>' :: rest) := fun _ => rfl
        have inside : openings ('>' :: rest) = openings rest := by simp [openings, isOpening]
        rw [if_pos rfl, weight, map_cons, sum_cons, Option.elim_some, openings_append parted, inside]
        have others := ih closed
        rw [weight, Option.elim_none] at others
        omega
      next other =>
        rw [if_neg other, ih closed]
        simp

theorem weight_of_flat {tags : List (List Char)} (flat : ∀ tag ∈ tags, openings tag = 0) :
    weight tags = tags.length := by
  induction tags with
  | nil => rfl
  | cons tag rest ih =>
    obtain ⟨here, others⟩ := forall_mem_cons.mp flat
    have rest := ih others
    rw [weight] at rest ⊢
    rw [map_cons, sum_cons, here, rest, length_cons]
    omega

/-! ## Markup and texts -/

inductive Piece where
  /-- Markup, which the page has of itself. -/
  | markup (s : String)
  /-- A text that is put into the page. -/
  | text (s : String)

namespace Piece

def content : Piece → String
  | markup s => s
  | text s => s

/-- The tags of a piece of markup; a text is to have none. -/
def ownTags : Piece → List (List Char)
  | markup s => tags s
  | text _ => []

def text? : Piece → Option String
  | markup _ => none
  | text s => some s

end Piece

/-- The page that is put together from pieces. -/
def content (pieces : List Piece) : String := String.join (pieces.map Piece.content)

def outline (pieces : List Piece) : List (List Char) := pieces.flatMap Piece.ownTags

/-- The texts that are put into the page. -/
def texts (pieces : List Piece) : List String := pieces.filterMap Piece.text?

theorem content_nil : content [] = "" := rfl

theorem content_cons (piece : Piece) (rest : List Piece) : content (piece :: rest) = piece.content ++ content rest := by
  rw [content, map_cons, String.join_cons, ← content]

theorem content_append (front back : List Piece) : content (front ++ back) = content front ++ content back := by
  simp [content]

theorem content_flatMap (f : α → List Piece) (list : List α) :
    content (list.flatMap f) = String.join (list.map fun a => content (f a)) := by
  induction list with
  | nil => rfl
  | cons a rest ih => rw [flatMap_cons, content_append, ih, map_cons, String.join_cons]

section Pieces

variable (s : String) (rest : List Piece)

@[simp] theorem content_markup : (content (.markup s :: rest)).toList = s.toList ++ (content rest).toList := by
  rw [content_cons, String.toList_append, Piece.content]

@[simp] theorem content_text : (content (.text s :: rest)).toList = s.toList ++ (content rest).toList := by
  rw [content_cons, String.toList_append, Piece.content]

@[simp] theorem outline_markup : outline (.markup s :: rest) = tags s ++ outline rest := flatMap_cons

@[simp] theorem outline_text : outline (.text s :: rest) = outline rest := by
  rw [outline, flatMap_cons, Piece.ownTags, nil_append, ← outline]

@[simp] theorem texts_markup : texts (.markup s :: rest) = texts rest := rfl

@[simp] theorem texts_text : texts (.text s :: rest) = s :: texts rest := rfl

end Pieces

theorem outline_nil : outline [] = [] := flatMap_nil

theorem outline_append (front back : List Piece) : outline (front ++ back) = outline front ++ outline back :=
  flatMap_append

theorem outline_flatMap (f : α → List Piece) (list : List α) :
    outline (list.flatMap f) = list.flatMap fun a => outline (f a) := flatMap_assoc

/-- No text opens a tag. -/
def Harmless (pieces : List Piece) : Prop := ∀ t ∈ texts pieces, openings t.toList = 0

section Harmless

@[simp] theorem harmless_nil : Harmless [] := forall_mem_nil _

@[simp] theorem harmless_markup (s : String) (rest : List Piece) : Harmless (.markup s :: rest) ↔ Harmless rest :=
  Iff.rfl

@[simp] theorem harmless_text (s : String) (rest : List Piece) :
    Harmless (.text s :: rest) ↔ openings s.toList = 0 ∧ Harmless rest := forall_mem_cons

@[simp] theorem harmless_append (front back : List Piece) :
    Harmless (front ++ back) ↔ Harmless front ∧ Harmless back := by
  rw [Harmless, texts, filterMap_append, forall_mem_append]
  rfl

@[simp] theorem harmless_flatMap (f : α → List Piece) (list : List α) :
    Harmless (list.flatMap f) ↔ ∀ a ∈ list, Harmless (f a) := by
  induction list with
  | nil => simp
  | cons a rest ih => rw [flatMap_cons, harmless_append, ih, forall_mem_cons]

end Harmless

/-! ## Pages that are well put together -/

/-- Markup that closes its tags and opens none inside of another. -/
structure Whole (cs : List Char) : Prop where
  closed : (scan none cs).2 = none
  ended : cs.getLast? ≠ some '<'
  flat : ∀ tag ∈ (scan none cs).1, openings tag = 0

instance (cs : List Char) : Decidable (Whole cs) :=
  decidable_of_iff ((scan none cs).2 = none ∧ cs.getLast? ≠ some '<' ∧
    ∀ tag ∈ (scan none cs).1, openings tag = 0)
    ⟨fun ⟨closed, ended, flat⟩ => ⟨closed, ended, flat⟩, fun whole =>
      ⟨whole.closed, whole.ended, whole.flat⟩⟩

theorem Whole.parted (whole : Whole cs) (back : List Char) : Parted cs back :=
  fun last => absurd last whole.ended

/-- Two whole texts make a whole one. -/
theorem Whole.append (first : Whole front) (second : Whole back) : Whole (front ++ back) := by
  have seen := scan_append (first.parted back) none
  rw [first.closed] at seen
  refine ⟨?_, ?_, ?_⟩
  · rw [seen]
    exact second.closed
  · intro last
    rw [getLast?_append, Option.or_eq_some_iff] at last
    obtain last | ⟨_, last⟩ := last
    · exact second.ended last
    · exact first.ended last
  · intro tag member
    rw [seen, mem_append] at member
    exact member.elim (first.flat tag) (second.flat tag)

/-- Markup that is written out is checked character by character. -/
theorem Whole.literal (whole : Whole cs) : Whole (String.ofList cs).toList := by
  rwa [String.toList_ofList]

/-- Markup that does not turn a `<` before it into the start of a tag. -/
def Shuts (s : String) : Prop := ∃ c, s.toList.head? = some c ∧ opens c = false

theorem Shuts.literal (shut : opens c = false) : Shuts (String.ofList (c :: cs)) :=
  ⟨c, by rw [String.toList_ofList, head?_cons], shut⟩

theorem Shuts.append (shuts : Shuts s) (rest : String) : Shuts (s ++ rest) := by
  obtain ⟨c, first, shut⟩ := shuts
  exact ⟨c, by rw [String.toList_append, head?_append, first, Option.some_or], shut⟩

/-- All markup is whole, and after each text there is markup that shuts it. -/
inductive Sealed : List Piece → Prop
  | nil : Sealed []
  | markup {s : String} {rest : List Piece} (whole : Whole s.toList) (others : Sealed rest) : Sealed (.markup s :: rest)
  | text (t : String) {s : String} {rest : List Piece} (shuts : Shuts s) (others : Sealed (.markup s :: rest)) :
    Sealed (.text t :: .markup s :: rest)

theorem Sealed.append {front back : List Piece} (first : Sealed front) (second : Sealed back) :
    Sealed (front ++ back) := by
  induction first with
  | nil => exact second
  | markup whole _ ih => exact .markup whole ih
  | text t shuts _ ih => exact .text t shuts ih

theorem Sealed.flatMap {f : α → List Piece} (each : ∀ a, Sealed (f a)) (list : List α) :
    Sealed (list.flatMap f) := by
  induction list with
  | nil => exact .nil
  | cons a rest ih => exact (each a).append ih

/-- What shuts is parted from all before it. -/
theorem Shuts.parted (shuts : Shuts s) (front : List Char) (rest : List Piece) :
    Parted front (content (.markup s :: rest)).toList := by
  obtain ⟨c, first, harmless⟩ := shuts
  intro _
  rw [content_markup, head?_append, first]
  exact harmless

private theorem Whole.openings_eq (whole : Whole s.toList) : openings s.toList = (tags s).length := by
  rw [tags, ← weight_of_flat whole.flat, weight_scan whole.closed, Option.elim_none]

variable {pieces : List Piece}

/-- If no text opens a tag, the page has the tags of its markup. -/
theorem scan_content (whole : Sealed pieces) (harmless : Harmless pieces) :
    scan none (content pieces).toList = (outline pieces, none) := by
  induction whole with
  | nil => rfl
  | markup whole _ ih =>
    rw [content_markup, scan_append (whole.parted _), whole.closed, ih harmless, outline_markup]
    rfl
  | text t shuts _ ih =>
    obtain ⟨here, others⟩ := forall_mem_cons.mp harmless
    rw [content_text, scan_append (shuts.parted _ _), scan_of_openings here, ih others]
    rfl

/-- Markup that closes whatever tag is open leaves none open. -/
theorem closed_of_closing (front : List Piece) {last : String} (shuts : Shuts s) (whole : Whole s.toList)
    (closing : ∀ tag, (scan tag s.toList).2 = none) (after : Whole last.toList) :
    (scan none (content (front ++ [.markup s, .markup last])).toList).2 = none := by
  have ending : (content [.markup s, .markup last]).toList = s.toList ++ last.toList := by
    rw [content_markup, content_markup, content_nil, String.toList_empty, append_nil]
  rw [content_append, String.toList_append, scan_append (shuts.parted _ _), ending, scan_append (whole.parted _),
    closing]
  exact after.closed

/-- The openings of a page are its own tags and the openings of its texts. -/
theorem openings_content (whole : Sealed pieces) :
    openings (content pieces).toList =
      (outline pieces).length + ((texts pieces).map fun t => openings t.toList).sum := by
  induction whole with
  | nil => rfl
  | markup whole _ ih =>
    rw [content_markup, openings_append (whole.parted _), whole.openings_eq, ih, outline_markup, texts_markup,
      length_append, Nat.add_assoc]
  | text t shuts _ ih =>
    rw [content_text, openings_append (shuts.parted _ _), ih, outline_text, texts_text, map_cons,
      sum_cons, Nat.add_left_comm]

private theorem flat_outline (whole : Sealed pieces) : ∀ tag ∈ outline pieces, openings tag = 0 := by
  induction whole with
  | nil => simp [outline]
  | markup whole _ ih =>
    intro tag member
    rw [outline_markup, mem_append] at member
    obtain here | later := member
    · exact whole.flat tag here
    · exact ih tag later
  | text t shuts _ ih => exact ih

/-- A page that leaves no tag open has the tags of its markup exactly if no text opens a tag. -/
theorem tags_content_iff (whole : Sealed pieces) (closed : (scan none (content pieces).toList).2 = none) :
    tags (content pieces) = outline pieces ↔ Harmless pieces := by
  constructor
  · intro same
    have all : openings (content pieces).toList = (outline pieces).length :=
      calc openings (content pieces).toList
        _ = weight (tags (content pieces)) := (weight_scan closed).symm
        _ = (outline pieces).length := by rw [same, weight_of_flat (flat_outline whole)]
    have parts := openings_content whole
    have none : ((texts pieces).map fun t => openings t.toList).sum = 0 := by omega
    exact forall_mem_map.mp (List.sum_eq_zero_iff_forall_eq_nat.mp none)
  · intro harmless
    rw [tags, scan_content whole harmless]

end ContractLint.Report.Markup
