import ContractLint.Files
import ContractLint.Proofs.Text.Split

/-! # Paths of files

The paths that a search finds below a directory are made of names, so a path that is written out and read again
is the same path.
-/

namespace ContractLint

open List

variable {names place : List String} {path : Path}

namespace Path

/-- The text is a name of a file or a directory. -/
structure IsName (name : String) : Prop where
  nonempty : name ≠ ""
  notDot : name ≠ "."
  noSlash : '/' ∉ name.toList

instance (name : String) : Decidable (IsName name) :=
  decidable_of_iff (name ≠ "" ∧ name ≠ "." ∧ '/' ∉ name.toList)
    ⟨fun ⟨nonempty, notDot, noSlash⟩ => ⟨nonempty, notDot, noSlash⟩,
      fun proper => ⟨proper.nonempty, proper.notDot, proper.noSlash⟩⟩

private theorem isName_of_mem_ofText {s name : String} (member : name ∈ (ofText s).names) : IsName name := by
  obtain ⟨inside, kept⟩ := mem_filter.mp member
  simp only [Bool.and_eq_true, bne_iff_ne] at kept
  exact ⟨kept.1, kept.2, Text.not_mem_of_mem_splitOn rfl inside⟩

private theorem rootOf_cons {c : Char} (other : c ≠ '/') (cs : List Char) : rootOf (c :: cs) = "" := by
  unfold rootOf
  split
  next same => exact absurd (List.cons.inj same).1 other
  next same => exact absurd (List.cons.inj same).1 other
  next same => exact absurd (List.cons.inj same).1 other
  next => rfl

/-- A relative path starts with no slash. -/
theorem rootOf_intercalate (proper : ∀ name ∈ names, IsName name) :
    rootOf (String.intercalate "/" names).toList = "" := by
  cases names with
  | nil => rfl
  | cons first rest =>
    have name := proper first mem_cons_self
    obtain ⟨more, joined⟩ : ∃ more, (String.intercalate "/" (first :: rest)).toList = first.toList ++ more := by
      cases rest with
      | nil => exact ⟨[], by simp⟩
      | cons second rest =>
        exact ⟨_, by rw [String.intercalate_cons_cons, String.append_assoc, String.toList_append]⟩
    rw [joined]
    cases letters : first.toList with
    | nil => exact absurd (String.toList_eq_nil_iff.mp letters) name.nonempty
    | cons c cs =>
      have slash := name.noSlash
      rw [letters] at slash
      exact rootOf_cons (ne_of_not_mem_cons slash).symm (cs ++ more)

private theorem text_of_names (nonempty : names ≠ []) : text { names } = String.intercalate "/" names := by
  simp [text, nonempty]

/-- A relative path that is written out and read again is the same path. -/
theorem ofText_text (proper : ∀ name ∈ names, IsName name) : ofText (text { names }) = { names } := by
  by_cases empty : names = []
  · subst empty
    decide
  · have slashes : ∀ name ∈ names, '/' ∉ name.toList := fun name member => (proper name member).noSlash
    have kept : ∀ name ∈ names, (name != "" && name != ".") = true := by
      intro name member
      simp [(proper name member).nonempty, (proper name member).notDot]
    rw [text_of_names empty, ofText, rootOf_intercalate proper, Text.splitOn_intercalate rfl empty slashes,
      filter_eq_self.mpr kept]

/-- The text can stand after the last dot of a name. -/
structure IsExtension (ext : String) : Prop where
  nonempty : ext ≠ ""
  noSlash : '/' ∉ ext.toList
  noDot : '.' ∉ ext.toList

/-- The name of a file is what stands before its extension, whatever the extension. -/
theorem exists_name_ofText (stem : String) :
    ∃ front : String, ∀ ext, IsExtension ext → (ofText (stem ++ "." ++ ext)).name = front ++ "." ++ ext := by
  obtain ⟨names, front, pieces⟩ := Text.exists_splitOn_append (show "/".toList = ['/'] from rfl) stem
  refine ⟨front, fun ext proper => ?_⟩
  have divided : Text.splitOn (stem ++ "." ++ ext) "/" = names ++ [front ++ "." ++ ext] := by
    rw [String.append_assoc, pieces ("." ++ ext) (by simp [proper.noSlash]), String.append_assoc]
  have long : 2 ≤ (front ++ "." ++ ext).length := by
    have some := Nat.pos_of_ne_zero fun none => proper.nonempty (String.length_eq_zero_iff.mp none)
    have dot : ".".length = 1 := rfl
    simp only [String.length_append]
    omega
  have kept : (front ++ "." ++ ext != "" && front ++ "." ++ ext != ".") = true := by
    rw [Bool.and_eq_true, bne_iff_ne, bne_iff_ne]
    refine ⟨fun same => ?_, fun same => ?_⟩
    · exact absurd (same ▸ long) (by decide)
    · exact absurd (same ▸ long) (by decide)
  simp only [name, ofText, divided, filter_append, filter_cons, kept, if_true]
  simp

/-- A name has the extension after its last dot as its suffix, unless the dot comes first. -/
theorem suffix_of_name {p : Path} {front ext : String} (named : p.name = front ++ "." ++ ext)
    (proper : IsExtension ext) : p.suffix = if front = "" then "" else "." ++ ext := by
  have letters : p.name.toList = front.toList ++ '.' :: ext.toList := by
    rw [named, String.toList_append, String.toList_append, append_assoc]
    rfl
  have some := Nat.pos_of_ne_zero fun none => proper.nonempty (String.toList_eq_nil_iff.mp (length_eq_zero_iff.mp none))
  rw [suffix, letters]
  simp only [Text.findLast?_append proper.noDot]
  by_cases first : front = ""
  · simp [first]
  · have before := Nat.pos_of_ne_zero fun none => first (String.toList_eq_nil_iff.mp (length_eq_zero_iff.mp none))
    rw [if_neg first, if_pos ⟨before, by simp; omega⟩, drop_left]
    simp

end Path

namespace Files

/-- Every file has a name, and there are only names on the way to it. -/
def Proper (files : Files) : Prop :=
  ∀ entry ∈ files.entries, entry.1 ≠ [] ∧ ∀ name ∈ entry.1, Path.IsName name

instance (files : Files) : Decidable files.Proper := inferInstanceAs (Decidable (∀ _ ∈ _, _))

variable {files : Files} (proper : files.Proper)

include proper

private theorem Proper.isName_of_mem_places (member : place ∈ files.places) {name : String}
    (inside : name ∈ place) : Path.IsName name := by
  obtain ⟨entry, known, way⟩ := mem_flatMap.mp (mem_eraseDups.mp member)
  obtain ⟨i, _, rfl⟩ := mem_map.mp way
  exact (proper entry known).2 name (mem_of_mem_take inside)

/-- What is found below a directory has a relative path, made of names. -/
theorem Proper.ofText_of_mem_search {target pattern : String} {deep : Bool}
    (found : path ∈ files.search (Path.ofText target) deep pattern) : Path.ofText path.text = path := by
  unfold search at found
  cases located : files.locate (Path.ofText target) with
  | none => simp [located] at found
  | some place =>
    have relative : (Path.ofText target).root = "" := by
      unfold locate at located
      split at located
      next relative => exact relative
      next => contradiction
    simp only [located, mem_filterMap] at found
    obtain ⟨below, member, found⟩ := found
    split at found
    next =>
      cases found
      rw [relative]
      refine Path.ofText_text fun name inside => ?_
      obtain inside | inside := mem_append.mp inside
      · exact Path.isName_of_mem_ofText inside
      · exact proper.isName_of_mem_places member (mem_of_mem_drop inside)
    next => contradiction

private theorem Proper.fileAt?_nil : files.fileAt? [] = none := by
  refine lookup_eq_none_iff.mpr fun entry known => ?_
  simpa using (proper entry known).1.symm

theorem Proper.file?_of_isDirectory (directory : files.isDirectory path) : files.file? path = none := by
  unfold isDirectory at directory
  unfold file?
  cases located : files.locate path with
  | none => rfl
  | some place =>
    rw [located] at directory
    simp only [hasDirectory, Bool.or_eq_true, Bool.and_eq_true, List.isEmpty_iff, Option.isNone_iff_eq_none]
      at directory
    obtain rfl | ⟨_, missing⟩ := directory
    · exact proper.fileAt?_nil
    · exact missing

omit proper

/-- The directory above a place is a place. -/
theorem hasPlace_dropLast (present : files.hasPlace place) : files.hasPlace place.dropLast := by
  simp only [hasPlace, Bool.or_eq_true, List.isEmpty_iff, contains_iff_mem] at present ⊢
  obtain rfl | member := present
  · exact .inl rfl
  · obtain ⟨entry, known, way⟩ := mem_flatMap.mp (mem_eraseDups.mp member)
    obtain ⟨i, inside, rfl⟩ := mem_map.mp way
    have short : i < entry.1.length := mem_range.mp inside
    have above : (entry.1.take (i + 1)).dropLast = entry.1.take i := by
      rw [dropLast_eq_take, length_take, take_take]
      congr 1
      omega
    rw [above]
    cases i with
    | zero => exact .inl rfl
    | succ i =>
      refine .inr (mem_eraseDups.mpr (mem_flatMap.mpr ⟨entry, known, ?_⟩))
      exact mem_map.mpr ⟨i, mem_range.mpr (by omega), rfl⟩

private theorem hasPlace_of_walk {found : List String} (present : files.hasPlace place)
    (reached : files.walk place names = some found) : files.hasPlace found := by
  induction names generalizing place with
  | nil =>
    cases reached
    exact present
  | cons name rest ih =>
    rw [walk] at reached
    split at reached
    next => contradiction
    next =>
      split at reached
      next =>
        split at reached
        next => contradiction
        next => exact ih (hasPlace_dropLast present) reached
      next =>
        split at reached
        next below => exact ih below reached
        next => contradiction

/-- What is contained is a file or a directory. -/
theorem file_or_directory (present : files.contains path) :
    (files.file? path).isSome ∨ files.isDirectory path := by
  obtain ⟨place, located⟩ := Option.isSome_iff_exists.mp present
  have reached : files.hasPlace place := by
    unfold locate at located
    split at located
    next => exact hasPlace_of_walk rfl located
    next => contradiction
  simp only [file?, isDirectory, located, Option.bind_some]
  cases known : files.fileAt? place with
  | some content => exact .inl rfl
  | none =>
    refine .inr ?_
    simp only [hasPlace, Bool.or_eq_true] at reached
    simpa [hasDirectory, known] using reached

end Files

end ContractLint
