import ContractLint.Document.Value
import Mathlib.Data.List.Basic
import Mathlib.Data.List.Induction

/-! # Entries by name

Tables are lists of entries, of which the first with a name counts.
-/

namespace ContractLint

open List

variable {α : Type} {entries : List (String × α)} {name : String} {item : α}

theorem lookup_cons_of_ne {other : String} (differs : other ≠ name) (item : α)
    (entries : List (String × α)) : ((name, item) :: entries).lookup other = entries.lookup other := by
  rw [lookup_cons, beq_false_of_ne differs]

theorem mem_of_lookup (found : entries.lookup name = some item) : (name, item) ∈ entries := by
  obtain ⟨before, after, rfl, -⟩ := lookup_eq_some_iff.mp found
  simp

/-- Among entries with different names each is found under its name. -/
theorem lookup_of_mem (distinct : (entries.map Prod.fst).Nodup) (member : (name, item) ∈ entries) :
    entries.lookup name = some item := by
  induction entries with
  | nil => contradiction
  | cons entry rest ih =>
    rw [map_cons, nodup_cons] at distinct
    obtain rfl | later := mem_cons.mp member
    · exact lookup_cons_self
    · have differs : name ≠ entry.1 := fun same => distinct.1 (same ▸ mem_map_of_mem later)
      rw [lookup_cons_of_ne differs]
      exact ih distinct.2 later

theorem exists_lookup_of_mem
    (listed : name ∈ entries.map Prod.fst) : ∃ item, entries.lookup name = some item := by
  rw [← Option.isSome_iff_exists, lookup_isSome_iff]
  obtain ⟨entry, member, same⟩ := mem_map.mp listed
  exact ⟨entry, member, by simp [same]⟩

/-- An entry has no bearing on what is found if its name is known before. -/
theorem lookup_append_known {known : List (String × α)}
    (found : known.lookup name = some item) (hidden : α) (rest : List (String × α)) (other : String) :
    (known ++ (name, hidden) :: rest).lookup other = (known ++ rest).lookup other := by
  rw [lookup_append, lookup_append]
  by_cases same : other = name
  · rw [same, found, Option.some_or, Option.some_or]
  · rw [lookup_cons_of_ne same]

/-- Names of which the first occurrences are kept differ. -/
theorem nodup_eraseDups (names : List String) : names.eraseDups.Nodup := by
  match names with
  | [] => simp
  | first :: rest =>
    rw [eraseDups_cons, nodup_cons]
    exact ⟨by simp [mem_eraseDups], nodup_eraseDups _⟩
termination_by names.length
decreasing_by exact Nat.lt_succ_of_le (length_filter_le _ rest)

/-- A name that comes after all others is kept if it is new. -/
theorem eraseDups_append_singleton (names : List String) (name : String) :
    (names ++ [name]).eraseDups = if name ∈ names then names.eraseDups else names.eraseDups ++ [name] := by
  rw [eraseDups_append]
  by_cases old : name ∈ names <;> simp [List.removeAll, eraseDups_cons, old]

/-- Names of which the first occurrences are kept stand in the order of these. -/
theorem eraseDups_pairwise_idxOf (names : List String) :
    names.eraseDups.Pairwise fun a b => names.idxOf a < names.idxOf b := by
  induction names using List.reverseRecOn with
  | nil => simp
  | append_singleton names name ih =>
    have place {a : String} (known : a ∈ names.eraseDups) : (names ++ [name]).idxOf a = names.idxOf a :=
      idxOf_append_of_mem (mem_eraseDups.mp known)
    have earlier : names.eraseDups.Pairwise fun a b => (names ++ [name]).idxOf a < (names ++ [name]).idxOf b :=
      ih.imp_of_mem fun one two before => by rwa [place one, place two]
    rw [eraseDups_append_singleton]
    split
    next => exact earlier
    next new =>
      refine pairwise_append.mpr ⟨earlier, pairwise_singleton _ _, fun a known b last => ?_⟩
      rw [mem_singleton.mp last, place known, idxOf_append_of_notMem new]
      have inside := idxOf_lt_length_of_mem (mem_eraseDups.mp known)
      omega

/-- An entry that takes the place of the one of its name, or else the last place, is added to those of other
names. -/
theorem replaced_perm (distinct : (entries.map Prod.fst).Nodup) (name : String) (item : α) :
    (if (entries.lookup name).isSome then
        entries.map fun entry => if entry.1 == name then (name, item) else entry
      else entries ++ [(name, item)]).Perm
      ((name, item) :: entries.filter fun entry => entry.1 ≠ name) := by
  induction entries with
  | nil => exact .refl _
  | cons entry rest ih =>
    obtain ⟨other, old⟩ := entry
    rw [map_cons, nodup_cons] at distinct
    by_cases same : other = name
    · subst same
      have apart : ∀ entry ∈ rest, entry.1 ≠ other := by
        rintro entry member rfl
        exact distinct.1 (mem_map.mpr ⟨entry, member, rfl⟩)
      have unchanged : rest.map (fun entry => if entry.1 == other then (other, item) else entry) = rest := by
        refine (map_congr_left fun entry member => ?_).trans (map_id rest)
        simp [apart entry member]
      rw [lookup_cons_self, Option.isSome_some, if_pos rfl, map_cons, unchanged,
        filter_cons_of_neg (by simp), filter_eq_self.mpr (by simpa using apart)]
      simp
    · have looked : ((other, old) :: rest).lookup name = rest.lookup name :=
        lookup_cons_of_ne (Ne.symm same) old rest
      have moved := ((ih distinct.2).cons (other, old)).trans (List.Perm.swap _ _ _)
      rw [looked, filter_cons_of_pos (by simpa using same)]
      split at moved
      next known =>
        rw [if_pos known, map_cons, if_neg (by simpa using same)]
        exact moved
      next unknown =>
        rw [if_neg unknown]
        exact moved

namespace Entries

/-- The item that was put is found under its name. -/
theorem lookup_put_self (entries : List (String × α)) (name : String) (item : α) :
    (put entries name item).lookup name = some item := by
  induction entries with
  | nil => exact lookup_cons_self
  | cons entry rest ih =>
    obtain ⟨other, old⟩ := entry
    rw [put]
    split
    next => exact lookup_cons_self
    next differs => rw [lookup_cons_of_ne (Ne.symm differs), ih]

/-- Other names keep their items. -/
theorem lookup_put_of_ne {other : String} (differs : other ≠ name) (entries : List (String × α))
    (item : α) : (put entries name item).lookup other = entries.lookup other := by
  induction entries with
  | nil => exact lookup_cons_of_ne differs item []
  | cons entry rest ih =>
    obtain ⟨owner, old⟩ := entry
    rw [put]
    split
    next same =>
      subst same
      rw [lookup_cons_of_ne differs, lookup_cons_of_ne differs]
    next =>
      by_cases equal : other = owner
      · subst equal
        rw [lookup_cons_self, lookup_cons_self]
      · rw [lookup_cons_of_ne equal, lookup_cons_of_ne equal, ih]

/-- Of two items put under a name the last one counts. -/
theorem put_put (entries : List (String × α)) (name : String) (one two : α) :
    put (put entries name one) name two = put entries name two := by
  induction entries with
  | nil => simp [put]
  | cons entry rest ih =>
    obtain ⟨other, old⟩ := entry
    by_cases same : other = name
    · simp [put, same]
    · simp [put, same, ih]

/-- To put what is there changes nothing. -/
theorem put_of_lookup (known : entries.lookup name = some item) : put entries name item = entries := by
  induction entries with
  | nil => cases known
  | cons entry rest ih =>
    obtain ⟨other, old⟩ := entry
    by_cases same : other = name
    · subst same
      rw [lookup_cons_self] at known
      cases known
      simp [put]
    · rw [lookup_cons_of_ne (Ne.symm same)] at known
      simp [put, same, ih known]

/-- A new name comes last. -/
theorem put_of_none (unknown : entries.lookup name = none)
    (item : α) : put entries name item = entries ++ [(name, item)] := by
  induction entries with
  | nil => rfl
  | cons entry rest ih =>
    obtain ⟨other, old⟩ := entry
    by_cases same : other = name
    · subst same
      rw [lookup_cons_self] at unknown
      cases unknown
    · rw [lookup_cons_of_ne (Ne.symm same)] at unknown
      simp [put, same, ih unknown]

/-- Items may be changed before or after one is put. -/
theorem map_put {β : Type} (f : α → β) (entries : List (String × α)) (name : String) (item : α) :
    (put entries name item).map (fun entry => (entry.1, f entry.2)) =
      put (entries.map fun entry => (entry.1, f entry.2)) name (f item) := by
  induction entries with
  | nil => rfl
  | cons entry rest ih =>
    obtain ⟨other, old⟩ := entry
    by_cases same : other = name
    · simp [put, same]
    · simp [put, same, ih]

end Entries

/-- Fields of different names stay as they are. -/
theorem Value.ofEntries_of_nodup {fields : List (String × Value)} (nodup : (fields.map Prod.fst).Nodup) :
    Value.ofEntries fields = .object fields := by
  have added (done : List (String × Value)) (distinct : ((done ++ fields).map Prod.fst).Nodup) :
      fields.foldl (fun fields entry => Entries.put fields entry.1 entry.2) done = done ++ fields := by
    induction fields generalizing done with
    | nil => rw [foldl_nil, append_nil]
    | cons field rest ih =>
      have missing : done.lookup field.1 = none := by
        rw [map_append, map_cons, nodup_append] at distinct
        refine lookup_eq_none_iff.mpr fun entry member => bne_iff_ne.mpr fun same => ?_
        exact distinct.2.2 _ (mem_map_of_mem member) _ mem_cons_self same.symm
      rw [append_cons] at distinct ⊢
      rw [foldl_cons, Entries.put_of_none missing, ih (nodup_cons.mp nodup).2 _ distinct]
  rw [Value.ofEntries, added [] nodup, nil_append]

end ContractLint
