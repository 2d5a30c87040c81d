import ContractLint.Analysis.Interface
import ContractLint.Proofs.Entries
import ContractLint.Proofs.Outcome
import Mathlib.Data.List.Perm.Basic
import Mathlib.Data.String.Basic

/-! # Interfaces in any order

A function is compared with the first one of its name alone. Signatures agree if the names of their types
are the same, so agreeing is an equivalence, and if any two functions of a name disagree, one of them
disagrees with the first. Hence the names that are reported are those of functions that disagree, in
whatever order modules, contracts and functions stand. How often a name is reported depends on the order.
-/

namespace ContractLint.Analysis

open List Program

variable {modules : List Module} {key : String} {f : Function} {known : List (String × Function)}

/-! ## Signatures -/

def Typed (f : Function) : Prop := ∀ parameter ∈ f.parameters, parameter.type.isSome

def typeName (parameter : Parameter) : Option String := parameter.type.map Ty.name

/-- The names of the types of the parameters, and of the type of the result. -/
def signature (f : Function) : List (Option String) × Option String :=
  (f.parameters.map typeName, f.result.map Ty.name)

private theorem resultsAgree_eq (s t : Option Ty) : resultsAgree s t = decide (s.map Ty.name = t.map Ty.name) := by
  cases s <;> cases t <;> simp [resultsAgree]

private theorem parametersAgree_eq {as bs : List Parameter} (typed : ∀ a ∈ as, a.type.isSome)
    (others : ∀ b ∈ bs, b.type.isSome) :
    parametersAgree as bs = .ok (decide (as.map typeName = bs.map typeName)) := by
  induction as generalizing bs with
  | nil => cases bs <;> rfl
  | cons a as ih =>
    cases bs with
    | nil => rfl
    | cons b bs =>
      obtain ⟨first, typed⟩ := forall_mem_cons.mp typed
      obtain ⟨second, others⟩ := forall_mem_cons.mp others
      obtain ⟨s, hs⟩ := Option.isSome_iff_exists.mp first
      obtain ⟨t, ht⟩ := Option.isSome_iff_exists.mp second
      simp only [parametersAgree, hs, ht, ih typed others, map_cons, typeName, Option.map_some,
        List.cons.injEq, Option.some.injEq]
      by_cases same : s.name = t.name
      · simp [same]
      · simp [same, pure, Except.pure]

/-- Signatures are compared by the names in them. -/
theorem signaturesAgree_eq {g : Function} (first : Typed f) (second : Typed g) :
    signaturesAgree f g = .ok (decide (signature f = signature g)) := by
  simp only [signaturesAgree, parametersAgree_eq first second, resultsAgree_eq, Outcome.ok_bind, signature,
    Prod.mk.injEq, ne_eq, ite_not]
  by_cases same : f.parameters.map typeName = g.parameters.map typeName
  · have lengths : f.parameters.length = g.parameters.length := by
      simpa using congrArg List.length same
    simp [same, lengths, pure, Except.pure]
  · simp [same, pure, Except.pure]

/-! ## What modules declare -/

/-- Some contract of the modules declares a public function under its full name. -/
def Declares (modules : List Module) (key : String) (f : Function) : Prop :=
  ∃ m ∈ modules, ∃ c ∈ m.contracts, f ∈ c.functions ∧ f.visibility = .public ∧
    key = c.name ++ "::" ++ f.name

private theorem mem_publicFunctions : (key, f) ∈ publicFunctions modules ↔ Declares modules key f := by
  simp only [publicFunctions, Declares, mem_flatMap, mem_map, mem_filter, decide_eq_true_eq,
    Prod.mk.injEq]
  constructor
  · rintro ⟨m, inModules, c, inModule, g, ⟨inContract, isPublic⟩, rfl, rfl⟩
    exact ⟨m, inModules, c, inModule, inContract, isPublic, rfl⟩
  · rintro ⟨m, inModules, c, inModule, inContract, isPublic, rfl⟩
    exact ⟨m, inModules, c, inModule, f, ⟨inContract, isPublic⟩, rfl, rfl⟩

/-- Two functions are declared under a name, but with different signatures. -/
def Disputed (modules : List Module) (key : String) : Prop :=
  ∃ f g, Declares modules key f ∧ Declares modules key g ∧ signature f ≠ signature g

/-! ## Comparison with the first -/

/-- A function has another signature than the first one of its name. -/
def differs (all : List (String × Function)) (entry : String × Function) : Bool :=
  (all.lookup entry.1).any fun first => signature first ≠ signature entry.2

/-- A later function of a known name is not the first one of any name. -/
theorem differs_append_known {first : Function} (found : known.lookup key = some first) (f : Function)
    (rest : List (String × Function)) : differs (known ++ (key, f) :: rest) = differs (known ++ rest) := by
  funext entry
  rw [differs, differs, lookup_append_known found]

/-- Exactly the functions that differ from the first one of their name are reported. -/
theorem mismatches_eq {functions : List (String × Function)}
    (typed : ∀ entry ∈ known ++ functions, Typed entry.2) :
    mismatches known functions =
      .ok ((functions.filter (differs (known ++ functions))).map fun entry => mismatch entry.1 entry.2) := by
  induction functions generalizing known with
  | nil => rfl
  | cons entry rest ih =>
    obtain ⟨key, f⟩ := entry
    rw [mismatches]
    cases found : known.lookup key with
    | none =>
      -- the function is the first of its name, and known from here on
      have first : (known ++ (key, f) :: rest).lookup key = some f := by
        rw [lookup_append, found, Option.none_or, lookup_cons_self]
      have same : ¬differs (known ++ (key, f) :: rest) (key, f) := by simp [differs, first]
      rw [filter_cons_of_neg same]
      rw [append_cons known (key, f) rest] at typed ⊢
      exact ih typed
    | some first =>
      have known_first : Typed first :=
        typed _ (mem_append_left _ (mem_of_lookup found))
      have own : Typed f := typed (key, f) (by simp)
      have others : ∀ entry ∈ known ++ rest, Typed entry.2 := by
        intro entry member
        apply typed
        obtain earlier | later := mem_append.mp member
        · exact mem_append_left _ earlier
        · exact mem_append_right _ (mem_cons_of_mem _ later)
      have later := differs_append_known found f rest
      have own_differs : differs (known ++ rest) (key, f) = decide (signature first ≠ signature f) := by
        rw [differs, lookup_append, found]
        rfl
      dsimp only
      rw [signaturesAgree_eq known_first own, Outcome.ok_bind, ih others, Outcome.ok_bind, later, filter_cons,
        own_differs]
      by_cases agree : signature first = signature f
      · simp [agree, pure, Except.pure]
      · simp [agree, pure, Except.pure]

/-- If two functions of a name have different signatures, one of them differs from the first. -/
theorem exists_differs_iff {all : List (String × Function)} :
    (∃ f, (key, f) ∈ all ∧ differs all (key, f)) ↔
      ∃ f g, (key, f) ∈ all ∧ (key, g) ∈ all ∧ signature f ≠ signature g := by
  have differs_iff {f first : Function} (found : all.lookup key = some first) :
      differs all (key, f) ↔ signature first ≠ signature f := by
    rw [differs, found, Option.any_some, decide_eq_true_eq]
  have exists_first {f : Function} (member : (key, f) ∈ all) : ∃ first, all.lookup key = some first :=
    exists_lookup_of_mem (mem_map.mpr ⟨_, member, rfl⟩)
  constructor
  · rintro ⟨f, member, differs⟩
    obtain ⟨first, found⟩ := exists_first member
    exact ⟨first, f, mem_of_lookup found, member, (differs_iff found).mp differs⟩
  · rintro ⟨f, g, memberF, memberG, disagree⟩
    obtain ⟨first, found⟩ := exists_first memberF
    by_cases same : signature first = signature f
    · exact ⟨g, memberG, (differs_iff found).mpr (same ▸ disagree)⟩
    · exact ⟨f, memberF, (differs_iff found).mpr same⟩

/-- One of the findings is about functions of a name. -/
def ReportsKey (findings : List Finding) (key : String) : Prop :=
  ∃ finding ∈ findings, finding.id = "interface_mismatch_" ++ key

private theorem reportsKey_map {entries : List (String × Function)} :
    ReportsKey (entries.map fun entry => mismatch entry.1 entry.2) key ↔ ∃ f, (key, f) ∈ entries := by
  constructor
  · rintro ⟨finding, member, id⟩
    obtain ⟨⟨other, f⟩, listed, rfl⟩ := mem_map.mp member
    obtain rfl : other = key := (String.append_right_inj "interface_mismatch_").mp id
    exact ⟨f, listed⟩
  · rintro ⟨f, member⟩
    exact ⟨mismatch key f, mem_map.mpr ⟨(key, f), member, rfl⟩, rfl⟩

/-- The comparison succeeds, and reports the disputed names. -/
theorem interfaceFindings_keys (typed : ∀ key f, Declares modules key f → Typed f) :
    ∃ found, interfaceFindings modules = .ok found ∧ (found ≠ [] ↔ ∃ key, Disputed modules key) ∧
      ∀ key, ReportsKey found key ↔ Disputed modules key := by
  have entries_typed : ∀ entry ∈ [] ++ publicFunctions modules, Typed entry.2 := by
    intro entry member
    exact typed entry.1 entry.2 (mem_publicFunctions.mp member)
  have keys (key : String) :
      (∃ f, (key, f) ∈ (publicFunctions modules).filter (differs (publicFunctions modules))) ↔
        Disputed modules key := by
    simp only [mem_filter]
    rw [exists_differs_iff]
    simp only [mem_publicFunctions, Disputed]
  refine ⟨_, mismatches_eq entries_typed, ?_, fun key => reportsKey_map.trans (keys key)⟩
  constructor
  · intro some
    obtain ⟨_, member⟩ := exists_mem_of_ne_nil _ some
    obtain ⟨⟨key, f⟩, listed, -⟩ := mem_map.mp member
    exact ⟨key, (keys key).mp ⟨f, listed⟩⟩
  · rintro ⟨key, disputed⟩
    obtain ⟨_, member, -⟩ := reportsKey_map.mpr ((keys key).mpr disputed)
    exact ne_nil_of_mem member

/-! ## Any order -/

/-- Two lists have the same members in any order, up to a relation. -/
def Shuffled {α : Type} (related : α → α → Prop) : List α → List α → Prop :=
  Relation.Comp List.Perm (List.Forall₂ related)

private theorem Shuffled.of_perm {α : Type} {related : α → α → Prop} {xs ys : List α} (perm : xs.Perm ys)
    (refl : ∀ x, related x x) : Shuffled related xs ys :=
  ⟨ys, perm, forall₂_same.mpr fun x _ => refl x⟩

private theorem Shuffled.exists_mem_iff {α : Type} {related : α → α → Prop} {xs ys : List α}
    {property : α → Prop} (shuffled : Shuffled related xs ys)
    (same : ∀ x y, related x y → (property x ↔ property y)) :
    (∃ x ∈ xs, property x) ↔ ∃ y ∈ ys, property y := by
  obtain ⟨middle, perm, fits⟩ := shuffled
  simp only [perm.mem_iff]
  clear perm
  induction fits with
  | nil => simp
  | cons related _ ih => simp only [exists_mem_cons_iff, same _ _ related, ih]

/-- Two contracts have the same name, and the same functions in any order. -/
structure SameContract (c d : Contract) : Prop where
  name : c.name = d.name
  functions : c.functions.Perm d.functions

/-- Two lists of modules have the same contracts, all in any order. -/
def Rearranged : List Module → List Module → Prop :=
  Shuffled fun m n => Shuffled SameContract m.contracts n.contracts

private theorem Rearranged.declares_iff {others : List Module} (rearranged : Rearranged modules others) :
    Declares modules key f ↔ Declares others key f := by
  apply rearranged.exists_mem_iff
  intro m n contracts
  apply contracts.exists_mem_iff
  intro c d same
  rw [same.functions.mem_iff, same.name]

/-- If all parameters in contracts have types, the comparison of interfaces succeeds, and a name is reported
exactly if two public functions are declared under it whose signatures do not agree. So whether anything is
reported, and about which names, is the same for the same contracts in any order: of the modules, of the
contracts in a module and of the functions in a contract. -/
theorem mismatch_reported_iff {modules : List Module}
    (typed : ∀ m ∈ modules, ∀ c ∈ m.contracts, ∀ f ∈ c.functions, Typed f) :
    ∃ found, interfaceFindings modules = .ok found ∧
      (found ≠ [] ↔ ∃ key, Disputed modules key) ∧
      (∀ key, ReportsKey found key ↔ Disputed modules key) ∧
      (∀ key f g, Declares modules key f → Declares modules key g →
        signaturesAgree f g = .ok (decide (signature f = signature g))) ∧
      ∀ others, Rearranged modules others → ∃ again, interfaceFindings others = .ok again ∧
        (again ≠ [] ↔ found ≠ []) ∧ ∀ key, ReportsKey again key ↔ ReportsKey found key := by
  have declared (key : String) (f : Function) (declares : Declares modules key f) : Typed f := by
    obtain ⟨m, inModules, c, inModule, inContract, -⟩ := declares
    exact typed m inModules c inModule f inContract
  obtain ⟨found, done, some, keys⟩ := interfaceFindings_keys declared
  refine ⟨found, done, some, keys, ?_, ?_⟩
  · intro key f g first second
    exact signaturesAgree_eq (declared key f first) (declared key g second)
  · intro others rearranged
    have disputed (key : String) : Disputed others key ↔ Disputed modules key := by
      simp only [Disputed, rearranged.declares_iff]
    obtain ⟨again, redone, any, names⟩ := interfaceFindings_keys fun key f declares =>
      declared key f (rearranged.declares_iff.mpr declares)
    refine ⟨again, redone, ?_, ?_⟩
    · rw [any, some]
      exact exists_congr disputed
    · intro key
      rw [names, keys, disputed]

/-- A public function with a parameter of each of some types. -/
def taker (types : List String) : Function where
  name := "f"
  parameters := types.map fun name => ⟨.text "x", some { name }⟩
  visibility := .public

/-- A module with a contract that declares such a function. -/
def taking (types : List String) : Module where
  name := "m"
  contracts := [{ name := "C", functions := [taker types] }]

/-- Of three modules one disagrees with the others. It is compared with both if it comes first, and with one
if it comes last; the name is reported all the same. -/
theorem mismatch_reported_iff_taking :
    let modules := [taking ["int"], taking [], taking []]
    let others := [taking [], taking [], taking ["int"]]
    Rearranged modules others ∧ Disputed modules "C::f" ∧
      ∃ found again, interfaceFindings modules = .ok found ∧ interfaceFindings others = .ok again ∧
        ReportsKey found "C::f" ∧ ReportsKey again "C::f" := by
  intro modules others
  have typed : ∀ m ∈ modules, ∀ c ∈ m.contracts, ∀ f ∈ c.functions, Typed f := by
    simp [modules, taking, taker, Typed]
  have rearranged : Rearranged modules others :=
    .of_perm (show List.Perm ([taking ["int"]] ++ [taking [], taking []]) _ from perm_append_comm)
      fun _ => .of_perm (.refl _) fun _ => ⟨rfl, .refl _⟩
  have declares {types : List String} (listed : taking types ∈ modules) :
      Declares modules "C::f" (taker types) :=
    ⟨_, listed, _, mem_singleton_self _, mem_singleton_self _, rfl, rfl⟩
  have disputed : Disputed modules "C::f" :=
    ⟨taker ["int"], taker [], declares (by simp [modules]), declares (by simp [modules]), by decide⟩
  obtain ⟨found, done, -, keys, -, rearrange⟩ := mismatch_reported_iff typed
  obtain ⟨again, redone, -, same⟩ := rearrange others rearranged
  have reported := (keys "C::f").mpr disputed
  exact ⟨rearranged, disputed, found, again, done, redone, reported, (same _).mpr reported⟩

end ContractLint.Analysis
