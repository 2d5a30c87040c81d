import ContractLint.Flow.Control
import ContractLint.Proofs.Program.Nesting
import Mathlib.Data.List.Chain
import Mathlib.Order.Bounds.Defs

/-! # Depth of nesting

The depth of nesting is found by going through all statements with the greatest depth met so far, which is handed on
from each statement to the next (`deepen`). It is the length of a longest chain of branches and loops, each inside the
one before (`nesting_isGreatest`): what was met before a block has no bearing on what the block adds.
-/

namespace ContractLint.Program

open List

variable {s : Stmt} {block : List Stmt}

namespace Stmt

/-- The second statement stands in one of the blocks of the first. -/
def Holds (outer inner : Stmt) : Prop := ∃ side block, outer.held side = some block ∧ inner ∈ block

/-- A branch or a loop by kind, with a block that is not empty. -/
def Nests (s : Stmt) : Prop :=
  s.kind ∈ [.branch, .whileLoop, .forLoop] ∧ ∃ side block, s.held side = some block ∧ block ≠ []

/-- The statements in the blocks of a statement, one block after the other. -/
def inside : Stmt → List Stmt
  | branch _ _ thenBlock elseBlock => thenBlock ++ elseBlock
  | loop _ _ body => body
  | _ => []

private theorem inside_leaf (leaf : s.isLeaf) : s.inside = [] := by
  cases s with
  | branch => contradiction
  | loop => contradiction
  | assign | ret | plain => rfl

theorem holds_iff {outer inner : Stmt} : outer.Holds inner ↔ inner ∈ outer.inside := by
  constructor
  · rintro ⟨side, block, held, member⟩
    cases outer <;> cases side <;> cases held <;> simp [inside, member]
  · intro member
    cases outer with
    | branch =>
      obtain first | second := mem_append.mp member
      · exact ⟨.thenBlock, _, rfl, first⟩
      · exact ⟨.elseBlock, _, rfl, second⟩
    | loop => exact ⟨.body, _, rfl, member⟩
    | assign | ret | plain => contradiction

private theorem nests_iff : s.Nests ↔ s.inside ≠ [] := by
  constructor
  · rintro ⟨-, side, block, held, some⟩
    obtain ⟨inner, member⟩ := exists_mem_of_ne_nil block some
    exact ne_nil_of_mem (holds_iff.mp ⟨side, block, held, member⟩)
  · intro some
    obtain ⟨inner, member⟩ := exists_mem_of_ne_nil _ some
    obtain ⟨side, block, held, member⟩ := holds_iff.mpr member
    refine ⟨?_, side, block, held, ne_nil_of_mem member⟩
    cases s with
    | branch | loop => simp [kind]
    | assign | ret | plain => contradiction

end Stmt

/-- What holds of the empty list, and of a list whenever it holds of its rest and of the statements inside its first
statement, holds of every list. -/
theorem insideInduction {motive : List Stmt → Prop} (nil : motive [])
    (cons : ∀ s rest, motive s.inside → motive rest → motive (s :: rest)) (block : List Stmt) : motive block := by
  -- The blocks of a branch are looked at as one list, so each block is followed by any other list.
  suffices ∀ more, motive more → motive (block ++ more) by simpa using this [] nil
  induction block using blockInduction with
  | nil => exact fun more holds => holds
  | branch id condition thenBlock elseBlock rest ihThen ihElse ihRest =>
    intro more holds
    have inElse : motive elseBlock := by simpa using ihElse [] nil
    exact cons _ _ (ihThen elseBlock inElse) (ihRest more holds)
  | loop id condition body rest ihBody ihRest =>
    intro more holds
    have inBody : motive body := by simpa using ihBody [] nil
    exact cons _ _ inBody (ihRest more holds)
  | leaf s rest leaf ihRest =>
    intro more holds
    refine cons _ _ ?_ (ihRest more holds)
    rw [Stmt.inside_leaf leaf]
    exact nil

/-- A chain of branches and loops: the first stands in the block, and each further one in a block of the one before. -/
structure IsNest (block chain : List Stmt) : Prop where
  start : ∀ s ∈ chain.head?, s ∈ block
  nests : ∀ s ∈ chain, s.Nests
  linked : chain.IsChain Stmt.Holds

namespace IsNest

variable {block other chain : List Stmt} {s : Stmt}

theorem nil : IsNest block [] := ⟨by simp, by simp, .nil⟩

theorem cons_iff : IsNest block (s :: chain) ↔ s ∈ block ∧ s.inside ≠ [] ∧ IsNest s.inside chain := by
  constructor
  · rintro ⟨start, nests, linked⟩
    obtain ⟨next, linked⟩ := isChain_cons.mp linked
    obtain ⟨here, nests⟩ := forall_mem_cons.mp nests
    exact ⟨start s rfl, Stmt.nests_iff.mp here, fun inner first => Stmt.holds_iff.mp (next inner first), nests,
      linked⟩
  · rintro ⟨member, some, start, nests, linked⟩
    have next : ∀ inner ∈ chain.head?, s.Holds inner := fun inner first => Stmt.holds_iff.mpr (start inner first)
    exact ⟨by simp [member], forall_mem_cons.mpr ⟨Stmt.nests_iff.mpr some, nests⟩,
      isChain_cons.mpr ⟨next, linked⟩⟩

theorem mono (nest : IsNest block chain) (part : block ⊆ other) : IsNest other chain :=
  ⟨fun s first => part (nest.start s first), nest.nests, nest.linked⟩

end IsNest

end ContractLint.Program

namespace ContractLint.Flow

open List Program

/-! ## The greatest depth met so far -/

private theorem deepen_append (deepest depth : Nat) (first second : List Stmt) :
    deepen deepest depth (first ++ second) = deepen (deepen deepest depth first) depth second := by
  induction first generalizing deepest with
  | nil => rfl
  | cons s rest ih => exact ih _

/-- A statement hands on the greatest depth of the statements inside it, if there are any. -/
theorem deepenOf_eq (deepest depth : Nat) (s : Stmt) :
    deepenOf deepest depth s =
      if s.inside = [] then deepest else deepen (max deepest (depth + 1)) (depth + 1) s.inside := by
  cases s with
  | branch id condition thenBlock elseBlock => simp [deepenOf, Stmt.inside, deepen_append]
  | loop id condition body => by_cases none : body = [] <;> simp [deepenOf, Stmt.inside, none]
  | assign | ret | plain => rfl

/-- What was met before a list and what the list adds do not mix. -/
theorem deepen_eq (block : List Stmt) {deepest depth : Nat} (reached : depth ≤ deepest) :
    deepen deepest depth block = max deepest (depth + nesting block) := by
  induction block using insideInduction generalizing deepest depth with
  | nil => exact (Nat.max_eq_left reached).symm
  | cons s rest ihInside ihRest =>
    rw [nesting, deepen, deepen, deepenOf_eq, deepenOf_eq]
    split
    next =>
      rw [ihRest reached, ihRest (Nat.le_refl 0)]
      omega
    next =>
      rw [ihInside (Nat.le_max_right _ _), ihInside (Nat.le_max_right _ _), ihRest (by omega), ihRest (by omega)]
      omega

/-- The nesting of a block is the greatest of its statements. -/
theorem nesting_cons (s : Stmt) (rest : List Stmt) :
    nesting (s :: rest) = max (if s.inside = [] then 0 else nesting s.inside + 1) (nesting rest) := by
  rw [nesting, deepen, deepenOf_eq, deepen_eq rest (Nat.zero_le _)]
  split
  next => rw [Nat.zero_add]
  next =>
    rw [deepen_eq _ (Nat.le_max_right _ _)]
    omega

/-! ## Chains -/

private theorem lt_nesting_of_mem (member : s ∈ block) (some : s.inside ≠ []) :
    nesting s.inside < nesting block := by
  induction block with
  | nil => contradiction
  | cons first rest ih =>
    rw [nesting_cons]
    obtain rfl | later := mem_cons.mp member
    · rw [if_neg some]
      omega
    · have inside := ih later
      omega

private theorem length_le_nesting {chain : List Stmt} (nest : IsNest block chain) :
    chain.length ≤ nesting block := by
  induction chain generalizing block with
  | nil => exact Nat.zero_le _
  | cons s rest ih =>
    obtain ⟨member, some, inner⟩ := IsNest.cons_iff.mp nest
    exact Nat.lt_of_le_of_lt (ih inner) (lt_nesting_of_mem member some)

private theorem exists_nest (block : List Stmt) : ∃ chain, IsNest block chain ∧ chain.length = nesting block := by
  induction block using insideInduction with
  | nil => exact ⟨[], .nil, rfl⟩
  | cons s rest ihInside ihRest =>
    obtain ⟨inner, nested, deep⟩ := ihInside
    obtain ⟨later, other, wide⟩ := ihRest
    have after : IsNest (s :: rest) later := other.mono (subset_cons_self s rest)
    rw [nesting_cons]
    split
    next => exact ⟨later, after, by omega⟩
    next some =>
      obtain less | more := Nat.le_total (nesting s.inside + 1) (nesting rest)
      · exact ⟨later, after, by omega⟩
      · refine ⟨s :: inner, IsNest.cons_iff.mpr ⟨mem_cons_self, some, nested⟩, ?_⟩
        rw [length_cons]
        omega

/-- The depth of nesting of a function is the length of a longest chain of branches and loops in its body, each with a
block that is not empty and each further one in a block of the one before. Wherever the body stood, and whatever depth
had been met before it, it would add the same. -/
theorem nesting_isGreatest (f : Function) :
    IsGreatest {length | ∃ chain, IsNest f.body chain ∧ chain.length = length} (nesting f.body) ∧
      ∀ deepest depth, deepen (max deepest depth) depth f.body = max deepest (depth + nesting f.body) := by
  refine ⟨⟨exists_nest f.body, ?_⟩, fun deepest depth => ?_⟩
  · rintro length ⟨chain, nest, rfl⟩
    exact length_le_nesting nest
  · rw [deepen_eq f.body (Nat.le_max_right deepest depth)]
    omega

end ContractLint.Flow
