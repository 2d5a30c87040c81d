import ContractLint.Program.Statement

/-! # Statements at any depth

A block holds statements, and its branches and loops hold further blocks. `unnest` lists the
statements of a block at every depth, `Whole` says that none of them is a branch or loop without its
blocks, and `blockInduction` is the induction that follows both the rest of a block and the blocks
inside its first statement.

Equal statements may stand in different places of a block. An occurrence names a place: the list in
which the statement stands, found by entering the blocks that hold it, and its position there.
-/

namespace ContractLint.Program

open List

variable {condition : Option Expr} {rest : List Stmt} {id : String} {s : Stmt} {motive p : List Stmt → Prop}

namespace Stmt

/-- A statement that holds no blocks. -/
def isLeaf : Stmt → Bool
  | branch .. => false
  | loop .. => false
  | assign .. => true
  | ret .. => true
  | plain .. => true

def decides (s : Stmt) : Bool := s.kind = .branch || s.kind = .whileLoop

/-- If the statement is a branch or loop by kind, then it holds its blocks. -/
def holdsBlocks (s : Stmt) : Bool := !(s.decides && s.isLeaf)

/-- A branch whose second block is missing or empty. -/
def isOneWay : Stmt → Bool
  | branch _ _ _ elseBlock => elseBlock.isEmpty
  | _ => false

/-- A branch whose second block has statements. -/
def isTwoWay : Stmt → Bool
  | branch _ _ _ elseBlock => !elseBlock.isEmpty
  | _ => false

/-- A loop that holds its body. -/
def isLoop : Stmt → Bool
  | loop .. => true
  | _ => false

end Stmt

mutual

/-- A statement and the statements inside it, each before those inside it. -/
def unnestOf : Stmt → List Stmt
  | .branch id condition thenBlock elseBlock =>
    .branch id condition thenBlock elseBlock :: (unnest thenBlock ++ unnest elseBlock)
  | .loop id condition body => .loop id condition body :: unnest body
  | .assign id target value => [.assign id target value]
  | .ret id value => [.ret id value]
  | .plain id kind => [.plain id kind]
termination_by structural s => s

/-- The statements of a block at any depth. -/
def unnest : List Stmt → List Stmt
  | [] => []
  | s :: rest => unnestOf s ++ unnest rest
termination_by structural block => block

end

/-- Every branch and loop of a block, at any depth, holds its blocks. -/
def Whole (block : List Stmt) : Prop := ∀ s ∈ unnest block, s.holdsBlocks

instance (block : List Stmt) : Decidable (Whole block) := inferInstanceAs (Decidable (∀ _ ∈ _, _))

@[simp] theorem unnest_nil : unnest [] = [] := rfl

@[simp] theorem unnest_branch (id : String) (condition : Option Expr) (thenBlock elseBlock rest : List Stmt) :
    unnest (.branch id condition thenBlock elseBlock :: rest) =
      .branch id condition thenBlock elseBlock ::
        (unnest thenBlock ++ unnest elseBlock ++ unnest rest) := rfl

@[simp] theorem unnest_loop (id : String) (condition : Option Expr) (body rest : List Stmt) :
    unnest (.loop id condition body :: rest) =
      .loop id condition body :: (unnest body ++ unnest rest) := rfl

theorem unnest_leaf (leaf : s.isLeaf) (rest : List Stmt) : unnest (s :: rest) = s :: unnest rest := by
  cases s with
  | branch => contradiction
  | loop => contradiction
  | assign | ret | plain => rfl

theorem whole_branch {thenBlock elseBlock : List Stmt} :
    Whole (.branch id condition thenBlock elseBlock :: rest) ↔
      Whole thenBlock ∧ Whole elseBlock ∧ Whole rest := by
  have holds : (Stmt.branch id condition thenBlock elseBlock).holdsBlocks := rfl
  simp only [Whole, unnest_branch, forall_mem_cons, forall_mem_append, holds, true_and,
    and_assoc]

theorem whole_loop {body : List Stmt} : Whole (.loop id condition body :: rest) ↔ Whole body ∧ Whole rest := by
  have holds : (Stmt.loop id condition body).holdsBlocks := rfl
  simp only [Whole, unnest_loop, forall_mem_cons, forall_mem_append, holds, true_and]

theorem whole_leaf (leaf : s.isLeaf) : Whole (s :: rest) ↔ s.decides = false ∧ Whole rest := by
  simp only [Whole, unnest_leaf leaf, forall_mem_cons, Stmt.holdsBlocks, leaf, Bool.and_true,
    Bool.not_eq_true']

/-! ## Induction -/

mutual

private theorem blockInductionOf (nil : motive [])
    (branch : ∀ id condition thenBlock elseBlock rest, motive thenBlock → motive elseBlock →
      motive rest → motive (.branch id condition thenBlock elseBlock :: rest))
    (loop : ∀ id condition body rest, motive body → motive rest →
      motive (.loop id condition body :: rest))
    (leaf : ∀ s rest, s.isLeaf → motive rest → motive (s :: rest)) :
    (s : Stmt) → ∀ rest, motive rest → motive (s :: rest)
  | .branch id condition thenBlock elseBlock, rest, holds =>
    branch id condition thenBlock elseBlock rest (blockInduction nil branch loop leaf thenBlock)
      (blockInduction nil branch loop leaf elseBlock) holds
  | .loop id condition body, rest, holds =>
    loop id condition body rest (blockInduction nil branch loop leaf body) holds
  | .assign id target value, rest, holds => leaf (.assign id target value) rest rfl holds
  | .ret id value, rest, holds => leaf (.ret id value) rest rfl holds
  | .plain id kind, rest, holds => leaf (.plain id kind) rest rfl holds

/-- What holds of the empty block, and of a block whenever it holds of its rest and of the blocks
inside its first statement, holds of every block. -/
@[elab_as_elim]
theorem blockInduction (nil : motive [])
    (branch : ∀ id condition thenBlock elseBlock rest, motive thenBlock → motive elseBlock →
      motive rest → motive (.branch id condition thenBlock elseBlock :: rest))
    (loop : ∀ id condition body rest, motive body → motive rest →
      motive (.loop id condition body :: rest))
    (leaf : ∀ s rest, s.isLeaf → motive rest → motive (s :: rest)) :
    (block : List Stmt) → motive block
  | [] => nil
  | s :: rest =>
    blockInductionOf nil branch loop leaf s rest (blockInduction nil branch loop leaf rest)

end

/-! ## Occurrences -/

/-- The blocks that a statement may hold. -/
inductive Side where
  | thenBlock
  | elseBlock
  | body
deriving DecidableEq

/-- The block that a statement holds on a side. -/
def Stmt.held : Stmt → Side → Option (List Stmt)
  | branch _ _ thenBlock _, .thenBlock => some thenBlock
  | branch _ _ _ elseBlock, .elseBlock => some elseBlock
  | loop _ _ body, .body => some body
  | _, _ => none

theorem Stmt.held_leaf (leaf : s.isLeaf) (side : Side) : s.held side = none := by
  cases s with
  | branch => contradiction
  | loop => contradiction
  | assign | ret | plain => rfl

theorem Stmt.forall_held_branch {thenBlock elseBlock : List Stmt} :
    (∀ side inner, (branch id condition thenBlock elseBlock).held side = some inner → p inner) ↔
      p thenBlock ∧ p elseBlock := by
  refine ⟨fun all => ⟨all .thenBlock _ rfl, all .elseBlock _ rfl⟩, ?_⟩
  rintro ⟨inThen, inElse⟩ side inner held
  cases side <;> cases held
  · exact inThen
  · exact inElse

theorem Stmt.forall_held_loop {body : List Stmt} :
    (∀ side inner, (loop id condition body).held side = some inner → p inner) ↔ p body := by
  refine ⟨fun all => all .body _ rfl, fun inBody side inner held => ?_⟩
  cases side <;> cases held
  exact inBody

/-- The way to a list inside a block: at each level, the position of the statement to enter, and the
side on which to enter it. -/
abbrev Address := List (Nat × Side)

def listAt (block : List Stmt) : Address → Option (List Stmt)
  | [] => some block
  | (position, side) :: rest => do
    let s ← block[position]?
    let inner ← s.held side
    listAt inner rest

/-- The place of a statement inside a block. -/
@[ext]
structure Occurrence where
  /-- Where the list stands that the statement is in. -/
  address : Address
  /-- The position of the statement in that list. -/
  index : Nat
deriving DecidableEq

variable {place : Occurrence}

/-- The statement at an occurrence inside a block. -/
def stmtAt (block : List Stmt) (place : Occurrence) : Option Stmt := do
  let list ← listAt block place.address
  list[place.index]?

namespace Occurrence

/-- The first statement of a block. -/
def first : Occurrence := ⟨[], 0⟩

/-- An occurrence in a block that the first statement holds, as one in the whole block. -/
def inside (side : Side) (place : Occurrence) : Occurrence :=
  ⟨(0, side) :: place.address, place.index⟩

/-- An occurrence in the rest of a block, as one in the whole block. -/
def later : Occurrence → Occurrence
  | ⟨[], index⟩ => ⟨[], index + 1⟩
  | ⟨(position, side) :: rest, index⟩ => ⟨(position + 1, side) :: rest, index⟩

/-- An occurrence is the first statement, inside of it or later. -/
theorem shape (place : Occurrence) :
    place = first ∨ (∃ side inner, place = inside side inner) ∨ ∃ rest, place = later rest := by
  obtain ⟨address, index⟩ := place
  cases address with
  | nil =>
    cases index with
    | zero => exact .inl rfl
    | succ index => exact .inr (.inr ⟨⟨[], index⟩, rfl⟩)
  | cons step rest =>
    obtain ⟨position, side⟩ := step
    cases position with
    | zero => exact .inr (.inl ⟨side, ⟨rest, index⟩, rfl⟩)
    | succ position => exact .inr (.inr ⟨⟨(position, side) :: rest, index⟩, rfl⟩)

@[simp] theorem inside_inj {side other : Side} {next : Occurrence} :
    inside side place = inside other next ↔ side = other ∧ place = next := by
  simp [inside, Occurrence.ext_iff, and_assoc]

@[simp] theorem later_inj {next : Occurrence} : later place = later next ↔ place = next := by
  obtain ⟨_ | ⟨⟨_, _⟩, _⟩, _⟩ := place <;> obtain ⟨_ | ⟨⟨_, _⟩, _⟩, _⟩ := next <;> simp [later]

theorem inside_injective (side : Side) : Function.Injective (inside side) :=
  fun _ _ same => (inside_inj.mp same).2

theorem later_injective : Function.Injective later := fun _ _ => later_inj.mp

@[simp] theorem inside_ne_first (side : Side) (place : Occurrence) : inside side place ≠ first := by
  simp [first, inside]

@[simp] theorem later_ne_first (place : Occurrence) : later place ≠ first := by
  obtain ⟨_ | ⟨⟨_, _⟩, _⟩, _⟩ := place <;> simp [first, later]

@[simp] theorem later_ne_inside (side : Side) (place other : Occurrence) : later place ≠ inside side other := by
  obtain ⟨_ | ⟨⟨_, _⟩, _⟩, _⟩ := place <;> simp [inside, later]

@[simp] theorem inside_ne_later (side : Side) (place other : Occurrence) :
    inside side other ≠ later place := (later_ne_inside side place other).symm

/-- The place right after an occurrence in its list. -/
def next (place : Occurrence) : Occurrence := ⟨place.address, place.index + 1⟩

@[simp] theorem next_first : first.next = later first := rfl

@[simp] theorem next_inside (side : Side) (place : Occurrence) :
    (inside side place).next = inside side place.next := rfl

@[simp] theorem next_later (place : Occurrence) : (later place).next = later place.next := by
  obtain ⟨_ | ⟨⟨_, _⟩, _⟩, _⟩ := place <;> rfl

/-- Two occurrences stand in one list, in this order. -/
def Precedes (place next : Occurrence) : Prop :=
  place.address = next.address ∧ place.index < next.index

theorem Precedes.inside {next : Occurrence} (precedes : place.Precedes next) (side : Side) :
    (inside side place).Precedes (inside side next) :=
  ⟨congrArg ((0, side) :: ·) precedes.1, precedes.2⟩

theorem Precedes.later {next : Occurrence} (precedes : place.Precedes next) :
    (later place).Precedes (later next) := by
  obtain ⟨address, index⟩ := place
  obtain ⟨other, position⟩ := next
  obtain ⟨same, smaller⟩ := precedes
  dsimp only at same smaller
  subst same
  cases address with
  | nil => exact ⟨rfl, Nat.succ_lt_succ smaller⟩
  | cons step rest => exact ⟨rfl, smaller⟩

theorem first_precedes_later (top : place.address = []) : first.Precedes (later place) := by
  obtain ⟨address, index⟩ := place
  obtain rfl : address = [] := top
  exact ⟨rfl, Nat.succ_pos index⟩

theorem address_later (top : place.address = []) : (later place).address = [] := by
  obtain ⟨address, index⟩ := place
  obtain rfl : address = [] := top
  rfl

/-- Occurrences that follow each other in one list are told by their positions in it. -/
theorem exists_address {places : List Occurrence} (ordered : places.Pairwise Precedes) :
    ∃ (address : Address) (indices : List Nat), indices.Pairwise (· < ·) ∧
      places = indices.map (Occurrence.mk address) := by
  cases places with
  | nil => exact ⟨[], [], .nil, rfl⟩
  | cons place rest =>
    obtain ⟨before, -⟩ := pairwise_cons.mp ordered
    refine ⟨place.address, (place :: rest).map index, ?_, ?_⟩
    · exact pairwise_map.mpr (ordered.imp And.right)
    · rw [map_map, map_cons]
      congr 1
      refine (map_id rest).symm.trans (map_congr_left fun other member => ?_)
      simp [(before other member).1]

end Occurrence

@[simp] theorem stmtAt_nil (place : Occurrence) : stmtAt [] place = none := by
  obtain ⟨_ | ⟨⟨_, _⟩, _⟩, _⟩ := place <;> rfl

@[simp] theorem stmtAt_first (s : Stmt) (rest : List Stmt) : stmtAt (s :: rest) .first = some s := rfl

@[simp] theorem stmtAt_inside (s : Stmt) (rest : List Stmt) (side : Side) (place : Occurrence) :
    stmtAt (s :: rest) (.inside side place) = (s.held side).bind fun inner => stmtAt inner place := by
  cases held : s.held side <;> simp [stmtAt, listAt, Occurrence.inside, held]

@[simp] theorem stmtAt_later (s : Stmt) (rest : List Stmt) (place : Occurrence) :
    stmtAt (s :: rest) place.later = stmtAt rest place := by
  obtain ⟨_ | ⟨⟨_, _⟩, _⟩, _⟩ := place <;> simp [stmtAt, listAt, Occurrence.later]

end ContractLint.Program
