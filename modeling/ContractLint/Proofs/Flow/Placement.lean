import ContractLint.Proofs.Flow.Run
import Mathlib.Data.List.Nodup

/-! # Every statement in one block

`homes` lists the occurrences of the statements of a function with the blocks into which they are put.
Each occurrence has one home. The occurrences that share a home stand in one list of the function, in
the order in which the block holds them.
-/

namespace ContractLint.Flow

open List Program

variable {lift : Occurrence → Occurrence} {placed : List (String × Stmt)} {name current : String}
  {f : Function} {block : List Stmt} {s : Stmt} {home other : String × Occurrence}

/-! ## Homes -/

/-- Homes in a part of a block, as homes in the whole block. -/
def carry (lift : Occurrence → Occurrence) (homes : List (String × Occurrence)) : List (String × Occurrence) :=
  homes.map fun home => (home.1, lift home.2)

mutual

/-- The occurrences in a block that has one statement, each with the name of its home. -/
def homesOf (current : String) : Stmt → List (String × Occurrence)
  | .branch _ _ thenBlock elseBlock =>
    (current, .first) :: (carry (.inside .thenBlock) (homes (below current .thenWay) thenBlock)
      ++ carry (.inside .elseBlock) (homes (below current .elseWay) elseBlock))
  | .loop _ _ body =>
    (below current .header, .first) :: carry (.inside .body) (homes (below current .body) body)
  | .assign .. => [(current, .first)]
  | .ret .. => [(current, .first)]
  | .plain .. => [(current, .first)]
termination_by structural s => s

/-- The occurrences in a block, each with the name of its home. -/
def homes (current : String) : List Stmt → List (String × Occurrence)
  | [] => []
  | s :: rest => homesOf current s ++ carry .later (homes (afterOf current s) rest)
termination_by structural block => block

end

@[simp] theorem homes_nil (current : String) : homes current [] = [] := rfl

theorem homes_branch (current id : String) (condition : Option Expr) (thenBlock elseBlock rest : List Stmt) :
    homes current (.branch id condition thenBlock elseBlock :: rest) =
      (current, .first) :: (carry (.inside .thenBlock) (homes (below current .thenWay) thenBlock)
        ++ carry (.inside .elseBlock) (homes (below current .elseWay) elseBlock)
        ++ carry .later (homes (below current .merge) rest)) := rfl

theorem homes_loop (current id : String) (condition : Option Expr) (body rest : List Stmt) :
    homes current (.loop id condition body :: rest) =
      (below current .header, .first) ::
        (carry (.inside .body) (homes (below current .body) body)
        ++ carry .later (homes (below current .exit) rest)) := rfl

theorem homes_leaf (leaf : s.isLeaf) (current : String) (rest : List Stmt) :
    homes current (s :: rest) = (current, .first) :: carry .later (homes current rest) := by
  cases s with
  | branch => contradiction
  | loop => contradiction
  | assign | ret | plain => rfl

theorem map_snd_carry (lift : Occurrence → Occurrence) (homes : List (String × Occurrence)) :
    (carry lift homes).map Prod.snd = (homes.map Prod.snd).map lift := by
  simp [carry]

theorem mem_carry {homes : List (String × Occurrence)} {place : Occurrence} :
    (name, place) ∈ carry lift homes ↔ ∃ inner, (name, inner) ∈ homes ∧ lift inner = place := by
  simp only [carry, mem_map, Prod.mk.injEq]
  constructor
  · rintro ⟨⟨_, inner⟩, known, rfl, same⟩
    exact ⟨inner, known, same⟩
  · rintro ⟨inner, known, same⟩
    exact ⟨(name, inner), known, rfl, same⟩

/-! ## Homes are where building puts the statements -/

/-- The statements put into blocks for some statements, each with the name of its block. -/
def placements (current : String) (block : List Stmt) : List (String × Stmt) :=
  (moves current block).flatMap Move.placed

theorem placements_branch (current id : String) (condition : Option Expr) (thenBlock elseBlock rest : List Stmt) :
    placements current (.branch id condition thenBlock elseBlock :: rest) =
      (current, .branch id condition thenBlock elseBlock) ::
        (placements (below current .thenWay) thenBlock
        ++ placements (below current .elseWay) elseBlock
        ++ placements (below current .merge) rest) := by
  cases elseBlock <;> simp [placements, moves_branch, branchMoves, mergeMoves, Move.placed]

theorem placements_loop (current id : String) (condition : Option Expr) (body rest : List Stmt) :
    placements current (.loop id condition body :: rest) =
      (below current .header, .loop id condition body) ::
        (placements (below current .body) body ++ placements (below current .exit) rest) := by
  simp [placements, moves_loop, loopMoves, Move.placed]

theorem placements_leaf (leaf : s.isLeaf) (current : String) (rest : List Stmt) :
    placements current (s :: rest) = (current, s) :: placements current rest := by
  have one : (leafMoves current s).flatMap Move.placed = [(current, s)] := by
    simp only [leafMoves]
    split <;> rfl
  rw [placements, moves_leaf leaf, flatMap_append, one]
  rfl

/-- The statement at each occurrence is put into its home, and no statement is put elsewhere. -/
theorem homes_placements (current : String) (block : List Stmt) :
    (homes current block).map (fun home => (home.1, stmtAt block home.2)) =
      (placements current block).map fun placed => (placed.1, some placed.2) := by
  induction block using blockInduction generalizing current with
  | nil => rfl
  | branch id condition thenBlock elseBlock rest ihThen ihElse ihRest =>
    simp only [homes_branch, placements_branch, map_cons, map_append, carry, map_map,
      ← ihThen, ← ihElse, ← ihRest, stmtAt_first, Function.comp_def, stmtAt_inside, stmtAt_later]
    rfl
  | loop id condition body rest ihBody ihRest =>
    simp only [homes_loop, placements_loop, map_cons, map_append, carry, map_map,
      ← ihBody, ← ihRest, stmtAt_first, Function.comp_def, stmtAt_inside, stmtAt_later]
    rfl
  | leaf s rest leaf ihRest =>
    simp only [homes_leaf leaf, placements_leaf leaf, map_cons, carry, map_map, ← ihRest,
      stmtAt_first, Function.comp_def, stmtAt_later]

/-! ## Each occurrence has one home -/

/-- The occurrences that have a home, in the order in which they get it. -/
def housed (current : String) (block : List Stmt) : List Occurrence :=
  (homes current block).map Prod.snd

theorem housed_branch (current id : String) (condition : Option Expr) (thenBlock elseBlock rest : List Stmt) :
    housed current (.branch id condition thenBlock elseBlock :: rest) =
      .first :: ((housed (below current .thenWay) thenBlock).map (.inside .thenBlock)
        ++ (housed (below current .elseWay) elseBlock).map (.inside .elseBlock)
        ++ (housed (below current .merge) rest).map .later) := by
  simp only [housed, homes_branch, map_cons, map_append, map_snd_carry]

theorem housed_loop (current id : String) (condition : Option Expr) (body rest : List Stmt) :
    housed current (.loop id condition body :: rest) =
      .first :: ((housed (below current .body) body).map (.inside .body)
        ++ (housed (below current .exit) rest).map .later) := by
  simp only [housed, homes_loop, map_cons, map_append, map_snd_carry]

theorem housed_leaf (leaf : s.isLeaf) (current : String) (rest : List Stmt) :
    housed current (s :: rest) = .first :: (housed current rest).map .later := by
  simp only [housed, homes_leaf leaf, map_cons, map_snd_carry]

/-- No occurrence has two homes. -/
theorem housed_nodup (current : String) (block : List Stmt) : (housed current block).Nodup := by
  induction block using blockInduction generalizing current with
  | nil => exact nodup_nil
  | branch id condition thenBlock elseBlock rest ihThen ihElse ihRest =>
    have inThen := (ihThen (below current .thenWay)).map (Occurrence.inside_injective .thenBlock)
    have inElse := (ihElse (below current .elseWay)).map (Occurrence.inside_injective .elseBlock)
    have inRest := (ihRest (below current .merge)).map Occurrence.later_injective
    have ways := nodup_append.mpr ⟨inThen, inElse, by simp⟩
    rw [housed_branch, nodup_cons]
    refine ⟨by simp, nodup_append.mpr ⟨ways, inRest, ?_⟩⟩
    rw [forall_mem_append]
    exact ⟨by simp, by simp⟩
  | loop id condition body rest ihBody ihRest =>
    have inBody := (ihBody (below current .body)).map (Occurrence.inside_injective .body)
    have inRest := (ihRest (below current .exit)).map Occurrence.later_injective
    simp [housed_loop, nodup_append, inBody, inRest]
  | leaf s rest leaf ihRest =>
    have inRest := (ihRest current).map Occurrence.later_injective
    simp [housed_leaf leaf, inRest]

/-- The occurrences with a home are those of the statements of the block. -/
theorem mem_housed {place : Occurrence} : place ∈ housed current block ↔ (stmtAt block place).isSome := by
  induction block using blockInduction generalizing current place with
  | nil => simp [housed]
  | branch id condition thenBlock elseBlock rest ihThen ihElse ihRest =>
    rw [housed_branch]
    obtain rfl | ⟨side, inner, rfl⟩ | ⟨inner, rfl⟩ := place.shape
    · simp
    · cases side <;> simp [Stmt.held, ihThen, ihElse]
    · simp [ihRest]
  | loop id condition body rest ihBody ihRest =>
    rw [housed_loop]
    obtain rfl | ⟨side, inner, rfl⟩ | ⟨inner, rfl⟩ := place.shape
    · simp
    · cases side <;> simp [Stmt.held, ihBody]
    · simp [ihRest]
  | leaf s rest leaf ihRest =>
    rw [housed_leaf leaf]
    obtain rfl | ⟨side, inner, rfl⟩ | ⟨inner, rfl⟩ := place.shape
    · simp
    · simp [Stmt.held_leaf leaf]
    · simp [ihRest]

/-! ## Occurrences that share a home -/

/-- A home is the block before, for occurrences in the list itself, or goes on from it. -/
def HomeShape (current name : String) (place : Occurrence) : Prop :=
  (name = current ∧ place.address = []) ∨ ∃ suffix, Extends (below current suffix) name

theorem HomeShape.extended {place : Occurrence} (shape : HomeShape current name place) : Extends current name := by
  obtain ⟨rfl, -⟩ | ⟨_, extended⟩ := shape
  · exact .refl _
  · exact extended.of_below

theorem home_shape {place : Occurrence}
    (member : (name, place) ∈ homes current block) : HomeShape current name place := by
  induction block using blockInduction generalizing current place with
  | nil => contradiction
  | branch id condition thenBlock elseBlock rest ihThen ihElse ihRest =>
    simp only [homes_branch, mem_cons, mem_append, mem_carry, Prod.mk.injEq] at member
    obtain ⟨rfl, rfl⟩ | (⟨inner, known, -⟩ | ⟨inner, known, -⟩) | ⟨inner, known, -⟩ := member
    · exact .inl ⟨rfl, rfl⟩
    · exact .inr ⟨.thenWay, (ihThen known).extended⟩
    · exact .inr ⟨.elseWay, (ihElse known).extended⟩
    · exact .inr ⟨.merge, (ihRest known).extended⟩
  | loop id condition body rest ihBody ihRest =>
    simp only [homes_loop, mem_cons, mem_append, mem_carry, Prod.mk.injEq] at member
    obtain ⟨rfl, rfl⟩ | ⟨inner, known, -⟩ | ⟨inner, known, -⟩ := member
    · exact .inr ⟨.header, .refl _⟩
    · exact .inr ⟨.body, (ihBody known).extended⟩
    · exact .inr ⟨.exit, (ihRest known).extended⟩
  | leaf s rest leaf ihRest =>
    simp only [homes_leaf leaf, mem_cons, mem_carry, Prod.mk.injEq] at member
    obtain ⟨rfl, rfl⟩ | ⟨inner, known, rfl⟩ := member
    · exact .inl ⟨rfl, rfl⟩
    · obtain ⟨same, top⟩ | further := ihRest known
      · exact .inl ⟨same, Occurrence.address_later top⟩
      · exact .inr further

private theorem extends_of_carry (member : home ∈ carry lift (homes current block)) : Extends current home.1 := by
  obtain ⟨inner, known, -⟩ := mem_carry.mp member
  exact (home_shape known).extended

/-- Of two homes of the same name, the occurrence in the first precedes that in the second. -/
def Ordered (home other : String × Occurrence) : Prop := home.1 = other.1 → home.2.Precedes other.2

private theorem carry_ordered {homes : List (String × Occurrence)}
    (keeps : ∀ {place next : Occurrence}, place.Precedes next → (lift place).Precedes (lift next))
    (ordered : homes.Pairwise Ordered) : (carry lift homes).Pairwise Ordered :=
  pairwise_map.mpr (ordered.imp fun holds same => keeps (holds same))

/-- A home that goes on from a block is not that block. -/
theorem ordered_of_below {suffix : Suffix} {place : Occurrence}
    (further : Extends (below current suffix) other.1) : Ordered (current, place) other := by
  intro same
  have same : current = other.1 := same
  exact absurd (same ▸ further) (not_extends_self current suffix)

/-- Homes after different suffixes have different names. -/
theorem ordered_of_suffix_ne {first second : Suffix}
    (different : first ≠ second) (one : Extends (below current first) home.1)
    (two : Extends (below current second) other.1) : Ordered home other :=
  fun same => absurd (suffix_unique one (same ▸ two)) different

/-- Occurrences with the same home stand in one list, and get their home in the order of that list. -/
theorem homes_ordered (current : String) (block : List Stmt) : (homes current block).Pairwise Ordered := by
  induction block using blockInduction generalizing current with
  | nil => exact .nil
  | branch id condition thenBlock elseBlock rest ihThen ihElse ihRest =>
    have inThen := carry_ordered (.inside · .thenBlock) (ihThen (below current .thenWay))
    have inElse := carry_ordered (.inside · .elseBlock) (ihElse (below current .elseWay))
    have inRest := carry_ordered .later (ihRest (below current .merge))
    rw [homes_branch, pairwise_cons, pairwise_append, pairwise_append]
    refine ⟨?_, ⟨inThen, inElse, ?_⟩, inRest, ?_⟩
    · simp only [forall_mem_append]
      exact ⟨⟨fun _ member => ordered_of_below (extends_of_carry member),
        fun _ member => ordered_of_below (extends_of_carry member)⟩,
        fun _ member => ordered_of_below (extends_of_carry member)⟩
    · intro home one other two
      exact ordered_of_suffix_ne (by decide) (extends_of_carry one) (extends_of_carry two)
    · intro home one other two
      obtain one | one := mem_append.mp one
      · exact ordered_of_suffix_ne (by decide) (extends_of_carry one) (extends_of_carry two)
      · exact ordered_of_suffix_ne (by decide) (extends_of_carry one) (extends_of_carry two)
  | loop id condition body rest ihBody ihRest =>
    have inBody := carry_ordered (.inside · .body) (ihBody (below current .body))
    have inRest := carry_ordered .later (ihRest (below current .exit))
    rw [homes_loop, pairwise_cons, pairwise_append]
    refine ⟨?_, inBody, inRest, ?_⟩
    · intro home member
      obtain member | member := mem_append.mp member
      · exact ordered_of_suffix_ne (by decide) (.refl _) (extends_of_carry member)
      · exact ordered_of_suffix_ne (by decide) (.refl _) (extends_of_carry member)
    · intro home one other two
      exact ordered_of_suffix_ne (by decide) (extends_of_carry one) (extends_of_carry two)
  | leaf s rest leaf ihRest =>
    rw [homes_leaf leaf, pairwise_cons]
    refine ⟨?_, carry_ordered Occurrence.Precedes.later (ihRest current)⟩
    rintro ⟨name, place⟩ member same
    obtain ⟨inner, known, rfl⟩ := mem_carry.mp member
    obtain ⟨-, top⟩ | ⟨suffix, extended⟩ := home_shape known
    · exact Occurrence.first_precedes_later top
    · obtain rfl : current = name := same
      exact absurd extended (not_extends_self current suffix)

/-! ## What the blocks hold -/

/-- The statements among those put into blocks that are in the block of a name. -/
def contents (placed : List (String × Stmt)) (name : String) : List Stmt :=
  (placed.filter fun entry => entry.1 == name).map Prod.snd

@[simp] theorem contents_append (placed more : List (String × Stmt)) (name : String) :
    contents (placed ++ more) name = contents placed name ++ contents more name := by
  simp [contents]

theorem contents_of_not_mem (missing : ∀ entry ∈ placed, entry.1 ≠ name) : contents placed name = [] := by
  simp only [contents, map_eq_nil_iff, filter_eq_nil_iff, beq_iff_eq]
  exact missing

/-- Some statements, put into one block. -/
def into (name : String) (statements : List Stmt) : List (String × Stmt) :=
  statements.map fun s => (name, s)

@[simp] theorem contents_into (name : String) (statements : List Stmt) :
    contents (into name statements) name = statements := by
  simp [contents, into, filter_map, Function.comp_def]

theorem name_of_into {statements : List Stmt} : ∀ entry ∈ into name statements, entry.1 = name := by
  simp [into]

theorem contents_into_other {other : String} (different : name ≠ other) (statements : List Stmt) :
    contents (into name statements) other = [] :=
  contents_of_not_mem fun entry member => name_of_into entry member ▸ different

/-- Each block holds what was put into it, in this order, and nothing was put elsewhere. -/
structure Holds (graph : ControlGraph) (placed : List (String × Stmt)) : Prop where
  /-- A block holds what was put into it. -/
  statements : ∀ entry ∈ graph.blocks, entry.2.statements = contents placed entry.1
  /-- What was put somewhere was put into a block. -/
  inBlocks : ∀ entry ∈ placed, entry.1 ∈ graph.names

namespace Holds

open List

variable {graph : ControlGraph} {placed : List (String × Stmt)}

/-- A statement is added to a block. -/
theorem add (holds : Holds graph placed) (present : name ∈ graph.names) (s : Stmt) :
    Holds (graph.addStatement name s) (placed ++ into name [s]) where
  statements := by
    intro entry member
    obtain ⟨before, known, rfl⟩ := mem_map.mp member
    have same := holds.statements before known
    split
    next here =>
      obtain rfl := eq_of_beq here
      rw [contents_append, contents_into, ← same]
    next elsewhere =>
      have different : name ≠ before.1 := fun same => elsewhere (by simp [same])
      rw [contents_append, contents_into_other different, append_nil, same]
  inBlocks := by
    rw [ControlGraph.addStatement, ControlGraph.names_change, forall_mem_append]
    exact ⟨holds.inBlocks, fun entry member => name_of_into entry member ▸ present⟩

/-- Something is noted about a block that leaves its statements as they are. -/
theorem note (holds : Holds graph placed) (name : String) (f : Block → Block)
    (same : ∀ block, (f block).statements = block.statements) : Holds (graph.change name f) placed where
  statements := by
    intro entry member
    obtain ⟨before, known, rfl⟩ := mem_map.mp member
    split
    · exact (same before.2).trans (holds.statements before known)
    · exact holds.statements before known
  inBlocks := by
    rw [ControlGraph.names_change]
    exact holds.inBlocks

/-- A new block with some statements. -/
theorem put (holds : Holds graph placed) {block : Block} (fresh : block.id ∉ graph.names) :
    Holds (graph.put block) (placed ++ into block.id block.statements) where
  statements := by
    rw [ControlGraph.put, if_neg (by simpa using fresh), forall_mem_append]
    constructor
    · intro entry known
      have different : block.id ≠ entry.1 := fun same => fresh (same ▸ mem_map_of_mem known)
      rw [contents_append, contents_into_other different, append_nil, holds.statements entry known]
    · intro entry new
      obtain rfl := mem_singleton.mp new
      have none : contents placed block.id = [] :=
        contents_of_not_mem fun entry member same => fresh (same ▸ holds.inBlocks entry member)
      rw [contents_append, contents_into, none, nil_append]
  inBlocks := by
    rw [ControlGraph.names_put fresh, forall_mem_append]
    exact ⟨fun entry member => mem_append_left _ (holds.inBlocks entry member),
      fun entry member => mem_append_right _ (by simp [name_of_into entry member])⟩

end Holds

/-- A move that fits puts its statements into their blocks. -/
theorem Draft.perform_holds {draft : Draft} {move : Move} (holds : Holds draft.graph placed)
    (fits : move.Fits draft.graph.names) : Holds (draft.perform move).graph (placed ++ move.placed) := by
  cases move with
  | make block => exact holds.put fits
  | place name s => exact holds.add fits s
  | fork name =>
    simp only [Move.placed, append_nil]
    exact holds.note name (fun block => { block with isBranch := true }) fun _ => rfl
  | stop name =>
    simp only [Move.placed, append_nil]
    exact holds.note name (fun block => { block with isExit := true }) fun _ => rfl
  | join edge =>
    simp only [Move.placed, append_nil]
    exact ⟨holds.statements, holds.inBlocks⟩

private theorem Draft.run_holds {draft : Draft} {moves : List Move}
    (holds : Holds draft.graph placed) (valid : Valid draft.graph.names moves) :
    Holds (draft.run moves).graph (placed ++ moves.flatMap Move.placed) := by
  induction moves generalizing draft placed with
  | nil => simpa using holds
  | cons move rest ih =>
    obtain ⟨fits, valid⟩ := valid
    rw [flatMap_cons, ← append_assoc]
    exact ih (draft.perform_holds holds fits) (by rwa [Draft.perform_names fits])

/-- The blocks of a finished graph hold the statements of the function. -/
theorem finished_holds (f : Function) : Holds (finished f) (placements (entryName f) f.body) := by
  have start : Holds (Draft.start (entryName f)).graph [] := by
    constructor <;> simp [Draft.start, contents]
  have done := (Draft.run_holds start (body_valid f)).note (after (entryName f) f.body)
    (fun block => { block with isExit := true }) fun _ => rfl
  exact ⟨done.statements, done.inBlocks⟩

/-! ## Every statement in one block, in order -/

/-- The occurrences whose home is the block of a name, in the order in which they get it. -/
def heldBy (f : Function) (name : String) : List Occurrence :=
  ((homes (entryName f) f.body).filter fun home => home.1 == name).map Prod.snd

theorem mem_heldBy {place : Occurrence} :
    place ∈ heldBy f name ↔ (name, place) ∈ homes (entryName f) f.body := by
  simp [heldBy]

/-- A block of a finished graph holds the statements at the occurrences whose home it is. -/
theorem heldBy_statements {entry : String × Block} (known : entry ∈ (finished f).blocks) :
    (heldBy f entry.1).map (stmtAt f.body) = entry.2.statements.map some := by
  have link := congrArg (fun homes => (homes.filter fun home => home.1 == entry.1).map Prod.snd)
    (homes_placements (entryName f) f.body)
  simp only [filter_map, map_map, Function.comp_def] at link
  rw [(finished_holds f).statements entry known]
  simpa only [heldBy, contents, map_map, Function.comp_def] using link

/-- A block holds its statements in the order of the source. -/
theorem heldBy_ordered (f : Function) (name : String) : (heldBy f name).Pairwise Occurrence.Precedes := by
  have ordered := (homes_ordered (entryName f) f.body).filter fun home => home.1 == name
  refine pairwise_map.mpr (ordered.imp_of_mem fun one two holds => holds ?_)
  exact (eq_of_beq (mem_filter.mp one).2).trans (eq_of_beq (mem_filter.mp two).2).symm

private theorem heldBy_nodup (f : Function) (name : String) : (heldBy f name).Nodup :=
  (heldBy_ordered f name).imp fun precedes same => absurd (same ▸ precedes.2) (Nat.lt_irrefl _)

private theorem exists_heldBy {place : Occurrence} (occurs : (stmtAt f.body place).isSome) :
    ∃ name ∈ (finished f).names, place ∈ heldBy f name := by
  obtain ⟨⟨name, _⟩, known, rfl⟩ := mem_map.mp (mem_housed.mpr occurs)
  have put : (name, stmtAt f.body _) ∈ (placements (entryName f) f.body).map _ :=
    homes_placements (entryName f) f.body ▸ mem_map_of_mem known
  obtain ⟨entry, placed, same⟩ := mem_map.mp put
  obtain ⟨rfl, -⟩ := Prod.mk.inj same
  exact ⟨entry.1, (finished_holds f).inBlocks entry placed, mem_heldBy.mpr known⟩

private theorem heldBy_unique {other : String} {place : Occurrence}
    (one : place ∈ heldBy f name) (two : place ∈ heldBy f other) : name = other := by
  have same := inj_on_of_nodup_map (housed_nodup (entryName f) f.body) (mem_heldBy.mp one)
    (mem_heldBy.mp two) rfl
  exact congrArg Prod.fst same

/-- The blocks of a graph share out the statements of a body, given the occurrences that the block of
each name holds. -/
structure SharesOut (body : List Stmt) (graph : ControlGraph) (held : String → List Occurrence) : Prop where
  /-- The statements of a block are those at the occurrences that it holds. -/
  statements : ∀ entry ∈ graph.blocks, (held entry.1).map (stmtAt body) = entry.2.statements.map some
  /-- Each occurrence of a statement, at any depth, is held by one block alone and by that block once. -/
  once : ∀ place, (stmtAt body place).isSome → ∃ name ∈ graph.names, (held name).count place = 1 ∧
    ∀ other ∈ graph.names, other ≠ name → place ∉ held other
  /-- What a block holds stands in one list of the body, and is held in the order of that list. -/
  ordered : ∀ name ∈ graph.names, ∃ (address : Address) (indices : List Nat),
    indices.Pairwise (· < ·) ∧ held name = indices.map (Occurrence.mk address)

private theorem finished_sharesOut (f : Function) : SharesOut f.body (finished f) (heldBy f) where
  statements := fun _ => heldBy_statements
  once := by
    intro place occurs
    obtain ⟨name, known, member⟩ := exists_heldBy occurs
    refine ⟨name, known, count_eq_one_of_mem (heldBy_nodup f name) member, ?_⟩
    intro other _ different again
    exact different (heldBy_unique again member)
  ordered := fun name _ => Occurrence.exists_address (heldBy_ordered f name)

/-- Building neither loses nor repeats code: the blocks share out the statements of the function. -/
theorem controlGraph_sharesOut {f : Function} (whole : Whole f.body) :
    ∃ graph, controlGraph f = .ok graph ∧ graph.names.Nodup ∧
      ∃ held, SharesOut f.body graph held := by
  by_cases empty : f.body = []
  · refine ⟨{}, controlGraph_empty empty, .nil, fun _ => [], ?_⟩
    constructor <;> simp [empty, ControlGraph.names]
  · exact ⟨finished f, controlGraph_eq empty whole, finished_nodup f, heldBy f, finished_sharesOut f⟩

theorem controlGraph_sharesOut_sample :
    Whole sample.body ∧ ∃ graph, controlGraph sample = .ok graph ∧
      ∃ held, SharesOut sample.body graph held := by
  have whole : Whole sample.body := by decide
  obtain ⟨graph, built, -, held, shares⟩ := controlGraph_sharesOut whole
  exact ⟨whole, graph, built, held, shares⟩

end ContractLint.Flow
