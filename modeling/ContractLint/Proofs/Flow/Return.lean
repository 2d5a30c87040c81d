import ContractLint.Proofs.Entries
import ContractLint.Proofs.Flow.Placement
import Mathlib.Data.List.DropRight

/-! # Where returns are put

A block is noted as an end exactly if a return is put into it, and the last block is an end in any case.
So at most one end is without a return: the last block, which holds the statements of the function after
its last branch or loop (`exits_without_return`). What is put into the block of a return after it is the
statement that follows the return in its list, and what comes after that, unless a loop follows, which
begins blocks of its own (`noneAfterReturn_iff`).
-/

namespace ContractLint.Flow

open List Program

variable {block : List Stmt} {name current : String} {rest : List Stmt} {f : Function} {first second : Suffix}
  {s : Stmt} {placed : List (String × Stmt)}

/-! ## Ends -/

/-- The names of the blocks that a move notes as ends. -/
def Move.stopped : Move → List String
  | stop name => [name]
  | _ => []

/-- A block that a move makes is not an end yet. -/
def Move.MakesOpen : Move → Prop
  | make block => block.isExit = false
  | _ => True

private theorem Draft.perform_ends (draft : Draft) (move : Move) :
    (draft.perform move).ends = draft.ends ++ move.stopped := by
  cases move with
  | stop => rfl
  | make | place | fork | join => simp [perform, on, Move.stopped]

private theorem Draft.run_ends (draft : Draft) (moves : List Move) :
    (draft.run moves).ends = draft.ends ++ moves.flatMap Move.stopped := by
  induction moves generalizing draft with
  | nil => simp
  | cons move rest ih => rw [run_cons, ih, perform_ends, flatMap_cons, append_assoc]

/-- The blocks that are noted as ends are those into which returns are put, once for each return. -/
theorem stopped_moves (current : String) (block : List Stmt) :
    (moves current block).flatMap Move.stopped =
      ((placements current block).filter fun placed => placed.2.isReturn).map Prod.fst := by
  induction block using blockInduction generalizing current with
  | nil => rfl
  | branch id condition thenBlock elseBlock rest ihThen ihElse ihRest =>
    have opening : (branchMoves current (.branch id condition thenBlock elseBlock)
        (!elseBlock.isEmpty)).flatMap Move.stopped = [] := by
      cases elseBlock <;> rfl
    have merging : (mergeMoves current thenBlock elseBlock).flatMap Move.stopped = [] := by
      cases elseBlock <;> rfl
    have other : (Stmt.branch id condition thenBlock elseBlock).isReturn = false := rfl
    simp only [moves_branch, placements_branch, flatMap_append, opening, merging, ihThen, ihElse,
      ihRest, filter_cons, other, Bool.false_eq_true, if_false, filter_append, map_append,
      nil_append, append_nil]
  | loop id condition body rest ihBody ihRest =>
    have opening : (loopMoves current (.loop id condition body)).flatMap Move.stopped = [] := rfl
    have other : (Stmt.loop id condition body).isReturn = false := rfl
    simp only [moves_loop, placements_loop, flatMap_append, opening, ihBody, ihRest,
      flatMap_singleton, Move.stopped, filter_cons, other, Bool.false_eq_true, if_false,
      filter_append, map_append, nil_append, append_nil]
  | leaf s rest leaf ihRest =>
    rw [moves_leaf leaf, placements_leaf leaf, flatMap_append, ihRest, filter_cons, leafMoves]
    cases s.isReturn <;> rfl

private theorem moves_makesOpen (current : String) (block : List Stmt) :
    ∀ move ∈ moves current block, move.MakesOpen := by
  induction block using blockInduction generalizing current with
  | nil => simp
  | branch id condition thenBlock elseBlock rest ihThen ihElse ihRest =>
    have opening : ∀ move ∈ branchMoves current (.branch id condition thenBlock elseBlock)
        (!elseBlock.isEmpty), move.MakesOpen := by
      cases elseBlock <;> simp [branchMoves, Move.MakesOpen]
    have merging : ∀ move ∈ mergeMoves current thenBlock elseBlock, move.MakesOpen := by
      cases elseBlock <;> simp [mergeMoves, Move.MakesOpen]
    simp only [moves_branch, forall_mem_append]
    exact ⟨⟨⟨⟨opening, ihThen _⟩, ihElse _⟩, merging⟩, ihRest _⟩
  | loop id condition body rest ihBody ihRest =>
    have opening : ∀ move ∈ loopMoves current (.loop id condition body), move.MakesOpen := by
      simp [loopMoves, Move.MakesOpen]
    simp only [moves_loop, forall_mem_append, forall_mem_singleton]
    exact ⟨⟨⟨opening, ihBody _⟩, trivial⟩, ihRest _⟩
  | leaf s rest leaf ihRest =>
    have here : ∀ move ∈ leafMoves current s, move.MakesOpen := by
      rw [leafMoves]
      split <;> simp [Move.MakesOpen]
    rw [moves_leaf leaf, forall_mem_append]
    exact ⟨here, ihRest current⟩

/-- The blocks marked as ends are those that are noted. -/
structure Marked (draft : Draft) : Prop where
  /-- A block is marked exactly if its name is noted. -/
  flags : ∀ entry ∈ draft.graph.blocks, entry.2.isExit = true ↔ entry.1 ∈ draft.ends
  inBlocks : ∀ name ∈ draft.ends, name ∈ draft.graph.names

namespace Marked

variable {draft : Draft}

/-- Something is changed in a block that leaves its mark as it is. -/
theorem note (marked : Marked draft) (name : String) (f : Block → Block)
    (same : ∀ block, (f block).isExit = block.isExit) : Marked (draft.on (·.change name f)) where
  flags := by
    intro entry member
    obtain ⟨before, known, rfl⟩ := mem_map.mp member
    split
    · rw [same]
      exact marked.flags before known
    · exact marked.flags before known
  inBlocks := by
    rw [Draft.on, ControlGraph.names_change]
    exact marked.inBlocks

private theorem make (marked : Marked draft) {block : Block} (fresh : block.id ∉ draft.graph.names)
    (isOpen : block.isExit = false) : Marked (draft.on (·.put block)) where
  flags := by
    rw [Draft.on, ControlGraph.put, if_neg (by simpa using fresh), forall_mem_append]
    refine ⟨marked.flags, ?_⟩
    intro entry new
    obtain rfl := mem_singleton.mp new
    have missing : block.id ∉ draft.ends := fun noted => fresh (marked.inBlocks _ noted)
    simp [isOpen, missing]
  inBlocks := by
    rw [Draft.on, ControlGraph.names_put fresh]
    exact fun name noted => mem_append_left _ (marked.inBlocks name noted)

/-- A block is noted as an end. -/
theorem stop (marked : Marked draft) (present : name ∈ draft.graph.names) :
    Marked (draft.perform (.stop name)) where
  flags := by
    intro entry member
    obtain ⟨before, known, rfl⟩ := mem_map.mp member
    have flag := marked.flags before known
    rw [Draft.perform, mem_append, mem_singleton]
    split
    next here => simp [eq_of_beq here]
    next elsewhere =>
      have different : before.1 ≠ name := fun same => elsewhere (by simp [same])
      simp [flag, different]
  inBlocks := by
    rw [Draft.perform, ControlGraph.names_change, forall_mem_append, forall_mem_singleton]
    exact ⟨marked.inBlocks, present⟩

end Marked

private theorem Draft.perform_marked {draft : Draft} {move : Move} (marked : Marked draft)
    (fits : move.Fits draft.graph.names) (makesOpen : move.MakesOpen) : Marked (draft.perform move) := by
  cases move with
  | make block => exact marked.make fits makesOpen
  | place | fork => exact marked.note _ _ fun _ => rfl
  | stop name => exact marked.stop fits
  | join edge => exact ⟨marked.flags, marked.inBlocks⟩

private theorem Draft.run_marked {draft : Draft} {moves : List Move} (marked : Marked draft)
    (valid : Valid draft.graph.names moves) (makesOpen : ∀ move ∈ moves, move.MakesOpen) :
    Marked (draft.run moves) := by
  induction moves generalizing draft with
  | nil => exact marked
  | cons move rest ih =>
    obtain ⟨fits, valid⟩ := valid
    obtain ⟨open_, makesOpen⟩ := forall_mem_cons.mp makesOpen
    exact ih (draft.perform_marked marked fits open_) (by rwa [Draft.perform_names fits]) makesOpen

/-! ## The last block -/

/-- The statements of a list after its last branch or loop. -/
def closing (block : List Stmt) : List Stmt := block.rtakeWhile fun s => !s.decides

private theorem closing_eq_self (none : ∀ s ∈ block, s.decides = false) : closing block = block :=
  rtakeWhile_eq_self_iff.mpr fun s member => by simp [none s member]

private theorem closing_concat (block : List Stmt) (s : Stmt) :
    closing (block ++ [s]) = if s.decides then [] else closing block ++ [s] := by
  cases decides : s.decides <;> simp [closing, decides]

/-- The first statement is not after the last branch or loop if it is one, or if one follows. -/
theorem closing_cons (some : ∃ t ∈ s :: rest, t.decides) : closing (s :: rest) = closing rest := by
  induction rest using List.reverseRecOn with
  | nil =>
    obtain ⟨t, member, decides⟩ := some
    obtain rfl := mem_singleton.mp member
    exact (closing_concat [] t).trans (if_pos decides)
  | append_singleton rest last ih =>
    rw [← cons_append] at some ⊢
    rw [closing_concat, closing_concat]
    split
    next => rfl
    next simple =>
      obtain ⟨t, member, decides⟩ := some
      obtain earlier | here := mem_append.mp member
      · rw [ih ⟨t, earlier, decides⟩]
      · exact absurd (mem_singleton.mp here ▸ decides) simple

private theorem after_of_none (none : ∀ s ∈ block, s.decides = false) (current : String) :
    after current block = current := by
  induction block generalizing current with
  | nil => rfl
  | cons s rest ih =>
    have later := (forall_mem_cons.mp none).2
    cases s with
    | branch => cases none _ mem_cons_self
    | loop => cases none _ mem_cons_self
    | assign | ret | plain => exact ih later current

/-- Where a list of statements ends extends where it starts. -/
theorem extends_after (current : String) (block : List Stmt) : Extends current (after current block) := by
  obtain same | made := mem_cons.mp (after_mem current block)
  · rw [same]
    exact .refl _
  · obtain ⟨_, extended⟩ := extends_of_made made
    exact extended.of_below

theorem ne_of_further {suffix : Suffix} (further : Extends (below current suffix) name) : current ≠ name := by
  rintro rfl
  exact not_extends_self current suffix further

/-- After a branch or loop, control goes on in another block. -/
theorem after_of_some (whole : Whole block) (some : ∃ s ∈ block, s.decides)
    (current : String) : ∃ suffix, Extends (below current suffix) (after current block) := by
  induction block using blockInduction generalizing current with
  | nil => simp at some
  | branch id condition thenBlock elseBlock rest _ _ _ => exact ⟨.merge, extends_after _ rest⟩
  | loop id condition body rest _ _ => exact ⟨.exit, extends_after _ rest⟩
  | leaf s rest leaf ihRest =>
    obtain ⟨simple, whole⟩ := (whole_leaf leaf).mp whole
    rw [after_leaf leaf]
    exact ihRest whole (by simpa [simple] using some) current

/-- A statement is put into the block before or into one whose name goes on from it. -/
theorem extends_of_placed {entry : String × Stmt}
    (member : entry ∈ placements current block) : Extends current entry.1 := by
  have known := mem_map_of_mem (f := fun placed : String × Stmt => (placed.1, some placed.2)) member
  rw [← homes_placements] at known
  obtain ⟨⟨name, place⟩, home, same⟩ := mem_map.mp known
  obtain ⟨rfl, -⟩ := Prod.mk.inj same
  exact (home_shape home).extended

private theorem contents_cons (name : String) (s : Stmt) (placed : List (String × Stmt)) (other : String) :
    contents ((name, s) :: placed) other =
      if name = other then s :: contents placed other else contents placed other := by
  by_cases same : name = other <;> simp [contents, same]

/-- Ways that part by their suffixes have no name in common. -/
theorem ne_of_suffix_ne {other : String} (different : first ≠ second) (one : Extends (below current first) name)
    (two : Extends (below current second) other) : name ≠ other :=
  fun same => different (suffix_unique one (same ▸ two))

/-- Statements put after one suffix are not in a block whose name goes on by another. -/
theorem contents_of_suffix_ne (different : first ≠ second) (further : Extends (below current second) name)
    (block : List Stmt) : contents (placements (below current first) block) name = [] :=
  contents_of_not_mem fun _ member => ne_of_suffix_ne different (extends_of_placed member) further

/-- The block where control goes on after some statements holds those after the last branch or loop. -/
theorem contents_after (whole : Whole block) (current : String) :
    contents (placements current block) (after current block) = closing block := by
  induction block using blockInduction generalizing current with
  | nil => rfl
  | branch id condition thenBlock elseBlock rest _ _ ihRest =>
    obtain ⟨-, -, whole⟩ := whole_branch.mp whole
    have further := extends_after (below current .merge) rest
    rw [after_branch, placements_branch, contents_cons, if_neg (ne_of_further further), contents_append,
      contents_append, contents_of_suffix_ne (by decide) further, contents_of_suffix_ne (by decide) further,
      ihRest whole, closing_cons ⟨_, mem_cons_self, rfl⟩]
    rfl
  | loop id condition body rest _ ihRest =>
    obtain ⟨-, whole⟩ := whole_loop.mp whole
    have further := extends_after (below current .exit) rest
    have elsewhere : below current .header ≠ after (below current .exit) rest :=
      ne_of_suffix_ne (by decide) (.refl _) further
    rw [after_loop, placements_loop, contents_cons, if_neg elsewhere, contents_append,
      contents_of_suffix_ne (by decide) further, ihRest whole, closing_cons ⟨_, mem_cons_self, rfl⟩]
    rfl
  | leaf s rest leaf ihRest =>
    obtain ⟨simple, whole⟩ := (whole_leaf leaf).mp whole
    rw [after_leaf leaf, placements_leaf leaf, contents_cons, ihRest whole]
    -- The statement is in the last block exactly if no branch or loop follows, which would begin another.
    by_cases some : ∃ t ∈ rest, t.decides
    · obtain ⟨suffix, further⟩ := after_of_some whole some current
      obtain ⟨t, member, decides⟩ := some
      rw [if_neg (ne_of_further further), closing_cons ⟨t, mem_cons_of_mem _ member, decides⟩]
    · have none : ∀ t ∈ rest, t.decides = false := by simpa using some
      rw [if_pos (after_of_none none current).symm, closing_eq_self none,
        closing_eq_self (forall_mem_cons.mpr ⟨simple, none⟩)]

/-! ## Ends without a return -/

/-- The draft after the moves for the statements of a function. -/
def drafted (f : Function) : Draft := (Draft.start (entryName f)).run (moves (entryName f) f.body)

/-- The name of the block where control goes on after the statements of a function. -/
def lastName (f : Function) : String := after (entryName f) f.body

private theorem drafted_marked (f : Function) : Marked (drafted f) := by
  have start : Marked (Draft.start (entryName f)) := by
    constructor <;> simp [Draft.start]
  exact Draft.run_marked start (body_valid f) (moves_makesOpen _ _)

/-- A block holds a return exactly if it is noted as an end. -/
theorem mem_ends :
    name ∈ (drafted f).ends ↔ (contents (placements (entryName f) f.body) name).any Stmt.isReturn := by
  have ends : (drafted f).ends = _ := Draft.run_ends (Draft.start (entryName f)) _
  rw [ends, stopped_moves]
  simp [Draft.start, contents, and_comm]

/-- A block that is found under a name holds what was put under that name. -/
theorem statements_of_lookup {block : Block} (found : (finished f).blocks.lookup name = some block) :
    block.statements = contents (placements (entryName f) f.body) name :=
  (finished_holds f).statements _ (mem_of_lookup found)

/-- The last block is in the graph. -/
theorem last_present (f : Function) : lastName f ∈ (finished f).names := by
  rw [finished_names]
  exact after_mem _ _

/-- The function may end in the blocks with a return, once for each return, and in the last block, which
is listed once more unless it has a return. -/
theorem finished_exits (f : Function) : (finished f).exits =
    ((drafted f).ends ++ if lastName f ∈ (drafted f).ends then [] else [lastName f]).filterMap
      fun name => (finished f).blocks.lookup name := by
  have present : lastName f ∈ (drafted f).graph.names := Draft.finish_names (drafted f) _ ▸ last_present f
  obtain ⟨block, found⟩ := exists_lookup_of_mem present
  have flag : block.isExit = true ↔ lastName f ∈ (drafted f).ends :=
    (drafted_marked f).flags _ (mem_of_lookup found)
  change (if (((drafted f).graph.blocks.lookup (lastName f)).map Block.isExit).getD true then
    (drafted f).ends else (drafted f).ends ++ [lastName f]).filterMap _ = _
  rw [found, Option.map_some, Option.getD_some]
  congr 1
  by_cases noted : lastName f ∈ (drafted f).ends
  · simp [noted, flag.mpr noted]
  · simp [noted, flag]

/-- An end without a return is the last block, and that has no return exactly if none comes after the
last branch or loop of the function. -/
theorem exits_without_return (whole : Whole f.body) :
    ∃ block, (finished f).exits.filter (fun block => !block.statements.any Stmt.isReturn) =
      if (closing f.body).any Stmt.isReturn then [] else [block] := by
  obtain ⟨block, found⟩ := exists_lookup_of_mem (last_present f)
  have last : lastName f ∈ (drafted f).ends ↔ (closing f.body).any Stmt.isReturn := by
    rw [mem_ends, lastName, contents_after whole]
  have returning : (drafted f).ends.filterMap (fun name =>
      ((finished f).blocks.lookup name).filter fun block => !block.statements.any Stmt.isReturn) = [] := by
    rw [filterMap_eq_nil_iff]
    intro name noted
    rw [Option.filter_eq_none_iff]
    intro block found
    rw [statements_of_lookup found, mem_ends.mp noted]
    simp
  -- Of the ends, those noted for a return drop out, so that only the last block may be left.
  refine ⟨block, ?_⟩
  rw [finished_exits, filter_filterMap, filterMap_append, returning, nil_append]
  by_cases noted : lastName f ∈ (drafted f).ends
  · rw [if_pos noted, if_pos (last.mp noted), filterMap_nil]
  · have without : block.statements.any Stmt.isReturn = false := by
      rw [statements_of_lookup found]
      exact Bool.eq_false_iff.mpr fun returns => noted (mem_ends.mpr returns)
    have kept : ((finished f).blocks.lookup (lastName f)).filter
        (fun block => !block.statements.any Stmt.isReturn) = some block := by
      rw [found, Option.filter_some, without]
      rfl
    rw [if_neg noted, if_neg (fun returns => noted (last.mpr returns))]
    exact filterMap_cons_some kept

/-! ## Statements after a return -/

/-- Nothing is put into a block after a return. -/
def NoneAfterReturn (placed : List (String × Stmt)) : Prop :=
  placed.Pairwise fun one two => one.1 = two.1 → one.2.isReturn = false

/-- Right after a return, wherever it stands in a block, comes a loop or nothing. -/
def OnlyLoopsAfter (block : List Stmt) : Prop :=
  ∀ place s t, stmtAt block place = some s → stmtAt block place.next = some t → s.isReturn →
    t.kind = .whileLoop

private theorem noneAfterReturn_cons :
    NoneAfterReturn ((name, s) :: placed) ↔
      (s.isReturn → ∀ entry ∈ placed, entry.1 ≠ name) ∧ NoneAfterReturn placed := by
  rw [NoneAfterReturn, pairwise_cons, ← NoneAfterReturn]
  refine and_congr_left' ⟨fun other returns entry member same => ?_, fun other entry member same => ?_⟩
  · simp [other entry member same.symm] at returns
  · exact Bool.eq_false_iff.mpr fun returns => other returns entry member same.symm

private theorem noneAfterReturn_append {first second : List (String × Stmt)}
    (apart : ∀ one ∈ first, ∀ two ∈ second, one.1 ≠ two.1) :
    NoneAfterReturn (first ++ second) ↔ NoneAfterReturn first ∧ NoneAfterReturn second := by
  rw [NoneAfterReturn, pairwise_append, ← NoneAfterReturn, ← NoneAfterReturn]
  refine and_congr_right' ⟨And.left, fun holds => ⟨holds, ?_⟩⟩
  exact fun one here two there same => absurd same (apart one here two there)

@[simp] theorem onlyLoopsAfter_nil : OnlyLoopsAfter [] := by simp [OnlyLoopsAfter]

theorem onlyLoopsAfter_cons :
    OnlyLoopsAfter (s :: rest) ↔ (s.isReturn → ∀ t ∈ rest.head?, t.kind = .whileLoop) ∧
      (∀ side inner, s.held side = some inner → OnlyLoopsAfter inner) ∧ OnlyLoopsAfter rest := by
  have head : stmtAt rest .first = rest.head? := by cases rest <;> rfl
  constructor
  · intro only
    refine ⟨fun returns t next => ?_, fun side inner held place one two here next => ?_,
      fun place one two here next => ?_⟩
    · exact only .first s t (stmtAt_first s rest) (by simpa [head] using next) returns
    · exact only (.inside side place) one two (by simpa [held] using here) (by simpa [held] using next)
    · exact only (.later place) one two (by simpa using here) (by simpa using next)
  · rintro ⟨first, inside, later⟩ place one two here next returns
    obtain rfl | ⟨side, inner, rfl⟩ | ⟨inner, rfl⟩ := place.shape
    · obtain rfl : s = one := by simpa using here
      exact first returns two (by simpa [head] using next)
    · rw [stmtAt_inside, Option.bind_eq_some_iff] at here
      obtain ⟨block, held, here⟩ := here
      exact inside side block held inner one two here (by simpa [held] using next) returns
    · exact later inner one two (by simpa using here) (by simpa using next) returns

theorem onlyLoopsAfter_leaf (leaf : s.isLeaf) :
    OnlyLoopsAfter (s :: rest) ↔
      (s.isReturn → ∀ t ∈ rest.head?, t.kind = .whileLoop) ∧ OnlyLoopsAfter rest := by
  simp [onlyLoopsAfter_cons, Stmt.held_leaf leaf]

/-- The block before gets a statement unless a loop or nothing comes first. -/
theorem placed_elsewhere_iff (whole : Whole block) (current : String) :
    (∀ entry ∈ placements current block, entry.1 ≠ current) ↔
      ∀ t ∈ block.head?, t.kind = .whileLoop := by
  induction block using blockInduction with
  | nil => simp [placements]
  | branch id condition thenBlock elseBlock rest _ _ _ => simp [placements_branch, Stmt.kind]
  | loop id condition body rest _ _ =>
    have inside : ∀ entry ∈ placements (below current .body) body, entry.1 ≠ current :=
      fun entry member => (ne_of_further (extends_of_placed member)).symm
    have later : ∀ entry ∈ placements (below current .exit) rest, entry.1 ≠ current :=
      fun entry member => (ne_of_further (extends_of_placed member)).symm
    rw [placements_loop, forall_mem_cons, forall_mem_append]
    simp only [head?_cons, Option.mem_some_iff, forall_eq', Stmt.kind, iff_true]
    exact ⟨below_ne current .header, inside, later⟩
  | leaf s rest leaf _ =>
    obtain ⟨simple, -⟩ := (whole_leaf leaf).mp whole
    simp [placements_leaf leaf, Stmt.decides] at simple ⊢
    exact simple.2

private theorem apart (different : first ≠ second)
    {one two : List Stmt} : ∀ entry ∈ placements (below current first) one,
      ∀ other ∈ placements (below current second) two, entry.1 ≠ other.1 :=
  fun _ here _ there => ne_of_suffix_ne different (extends_of_placed here) (extends_of_placed there)

/-- Something is put into a block after a return exactly if some return is followed by a statement that is
no loop. -/
theorem noneAfterReturn_iff (whole : Whole block) (current : String) :
    NoneAfterReturn (placements current block) ↔ OnlyLoopsAfter block := by
  induction block using blockInduction generalizing current with
  | nil => simp [NoneAfterReturn, placements]
  | branch id condition thenBlock elseBlock rest ihThen ihElse ihRest =>
    obtain ⟨wholeThen, wholeElse, wholeRest⟩ := whole_branch.mp whole
    have other : (Stmt.branch id condition thenBlock elseBlock).isReturn = false := rfl
    rw [placements_branch, noneAfterReturn_cons, noneAfterReturn_append,
      noneAfterReturn_append (apart (by decide)), ihThen wholeThen, ihElse wholeElse, ihRest wholeRest,
      onlyLoopsAfter_cons, Stmt.forall_held_branch]
    · simp [other]
    · rw [forall_mem_append]
      exact ⟨apart (by decide), apart (by decide)⟩
  | loop id condition body rest ihBody ihRest =>
    obtain ⟨wholeBody, wholeRest⟩ := whole_loop.mp whole
    have other : (Stmt.loop id condition body).isReturn = false := rfl
    rw [placements_loop, noneAfterReturn_cons, noneAfterReturn_append (apart (by decide)), ihBody wholeBody,
      ihRest wholeRest, onlyLoopsAfter_cons, Stmt.forall_held_loop]
    simp [other]
  | leaf s rest leaf ihRest =>
    obtain ⟨-, whole⟩ := (whole_leaf leaf).mp whole
    rw [placements_leaf leaf, noneAfterReturn_cons, placed_elsewhere_iff whole, ihRest whole,
      onlyLoopsAfter_leaf leaf]

/-- No block has a statement after a return exactly if nothing is put into one there. -/
theorem Holds.noneAfterReturn_iff {graph : ControlGraph} (holds : Holds graph placed) :
    (∀ entry ∈ graph.blocks, entry.2.statements.Pairwise fun s _ => s.isReturn = false) ↔
      NoneAfterReturn placed := by
  constructor
  · intro none
    refine pairwise_iff_forall_sublist.mpr fun {one two} both same => ?_
    obtain ⟨entry, known, here⟩ := mem_map.mp (holds.inBlocks one (both.subset mem_cons_self))
    have inBlock := (both.filter fun placed => placed.1 == entry.1).map Prod.snd
    rw [filter_eq_self.mpr (by simp [here, same]), ← contents, ← holds.statements entry known] at inBlock
    exact pairwise_iff_forall_sublist.mp (none entry known) inBlock
  · intro none entry known
    rw [holds.statements entry known]
    refine pairwise_map.mpr ((none.filter _).imp_of_mem fun one two after => after ?_)
    exact (eq_of_beq (mem_filter.mp one).2).trans (eq_of_beq (mem_filter.mp two).2).symm

end ContractLint.Flow
