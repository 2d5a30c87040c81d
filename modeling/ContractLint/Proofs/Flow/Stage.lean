import ContractLint.Proofs.Flow.Component
import ContractLint.Proofs.Flow.Placement
import Mathlib.Data.List.Count
import Mathlib.Data.List.Infix

/-! # The stages of a function

Control passes through a function in stages. A stage is a single block, or all blocks of a loop that
stands in no other loop, from its header to the end of its body. Edges lead from a stage to itself and
to later ones only, so blocks that lead to each other are in one stage; and the blocks of a loop do.
A component with more than one block is therefore such a loop (`component_isLoop`).
-/

namespace ContractLint.Flow

open List Program

variable {stage : List String} {condition : Option Expr} {body block : List Stmt} {f : Function}
  {edges : List Edge} {start id current : String} {graph : ControlGraph} {component : List String}

/-! ## Stages -/

/-- The blocks of a loop: its header and those made for its body. -/
def loopStage (start : String) (body : List Stmt) : List String :=
  below start .header :: below start .body :: madeNames (below start .body) body

mutual

/-- The stages made for a statement, in the order of control. -/
def stagesOf (current : String) : Stmt → List (List String)
  | .branch _ _ thenBlock elseBlock =>
    [below current .thenWay] :: stages (below current .thenWay) thenBlock
    ++ (if elseBlock.isEmpty then []
      else [below current .elseWay] :: stages (below current .elseWay) elseBlock)
    ++ [[below current .merge]]
  | .loop _ _ body => [loopStage current body, [below current .exit]]
  | .assign .. => []
  | .ret .. => []
  | .plain .. => []
termination_by structural s => s

/-- The stages made for the statements of a block, in the order of control. -/
def stages (current : String) : List Stmt → List (List String)
  | [] => []
  | s :: rest => stagesOf current s ++ stages (afterOf current s) rest
termination_by structural block => block

end

theorem stages_branch (current id : String) (condition : Option Expr) (thenBlock elseBlock rest : List Stmt) :
    stages current (.branch id condition thenBlock elseBlock :: rest) =
      ([below current .thenWay] :: stages (below current .thenWay) thenBlock)
      ++ (if elseBlock.isEmpty then []
        else [below current .elseWay] :: stages (below current .elseWay) elseBlock)
      ++ ([below current .merge] :: stages (below current .merge) rest) := by
  simp [stages, stagesOf, afterOf]

theorem stages_loop (current id : String) (condition : Option Expr) (body rest : List Stmt) :
    stages current (.loop id condition body :: rest) =
      loopStage current body :: [below current .exit] :: stages (below current .exit) rest := rfl

theorem stages_leaf {s : Stmt} (leaf : s.isLeaf) (current : String) (rest : List Stmt) :
    stages current (s :: rest) = stages current rest := by
  cases s with
  | branch => contradiction
  | loop => contradiction
  | assign | ret | plain => rfl

/-- The stages share out the blocks made. -/
theorem stages_perm (current : String) (block : List Stmt) :
    (stages current block).flatten.Perm (madeNames current block) := by
  induction block using blockInduction generalizing current with
  | nil => exact .refl _
  | branch id condition thenBlock elseBlock rest ihThen ihElse ihRest =>
    rw [stages_branch, madeNames_branch, perm_iff_count]
    intro name
    have inThen := (ihThen (below current .thenWay)).count_eq name
    have inElse := (ihElse (below current .elseWay)).count_eq name
    have inRest := (ihRest (below current .merge)).count_eq name
    cases elseBlock with
    | nil =>
      simp only [branchNames, madeNames_nil, isEmpty_nil, Bool.not_true, Bool.false_eq_true, if_true,
        if_false, flatten_cons, flatten_append, cons_append, nil_append,
        append_nil, count_cons, count_append, inThen, inRest]
      omega
    | cons first others =>
      simp only [branchNames, isEmpty_cons, Bool.not_false, Bool.false_eq_true, if_true, if_false,
        flatten_cons, flatten_append, cons_append, nil_append, count_cons,
        count_append, inThen, inElse, inRest]
      omega
  | loop id condition body rest _ ihRest =>
    rw [stages_loop, madeNames_loop, perm_iff_count]
    intro name
    have inRest := (ihRest (below current .exit)).count_eq name
    simp only [loopStage, loopNames, flatten_cons, cons_append, nil_append,
      count_cons, count_append, inRest]
    omega
  | leaf s rest leaf ihRest =>
    rw [stages_leaf leaf, madeNames_leaf leaf]
    exact ihRest current

private theorem mem_stages {name : String} :
    name ∈ ([current] :: stages current block).flatten ↔ name ∈ current :: madeNames current block := by
  simp [(stages_perm current block).mem_iff]

/-! ## Edges lead forward -/

/-- A block is in the same stage as another one, or in an earlier one. -/
def Forward (stages : List (List String)) (source target : String) : Prop :=
  ∃ stage later, stage :: later <:+ stages ∧ source ∈ stage ∧ target ∈ (stage :: later).flatten

namespace Forward

open List

variable {first second : List (List String)} {source target : String}

private theorem onward (here : source ∈ stage) (there : target ∈ second.flatten) :
    Forward (stage :: second) source target :=
  ⟨stage, second, suffix_refl _, here, mem_append_right _ there⟩

private theorem later (stage : List String) (forward : Forward second source target) :
    Forward (stage :: second) source target := by
  obtain ⟨current, later, ends, here, there⟩ := forward
  exact ⟨current, later, ends.trans (suffix_cons _ _), here, there⟩

private theorem append_left (first : List (List String)) (forward : Forward second source target) :
    Forward (first ++ second) source target := by
  obtain ⟨stage, later, ends, here, there⟩ := forward
  exact ⟨stage, later, ends.trans (suffix_append _ _), here, there⟩

private theorem append_right (second : List (List String)) (forward : Forward first source target) :
    Forward (first ++ second) source target := by
  obtain ⟨stage, later, ⟨earlier, same⟩, here, there⟩ := forward
  refine ⟨stage, later ++ second, ⟨earlier, by simp [← same]⟩, here, ?_⟩
  rw [← cons_append, flatten_append]
  exact mem_append_left _ there

private theorem cross (here : source ∈ first.flatten) (there : target ∈ second.flatten) :
    Forward (first ++ second) source target := by
  obtain ⟨stage, member, inStage⟩ := mem_flatten.mp here
  obtain ⟨earlier, later, rfl⟩ := append_of_mem member
  refine ⟨stage, later ++ second, ⟨earlier, by simp⟩, inStage, ?_⟩
  rw [← cons_append, flatten_append]
  exact mem_append_right _ there

private theorem within {stages : List (List String)} (member : stage ∈ stages)
    (here : source ∈ stage) (there : target ∈ stage) : Forward stages source target := by
  obtain ⟨earlier, later, rfl⟩ := append_of_mem member
  exact ⟨stage, later, suffix_append _ _, here, by simp [there]⟩

/-- If no block is in two stages, then nothing leads forward out of the last stages. -/
theorem mem_tail {stages tail : List (List String)} (distinct : stages.flatten.Nodup)
    (forward : Forward stages source target) (ends : tail <:+ stages) (here : source ∈ tail.flatten) :
    target ∈ tail.flatten := by
  obtain ⟨stage, later, last, member, there⟩ := forward
  obtain shorter | longer := suffix_or_suffix_of_suffix last ends
  · exact shorter.flatten.subset there
  · obtain rfl | after := suffix_cons_iff.mp longer
    · exact there
    -- The source would be in its own stage and in a later one.
    · have apart := distinct.sublist last.flatten.sublist
      rw [flatten_cons, nodup_append] at apart
      exact absurd rfl (apart.2.2 source member source (after.flatten.subset here))

end Forward

/-- The ends of the edges made for a block are blocks made for it, or the block before it. -/
theorem madeEdges_mem (current : String) (block : List Stmt) :
    ∀ edge ∈ madeEdges current block, edge.source ∈ current :: madeNames current block ∧
      edge.target ∈ current :: madeNames current block :=
  (moves_valid (start_ready current)).joined_mem

/-- Edges lead forward through the stages. -/
theorem madeEdges_forward (current : String) (block : List Stmt) :
    ∀ edge ∈ madeEdges current block,
      Forward ([current] :: stages current block) edge.source edge.target := by
  induction block using blockInduction generalizing current with
  | nil => simp
  | branch id condition thenBlock elseBlock rest ihThen ihElse ihRest =>
    have lastThen := mem_stages.mpr (after_mem (below current .thenWay) thenBlock)
    have lastElse := mem_stages.mpr (after_mem (below current .elseWay) elseBlock)
    intro edge member
    rw [stages_branch]
    simp only [madeEdges_branch, mem_append] at member
    obtain ((((opening | inThen) | inElse) | elseEnd) | thenEnd) | inRest := member
    · obtain rfl | rfl : _ ∨ _ := by simpa only [mem_cons, not_mem_nil, or_false] using opening
      · exact .onward mem_cons_self (by simp)
      · refine .onward mem_cons_self ?_
        cases elseBlock <;> simp
    · exact (((ihThen _ edge inThen).append_right _).append_right _).later _
    · cases elseBlock with
      | nil => contradiction
      | cons =>
        simp only [isEmpty_cons, Bool.false_eq_true, if_false]
        exact (((ihElse _ edge inElse).append_left _).append_right _).later _
    · cases elseBlock with
      | nil => contradiction
      | cons =>
        obtain rfl := mem_singleton.mp elseEnd
        refine (Forward.cross ?_ (mem_flatten_of_mem mem_cons_self mem_cons_self)).later _
        rw [flatten_append]
        exact mem_append_right _ lastElse
    · obtain rfl := mem_singleton.mp thenEnd
      refine (Forward.cross ?_ (mem_flatten_of_mem mem_cons_self mem_cons_self)).later _
      rw [flatten_append]
      exact mem_append_left _ lastThen
    · exact ((ihRest _ edge inRest).append_left _).later _
  | loop id condition body rest _ ihRest =>
    have inStage : loopStage current body ∈ [current] :: loopStage current body ::
        [below current .exit] :: stages (below current .exit) rest := by simp
    have header : below current .header ∈ loopStage current body := mem_cons_self
    intro edge member
    rw [stages_loop]
    simp only [madeEdges_loop, mem_append, mem_cons, not_mem_nil, or_false] at member
    obtain (((rfl | rfl | rfl) | inBody) | rfl) | inRest := member
    · exact .onward mem_cons_self (by simp [loopStage])
    · exact .within inStage header (by simp [loopStage])
    · exact (Forward.onward header (by simp)).later _
    · obtain ⟨source, target⟩ := madeEdges_mem _ _ edge inBody
      exact .within inStage (mem_cons_of_mem _ source) (mem_cons_of_mem _ target)
    · exact .within inStage (mem_cons_of_mem _ (after_mem _ _)) header
    · exact ((ihRest _ edge inRest).later _).later _
  | leaf s rest leaf ihRest =>
    rw [madeEdges_leaf leaf, stages_leaf leaf]
    exact ihRest current

/-- Blocks that lead to each other are in one stage. -/
theorem same_stage {stages : List (List String)} (distinct : stages.flatten.Nodup)
    (forward : ∀ edge ∈ edges, Forward stages edge.source edge.target) (member : stage ∈ stages)
    {node other : String} (here : node ∈ stage) (both : Mutual edges node other) : other ∈ stage := by
  obtain ⟨earlier, later, rfl⟩ := append_of_mem member
  have keeps {tail : List (List String)} (ends : tail <:+ earlier ++ stage :: later)
      {source target : String} (reaches : Reaches edges source target)
      (start : source ∈ tail.flatten) : target ∈ tail.flatten := by
    refine reaches.keeps (· ∈ tail.flatten) ?_ start
    rintro _ inTail _ ⟨edge, known, rfl, rfl⟩
    exact (forward edge known).mem_tail distinct ends inTail
  have there := keeps (suffix_append _ _) both.1 (mem_append_left later.flatten here)
  refine (mem_append.mp there).resolve_right fun late => ?_
  -- From a later stage there is no way back.
  have back := keeps ⟨earlier ++ [stage], by simp⟩ both.2 late
  rw [flatten_append, nodup_append, flatten_cons, nodup_append] at distinct
  exact distinct.2.1.2.2 node here node back rfl

/-! ## Loops -/

/-- A stage is a single block, or the blocks of a loop for which the moves are among some moves. -/
def IsStage (made : List Move) (stage : List String) : Prop :=
  (∃ name, stage = [name]) ∨ ∃ start id condition body, stage = loopStage start body ∧
    moves start [.loop id condition body] <:+: made

theorem IsStage.mono {part whole : List Move} (inside : part <:+: whole)
    (isStage : IsStage part stage) : IsStage whole stage := by
  obtain single | ⟨start, id, condition, body, same, made⟩ := isStage
  · exact .inl single
  · exact .inr ⟨start, id, condition, body, same, made.trans inside⟩

private theorem isStage_of_mem (member : stage ∈ stages current block) : IsStage (moves current block) stage := by
  induction block using blockInduction generalizing current with
  | nil => contradiction
  | branch id condition thenBlock elseBlock rest ihThen ihElse ihRest =>
    rw [stages_branch, mem_append, mem_append] at member
    rw [moves_branch]
    obtain (inThen | inElse) | inRest := member
    · obtain rfl | inThen := mem_cons.mp inThen
      · exact .inl ⟨_, rfl⟩
      · refine (ihThen inThen).mono ?_
        simp only [append_assoc]
        exact (prefix_append _ _).isInfix.trans (suffix_append _ _).isInfix
    · cases elseBlock with
      | nil => contradiction
      | cons =>
        obtain rfl | inElse := mem_cons.mp inElse
        · exact .inl ⟨_, rfl⟩
        · refine (ihElse inElse).mono ?_
          rw [append_assoc]
          exact (suffix_append _ _).isInfix.trans (prefix_append _ _).isInfix
    · obtain rfl | inRest := mem_cons.mp inRest
      · exact .inl ⟨_, rfl⟩
      · exact (ihRest inRest).mono (suffix_append _ _).isInfix
  | loop id condition body rest _ ihRest =>
    rw [stages_loop, mem_cons, mem_cons] at member
    obtain rfl | rfl | inRest := member
    · refine .inr ⟨current, id, condition, body, rfl, ?_⟩
      rw [moves_loop, moves_loop, moves_nil, append_nil]
      exact (prefix_append _ _).isInfix
    · exact .inl ⟨_, rfl⟩
    · rw [moves_loop]
      exact (ihRest inRest).mono (suffix_append _ _).isInfix
  | leaf s rest leaf ihRest =>
    rw [stages_leaf leaf] at member
    rw [moves_leaf leaf]
    exact (ihRest member).mono (suffix_append _ _).isInfix

/-- Edges lead from every block made for some statements to where control goes on after them. -/
theorem reaches_after {name : String} (subset : madeEdges current block ⊆ edges)
    (member : name ∈ current :: madeNames current block) : Reaches edges name (after current block) := by
  induction block using blockInduction generalizing current name with
  | nil =>
    obtain rfl := mem_singleton.mp member
    exact .refl _ _
  | branch id condition thenBlock elseBlock rest ihThen ihElse ihRest =>
    have whole := reaches_made subset (after_mem _ _)
    simp only [madeEdges_branch, append_subset, cons_subset, nil_subset, and_true] at subset
    obtain ⟨⟨⟨⟨⟨-, inThen⟩, inElse⟩, elseEnd⟩, thenEnd⟩, inRest⟩ := subset
    have fromMerge := ihRest inRest mem_cons_self
    have fromThen {name : String}
        (member : name ∈ below current .thenWay :: madeNames (below current .thenWay) thenBlock) :
        Reaches edges name (after (below current .merge) rest) :=
      ((ihThen inThen member).trans (.along thenEnd)).trans fromMerge
    have fromElse {name : String} (some : elseBlock ≠ [])
        (member : name ∈ below current .elseWay :: madeNames (below current .elseWay) elseBlock) :
        Reaches edges name (after (below current .merge) rest) := by
      rw [isEmpty_eq_false_iff.mpr some] at elseEnd
      exact ((ihElse inElse member).trans (.along (elseEnd mem_cons_self))).trans fromMerge
    simp only [madeNames_branch, mem_cons, mem_append, mem_branchNames] at member
    obtain rfl | (((rfl | ⟨some, rfl⟩ | rfl) | made) | made) | made := member
    · exact whole
    · exact fromThen mem_cons_self
    · exact fromElse (by simpa using some) mem_cons_self
    · exact fromMerge
    · exact fromThen (mem_cons_of_mem _ made)
    · exact fromElse (by rintro rfl; contradiction) (mem_cons_of_mem _ made)
    · exact ihRest inRest (mem_cons_of_mem _ made)
  | loop id condition body rest ihBody ihRest =>
    have whole := reaches_made subset (after_mem _ _)
    simp only [madeEdges_loop, append_subset, cons_subset, nil_subset, and_true] at subset
    obtain ⟨⟨⟨⟨-, -, toExit⟩, inBody⟩, back⟩, inRest⟩ := subset
    have fromHeader : Reaches edges (below current .header) (after (below current .exit) rest) :=
      (Reaches.along toExit).trans (ihRest inRest mem_cons_self)
    have fromBody {name : String}
        (member : name ∈ below current .body :: madeNames (below current .body) body) :
        Reaches edges name (after (below current .exit) rest) :=
      ((ihBody inBody member).trans (.along back)).trans fromHeader
    simp only [madeNames_loop, mem_cons, mem_append, mem_loopNames] at member
    obtain rfl | ((rfl | rfl | rfl) | made) | made := member
    · exact whole
    · exact fromHeader
    · exact fromBody mem_cons_self
    · exact ihRest inRest mem_cons_self
    · exact fromBody (mem_cons_of_mem _ made)
    · exact ihRest inRest (mem_cons_of_mem _ made)
  | leaf s rest leaf ihRest =>
    rw [madeNames_leaf leaf] at member
    rw [madeEdges_leaf leaf] at subset
    rw [after_leaf leaf]
    exact ihRest subset member

/-- The blocks of a loop lead to each other. -/
theorem loopStage_mutual (subset : madeEdges start [.loop id condition body] ⊆ edges) {node other : String}
    (here : node ∈ loopStage start body) (there : other ∈ loopStage start body) : Mutual edges node other := by
  simp only [madeEdges_loop, madeEdges_nil, append_subset, cons_subset, nil_subset,
    and_true] at subset
  obtain ⟨⟨⟨-, toBody, -⟩, inBody⟩, back⟩ := subset
  have leaves {name : String} (member : name ∈ loopStage start body) :
      Reaches edges (below start .header) name := by
    obtain rfl | made := mem_cons.mp member
    · exact .refl _ _
    · exact (Reaches.along toBody).trans (reaches_made inBody made)
  have returns {name : String} (member : name ∈ loopStage start body) :
      Reaches edges name (below start .header) := by
    obtain rfl | made := mem_cons.mp member
    · exact .refl _ _
    · exact (reaches_after inBody made).trans (.along back)
  exact ⟨(returns here).trans (leaves there), (returns there).trans (leaves here)⟩

private theorem exit_not_mem_loopStage (start : String) (body : List Stmt) :
    below start .exit ∉ loopStage start body := by
  intro member
  simp only [loopStage, mem_cons] at member
  obtain same | same | made := member
  · exact below_ne_below start (by decide) same
  · exact below_ne_below start (by decide) same
  · obtain ⟨_, extended⟩ := extends_of_made made
    exact absurd (suffix_unique extended.of_below (.refl _)) (by decide)

/-- A component of a control flow graph that consists of the blocks of a loop. All other loops of the
component are inside the body of this one. -/
structure IsLoop (graph : ControlGraph) (component : List String) (start id : String)
    (condition : Option Expr) (body : List Stmt) : Prop where
  /-- The header of the loop holds the loop statement. -/
  header : ∃ block, (below start .header, block) ∈ graph.blocks ∧
    .loop id condition body ∈ block.statements
  /-- The component has the header and the blocks made for the body, and no others. -/
  blocks : ∀ name, name ∈ component ↔ name = below start .header ∨
    name ∈ below start .body :: madeNames (below start .body) body
  /-- An edge leads from the header to where the loop is left. -/
  left : below start .exit ∈ successors graph.edges (below start .header)
  outside : below start .exit ∉ component

/-- An edge leads out of the blocks of a loop. -/
theorem IsLoop.hasExit (loop : IsLoop graph component start id condition body) :
    hasExit graph.edges component = true := by
  have header : below start .header ∈ component := (loop.blocks _).mpr (.inl rfl)
  simp only [Flow.hasExit, any_eq_true]
  exact ⟨_, header, _, loop.left, by simpa using loop.outside⟩

/-- The stages of a function, the entry being the first. -/
def stagesFrom (f : Function) : List (List String) := [entryName f] :: stages (entryName f) f.body

/-- The stages are made of the names in the graph. -/
theorem stagesFrom_perm (f : Function) : (stagesFrom f).flatten.Perm (finished f).names := by
  rw [finished_names]
  exact (stages_perm (entryName f) f.body).cons (entryName f)

private theorem stagesFrom_nodup (f : Function) : (stagesFrom f).flatten.Nodup :=
  (stagesFrom_perm f).nodup_iff.mpr (finished_nodup f)

private theorem stagesFrom_forward (f : Function) :
    ∀ edge ∈ (finished f).edges, Forward (stagesFrom f) edge.source edge.target := by
  rw [finished_edges]
  exact madeEdges_forward (entryName f) f.body

private theorem isStage_of_stagesFrom (member : stage ∈ stagesFrom f) :
    IsStage (moves (entryName f) f.body) stage := by
  obtain rfl | member := mem_cons.mp member
  · exact .inl ⟨_, rfl⟩
  · exact isStage_of_mem member

private theorem loop_edges (made : moves start [.loop id condition body] <:+: moves (entryName f) f.body) :
    madeEdges start [.loop id condition body] ⊆ (finished f).edges := by
  rw [finished_edges]
  exact (made.flatMap Move.joined).subset

private theorem loop_header (made : moves start [.loop id condition body] <:+: moves (entryName f) f.body) :
    ∃ block, (below start .header, block) ∈ (finished f).blocks ∧
      .loop id condition body ∈ block.statements := by
  have placed : (below start .header, .loop id condition body) ∈ placements (entryName f) f.body := by
    refine (made.flatMap Move.placed).subset ?_
    change _ ∈ placements start [.loop id condition body]
    simp [placements_loop]
  obtain ⟨⟨name, block⟩, known, rfl⟩ := mem_map.mp ((finished_holds f).inBlocks _ placed)
  refine ⟨block, known, ?_⟩
  rw [(finished_holds f).statements _ known]
  exact mem_map.mpr ⟨_, mem_filter.mpr ⟨placed, by simp⟩, rfl⟩

/-- Every component with more than one block is a loop. -/
theorem component_isLoop (built : controlGraph f = .ok graph) (found : component ∈ graph.components)
    (long : 1 < component.length) :
    ∃ start id condition body, IsLoop graph component start id condition body := by
  have decomposed := components_decomposes (controlGraph_within built)
  have strong := decomposed.strong component found
  obtain ⟨-, rfl⟩ | ⟨-, rfl⟩ := controlGraph_cases built
  · contradiction
  -- Two blocks of the component share a stage, which is therefore not a single block.
  have distinct : component.Nodup := (nodup_flatten.mp decomposed.once).1 component found
  obtain ⟨first, second, rest, rfl⟩ : ∃ first second rest, component = first :: second :: rest := by
    match component, long with
    | first :: second :: rest, _ => exact ⟨first, second, rest, rfl⟩
  have present := (decomposed.covers first).mp (mem_flatten_of_mem found mem_cons_self)
  obtain ⟨stage, known, here⟩ := mem_flatten.mp ((stagesFrom_perm f).mem_iff.mpr present)
  have inStage {name : String} (member : name ∈ first :: second :: rest) : name ∈ stage :=
    same_stage (stagesFrom_nodup f) (stagesFrom_forward f) known here
      ((strong.mem_iff first mem_cons_self name).mp member)
  obtain ⟨name, rfl⟩ | ⟨start, id, condition, body, rfl, made⟩ := isStage_of_stagesFrom known
  · have one := mem_singleton.mp here
    have two := mem_singleton.mp (inStage (mem_cons_of_mem _ mem_cons_self))
    simp [one, two] at distinct
  · have edges := loop_edges made
    have exit : Joined (finished f).edges (below start .header) (below start .exit) :=
      ⟨⟨below start .header, below start .exit, .whenFalse⟩, edges (by simp [madeEdges_loop]), rfl, rfl⟩
    refine ⟨start, id, condition, body, loop_header made, ?_, mem_successors.mpr exit, ?_⟩
    · intro name
      rw [← mem_cons]
      refine ⟨inStage, fun member => ?_⟩
      exact (strong.mem_iff first mem_cons_self name).mpr (loopStage_mutual edges here member)
    · exact fun member => exit_not_mem_loopStage start body (inStage member)

end ContractLint.Flow
