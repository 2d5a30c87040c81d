import ContractLint.Proofs.Flow.Move

/-! # Every block gets a name of its own

The name of a block begins with the name of the block before it. No suffix begins another, so names
that go on from one block by different suffixes never meet, however long they grow. A block is gone
on from at most once; hence every move of building makes a block under a name that is not taken, and
speaks of blocks that are there (`moves_valid`).
-/

namespace ContractLint.Flow

open List Program

variable {current name : String} {names : List String} {suffix : Suffix} {block : List Stmt} {hasElse : Bool}

/-! ## Names that go on from a name -/

/-- A name begins with another one. -/
def Extends (current name : String) : Prop := ∃ rest, name = current ++ rest

theorem Extends.refl (name : String) : Extends name name := ⟨"", String.append_empty.symm⟩

theorem Extends.of_below (extends_ : Extends (below current suffix) name) : Extends current name := by
  obtain ⟨rest, rfl⟩ := extends_
  exact ⟨suffix.text ++ rest, String.append_assoc⟩

/-- No suffix begins another: a name goes on from a block by one suffix alone. -/
theorem suffix_unique {first second : Suffix} (one : Extends (below current first) name)
    (two : Extends (below current second) name) : first = second := by
  obtain ⟨rest, rfl⟩ := one
  obtain ⟨other, same⟩ := two
  have texts := congrArg String.toList same
  simp only [below, String.toList_append, append_assoc, append_cancel_left_eq] at texts
  -- Two different suffixes differ at a letter that both have, so what follows them does not matter.
  cases first <;> cases second <;> simp [Suffix.text] at texts ⊢

/-- No name extends one below it. -/
theorem not_extends_self (current : String) (suffix : Suffix) : ¬ Extends (below current suffix) current := by
  rintro ⟨rest, same⟩
  have lengths := congrArg (fun text => text.toList.length) same
  simp only [below, String.toList_append, length_append] at lengths
  have positive : 0 < suffix.text.toList.length := by cases suffix <;> decide
  omega

theorem below_ne (current : String) (suffix : Suffix) : below current suffix ≠ current :=
  fun same => not_extends_self current suffix ⟨"", by rw [same, String.append_empty]⟩

/-- Names with different suffixes are different. -/
theorem below_ne_below (current : String) {first second : Suffix} (different : first ≠ second) :
    below current first ≠ below current second :=
  fun same => different (suffix_unique (.refl _) ⟨"", by rw [same, String.append_empty]⟩)

/-! ## The names made for a block -/

/-- The names under which building puts blocks for some statements, in their order. -/
def madeNames (current : String) (block : List Stmt) : List String :=
  (moves current block).flatMap Move.made

/-- The names made for the ways of a branch and for where they meet. -/
def branchNames (current : String) (hasElse : Bool) : List String :=
  below current .thenWay :: (if hasElse then [below current .elseWay] else [])
  ++ [below current .merge]

/-- The names made for a loop and for where it is left. -/
def loopNames (current : String) : List String :=
  [below current .header, below current .body, below current .exit]

theorem made_branchMoves (current : String) (s : Stmt) (hasElse : Bool) :
    (branchMoves current s hasElse).flatMap Move.made = branchNames current hasElse := by
  cases hasElse <;> rfl

theorem made_mergeMoves (current : String) (thenBlock elseBlock : List Stmt) :
    (mergeMoves current thenBlock elseBlock).flatMap Move.made = [] := by
  cases elseBlock <;> rfl

theorem made_loopMoves (current : String) (s : Stmt) :
    (loopMoves current s).flatMap Move.made = loopNames current := rfl

theorem made_leafMoves (current : String) (s : Stmt) : (leafMoves current s).flatMap Move.made = [] := by
  simp only [leafMoves]
  split <;> rfl

@[simp] theorem madeNames_nil (current : String) : madeNames current [] = [] := rfl

theorem madeNames_branch (current id : String) (condition : Option Expr) (thenBlock elseBlock rest : List Stmt) :
    madeNames current (.branch id condition thenBlock elseBlock :: rest) =
      branchNames current (!elseBlock.isEmpty)
      ++ madeNames (below current .thenWay) thenBlock
      ++ madeNames (below current .elseWay) elseBlock
      ++ madeNames (below current .merge) rest := by
  simp only [madeNames, moves_branch, flatMap_append, made_branchMoves, made_mergeMoves,
    append_nil]

theorem madeNames_loop (current id : String) (condition : Option Expr) (body rest : List Stmt) :
    madeNames current (.loop id condition body :: rest) =
      loopNames current
      ++ madeNames (below current .body) body
      ++ madeNames (below current .exit) rest := by
  simp only [madeNames, moves_loop, flatMap_append, made_loopMoves, flatMap_singleton,
    Move.made, append_nil]

theorem madeNames_leaf {s : Stmt} (leaf : s.isLeaf) (current : String) (rest : List Stmt) :
    madeNames current (s :: rest) = madeNames current rest := by
  rw [madeNames, moves_leaf leaf, flatMap_append, made_leafMoves]
  rfl

theorem mem_branchNames :
    name ∈ branchNames current hasElse ↔ name = below current .thenWay ∨
      (hasElse ∧ name = below current .elseWay) ∨ name = below current .merge := by
  cases hasElse <;> simp [branchNames]

theorem mem_loopNames :
    name ∈ loopNames current ↔ name = below current .header ∨ name = below current .body ∨
      name = below current .exit := by
  simp [loopNames]

theorem below_of_branchNames
    (member : name ∈ branchNames current hasElse) : ∃ suffix, name = below current suffix := by
  obtain rfl | ⟨_, rfl⟩ | rfl := mem_branchNames.mp member
  · exact ⟨.thenWay, rfl⟩
  · exact ⟨.elseWay, rfl⟩
  · exact ⟨.merge, rfl⟩

theorem below_of_loopNames (member : name ∈ loopNames current) : ∃ suffix, name = below current suffix := by
  obtain rfl | rfl | rfl := mem_loopNames.mp member
  · exact ⟨.header, rfl⟩
  · exact ⟨.body, rfl⟩
  · exact ⟨.exit, rfl⟩

/-- Every name made for a block goes on from the name of the block before it. -/
theorem extends_of_made
    (member : name ∈ madeNames current block) : ∃ suffix, Extends (below current suffix) name := by
  induction block using blockInduction generalizing current with
  | nil => contradiction
  | branch id condition thenBlock elseBlock rest ihThen ihElse ihRest =>
    simp only [madeNames_branch, mem_append] at member
    obtain ((opened | inThen) | inElse) | inRest := member
    · obtain ⟨suffix, rfl⟩ := below_of_branchNames opened
      exact ⟨suffix, .refl _⟩
    · obtain ⟨_, extended⟩ := ihThen inThen
      exact ⟨_, extended.of_below⟩
    · obtain ⟨_, extended⟩ := ihElse inElse
      exact ⟨_, extended.of_below⟩
    · obtain ⟨_, extended⟩ := ihRest inRest
      exact ⟨_, extended.of_below⟩
  | loop id condition body rest ihBody ihRest =>
    simp only [madeNames_loop, mem_append] at member
    obtain (opened | inBody) | inRest := member
    · obtain ⟨suffix, rfl⟩ := below_of_loopNames opened
      exact ⟨suffix, .refl _⟩
    · obtain ⟨_, extended⟩ := ihBody inBody
      exact ⟨_, extended.of_below⟩
    · obtain ⟨_, extended⟩ := ihRest inRest
      exact ⟨_, extended.of_below⟩
  | leaf s rest leaf ihRest =>
    rw [madeNames_leaf leaf] at member
    exact ihRest member

/-- The control goes on in the block where it was or in one that was made. -/
theorem after_mem (current : String) (block : List Stmt) :
    after current block ∈ current :: madeNames current block := by
  induction block using blockInduction generalizing current with
  | nil => simp
  | branch id condition thenBlock elseBlock rest _ _ ihRest =>
    apply mem_cons_of_mem
    rw [madeNames_branch, after_branch]
    obtain same | inRest := mem_cons.mp (ihRest (below current .merge))
    · simp [same, mem_branchNames]
    · exact mem_append_right _ inRest
  | loop id condition body rest _ ihRest =>
    apply mem_cons_of_mem
    rw [madeNames_loop, after_loop]
    obtain same | inRest := mem_cons.mp (ihRest (below current .exit))
    · simp [same, mem_loopNames]
    · exact mem_append_right _ inRest
  | leaf s rest leaf ihRest =>
    rw [madeNames_leaf leaf, after_leaf leaf]
    exact ihRest current

/-! ## Moves that fit -/

/-- A move makes a block under a name that is not taken, or speaks of blocks that are there. -/
def Move.Fits (names : List String) : Move → Prop
  | make block => block.id ∉ names
  | place name _ => name ∈ names
  | fork name => name ∈ names
  | stop name => name ∈ names
  | join edge => edge.source ∈ names ∧ edge.target ∈ names

/-- Each of the moves fits the names that are taken when its turn comes. -/
def Valid (names : List String) : List Move → Prop
  | [] => True
  | move :: rest => move.Fits names ∧ Valid (names ++ move.made) rest

private theorem valid_append {first second : List Move} :
    Valid names (first ++ second) ↔
      Valid names first ∧ Valid (names ++ first.flatMap Move.made) second := by
  induction first generalizing names with
  | nil => simp [Valid]
  | cons move rest ih =>
    simp only [cons_append, Valid, ih, flatMap_cons, append_assoc, and_assoc]

/-- A block can be gone on from: it is there, and no name that goes on from its name is taken. -/
structure Ready (names : List String) (current : String) : Prop where
  present : current ∈ names
  alone : ∀ name ∈ names, Extends current name → name = current

namespace Ready

variable {names added : List String} {current : String}

/-- Where a block is to be continued, all names below are free. -/
theorem fresh (ready : Ready names current) (suffix : Suffix) : below current suffix ∉ names :=
  fun member => below_ne current suffix (ready.alone _ member (.of_below (.refl _)))

/-- Once a block has been gone on from, one can go on from a block that comes after it, unless a name
made meanwhile goes on from that one. -/
theorem goOn (ready : Ready names current) (made : below current suffix ∈ added)
    (alone : ∀ name ∈ added, Extends (below current suffix) name → name = below current suffix) :
    Ready (names ++ added) (below current suffix) where
  present := mem_append_right _ made
  alone := by
    intro name member extended
    obtain earlier | later := mem_append.mp member
    · have same := ready.alone name earlier extended.of_below
      exact absurd (same ▸ extended) (not_extends_self current suffix)
    · exact alone name later extended

end Ready

theorem alone_below {other : Suffix} (extended : Extends (below current suffix) (below current other)) :
    below current other = below current suffix := by
  rw [suffix_unique extended (.refl _)]

/-- Names made after a block are out of the way of those that go on by another suffix. -/
theorem alone_made {other : Suffix} (different : other ≠ suffix) :
    ∀ name ∈ madeNames (below current other) block,
      Extends (below current suffix) name → name = below current suffix := by
  intro name member extended
  obtain ⟨_, elsewhere⟩ := extends_of_made member
  exact absurd (suffix_unique elsewhere.of_below extended) different

theorem alone_branchNames :
    ∀ name ∈ branchNames current hasElse,
      Extends (below current suffix) name → name = below current suffix := by
  intro name member extended
  obtain ⟨_, rfl⟩ := below_of_branchNames member
  exact alone_below extended

theorem alone_loopNames :
    ∀ name ∈ loopNames current,
      Extends (below current suffix) name → name = below current suffix := by
  intro name member extended
  obtain ⟨_, rfl⟩ := below_of_loopNames member
  exact alone_below extended

/-! ## The moves of building fit -/

private theorem leafMoves_valid (present : current ∈ names) (s : Stmt) : Valid names (leafMoves current s) := by
  simp only [leafMoves]
  split <;> simp [Valid, Move.Fits, Move.made, present]

private theorem branchMoves_valid (ready : Ready names current)
    (s : Stmt) (hasElse : Bool) : Valid names (branchMoves current s hasElse) := by
  cases hasElse <;>
    simp [branchMoves, Valid, Move.Fits, Move.made, ready.present, ready.fresh, below_ne_below]

private theorem mergeMoves_valid {thenBlock elseBlock : List Stmt}
    (merge : below current .merge ∈ names) (lastThen : after (below current .thenWay) thenBlock ∈ names)
    (lastElse : elseBlock ≠ [] → after (below current .elseWay) elseBlock ∈ names) :
    Valid names (mergeMoves current thenBlock elseBlock) := by
  cases elseBlock with
  | nil => simp [mergeMoves, Valid, Move.Fits, merge, lastThen]
  | cons s rest => simp [mergeMoves, Valid, Move.Fits, Move.made, merge, lastThen, lastElse]

private theorem loopMoves_valid (ready : Ready names current) (s : Stmt) : Valid names (loopMoves current s) := by
  simp [loopMoves, Valid, Move.Fits, Move.made, ready.present, ready.fresh, below_ne_below]

private theorem after_present (present : current ∈ names)
    (block : List Stmt) : after current block ∈ names ++ madeNames current block := by
  obtain same | made := mem_cons.mp (after_mem current block)
  · rw [same]
    exact mem_append_left _ present
  · exact mem_append_right _ made

namespace Ready

variable {names : List String} {current : String}

private theorem thenWay (ready : Ready names current) (hasElse : Bool) :
    Ready (names ++ branchNames current hasElse) (below current .thenWay) :=
  ready.goOn (by simp [mem_branchNames]) alone_branchNames

private theorem elseWay (ready : Ready names current) (thenBlock : List Stmt) :
    Ready (names ++ branchNames current true ++ madeNames (below current .thenWay) thenBlock)
      (below current .elseWay) := by
  rw [append_assoc]
  apply ready.goOn
  · simp [mem_branchNames]
  · exact forall_mem_append.mpr ⟨alone_branchNames, alone_made (by decide)⟩

private theorem merge (ready : Ready names current) (hasElse : Bool) (thenBlock elseBlock : List Stmt) :
    Ready (names ++ branchNames current hasElse ++ madeNames (below current .thenWay) thenBlock
      ++ madeNames (below current .elseWay) elseBlock) (below current .merge) := by
  rw [append_assoc, append_assoc]
  apply ready.goOn
  · simp [mem_branchNames]
  · simp only [forall_mem_append]
    exact ⟨alone_branchNames, alone_made (by decide), alone_made (by decide)⟩

private theorem body (ready : Ready names current) : Ready (names ++ loopNames current) (below current .body) :=
  ready.goOn (by simp [mem_loopNames]) alone_loopNames

private theorem exit (ready : Ready names current) (body : List Stmt) :
    Ready (names ++ loopNames current ++ madeNames (below current .body) body)
      (below current .exit) := by
  rw [append_assoc]
  apply ready.goOn
  · simp [mem_loopNames]
  · exact forall_mem_append.mpr ⟨alone_loopNames, alone_made (by decide)⟩

end Ready

/-- Building goes on from each block at most once, so all its moves fit. -/
theorem moves_valid (ready : Ready names current) : Valid names (moves current block) := by
  induction block using blockInduction generalizing names current with
  | nil => trivial
  | branch id condition thenBlock elseBlock rest ihThen ihElse ihRest =>
    have readyThen := ready.thenWay (!elseBlock.isEmpty)
    have readyRest := ready.merge (!elseBlock.isEmpty) thenBlock elseBlock
    have lastThen := mem_append_left (madeNames (below current .elseWay) elseBlock)
      (after_present readyThen.present thenBlock)
    simp only [moves_branch, valid_append, flatMap_append, made_branchMoves, made_mergeMoves,
      append_nil, ← append_assoc]
    refine ⟨⟨⟨⟨branchMoves_valid ready _ _, ihThen readyThen⟩, ?_⟩, ?_⟩, ihRest readyRest⟩
    -- Without statements in it, the second way has no block, and no moves that would need one.
    · cases elseBlock with
      | nil => trivial
      | cons => exact ihElse (ready.elseWay thenBlock)
    · refine mergeMoves_valid readyRest.present lastThen fun some => ?_
      cases elseBlock with
      | nil => contradiction
      | cons => exact after_present (ready.elseWay thenBlock).present _
  | loop id condition body rest ihBody ihRest =>
    have lastBody := after_present ready.body.present body
    have header : below current .header ∈ names ++ loopNames current := by simp [mem_loopNames]
    simp only [moves_loop, valid_append, flatMap_append, made_loopMoves, flatMap_singleton,
      Move.made, append_nil, ← append_assoc]
    refine ⟨⟨⟨loopMoves_valid ready _, ihBody ready.body⟩, ?_⟩, ihRest (ready.exit body)⟩
    exact ⟨⟨lastBody, mem_append_left _ header⟩, trivial⟩
  | leaf s rest leaf ihRest =>
    rw [moves_leaf leaf, valid_append, made_leafMoves, append_nil]
    exact ⟨leafMoves_valid ready.present s, ihRest ready⟩

end ContractLint.Flow
