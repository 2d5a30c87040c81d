import ContractLint.Proofs.Flow.Run

/-! # The size of a control flow graph

A branch with one way adds two blocks, a branch with two ways or a loop adds three, and no block is
ever replaced by another. Each branch and each loop adds one edge more than it adds blocks, so the
number of independent ways through a function is one more than the number of its branches and loops.
-/

namespace ContractLint.Flow

open List Program

/-- The blocks made for some statements are counted by their branches and loops. -/
theorem madeNames_length (current : String) (block : List Stmt) :
    (madeNames current block).length =
      2 * (unnest block).countP Stmt.isOneWay + 3 * (unnest block).countP Stmt.isTwoWay
        + 3 * (unnest block).countP Stmt.isLoop := by
  induction block using blockInduction generalizing current with
  | nil => rfl
  | branch id condition thenBlock elseBlock rest ihThen ihElse ihRest =>
    rw [madeNames_branch, unnest_branch]
    simp only [length_append, countP_cons, countP_append, ihThen, ihElse, ihRest]
    cases elseBlock <;> simp [branchNames, Stmt.isOneWay, Stmt.isTwoWay, Stmt.isLoop] <;> omega
  | loop id condition body rest ihBody ihRest =>
    rw [madeNames_loop, unnest_loop]
    simp only [length_append, countP_cons, countP_append, ihBody, ihRest]
    simp [loopNames, Stmt.isOneWay, Stmt.isTwoWay, Stmt.isLoop]
    omega
  | leaf s rest leaf ihRest =>
    rw [madeNames_leaf leaf, unnest_leaf leaf, ihRest]
    cases s with
    | branch => contradiction
    | loop => contradiction
    | assign | ret | plain => rfl

/-- There is one edge for each block made, and one more for each branch and each loop. -/
theorem madeEdges_length {block : List Stmt} (whole : Whole block) (current : String) :
    (madeEdges current block).length =
      (madeNames current block).length + (unnest block).countP Stmt.decides := by
  induction block using blockInduction generalizing current with
  | nil => rfl
  | branch id condition thenBlock elseBlock rest ihThen ihElse ihRest =>
    obtain ⟨wholeThen, wholeElse, wholeRest⟩ := whole_branch.mp whole
    have decides : (Stmt.branch id condition thenBlock elseBlock).decides := rfl
    rw [madeEdges_branch, madeNames_branch, unnest_branch, countP_cons_of_pos decides]
    simp only [length_append, countP_append, ihThen wholeThen, ihElse wholeElse,
      ihRest wholeRest]
    cases elseBlock <;> simp [branchNames] <;> omega
  | loop id condition body rest ihBody ihRest =>
    obtain ⟨wholeBody, wholeRest⟩ := whole_loop.mp whole
    have decides : (Stmt.loop id condition body).decides := rfl
    rw [madeEdges_loop, madeNames_loop, unnest_loop, countP_cons_of_pos decides]
    simp only [length_append, countP_append, ihBody wholeBody, ihRest wholeRest]
    simp [loopNames]
    omega
  | leaf s rest leaf ihRest =>
    obtain ⟨simple, wholeRest⟩ := (whole_leaf leaf).mp whole
    rw [madeEdges_leaf leaf, madeNames_leaf leaf, unnest_leaf leaf, ihRest wholeRest,
      countP_cons_of_neg (by simp [simple])]

/-- A list of statements makes one edge back for each of its loops. -/
theorem madeEdges_loopBack (current : String) (block : List Stmt) :
    (madeEdges current block).countP (fun edge => edge.kind = .loopBack) =
      (unnest block).countP Stmt.isLoop := by
  induction block using blockInduction generalizing current with
  | nil => rfl
  | branch id condition thenBlock elseBlock rest ihThen ihElse ihRest =>
    have other : ¬(Stmt.branch id condition thenBlock elseBlock).isLoop := by simp [Stmt.isLoop]
    rw [madeEdges_branch, unnest_branch, countP_cons_of_neg other]
    simp only [countP_append, ihThen, ihElse, ihRest]
    cases elseBlock <;> simp
  | loop id condition body rest ihBody ihRest =>
    have loop : (Stmt.loop id condition body).isLoop := rfl
    rw [madeEdges_loop, unnest_loop, countP_cons_of_pos loop]
    simp only [countP_append, ihBody, ihRest]
    grind
  | leaf s rest leaf ihRest =>
    rw [madeEdges_leaf leaf, unnest_leaf leaf, ihRest]
    cases s with
    | branch => contradiction
    | loop => contradiction
    | assign | ret | plain => rfl

theorem finished_length (f : Function) :
    (finished f).blocks.length = 1 + (madeNames (entryName f) f.body).length := by
  have names := congrArg List.length (finished_names f)
  rw [ControlGraph.names, length_map, length_cons] at names
  omega

/-- Building never replaces a block: every name that it makes is new when it is made, so the graph has
exactly the entry and the blocks made, as many as the branches and loops of the function call for,
each under its own name; and every edge joins two of them. -/
theorem controlGraph_never_replaces {f : Function} (nonempty : f.body ≠ []) (whole : Whole f.body) :
    controlGraph f = .ok (finished f) ∧
      Valid [entryName f] (moves (entryName f) f.body) ∧
      (finished f).names = entryName f :: madeNames (entryName f) f.body ∧
      (finished f).names.Nodup ∧
      (finished f).blocks.map (fun entry => entry.2.id) = (finished f).names ∧
      (finished f).blocks.length =
        1 + 2 * (unnest f.body).countP Stmt.isOneWay + 3 * (unnest f.body).countP Stmt.isTwoWay
          + 3 * (unnest f.body).countP Stmt.isLoop ∧
      ∀ edge ∈ (finished f).edges,
        edge.source ∈ (finished f).names ∧ edge.target ∈ (finished f).names := by
  refine ⟨controlGraph_eq nonempty whole, body_valid f, finished_names f, finished_nodup f, ?_, ?_,
    finished_endpoints f⟩
  · exact map_congr_left (finished_keyed f)
  · rw [finished_length, madeNames_length]
    omega

theorem controlGraph_never_replaces_sample :
    Whole sample.body ∧ controlGraph sample = .ok (finished sample) ∧
      (finished sample).blocks.length = 9 := by
  have whole : Whole sample.body := by decide
  obtain ⟨built, _, _, _, _, size, _⟩ := controlGraph_never_replaces (cons_ne_nil _ _) whole
  exact ⟨whole, built, size⟩

/-- The number of independent ways through a function is one more than the number of its branches and
loops at any depth. -/
theorem complexity_counts_decisions {f : Function} (nonempty : f.body ≠ []) (whole : Whole f.body) :
    ∃ graph, controlGraph f = .ok graph ∧
      graph.complexity = (graph.edges.length : Int) - graph.blocks.length + 2 ∧
      graph.complexity = 1 + (unnest f.body).countP Stmt.decides := by
  refine ⟨finished f, controlGraph_eq nonempty whole, rfl, ?_⟩
  have edges : (finished f).edges.length =
      (madeNames (entryName f) f.body).length + (unnest f.body).countP Stmt.decides := by
    rw [finished_edges, madeEdges_length whole]
  have blocks := finished_length f
  rw [ControlGraph.complexity]
  omega

theorem complexity_counts_decisions_sample :
    Whole sample.body ∧ ∃ graph, controlGraph sample = .ok graph ∧ graph.complexity = 4 := by
  have whole : Whole sample.body := by decide
  obtain ⟨graph, built, _, size⟩ := complexity_counts_decisions (cons_ne_nil _ _) whole
  exact ⟨whole, graph, built, size⟩

end ContractLint.Flow
