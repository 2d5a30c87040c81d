import ContractLint.Proofs.Flow.Reachable
import Mathlib.Data.List.Nodup
import Mathlib.Data.List.Perm.Subperm

/-! # The search for components

The search numbers the nodes in the order in which it meets them and keeps those on a stack that are
in no component yet. `Sound` is what holds of its state between any two steps. What the search does
from a node on is described relative to the state in which it came to the node: which nodes it leaves
on the stack, to which node of the stack it came back (`Stretch`). No account of the nodes that the
search is still busy with is needed: a node left on the stack leads to one that was there before.
-/

namespace ContractLint.Flow

open List

variable {node : String} {search : Search}

/-! ## Components -/

/-- Chains of edges lead from each of two nodes to the other. -/
def Mutual (edges : List Edge) (node other : String) : Prop :=
  Reaches edges node other ∧ Reaches edges other node

/-- Nodes that lead to each other, with all that lead to them and back. -/
structure IsComponent (edges : List Edge) (component : List String) : Prop where
  nonempty : component ≠ []
  /-- One node of the component tells which the others are. -/
  mem_iff : ∀ node ∈ component, ∀ other, other ∈ component ↔ Mutual edges node other

/-- Components in an order of which edges lead backwards only. -/
inductive Settled (edges : List Edge) : List (List String) → Prop where
  | nil : Settled edges []
  | snoc {found : List (List String)} {component : List String} (settled : Settled edges found)
      (strong : IsComponent edges component)
      (closed : ∀ node ∈ component, ∀ other, Joined edges node other →
        other ∈ component ∨ other ∈ found.flatten) :
      Settled edges (found ++ [component])

namespace Settled

variable {edges : List Edge} {found : List (List String)}

theorem isComponent (settled : Settled edges found) : ∀ component ∈ found, IsComponent edges component := by
  induction settled with
  | nil => simp
  | snoc _ strong _ ih => simpa [or_imp, forall_and] using ⟨ih, strong⟩

/-- No chain of edges leads out of settled components. -/
theorem mem_of_reaches (settled : Settled edges found) {other : String}
    (reaches : Reaches edges node other) (member : node ∈ found.flatten) : other ∈ found.flatten := by
  refine reaches.keeps (· ∈ found.flatten) ?_ member
  clear member reaches
  induction settled with
  | nil => simp
  | @snoc found component _ _ closed ih =>
    intro node member other step
    rw [flatten_append, mem_append] at member ⊢
    obtain earlier | last := member
    · exact .inl (ih node earlier other step)
    · simpa using (closed node (by simpa using last) other step).symm

/-- No chain of edges leads from a component to one that was settled later. -/
theorem ordered (settled : Settled edges found) (distinct : found.flatten.Nodup) :
    found.Pairwise fun earlier later => ∀ node ∈ earlier, ∀ other ∈ later,
      ¬ Reaches edges node other := by
  induction settled with
  | nil => exact .nil
  | @snoc found component settled _ _ ih =>
    rw [flatten_append, nodup_append] at distinct
    obtain ⟨distinct, -, apart⟩ := distinct
    refine pairwise_append.mpr ⟨ih distinct, pairwise_singleton _ _, ?_⟩
    intro earlier known later last node member other inLater reaches
    obtain rfl := mem_singleton.mp last
    have inEarlier := settled.mem_of_reaches reaches (mem_flatten_of_mem known member)
    exact apart other inEarlier other (by simpa using inLater) rfl

end Settled

/-! ## Numbers -/

/-- Nodes are numbered in the order in which they were met, the last one first, and none is met
twice. -/
def Numbered : List (String × Nat) → Prop
  | [] => True
  | (node, number) :: earlier =>
    number = earlier.length ∧ node ∉ earlier.map Prod.fst ∧ Numbered earlier

namespace Numbered

variable {numbers earlier : List (String × Nat)} {node : String} {number other : Nat}

theorem nodup (numbered : Numbered numbers) : (numbers.map Prod.fst).Nodup := by
  induction numbers with
  | nil => exact nodup_nil
  | cons _ _ ih => exact nodup_cons.mpr ⟨numbered.2.1, ih numbered.2.2⟩

/-- Numbers are less than the number of nodes met. -/
theorem lt_length (numbered : Numbered numbers) (member : (node, number) ∈ numbers) : number < numbers.length := by
  induction numbers with
  | nil => contradiction
  | cons first rest ih =>
    obtain ⟨same, -, rest⟩ := numbered
    rw [length_cons]
    obtain rfl | member := mem_cons.mp member
    · change number = _ at same
      omega
    · have := ih rest member
      omega

private theorem unique (numbered : Numbered numbers) (one : (node, number) ∈ numbers)
    (two : (node, other) ∈ numbers) : number = other :=
  congrArg Prod.snd (inj_on_of_nodup_map numbered.nodup one two rfl)

/-- A node with a small number was met early. -/
theorem mem_of_lt (numbered : Numbered numbers) (earlierFirst : earlier <:+ numbers)
    (member : (node, number) ∈ numbers) (small : number < earlier.length) : (node, number) ∈ earlier := by
  induction numbers with
  | nil => contradiction
  | cons first rest ih =>
    obtain ⟨same, -, numbered⟩ := numbered
    obtain rfl | shorter := suffix_cons_iff.mp earlierFirst
    · exact member
    · obtain rfl | member := mem_cons.mp member
      · have := shorter.length_le
        change number = _ at same
        omega
      · exact ih numbered shorter member

end Numbered

/-! ## The state of the search -/

namespace Search

/-- The nodes met so far. -/
def met (search : Search) : List String := search.numbers.map Prod.fst

theorem mem_met : node ∈ search.met ↔ ∃ number, (node, number) ∈ search.numbers := by
  simp [met]

private theorem length_met (search : Search) : search.met.length = search.numbers.length :=
  length_map _

theorem lookup_eq_none : search.numbers.lookup node = none ↔ node ∉ search.met := by
  rw [lookup_eq_none_iff, mem_met]
  grind

theorem mem_of_lookup {number : Nat}
    (known : search.numbers.lookup node = some number) : (node, number) ∈ search.numbers := by
  obtain ⟨before, after, same, -⟩ := lookup_eq_some_iff.mp known
  simp [same]

/-- The state when the search comes to a node. -/
def enter (search : Search) (node : String) : Search :=
  { search with
    numbers := (node, search.numbers.length) :: search.numbers
    stack := node :: search.stack }

/-- What the search does at an edge to another node, given the least number to which it came back so
far. -/
def follow (next : String → List String) (depth : Nat) (state : Nat × Search) (other : String) : Nat × Search :=
  match state.2.numbers.lookup other with
  | none =>
    (min state.1 (visit next depth other state.2).1, (visit next depth other state.2).2)
  | some known =>
    (if state.2.stack.contains other then min state.1 known else state.1, state.2)

theorem visit_succ (next : String → List String) (depth : Nat) (node : String) (search : Search) :
    visit next (depth + 1) node search =
      let state := (next node).foldl (follow next depth) (search.numbers.length, search.enter node)
      (state.1, if state.1 = search.numbers.length then state.2.close node else state.2) := rfl

end Search

/-- What holds of the search between any two of its steps, when it is confined to some nodes. -/
structure Sound (edges : List Edge) (nodes : List String) (search : Search) : Prop where
  /-- The nodes are numbered as they were met. -/
  numbered : Numbered search.numbers
  within : ∀ node ∈ search.met, node ∈ nodes
  /-- Each node met is either on the stack or in a component. -/
  shared : (search.stack ++ search.components.flatten).Perm search.met
  /-- The components found are such, and nothing leads out of them. -/
  settled : Settled edges search.components

namespace Sound

variable {edges : List Edge} {nodes : List String} {search : Search} {node : String}

theorem start : Sound edges nodes {} := ⟨trivial, by simp [Search.met], .refl _, .nil⟩

/-- A node that was met waits or is in a component. -/
theorem met_iff (sound : Sound edges nodes search) :
    node ∈ search.met ↔ node ∈ search.stack ∨ node ∈ search.components.flatten := by
  rw [← sound.shared.mem_iff, mem_append]

theorem shared_nodup (sound : Sound edges nodes search) :
    (search.stack ++ search.components.flatten).Nodup := sound.shared.nodup_iff.mpr sound.numbered.nodup

/-- A node that waits is in no component. -/
theorem not_component (sound : Sound edges nodes search) (waiting : node ∈ search.stack) :
    node ∉ search.components.flatten :=
  fun found => (nodup_append.mp sound.shared_nodup).2.2 node waiting node found rfl

/-- As long as a node is left to be met, fewer nodes were met than there are. -/
theorem length_lt (sound : Sound edges nodes search) (new : node ∉ search.met) (present : node ∈ nodes) :
    search.numbers.length < nodes.length := by
  have distinct : (node :: search.met).Nodup := nodup_cons.mpr ⟨new, sound.numbered.nodup⟩
  have inside : node :: search.met ⊆ nodes := cons_subset.mpr ⟨present, sound.within⟩
  have size := (subperm_of_subset distinct inside).length_le
  rwa [length_cons, Search.length_met] at size

/-- To enter a new node keeps the search sound. -/
theorem enter (sound : Sound edges nodes search) (new : node ∉ search.met) (present : node ∈ nodes) :
    Sound edges nodes (search.enter node) where
  numbered := ⟨rfl, new, sound.numbered⟩
  within := forall_mem_cons.mpr ⟨present, sound.within⟩
  shared := sound.shared.cons node
  settled := sound.settled

end Sound

/-! ## What the search does from a node on -/

/-- What the search did between two states, the first of them being that in which it came to a node:
the second state has `fresh` on top of the stack of the first one. Of the edges from nodes met
meanwhile, it has followed those that `Handled` relates. -/
structure Stretch (edges : List Edge) (nodes : List String) (node : String)
    (Handled : String → String → Prop) (before : Search) (fresh : List String) (least : Nat)
    (after : Search) : Prop where
  sound : Sound edges nodes after
  numbers : before.numbers <:+ after.numbers
  components : before.components <+: after.components
  stack : after.stack = fresh ++ before.stack
  /-- Edges that were followed lead to nodes that were met. -/
  followed : ∀ source ∈ after.met, source ∉ before.met → ∀ target, Handled source target →
    target ∈ after.met
  /-- The node leads to all that is left on the stack. -/
  reached : ∀ other ∈ fresh, Reaches edges node other
  /-- The least number is at most that of the node. -/
  bound : least ≤ before.numbers.length
  /-- The least number is that of the node, or of one below it to which it leads. -/
  attained : least = before.numbers.length ∨
    ∃ other ∈ before.stack, (other, least) ∈ before.numbers ∧ Reaches edges node other
  /-- No edge that was followed leads from what is left on the stack to a node below with a smaller
  number. -/
  crossing : ∀ source ∈ fresh, ∀ target ∈ before.stack, Handled source target →
    ∀ number, (target, number) ∈ before.numbers → least ≤ number

namespace Stretch

variable {edges : List Edge} {nodes : List String} {node other : String} {number : Nat}
  {Handled : String → String → Prop} {before after : Search} {fresh : List String} {least : Nat}

theorem met_mono (stretch : Stretch edges nodes node Handled before fresh least after)
    (known : other ∈ before.met) : other ∈ after.met := by
  obtain ⟨number, member⟩ := Search.mem_met.mp known
  exact Search.mem_met.mpr ⟨number, stretch.numbers.subset member⟩

/-- The stack grows by the fresh nodes. -/
theorem mem_stack (stretch : Stretch edges nodes node Handled before fresh least after) :
    other ∈ after.stack ↔ other ∈ fresh ∨ other ∈ before.stack := by
  rw [stretch.stack, mem_append]

/-- What was met before and is on the stack still was on the stack before. -/
theorem stack_of_met (stretch : Stretch edges nodes node Handled before fresh least after)
    (sound : Sound edges nodes before) (known : other ∈ before.met) (waiting : other ∈ after.stack) :
    other ∈ before.stack := by
  refine (sound.met_iff.mp known).resolve_right fun found => ?_
  obtain ⟨more, same⟩ := stretch.components
  apply stretch.sound.not_component waiting
  rw [← same, flatten_append]
  exact mem_append_left _ found

theorem not_fresh (stretch : Stretch edges nodes node Handled before fresh least after)
    (waiting : other ∈ before.stack) : other ∉ fresh := by
  have distinct := (nodup_append.mp stretch.sound.shared_nodup).1
  rw [stretch.stack] at distinct
  exact fun new => (nodup_append.mp distinct).2.2 other new other waiting rfl

/-- Fresh nodes had not been met. -/
theorem fresh_new (stretch : Stretch edges nodes node Handled before fresh least after)
    (sound : Sound edges nodes before) (new : other ∈ fresh) : other ∉ before.met :=
  fun known => stretch.not_fresh
    (stretch.stack_of_met sound known (stretch.mem_stack.mpr (.inl new))) new

/-- A node on the stack with a number smaller than that of the node was on the stack before. -/
theorem below_of_lt (stretch : Stretch edges nodes node Handled before fresh least after)
    (sound : Sound edges nodes before) (waiting : other ∈ after.stack)
    (numbered : (other, number) ∈ after.numbers) (small : number < before.numbers.length) :
    other ∈ before.stack ∧ (other, number) ∈ before.numbers := by
  have known := stretch.sound.numbered.mem_of_lt stretch.numbers numbered small
  exact ⟨stretch.stack_of_met sound (Search.mem_met.mpr ⟨number, known⟩) waiting, known⟩

/-- Coming back to a node on the stack gives a new least number. -/
theorem attained_min (stretch : Stretch edges nodes node Handled before fresh least after)
    (sound : Sound edges nodes before) (waiting : other ∈ after.stack)
    (numbered : (other, number) ∈ after.numbers) (reaches : Reaches edges node other) :
    min least number = before.numbers.length ∨ ∃ other ∈ before.stack,
      (other, min least number) ∈ before.numbers ∧ Reaches edges node other := by
  obtain less | more := Nat.lt_or_ge number least
  · rw [Nat.min_eq_right (Nat.le_of_lt less)]
    obtain ⟨waiting, numbered⟩ :=
      stretch.below_of_lt sound waiting numbered (Nat.lt_of_lt_of_le less stretch.bound)
    exact .inr ⟨other, waiting, numbered, reaches⟩
  · rw [Nat.min_eq_left more]
    exact stretch.attained

end Stretch

/-- The edges followed while the search is at a node: all edges of other nodes, and of this node those
to the nodes that it is done with. -/
def FollowedAt (edges : List Edge) (node : String) (done : List String) (source target : String) :
    Prop := Joined edges source target ∧ (source = node → target ∈ done)

/-- What the search did since it came to a node, at which it still is. -/
structure Busy (edges : List Edge) (nodes : List String) (node : String) (done : List String)
    (before : Search) (above : List String) (least : Nat) (after : Search) : Prop
    extends Stretch edges nodes node (FollowedAt edges node done) before (above ++ [node]) least after
    where
  entered : (before.enter node).numbers <:+ after.numbers
  /-- What is above the node on the stack leads to it or to a node below it. -/
  returns : ∀ source ∈ above, ∃ target ∈ node :: before.stack, Reaches edges source target

/-- What the search did from coming to a node to leaving it. -/
structure Visited (edges : List Edge) (nodes : List String) (node : String)
    (before : Search) (fresh : List String) (least : Nat) (after : Search) : Prop
    extends Stretch edges nodes node (Joined edges) before fresh least after where
  entered : node ∈ after.met
  /-- What is left on the stack leads to a node below it. -/
  returns : ∀ source ∈ fresh, ∃ target ∈ before.stack, Reaches edges source target

namespace Busy

variable {edges : List Edge} {nodes done above : List String} {node other : String}
  {before after : Search} {least : Nat}

theorem start (sound : Sound edges nodes before) (new : node ∉ before.met) (present : node ∈ nodes) :
    Busy edges nodes node [] before [] before.numbers.length (before.enter node) where
  sound := sound.enter new present
  numbers := suffix_cons _ _
  components := prefix_refl _
  stack := rfl
  followed := by
    intro source member unknown target handled
    obtain rfl := (mem_cons.mp member).resolve_right unknown
    exact absurd (handled.2 rfl) not_mem_nil
  reached := by
    intro other member
    obtain rfl := mem_singleton.mp member
    exact .refl _ _
  bound := Nat.le_refl _
  attained := .inl rfl
  crossing := by
    intro source member target _ handled
    exact absurd (handled.2 (mem_singleton.mp member)) not_mem_nil
  entered := suffix_refl _
  returns := by simp

/-- Once the search is done with a node more, the edges followed are those from before and the one to
that node. -/
theorem followedAt_snoc {source target : String} (handled : FollowedAt edges node (done ++ [other]) source target) :
    FollowedAt edges node done source target ∨ target = other := by
  by_cases same : target = other
  · exact .inr same
  · refine .inl ⟨handled.1, fun atNode => ?_⟩
    exact (mem_append.mp (handled.2 atNode)).resolve_right (by simpa using same)

/-- At an edge to a node met before, the number of that node counts if it is on the stack. -/
theorem known (busy : Busy edges nodes node done before above least after) (sound : Sound edges nodes before)
    (edge : Joined edges node other) {number : Nat} (numbered : (other, number) ∈ after.numbers) :
    Busy edges nodes node (done ++ [other]) before above
      (if after.stack.contains other then min least number else least) after where
  sound := busy.sound
  numbers := busy.numbers
  components := busy.components
  stack := busy.stack
  followed := by
    intro source member unknown target handled
    obtain handled | rfl := followedAt_snoc handled
    · exact busy.followed source member unknown target handled
    · exact Search.mem_met.mpr ⟨number, numbered⟩
  reached := busy.reached
  bound := by
    have := busy.bound
    split <;> omega
  attained := by
    split
    next waiting => exact busy.attained_min sound (by simpa using waiting) numbered (.single edge)
    next => exact busy.attained
  crossing := by
    intro source member target waiting handled least' numbered'
    obtain handled | rfl := followedAt_snoc handled
    · have := busy.crossing source member target waiting handled least' numbered'
      split <;> omega
    · have same := busy.sound.numbered.unique numbered (busy.numbers.subset numbered')
      rw [if_pos (by simpa using busy.mem_stack.mpr (.inr waiting))]
      omega
  entered := busy.entered
  returns := busy.returns

/-- At an edge to a new node, what the search does from there on is added. -/
theorem new (busy : Busy edges nodes node done before above least after) (sound : Sound edges nodes before)
    (edge : Joined edges node other) {fresh : List String} {below : Nat} {later : Search}
    (unknown : other ∉ after.met) (visited : Visited edges nodes other after fresh below later) :
    Busy edges nodes node (done ++ [other]) before (fresh ++ above) (min least below) later where
  sound := visited.sound
  numbers := busy.numbers.trans visited.numbers
  components := busy.components.trans visited.components
  stack := by rw [visited.stack, busy.stack]; simp
  followed := by
    intro source member new target handled
    by_cases early : source ∈ after.met
    · obtain handled | rfl := followedAt_snoc handled
      · exact visited.met_mono (busy.followed source early new target handled)
      · exact visited.entered
    · exact visited.followed source member early target handled.1
  reached := by
    intro last member
    rw [append_assoc, mem_append] at member
    obtain late | early := member
    · exact (Reaches.refl _ _ |>.tail edge).trans (visited.reached last late)
    · exact busy.reached last early
  bound := by
    have := busy.bound
    omega
  attained := by
    -- A number below that of the new node is that of a node to which the new one leads.
    obtain same | ⟨last, waiting, numbered, reaches⟩ := visited.attained
    · have := busy.bound
      have := busy.numbers.length_le
      rw [Nat.min_eq_left (by omega)]
      exact busy.attained
    · exact busy.attained_min sound waiting numbered (.head edge reaches)
  crossing := by
    intro source member target waiting handled number numbered
    rw [append_assoc, mem_append] at member
    obtain late | early := member
    · have := visited.crossing source late target (busy.mem_stack.mpr (.inr waiting)) handled.1 number
        (busy.numbers.subset numbered)
      omega
    · obtain handled | rfl := followedAt_snoc handled
      · have := busy.crossing source early target waiting handled number numbered
        omega
      · exact absurd (busy.met_mono (sound.met_iff.mpr (.inl waiting))) unknown
  entered := busy.entered.trans visited.numbers
  returns := by
    intro source member
    obtain late | early := mem_append.mp member
    · obtain ⟨target, waiting, reaches⟩ := visited.returns source late
      rw [busy.stack, append_assoc, mem_append] at waiting
      obtain between | below := waiting
      · obtain ⟨last, waiting, further⟩ := busy.returns target between
        exact ⟨last, waiting, reaches.trans further⟩
      · exact ⟨target, below, reaches⟩
    · exact busy.returns source early

end Busy

end ContractLint.Flow
