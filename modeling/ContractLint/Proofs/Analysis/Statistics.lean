import ContractLint.Proofs.Analysis.Reuse
import ContractLint.Proofs.Entries
import ContractLint.Proofs.Flow.Size
import Mathlib.Data.List.Nodup
import Mathlib.Data.List.Perm.Basic

/-! # Numbers about the graphs of a module

Graphs are kept by the names of their functions, and of functions of the same name only the graph of the
last one is kept. So the numbers about the graphs leave out each function that a later one of its name
supersedes, and they cover all functions exactly if no two of them have the same name.
-/

namespace ContractLint.Analysis.ControlFlow

open List Program ContractLint.Flow

variable {known : List (String × ControlGraph)} {functions : List Function} {f : Function}

/-- The functions of a module that have statements, and whose branches and loops hold their blocks. -/
def analysed (m : Module) : List Function :=
  m.allFunctions.filter fun f => !f.body.isEmpty && decide (Whole f.body)

/-! ## Functions of the same name -/

/-- The functions that no later one of the same name follows. -/
def latest : List Function → List Function
  | [] => []
  | f :: rest => if f.name ∈ rest.map Function.name then latest rest else f :: latest rest

/-- The functions that a later one of the same name follows. -/
def superseded : List Function → List Function
  | [] => []
  | f :: rest => if f.name ∈ rest.map Function.name then f :: superseded rest else superseded rest

/-- Each function is either the latest of its name or superseded. -/
theorem latest_perm (functions : List Function) : (latest functions ++ superseded functions).Perm functions := by
  induction functions with
  | nil => rfl
  | cons f rest ih =>
    rw [latest, superseded]
    split
    next => exact perm_middle.trans (ih.cons f)
    next => exact ih.cons f

private theorem latest_eq_nil : latest functions = [] ↔ functions = [] := by
  induction functions with
  | nil => exact iff_of_true rfl rfl
  | cons f rest ih =>
    refine iff_of_false ?_ (cons_ne_nil _ _)
    rw [latest]
    split
    next later =>
      rw [ih]
      rintro rfl
      contradiction
    next => exact cons_ne_nil _ _

private theorem superseded_eq_nil : superseded functions = [] ↔ (functions.map Function.name).Nodup := by
  induction functions with
  | nil => exact iff_of_true rfl nodup_nil
  | cons f rest ih =>
    rw [superseded, map_cons, nodup_cons]
    split
    next later => exact iff_of_false (cons_ne_nil _ _) fun distinct => distinct.1 later
    next last => rw [ih, and_iff_right last]

/-! ## The graphs that are kept -/

def kept (f : Function) : String × ControlGraph := (f.name, finished f)

private theorem addGraph_of_not_analysed (left : ¬(f.body ≠ [] ∧ Whole f.body))
    (known : List (String × ControlGraph)) : addGraph known f = known := by
  rw [addGraph]
  split
  next => rfl
  next nonempty =>
    split
    next => rfl
    next graph built => exact absurd ⟨by simpa using nonempty, whole_of_controlGraph built⟩ left

private theorem foldl_addGraph_analysed (functions : List Function) (known : List (String × ControlGraph)) :
    functions.foldl addGraph known =
      (functions.filter fun f => !f.body.isEmpty && decide (Whole f.body)).foldl addGraph known := by
  induction functions generalizing known with
  | nil => rfl
  | cons f rest ih =>
    by_cases analysed : f.body ≠ [] ∧ Whole f.body
    · rw [filter_cons_of_pos (by simpa using analysed), foldl_cons, foldl_cons, ih]
    · rw [filter_cons_of_neg (by simpa using analysed), foldl_cons,
        addGraph_of_not_analysed analysed, ih]

/-- The graph of a function takes the place of one of the same name. -/
theorem addGraph_perm (nonempty : f.body ≠ []) (whole : Whole f.body) (distinct : (known.map Prod.fst).Nodup) :
    (addGraph known f).Perm (kept f :: known.filter fun entry => entry.1 ≠ f.name) := by
  rw [addGraph, if_neg (by simpa using nonempty), controlGraph_eq nonempty whole]
  exact replaced_perm distinct f.name (finished f)

private theorem addGraph_distinct (nonempty : f.body ≠ []) (whole : Whole f.body)
    (distinct : (known.map Prod.fst).Nodup) : ((addGraph known f).map Prod.fst).Nodup := by
  rw [((addGraph_perm nonempty whole distinct).map Prod.fst).nodup_iff, map_cons, nodup_cons]
  constructor
  · intro member
    obtain ⟨entry, listed, same⟩ := mem_map.mp member
    exact absurd same (by simpa [kept] using (mem_filter.mp listed).2)
  · exact distinct.sublist (filter_sublist.map Prod.fst)

/-- Of the functions of one name the graph of the last one is kept, and of the graphs that were known before
those of all other names. -/
theorem foldl_addGraph_perm (all : ∀ f ∈ functions, f.body ≠ [] ∧ Whole f.body)
    (distinct : (known.map Prod.fst).Nodup) :
    (functions.foldl addGraph known).Perm
      ((latest functions).map kept ++ known.filter fun entry => entry.1 ∉ functions.map Function.name) := by
  induction functions generalizing known with
  | nil => simp [latest]
  | cons f rest ih =>
    obtain ⟨⟨nonempty, whole⟩, others⟩ := forall_mem_cons.mp all
    -- the graph of the first function counts as known to the rest, which drops it if a later function has its name
    have added := (addGraph_perm nonempty whole distinct).filter fun entry =>
      entry.1 ∉ rest.map Function.name
    have run := (ih others (addGraph_distinct nonempty whole distinct)).trans (added.append_left _)
    have left : (known.filter fun entry => entry.1 ≠ f.name).filter (fun entry =>
          entry.1 ∉ rest.map Function.name) =
        known.filter fun entry => entry.1 ∉ (f :: rest).map Function.name := by
      rw [filter_filter]
      apply filter_congr
      intro entry _
      by_cases same : entry.1 = f.name <;> simp [same]
    rw [foldl_cons, latest]
    split
    next later =>
      rw [filter_cons_of_neg (by simpa [kept] using later), left] at run
      exact run
    next last =>
      rw [filter_cons_of_pos (by simpa [kept] using last), left] at run
      exact run.trans perm_middle

/-- Analysed are the functions with a whole body that is not empty. -/
theorem mem_analysed {m : Module} :
    f ∈ analysed m ↔ f ∈ m.allFunctions ∧ f.body ≠ [] ∧ Whole f.body := by
  simp [analysed]

/-- The graphs are those of the latest functions. -/
theorem graphs_perm (m : Module) : (graphs m).Perm ((latest (analysed m)).map kept) := by
  have none : (([] : List (String × ControlGraph)).map Prod.fst).Nodup := nodup_nil
  have run := foldl_addGraph_perm (fun f (member : f ∈ analysed m) => (mem_analysed.mp member).2) none
  rw [filter_nil, append_nil] at run
  rw [graphs, foldl_addGraph_analysed]
  exact run

/-! ## Totals -/

def totalOf (size : ControlGraph → Nat) (functions : List Function) : Nat :=
  (functions.map fun f => size (finished f)).sum

/-- The graphs that are kept have the size of all graphs, but for those that were superseded. -/
theorem sum_graphs (m : Module) (size : ControlGraph → Nat) :
    ((graphs m).map fun entry => size entry.2).sum + totalOf size (superseded (analysed m)) =
      totalOf size (analysed m) := by
  calc ((graphs m).map fun entry => size entry.2).sum + totalOf size (superseded (analysed m))
      = totalOf size (latest (analysed m)) + totalOf size (superseded (analysed m)) := by
        rw [((graphs_perm m).map fun entry => size entry.2).sum_nat, map_map]
        rfl
    _ = totalOf size (latest (analysed m) ++ superseded (analysed m)) := by
        rw [totalOf, totalOf, totalOf, map_append, sum_append_nat]
    _ = totalOf size (analysed m) := ((latest_perm (analysed m)).map _).sum_nat

/-- A graph is missing for each superseded function. -/
theorem length_graphs (m : Module) : (graphs m).length + (superseded (analysed m)).length = (analysed m).length := by
  rw [(graphs_perm m).length_eq, length_map, ← length_append, (latest_perm _).length_eq]

private theorem graphs_eq_nil {m : Module} : graphs m = [] ↔ analysed m = [] := by
  rw [← length_eq_zero_iff, (graphs_perm m).length_eq, length_map, length_eq_zero_iff,
    latest_eq_nil]

/-- Numbers are those about the graphs of some functions. -/
structure Statistics.Covers (numbers : Statistics) (functions : List Function) : Prop where
  count : numbers.functions = functions.length
  blocks : numbers.blocks = totalOf (fun graph => graph.blocks.length) functions
  edges : numbers.edges = totalOf (fun graph => graph.edges.length) functions

/-- A document gives the totals among some numbers. -/
def Statistics.GivenBy (numbers : Statistics) (document : Value) : Prop :=
  ∃ fields, document = .object fields ∧
    fields.lookup "total_functions" = some (.int numbers.functions) ∧
    fields.lookup "total_nodes" = some (.int numbers.blocks) ∧
    fields.lookup "total_edges" = some (.int numbers.edges)

/-- The document of the numbers is empty without graphs, and gives their totals otherwise. -/
theorem toValue_statistics (average : Float → Value) (graphs : List (String × ControlGraph)) :
    if graphs = [] then (statistics graphs).toValue average = .object []
    else (statistics graphs).GivenBy ((statistics graphs).toValue average) := by
  cases graphs with
  | nil => rfl
  | cons first rest => exact ⟨_, rfl, rfl, rfl, rfl⟩

/-- The numbers cover all functions exactly if none of them is superseded. -/
theorem covers_iff (m : Module) :
    (statistics (graphs m)).Covers (analysed m) ↔ ((analysed m).map Function.name).Nodup := by
  rw [← superseded_eq_nil]
  constructor
  · intro covers
    have length := length_graphs m
    have count : (graphs m).length = (analysed m).length := covers.count
    apply eq_nil_of_length_eq_zero
    omega
  · intro none
    have total (size : ControlGraph → Nat) :
        ((graphs m).map fun entry => size entry.2).sum = totalOf size (analysed m) := by
      have graphs := sum_graphs m size
      rw [none] at graphs
      exact graphs
    have length := length_graphs m
    rw [none] at length
    exact ⟨length, total fun graph => graph.blocks.length, total fun graph => graph.edges.length⟩

/-- After a module has been checked, whatever was checked before, the numbers about the graphs are those of
the functions whose graphs can be made and have blocks, less those of each function that a later one of the
same name supersedes: one function, and the blocks and edges of its graph. So they cover all these functions
exactly if no two of them have the same name. The document gives these totals, unless there are no graphs. -/
theorem statistics_cover_iff (inspector : Inspector) (m : Module) (average : Float → Value) :
    let numbers := statistics (inspector.module m).2.graphs
    (∀ f ∈ analysed m, controlGraph f = .ok (finished f)) ∧
      numbers.functions + (superseded (analysed m)).length = (analysed m).length ∧
      numbers.blocks + totalOf (fun graph => graph.blocks.length) (superseded (analysed m)) =
        totalOf (fun graph => graph.blocks.length) (analysed m) ∧
      numbers.edges + totalOf (fun graph => graph.edges.length) (superseded (analysed m)) =
        totalOf (fun graph => graph.edges.length) (analysed m) ∧
      (numbers.Covers (analysed m) ↔ ((analysed m).map Function.name).Nodup) ∧
      if analysed m = [] then numbers.toValue average = .object []
      else numbers.GivenBy (numbers.toValue average) := by
  have seen : (inspector.module m).2.graphs = graphs m := by rw [Inspector.module_eq]
  rw [seen]
  refine ⟨?_, length_graphs m, sum_graphs m fun graph => graph.blocks.length,
    sum_graphs m fun graph => graph.edges.length, covers_iff m, ?_⟩
  · intro f member
    obtain ⟨-, nonempty, whole⟩ := mem_analysed.mp member
    exact controlGraph_eq nonempty whole
  · have written := toValue_statistics average (graphs m)
    simp only [graphs_eq_nil] at written
    exact written

/-- A module with a function outside of its contract and others in it, of which one has no statements. -/
def apart : Module where
  name := "m"
  contracts := [{
    name := "C"
    functions := [
      { name := "f" },
      { name := "f", body := [.loop "loop" none [.ret "early" none]] }] }]
  functions := [{ name := "g", body := [.plain "only" .functionCall] }]

theorem statistics_cover_iff_apart :
    ((analysed apart).map Function.name).Nodup ∧ analysed apart ≠ [] ∧
      (statistics (({} : Inspector).module apart).2.graphs).Covers (analysed apart) := by
  have distinct : ((analysed apart).map Function.name).Nodup := by decide
  obtain ⟨-, -, -, -, covers, -⟩ := statistics_cover_iff {} apart fun _ => .null
  exact ⟨distinct, by decide, covers.mpr distinct⟩

/-- A module with two contracts that have a function of the same name. -/
def shared : Module where
  name := "m"
  contracts := [
    { name := "A", functions := [{ name := "f", body := [.plain "one" .functionCall] }] },
    { name := "B", functions := [{ name := "f", body := [.plain "other" .functionCall] }] }]

/-- Of two functions of the same name one is counted. -/
theorem shared_name_not_covered :
    let numbers := statistics (({} : Inspector).module shared).2.graphs
    (analysed shared).length = 2 ∧ numbers.functions = 1 ∧ numbers.blocks = 1 ∧
      ¬numbers.Covers (analysed shared) := by
  intro numbers
  have two : (analysed shared).length = 2 := by decide
  have one : numbers.functions = 1 := by decide
  refine ⟨two, one, by decide, fun covers => ?_⟩
  have count := covers.count
  omega

end ContractLint.Analysis.ControlFlow
