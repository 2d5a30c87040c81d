import ContractLint.Analysis.Analyzer
import ContractLint.Proofs.Outcome

/-! # An analyzer that is used again reports as a new one

The sheets of the visitors lie below a base, and what is given out is laid down above it. A call
writes only below the base and adds new sheets at the end, so what was given out before stays as it
was. Since a visitor wipes its sheets before it begins, what earlier calls left on them, failed ones
included, is never read.
-/

namespace ContractLint.Analysis

open List Program ControlFlow

/-! ## What stays on a desk -/

/-- The sheets from a base on are still there, and as they were. -/
structure Kept {α : Type} (base : Nat) (old new : List α) : Prop where
  /-- No sheet is taken away. -/
  grown : old.length ≤ new.length
  /-- No sheet from the base on is written on. -/
  same : ∀ index, base ≤ index → index < old.length → new[index]? = old[index]?

namespace Kept

variable {α : Type} {base : Nat} {first middle last : List α}

theorem refl (sheets : List α) : Kept base sheets sheets := ⟨Nat.le_refl _, fun _ _ _ => rfl⟩

theorem trans (left : Kept base first middle) (right : Kept base middle last) : Kept base first last where
  grown := Nat.le_trans left.grown right.grown
  same index above present :=
    (right.same index above (Nat.lt_of_lt_of_le present left.grown)).trans
      (left.same index above present)

private theorem set (sheets : List α) {index : Nat} (below : index < base) (sheet : α) :
    Kept base sheets (sheets.set index sheet) where
  grown := by simp
  same _ above _ := getElem?_set_ne (by omega)

theorem append (sheets more : List α) : Kept base sheets (sheets ++ more) where
  grown := by simp
  same _ _ present := getElem?_append_left present

end Kept

/-- Both sheets lie below a base. -/
structure Place.Below (base : Nat) (place : Place) : Prop where
  findings : place.findings < base
  facts : place.facts < base

namespace Desk

variable {base : Nat} {first middle last desk : Desk} {place : Place}

/-- Everything below a base is in use. -/
structure Room (base : Nat) (desk : Desk) : Prop where
  findings : base ≤ desk.findings.length
  facts : base ≤ desk.facts.length

/-- Both sheets lie on the desk, and not below a base. -/
structure Given (base : Nat) (desk : Desk) (place : Place) : Prop where
  findings : base ≤ place.findings ∧ place.findings < desk.findings.length
  facts : base ≤ place.facts ∧ place.facts < desk.facts.length

/-- All sheets from a base on are still there, and as they were. -/
structure Keeps (base : Nat) (old new : Desk) : Prop where
  findings : Kept base old.findings new.findings
  facts : Kept base old.facts new.facts

theorem Keeps.refl (desk : Desk) : Keeps base desk desk := ⟨.refl _, .refl _⟩

theorem Keeps.trans (left : Keeps base first middle) (right : Keeps base middle last) : Keeps base first last :=
  ⟨left.findings.trans right.findings, left.facts.trans right.facts⟩

theorem Keeps.room (keeps : Keeps base first last) (room : first.Room base) : last.Room base :=
  ⟨Nat.le_trans room.findings keeps.findings.grown, Nat.le_trans room.facts keeps.facts.grown⟩

/-- A place that was given out reads as before. -/
theorem Keeps.read (keeps : Keeps base first last) (given : first.Given base place) :
    last.read place = first.read place := by
  rw [Desk.read, Desk.read, keeps.findings.same _ given.findings.1 given.findings.2,
    keeps.facts.same _ given.facts.1 given.facts.2]

/-- Writing below a base keeps what was given out. -/
theorem keeps_write (desk : Desk) (below : place.Below base) (report : Report) :
    Keeps base desk (desk.write place report) :=
  ⟨.set _ below.findings _, .set _ below.facts _⟩

private theorem keeps_lay (desk : Desk) (report : Report) : Keeps base desk (desk.lay report).2 :=
  ⟨.append _ _, .append _ _⟩

/-- What was written is read back. -/
theorem read_write (room : desk.Room base) (below : place.Below base) (report : Report) :
    (desk.write place report).read place = report := by
  have findings : place.findings < desk.findings.length :=
    Nat.lt_of_lt_of_le below.findings room.findings
  have facts : place.facts < desk.facts.length := Nat.lt_of_lt_of_le below.facts room.facts
  simp [write, read, findings, facts]

private theorem read_note (room : desk.Room base) (below : place.Below base) (report : Report) :
    (desk.note place report).read place = (desk.read place).merge report :=
  read_write room below _

private theorem read_lay (desk : Desk) (report : Report) : (desk.lay report).2.read (desk.lay report).1 = report := by
  simp [lay, read]

private theorem given_lay (room : desk.Room base) (report : Report) :
    (desk.lay report).2.Given base (desk.lay report).1 where
  findings := ⟨room.findings, by simp [lay]⟩
  facts := ⟨room.facts, by simp [lay]⟩

/-- The report on two sheets after a visit, unless the visit has failed. -/
def outcome (desk : Desk) (place : Place) : Option Fault → Outcome Report
  | none => .ok (desk.read place)
  | some fault => .error fault

/-- What was given out, as it stands on a desk. -/
def shown (desk : Desk) (issue : Issue) : Pass × Report := (issue.pass, desk.read issue.place)

end Desk

/-! ## One visitor -/

namespace Pass

def onTarget (pass : Pass) : Target → Outcome Report
  | .module m => pass.onModule m
  | .function f => pass.onFunction f

variable {base : Nat} {desk : Desk} {place : Place}

/-- A visit keeps what was given out. -/
theorem visit_keeps (pass : Pass) (below : place.Below base) (desk : Desk)
    (functions : List Function) : desk.Keeps base (pass.visit place desk functions).2 := by
  induction functions generalizing desk with
  | nil => exact .refl desk
  | cons f rest ih =>
    rw [visit]
    cases pass.onFunction f with
    | error fault => exact .refl desk
    | ok report => exact (desk.keeps_write below _).trans (ih _)

/-- A visit adds what the pass reports about the functions to what stands on the sheets, and fails where
the pass does. -/
theorem visit_outcome (pass : Pass) (below : place.Below base) (room : desk.Room base) (functions : List Function) :
    (pass.visit place desk functions).2.outcome place (pass.visit place desk functions).1 =
      (functions.mapM pass.onFunction).map (List.foldl Report.merge (desk.read place)) := by
  induction functions generalizing desk with
  | nil => rfl
  | cons f rest ih =>
    rw [visit, mapM_cons]
    cases pass.onFunction f with
    | error fault => rfl
    | ok report =>
      have noted : (desk.note place report).Room base := (desk.keeps_write below _).room room
      refine (ih noted).trans ?_
      rw [Desk.read_note room below, Outcome.ok_bind]
      cases rest.mapM pass.onFunction with
      | error fault => rfl
      | ok reports => rfl

private theorem merge_onFunction {pass : Pass} {f : Function} {report : Report}
    (done : pass.onFunction f = .ok report) : Report.merge {} report = report := by
  cases pass with
  | controlFlow =>
    obtain ⟨graph, -, done⟩ := Outcome.bind_eq_ok.mp done
    cases done
    rfl
  | dataFlow | taint | reachability | deadCode | vulnerability =>
    cases done
    rfl

private theorem mapM_functions (pass : Pass) (target : Target) :
    (target.functions.mapM pass.onFunction).map (List.foldl Report.merge {}) =
      pass.onTarget target := by
  cases target with
  | module m =>
    rw [onTarget, onModule, Target.functions]
    cases (m.contracts.flatMap Contract.functions ++ m.functions).mapM pass.onFunction with
    | error fault => rfl
    | ok reports => rfl
  | function f =>
    rw [onTarget, Target.functions, mapM_cons, mapM_nil]
    cases done : pass.onFunction f with
    | error fault => rfl
    | ok report => exact congrArg Except.ok (merge_onFunction done)

/-- Issuing a report keeps what was given out. -/
theorem issue_keeps (pass : Pass) (below : place.Below base) (desk : Desk)
    (functions : List Function) : desk.Keeps base (pass.issue place desk functions).2 := by
  have visited := (desk.keeps_write below {}).trans
    (pass.visit_keeps below (desk.write place {}) functions)
  rw [issue]
  generalize pass.visit place (desk.write place {}) functions = visit at visited
  obtain ⟨_ | fault, after⟩ := visit
  · exact visited.trans (after.keeps_lay _)
  · exact visited

/-- What a visitor gives out is what its pass reports, whatever stood on its sheets before, and stays so
on every desk that keeps what was given out. -/
theorem issue_shown (pass : Pass) (below : place.Below base) (room : desk.Room base) (target : Target)
    {later : Desk} (keeps : (pass.issue place desk target.functions).2.Keeps base later) :
    (pass.issue place desk target.functions).1.map later.shown =
      (pass.onTarget target).map (Prod.mk pass) := by
  have wiped := (desk.keeps_write below {}).room room
  have visited := (pass.visit_keeps below (desk.write place {}) target.functions).room wiped
  have reported := pass.visit_outcome below wiped target.functions
  rw [Desk.read_write room below, mapM_functions] at reported
  rw [issue] at keeps ⊢
  rw [← reported]
  generalize pass.visit place (desk.write place {}) target.functions = visit at visited keeps
  obtain ⟨_ | fault, after⟩ := visit
  · have copied : later.read (after.lay (after.read place)).1 = after.read place :=
      (keeps.read (Desk.given_lay visited _)).trans (after.read_lay _)
    exact congrArg (fun report => Except.ok (pass, report)) copied
  · rfl

end Pass

/-! ## One call -/

namespace Analyzer

/-- The sheets of all visitors lie below a base. -/
def Below (base : Nat) (analyzer : Analyzer) : Prop :=
  ∀ pass place, analyzer.visitors.lookup pass = some place → place.Below base

def knows (analyzer : Analyzer) (pass : Pass) : Bool := (analyzer.visitors.lookup pass).isSome

variable {base : Nat} {analyzer : Analyzer} {desk : Desk}

/-- An analysis keeps what was given out. -/
theorem analyze_keeps (below : analyzer.Below base) (desk : Desk) (target : Target)
    (passes : List Pass) : desk.Keeps base (analyzer.analyze desk target passes).2 := by
  induction passes generalizing desk with
  | nil => exact .refl desk
  | cons pass rest ih =>
    rw [analyze]
    cases known : analyzer.visitors.lookup pass with
    | none => exact ih desk
    | some place =>
      have issued := pass.issue_keeps (below pass place known) desk target.functions
      dsimp only
      generalize pass.issue place desk target.functions = issue at issued
      obtain ⟨fault | issue, after⟩ := issue
      · exact issued
      · have others := issued.trans (ih after)
        dsimp only
        generalize analyzer.analyze after target rest = result at others
        obtain ⟨fault | more, last⟩ := result
        · exact others
        · exact others

/-- A call gives out what the passes report that the analyzer knows, in their order, whatever earlier
calls have left on the desk. It stays so on every desk that keeps what was given out. -/
theorem analyze_shown (below : analyzer.Below base) (room : desk.Room base) (target : Target) (passes : List Pass)
    {later : Desk} (keeps : (analyzer.analyze desk target passes).2.Keeps base later) :
    (analyzer.analyze desk target passes).1.map (List.map later.shown) =
      (passes.filter analyzer.knows).mapM fun pass => (pass.onTarget target).map (Prod.mk pass) := by
  induction passes generalizing desk with
  | nil => rfl
  | cons pass rest ih =>
    rw [analyze] at keeps ⊢
    cases known : analyzer.visitors.lookup pass with
    | none =>
      rw [known] at keeps
      rw [filter_cons_of_neg (by simp [knows, known])]
      exact ih room keeps
    | some place =>
      rw [known] at keeps
      rw [filter_cons_of_pos (by simp [knows, known]), mapM_cons]
      have own := below pass place known
      have issued := (pass.issue_keeps own desk target.functions).room room
      have first : ∀ {later}, (pass.issue place desk target.functions).2.Keeps base later → _ :=
        pass.issue_shown own room target
      dsimp only at keeps ⊢
      generalize pass.issue place desk target.functions = issue at issued keeps first
      obtain ⟨fault | issue, after⟩ := issue
      · rw [← first keeps]
        rfl
      · have rest_keeps := analyze_keeps below after target rest
        have others := ih issued
        dsimp only at keeps ⊢
        generalize analyzer.analyze after target rest = result at keeps rest_keeps others
        obtain ⟨fault | more, last⟩ := result
        · rw [← first (rest_keeps.trans keeps), ← others keeps]
          rfl
        · rw [← first (rest_keeps.trans keeps), ← others keeps]
          rfl

end Analyzer

/-! ## Calls one after the other -/

structure Call where
  target : Target
  passes : List Pass

/-- What the passes report that are asked for and known. -/
def Call.reports (call : Call) (knows : Pass → Bool) : Outcome (List (Pass × Report)) :=
  (call.passes.filter knows).mapM fun pass => (pass.onTarget call.target).map (Prod.mk pass)

/-- What a call has given out, as it stands on a desk. -/
def Desk.results (desk : Desk) (issued : Outcome (List Issue)) : Outcome (List (Pass × Report)) :=
  issued.map (List.map desk.shown)

namespace Analyzer

/-- Makes calls one after the other, after failed ones too. -/
def callAll (analyzer : Analyzer) (desk : Desk) : List Call → List (Outcome (List Issue)) × Desk
  | [] => ([], desk)
  | call :: rest =>
    let (issued, desk) := analyzer.analyze desk call.target call.passes
    let (others, desk) := analyzer.callAll desk rest
    (issued :: others, desk)

variable {base : Nat} {analyzer : Analyzer} {desk : Desk}

private theorem callAll_keeps (below : analyzer.Below base) (desk : Desk) (calls : List Call) :
    desk.Keeps base (analyzer.callAll desk calls).2 := by
  induction calls generalizing desk with
  | nil => exact .refl desk
  | cons call rest ih => exact (analyze_keeps below desk call.target call.passes).trans (ih _)

/-- After all calls, what each of them gave out is still what the passes report. -/
theorem callAll_results (below : analyzer.Below base) (room : desk.Room base) (calls : List Call) :
    (analyzer.callAll desk calls).1.map (analyzer.callAll desk calls).2.results =
      calls.map (Call.reports · analyzer.knows) := by
  induction calls generalizing desk with
  | nil => rfl
  | cons call rest ih =>
    have kept := (analyze_keeps below desk call.target call.passes).room room
    have own := analyze_shown below room call.target call.passes
      (callAll_keeps below (analyzer.analyze desk call.target call.passes).2 rest)
    exact cons_eq_cons.mpr ⟨own, ih kept⟩

/-! ## New analyzers -/

private theorem lookup_new (offered : List Pass) (start : Nat) (pass : Pass) :
    (((offered.zipIdx start).map fun entry => (entry.1, Place.mk entry.2 entry.2)).lookup pass).isSome =
      offered.contains pass := by
  induction offered generalizing start with
  | nil => rfl
  | cons other rest ih =>
    rw [zipIdx_cons, map_cons, lookup_cons, contains_cons]
    cases pass == other with
    | true => rfl
    | false => exact ih (start + 1)

theorem knows_new (offered : List Pass) : (new offered).1.knows = offered.contains :=
  funext (lookup_new offered 0)

theorem below_new (offered : List Pass) : (new offered).1.Below offered.length := by
  intro pass place found
  obtain ⟨before, after, entries, -⟩ := lookup_eq_some_iff.mp found
  have member : (pass, place) ∈ (new offered).1.visitors := by simp [entries]
  obtain ⟨⟨owner, index⟩, listed, same⟩ := mem_map.mp member
  cases same
  have bound : index < offered.length := by
    simpa using (mem_zipIdx listed).2.1
  exact ⟨bound, bound⟩

/-- A new desk has room for its passes. -/
theorem room_new (offered : List Pass) : (new offered).2.Room offered.length :=
  ⟨by simp [new], by simp [new]⟩

end Analyzer

/-- What a new analyzer gives out at a call, as it stands right after it. -/
def Call.fresh (call : Call) (offered : List Pass) : Outcome (List (Pass × Report)) :=
  let (analyzer, desk) := Analyzer.new offered
  let (issued, desk) := analyzer.analyze desk call.target call.passes
  desk.results issued

/-- What one analyzer gives out at calls that are made one after the other, as it stands after the last
of them. -/
def Call.reused (offered : List Pass) (calls : List Call) : List (Outcome (List (Pass × Report))) :=
  let (analyzer, desk) := Analyzer.new offered
  let (issued, desk) := analyzer.callAll desk calls
  issued.map desk.results

/-- On a new desk a call is answered by the passes on offer. -/
theorem Call.fresh_eq (call : Call) (offered : List Pass) : call.fresh offered = call.reports offered.contains := by
  rw [← Analyzer.knows_new]
  exact Analyzer.analyze_shown (Analyzer.below_new offered) (Analyzer.room_new offered) call.target
    call.passes (.refl _)

private theorem Call.reused_eq (offered : List Pass) (calls : List Call) :
    Call.reused offered calls = calls.map (Call.fresh · offered) := by
  have used := Analyzer.callAll_results (Analyzer.below_new offered) (Analyzer.room_new offered) calls
  rw [Analyzer.knows_new] at used
  exact used.trans (map_congr_left fun call _ => (call.fresh_eq offered).symm)

/-! ## Checks of the control flow -/

namespace ControlFlow.Inspector

private theorem functions_eq (inspector : Inspector) (functions : List Function) :
    inspector.functions functions =
      (functions.flatMap functionFindings, ⟨functions.foldl addGraph inspector.graphs⟩) := by
  induction functions generalizing inspector with
  | nil => rfl
  | cons f rest ih =>
    simp only [Inspector.functions, function, ih, flatMap_cons, foldl_cons]

/-- The answer does not depend on what the inspector has seen. -/
theorem module_eq (inspector : Inspector) (m : Module) :
    inspector.module m = (moduleFindings m, ⟨ControlFlow.graphs m⟩) :=
  functions_eq _ _

end ControlFlow.Inspector

/-- An analyzer that is used for one call after the other, failing ones included, answers each of them
as a new analyzer would: with the same reports, or with the same failure. What it has given out reads the
same however many calls are made later. A new analyzer reports what the passes do that it knows among
those asked for, a repeated one each time. What an inspector finds in a module is likewise what a new one
finds, whatever it has seen before. -/
theorem reports_as_new (offered : List Pass) (calls : List Call) :
    Call.reused offered calls = calls.map (Call.fresh · offered) ∧
    (∀ later : List Call,
      (Call.reused offered (calls ++ later)).take calls.length = Call.reused offered calls) ∧
    (∀ call : Call, call.fresh offered = call.reports offered.contains) ∧
    ∀ (inspector : Inspector) (m : Module),
      (inspector.module m).1 = (({} : Inspector).module m).1 ∧
      (inspector.module m).1 = moduleFindings m := by
  refine ⟨Call.reused_eq offered calls, fun later => ?_, fun call => call.fresh_eq offered,
    fun inspector m => ⟨?_, ?_⟩⟩
  · rw [Call.reused_eq, Call.reused_eq, map_append]
    exact take_left' (length_map _)
  · rw [Inspector.module_eq, Inspector.module_eq]
  · rw [Inspector.module_eq]

end ContractLint.Analysis
