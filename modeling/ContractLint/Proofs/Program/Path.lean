import ContractLint.Proofs.Program.Nesting
import Mathlib.Logic.Relation

/-! # Ways through a block

Control advances through the statements that are still to be executed, statement by statement. Nothing is
known of the conditions, so a branch may take either way, and a loop may be left or entered once more. A
return ends the function, so control does not advance from it. `CanComplete` says that control can come
to the end of a block, and `alwaysReturns` decides it on the text of the block.
-/

namespace ContractLint.Program

open Relation

variable {block : List Stmt} {s : Stmt}

/-- One step of control, from the statements that are still to be executed to those after it. -/
inductive Advances : List Stmt → List Stmt → Prop
  /-- A statement without blocks that is no return is executed. -/
  | pass {s : Stmt} {rest : List Stmt} (leaf : s.isLeaf) (goesOn : s.isReturn = false) :
    Advances (s :: rest) rest
  /-- A branch goes its first way. -/
  | thenWay {id : String} {condition : Option Expr} {thenBlock elseBlock rest : List Stmt} :
    Advances (.branch id condition thenBlock elseBlock :: rest) (thenBlock ++ rest)
  /-- A branch goes its second way, which is empty if there is none. -/
  | elseWay {id : String} {condition : Option Expr} {thenBlock elseBlock rest : List Stmt} :
    Advances (.branch id condition thenBlock elseBlock :: rest) (elseBlock ++ rest)
  /-- A loop is left. -/
  | leave {id : String} {condition : Option Expr} {body rest : List Stmt} :
    Advances (.loop id condition body :: rest) rest
  /-- A loop is entered once more, and comes back to its condition. -/
  | enter {id : String} {condition : Option Expr} {body rest : List Stmt} :
    Advances (.loop id condition body :: rest) (body ++ .loop id condition body :: rest)

/-- On some way through a block control comes to its end, without a return. -/
def CanComplete (block : List Stmt) : Prop := ReflTransGen Advances block []

mutual

/-- Every way through a statement meets a return. -/
def alwaysReturnsOf : Stmt → Bool
  | .branch _ _ thenBlock elseBlock => alwaysReturns thenBlock && alwaysReturns elseBlock
  | .loop .. => false
  | .assign .. => false
  | .ret .. => true
  | .plain _ kind => kind = .return
termination_by structural s => s

/-- Every way through a block meets a return. -/
def alwaysReturns : List Stmt → Bool
  | [] => false
  | s :: rest => alwaysReturnsOf s || alwaysReturns rest
termination_by structural block => block

end

private theorem alwaysReturnsOf_leaf (leaf : s.isLeaf) : alwaysReturnsOf s = s.isReturn := by
  cases s with
  | branch => contradiction
  | loop => contradiction
  | assign | ret | plain => rfl

theorem alwaysReturnsOf_return (returns : s.isReturn) : alwaysReturnsOf s := by
  cases s with
  | branch => contradiction
  | loop => contradiction
  | assign | ret | plain => exact returns

/-- A list always returns if one of its statements does. -/
theorem alwaysReturns_eq_any (block : List Stmt) : alwaysReturns block = block.any alwaysReturnsOf := by
  induction block with
  | nil => rfl
  | cons s rest ih => rw [alwaysReturns, ih, List.any_cons]

private theorem alwaysReturns_append (first second : List Stmt) :
    alwaysReturns (first ++ second) = (alwaysReturns first || alwaysReturns second) := by
  simp only [alwaysReturns_eq_any, List.any_append]

theorem alwaysReturns_branch (id : String) (condition : Option Expr) (thenBlock elseBlock rest : List Stmt) :
    alwaysReturns (.branch id condition thenBlock elseBlock :: rest) =
      ((alwaysReturns thenBlock && alwaysReturns elseBlock) || alwaysReturns rest) := rfl

theorem alwaysReturns_loop (id : String) (condition : Option Expr) (body rest : List Stmt) :
    alwaysReturns (.loop id condition body :: rest) = alwaysReturns rest := rfl

theorem alwaysReturns_leaf (leaf : s.isLeaf) (rest : List Stmt) :
    alwaysReturns (s :: rest) = (s.isReturn || alwaysReturns rest) := by
  rw [alwaysReturns, alwaysReturnsOf_leaf leaf]

/-! ## A block that always returns -/

/-- As long as every way meets a return, no step gets past it. -/
theorem Advances.alwaysReturns {next : List Stmt} (step : Advances block next)
    (returns : alwaysReturns block) : alwaysReturns next := by
  cases step with
  | pass leaf goesOn =>
    rw [alwaysReturns_leaf leaf, goesOn] at returns
    exact returns
  | thenWay =>
    simp only [alwaysReturns_branch, alwaysReturns_append, Bool.or_eq_true, Bool.and_eq_true] at returns ⊢
    exact returns.imp_left And.left
  | elseWay =>
    simp only [alwaysReturns_branch, alwaysReturns_append, Bool.or_eq_true, Bool.and_eq_true] at returns ⊢
    exact returns.imp_left And.right
  | leave =>
    rw [alwaysReturns_loop] at returns
    exact returns
  | enter => rw [alwaysReturns_append, returns, Bool.or_true]

/-- No way through a block that always returns comes to its end. -/
theorem not_canComplete (returns : alwaysReturns block) : ¬ CanComplete block := by
  intro way
  have kept : alwaysReturns [] := by
    unfold CanComplete at way
    induction way using ReflTransGen.head_induction_on with
    | refl => exact returns
    | head step _ ih => exact ih (step.alwaysReturns returns)
  contradiction

/-! ## A block that does not always return -/

/-- What follows a block does not matter before its end. -/
theorem Advances.append {next : List Stmt} (step : Advances block next) (rest : List Stmt) :
    Advances (block ++ rest) (next ++ rest) := by
  cases step with
  | pass leaf goesOn => exact .pass leaf goesOn
  | leave => exact .leave
  | thenWay =>
    rw [List.cons_append, List.append_assoc]
    exact .thenWay
  | elseWay =>
    rw [List.cons_append, List.append_assoc]
    exact .elseWay
  | enter =>
    rw [List.cons_append, List.append_assoc]
    exact .enter

/-- A list that can complete goes on with what follows. -/
theorem CanComplete.append (way : CanComplete block) (rest : List Stmt) :
    ReflTransGen Advances (block ++ rest) rest :=
  ReflTransGen.lift (· ++ rest) (fun _ _ step => step.append rest) _ _ way

private theorem canComplete_of_goesOn (goesOn : alwaysReturns block = false) : CanComplete block := by
  induction block using blockInduction with
  | nil => exact .refl
  | branch id condition thenBlock elseBlock rest ihThen ihElse ihRest =>
    rw [alwaysReturns_branch, Bool.or_eq_false_iff, Bool.and_eq_false_iff] at goesOn
    obtain ⟨inThen | inElse, inRest⟩ := goesOn
    · exact .head .thenWay (((ihThen inThen).append rest).trans (ihRest inRest))
    · exact .head .elseWay (((ihElse inElse).append rest).trans (ihRest inRest))
  | loop id condition body rest _ ihRest =>
    rw [alwaysReturns_loop] at goesOn
    exact .head .leave (ihRest goesOn)
  | leaf s rest leaf ihRest =>
    rw [alwaysReturns_leaf leaf, Bool.or_eq_false_iff] at goesOn
    exact .head (.pass leaf goesOn.1) (ihRest goesOn.2)

/-- Control can come to the end of a block exactly if the block does not always return. -/
theorem canComplete_iff : CanComplete block ↔ alwaysReturns block = false :=
  ⟨fun way => Bool.eq_false_iff.mpr fun returns => not_canComplete returns way, canComplete_of_goesOn⟩

end ContractLint.Program
