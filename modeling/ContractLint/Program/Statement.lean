import ContractLint.Program.Expression

/-! # Statements of a program

Statements nest: branches and loops hold blocks, which are lists of statements. A statement of which
only the kind is known holds no blocks, even if its kind is that of a branch or a loop.
-/

namespace ContractLint.Program

/-- A statement. Each has an identifier of its own. -/
inductive Stmt where
  | assign (id : String) (target value : Option Expr)
  /-- A branch; a missing second block is empty. -/
  | branch (id : String) (condition : Option Expr) (thenBlock elseBlock : List Stmt)
  | loop (id : String) (condition : Option Expr) (body : List Stmt)
  /-- The end of the function, with its result. -/
  | ret (id : String) (value : Option Expr)
  | plain (id : String) (kind : StatementKind)
deriving Inhabited

namespace Stmt

/-- The identifier of a statement. -/
def id : Stmt → String
  | assign id .. => id
  | branch id .. => id
  | loop id .. => id
  | ret id _ => id
  | plain id _ => id

def kind : Stmt → StatementKind
  | assign .. => .assignment
  | branch .. => .branch
  | loop .. => .whileLoop
  | ret .. => .return
  | plain _ kind => kind

/-- The statement ends the function. -/
def isReturn (s : Stmt) : Bool := s.kind = .return

def recordName : Stmt → String
  | assign .. => "IRAssignment"
  | branch .. => "IRIfStatement"
  | loop .. => "IRWhileLoop"
  | ret .. => "IRReturn"
  | plain .. => "IRStatement"

end Stmt

/-- The statement made from fields, the blocks among them having been read. -/
def Stmt.ofFields (fields : List (String × Value)) (blocks : List (String × Outcome (List Stmt))) : Outcome Stmt := do
  let self := Value.object fields
  let id ← self.maybe "id" ""
  let expression (key : String) : Outcome (Option Expr) := do exprOf (← self.get key)
  let block (key : String) : Outcome (List Stmt) := (blocks.lookup key).getD (pure [])
  match ← self.field "k" with
  | .text "assign" => return .assign id (← expression "target") (← expression "value")
  | .text "if" =>
    let condition ← expression "cond"
    let thenBlock ← block "then"
    match ← self.get "else" with
    | .null => return .branch id condition thenBlock []
    | _ => return .branch id condition thenBlock (← block "else")
  | .text "while" => return .loop id (← expression "cond") (← block "body")
  | .text "return" => return .ret id (← expression "value")
  | .text "stmt" => return .plain id (← self.maybe "type" .block)
  | other => throw (.invalid ("bad statement " ++ other.display))

mutual

def stmtOf : Value → Outcome Stmt
  | .object fields => Stmt.ofFields fields (blockFields fields)
  | other => throw (.notIndexable other.kindName)
termination_by structural v => v

def blockFields : List (String × Value) → List (String × Outcome (List Stmt))
  | [] => []
  | field :: rest => blockField field :: blockFields rest
termination_by structural fields => fields

def blockField : String × Value → String × Outcome (List Stmt)
  | (name, v) => (name, blockOf v)
termination_by structural field => field

def blockOf : Value → Outcome (List Stmt)
  | .list items => stmtItems items
  | other => throw (.notIterable other.kindName)
termination_by structural v => v

def stmtItems : List Value → Outcome (List Stmt)
  | [] => pure []
  | item :: rest => do
    let first ← stmtOf item
    return first :: (← stmtItems rest)
termination_by structural items => items

end

instance : OfValue Stmt := ⟨stmtOf⟩

end ContractLint.Program
