import ContractLint.Program.Module

/-! # Outlines of a program

The outline of a program lists its parts, each before the parts it holds, with the depth at which
it stands. A visit goes through the same list without the variables of modules.
-/

namespace ContractLint.Program

/-- A part of a program in its outline. -/
structure Entry where
  /-- The number of parts around it. -/
  depth : Nat
  recordName : String
  sort : String
  id : String
  /-- What else is known about it. -/
  details : List (String × Value) := []

def Entry.toValue (entry : Entry) : Value :=
  .object ([
    ("depth", .int entry.depth),
    ("class", .text entry.recordName),
    ("node_type", .text entry.sort),
    ("id", .text entry.id)] ++ entry.details)

instance : ToValue Entry := ⟨Entry.toValue⟩

def Expr.entry (depth : Nat) (e : Expr) : Entry where
  depth
  recordName := e.recordName
  sort := "expression"
  id := e.id
  details := [("expression_type", .text e.kind.name), ("result_type", typeValue e.resultType)]

mutual

def Expr.outline (depth : Nat) : Expr → List Entry
  | .literal id value type => [Expr.entry depth (.literal id value type)]
  | .identifier id name => [Expr.entry depth (.identifier id name)]
  | .binary id operator left right =>
    Expr.entry depth (.binary id operator left right)
      :: (exprOutline (depth + 1) left ++ exprOutline (depth + 1) right)
  | .unary id operator operand =>
    Expr.entry depth (.unary id operator operand) :: exprOutline (depth + 1) operand
  | .call id function arguments =>
    Expr.entry depth (.call id function arguments) :: exprsOutline (depth + 1) arguments
  | .plain id kind => [Expr.entry depth (.plain id kind)]
termination_by structural e => e

def exprOutline (depth : Nat) : Option Expr → List Entry
  | none => []
  | some e => e.outline depth
termination_by structural e => e

def exprsOutline (depth : Nat) : List Expr → List Entry
  | [] => []
  | e :: rest => e.outline depth ++ exprsOutline depth rest
termination_by structural es => es

end

def Stmt.entry (depth : Nat) (s : Stmt) : Entry where
  depth
  recordName := s.recordName
  sort := "statement"
  id := s.id
  details := [("statement_type", .text s.kind.name)]

mutual

def Stmt.outline (depth : Nat) : Stmt → List Entry
  | .assign id target value =>
    Stmt.entry depth (.assign id target value)
      :: (exprOutline (depth + 1) target ++ exprOutline (depth + 1) value)
  | .branch id condition thenBlock elseBlock =>
    Stmt.entry depth (.branch id condition thenBlock elseBlock)
      :: (exprOutline (depth + 1) condition ++ blockOutline (depth + 1) thenBlock
        ++ blockOutline (depth + 1) elseBlock)
  | .loop id condition body =>
    Stmt.entry depth (.loop id condition body)
      :: (exprOutline (depth + 1) condition ++ blockOutline (depth + 1) body)
  | .ret id value => Stmt.entry depth (.ret id value) :: exprOutline (depth + 1) value
  | .plain id kind => [Stmt.entry depth (.plain id kind)]
termination_by structural s => s

def blockOutline (depth : Nat) : List Stmt → List Entry
  | [] => []
  | s :: rest => s.outline depth ++ blockOutline depth rest
termination_by structural block => block

end

def Function.outline (depth : Nat) (f : Function) : List Entry :=
  { depth, recordName := "IRFunction", sort := "function", id := f.id }
    :: blockOutline (depth + 1) f.body

def Variable.outline (depth : Nat) (v : Variable) : List Entry :=
  [{ depth, recordName := "IRVariable", sort := "variable", id := v.id }]

def Contract.outline (depth : Nat) (c : Contract) : List Entry :=
  { depth, recordName := "IRContract", sort := "contract", id := c.id }
    :: (c.functions.flatMap (Function.outline (depth + 1))
      ++ c.vars.flatMap (Variable.outline (depth + 1)))

def Module.visit (depth : Nat) (m : Module) : List Entry :=
  { depth, recordName := "IRModule", sort := "module", id := m.id }
    :: (m.contracts.flatMap (Contract.outline (depth + 1))
      ++ m.functions.flatMap (Function.outline (depth + 1)))

def Module.outline (depth : Nat) (m : Module) : List Entry :=
  m.visit depth ++ m.vars.flatMap (Variable.outline (depth + 1))

def outlineOf (kind : String) (node : Value) : Outcome (List Entry) :=
  match kind with
  | "module" => Module.outline 0 <$> node.read
  | "contract" => Contract.outline 0 <$> node.read
  | "function" => Function.outline 0 <$> node.read
  | "variable" => Variable.outline 0 <$> node.read
  | "statement" => Stmt.outline 0 <$> stmtOf node
  | "expression" => exprOutline 0 <$> exprOf node
  | other => throw (.missingKey (.text other))

end ContractLint.Program
