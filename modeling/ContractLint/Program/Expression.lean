import ContractLint.Program.Kind
import ContractLint.Program.Type

/-! # Expressions of a program -/

namespace ContractLint.Program

inductive Expr where
  | literal (id : String) (value : Value) (type : Option Ty)
  | identifier (id name : String)
  | binary (id operator : String) (left right : Option Expr)
  | unary (id operator : String) (operand : Option Expr)
  | call (id function : String) (arguments : List Expr)
  | plain (id : String) (kind : ExpressionKind)
deriving Inhabited

namespace Expr

def id : Expr → String
  | literal id .. => id
  | identifier id _ => id
  | binary id .. => id
  | unary id .. => id
  | call id .. => id
  | plain id _ => id

def kind : Expr → ExpressionKind
  | literal .. => .literal
  | identifier .. => .identifier
  | binary .. => .binary
  | unary .. => .unary
  | call .. => .functionCall
  | plain _ kind => kind

/-- The type of the result, as far as it is known. -/
def resultType : Expr → Option Ty
  | literal _ _ type => type
  | _ => none

def recordName : Expr → String
  | literal .. => "IRLiteral"
  | identifier .. => "IRIdentifier"
  | binary .. => "IRBinaryOperation"
  | unary .. => "IRUnaryOperation"
  | call .. => "IRFunctionCall"
  | plain .. => "IRExpression"

end Expr

/-- What a field of a described expression holds: an expression, or a list of them. -/
structure ExprParts where
  one : Outcome (Option Expr)
  many : Outcome (List Expr)

/-- The expression made from fields, the expressions among them having been read. -/
def Expr.ofFields (fields : List (String × Value)) (parts : List (String × ExprParts)) : Outcome Expr := do
  let self := Value.object fields
  let id ← self.maybe "id" ""
  let one (key : String) : Outcome (Option Expr) := ((parts.lookup key).map ExprParts.one).getD
    (pure none)
  match ← self.field "k" with
  | .text "lit" =>
    return .literal id (← self.get "value") (← typeOf (← self.getOr "type" (.text "unknown")))
  | .text "id" => return .identifier id (← self.maybe "name" "")
  | .text "bin" => return .binary id (← self.maybe "op" "") (← one "left") (← one "right")
  | .text "un" => return .unary id (← self.maybe "op" "") (← one "operand")
  | .text "call" =>
    let arguments ← ((parts.lookup "args").map ExprParts.many).getD (pure [])
    return .call id (← self.maybe "name" "") arguments
  | .text "expr" => return .plain id (← self.maybe "type" .identifier)
  | other => throw (.invalid ("bad expression " ++ other.display))

mutual

def exprOf : Value → Outcome (Option Expr)
  | .null => pure none
  | .object fields => some <$> Expr.ofFields fields (exprParts fields)
  | other => throw (.notIndexable other.kindName)
termination_by structural v => v

def exprParts : List (String × Value) → List (String × ExprParts)
  | [] => []
  | field :: rest => exprPart field :: exprParts rest
termination_by structural fields => fields

def exprPart : String × Value → String × ExprParts
  | (name, v) => (name, ⟨exprOf v, exprsOf v⟩)
termination_by structural field => field

def exprsOf : Value → Outcome (List Expr)
  | .list items => exprItems items
  | other => throw (.notIterable other.kindName)
termination_by structural v => v

/-- The expressions that the items of a list describe; an item may describe none. -/
def exprItems : List Value → Outcome (List Expr)
  | [] => pure []
  | item :: rest => do
    let first ← exprOf item
    return first.toList ++ (← exprItems rest)
termination_by structural items => items

end

/-- The described expression, which must be there. -/
def someExprOf (v : Value) : Outcome Expr := do
  match ← exprOf v with
  | some e => return e
  | none => throw (.noMember "NoneType" "node_id")

instance : OfValue Expr := ⟨someExprOf⟩

end ContractLint.Program
