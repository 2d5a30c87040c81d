import ContractLint.Document.Codec

/-! # Kinds of statements and expressions, and visibilities -/

namespace ContractLint.Program

/-- From where a function or variable can be used. -/
inductive Visibility where
  /-- From everywhere. -/
  | «public»
  /-- From its own contract alone. -/
  | «private»
  /-- From its contract and those derived from it. -/
  | internal
  /-- From outside alone. -/
  | external
  /-- From the family of its contract. -/
  | «protected»
deriving DecidableEq, Inhabited

namespace Visibility

def all : List Visibility := [«public», «private», internal, external, «protected»]

def name : Visibility → String
  | «public» => "public"
  | «private» => "private"
  | internal => "internal"
  | external => "external"
  | «protected» => "protected"

end Visibility

instance : OfValue Visibility := ⟨Value.member "Visibility" Visibility.all Visibility.name⟩

inductive StatementKind where
  | assignment
  | branch
  | whileLoop
  | forLoop
  | return
  | functionCall
  | variableDeclaration
  | block
  | break
  | continue
  | throw
  | tryCatch
deriving DecidableEq, Inhabited

namespace StatementKind

def all : List StatementKind := [
  assignment, branch, whileLoop, forLoop, «return», functionCall, variableDeclaration, block,
  «break», «continue», throw, tryCatch]

def name : StatementKind → String
  | assignment => "assignment"
  | branch => "if"
  | whileLoop => "while"
  | forLoop => "for"
  | «return» => "return"
  | functionCall => "function_call"
  | variableDeclaration => "variable_declaration"
  | block => "block"
  | «break» => "break"
  | «continue» => "continue"
  | throw => "throw"
  | tryCatch => "try_catch"

end StatementKind

instance : OfValue StatementKind :=
  ⟨Value.member "StatementType" StatementKind.all StatementKind.name⟩

inductive ExpressionKind where
  | literal
  | identifier
  | binary
  | unary
  | functionCall
  | memberAccess
  | arrayAccess
  | conditional
  | cast
deriving DecidableEq, Inhabited

namespace ExpressionKind

def all : List ExpressionKind := [
  literal, identifier, binary, unary, functionCall, memberAccess, arrayAccess, conditional, cast]

def name : ExpressionKind → String
  | literal => "literal"
  | identifier => "identifier"
  | binary => "binary_op"
  | unary => "unary_op"
  | functionCall => "function_call"
  | memberAccess => "member_access"
  | arrayAccess => "array_access"
  | conditional => "conditional"
  | cast => "cast"

end ExpressionKind

instance : OfValue ExpressionKind :=
  ⟨Value.member "ExpressionType" ExpressionKind.all ExpressionKind.name⟩

end ContractLint.Program
