import ContractLint.Document.Codec

/-! # Calls with values as arguments

A typed function is called with a list of values: each argument is read from its value, and the
result is written as one. Effects stay what they are.
-/

namespace ContractLint

/-- Things that can be called with values, with effects of a monad. -/
class Callable (m : Type → Type) (α : Type) where
  invoke : α → List Value → m Value

variable {m : Type → Type} {α β : Type}

instance (priority := low) [Monad m] [ToValue α] : Callable m α :=
  ⟨fun a _ => pure (.of a)⟩

instance [Monad m] [MonadLiftT Outcome m] [ToValue α] : Callable m (Outcome α) :=
  ⟨fun a _ => do return .of (← liftM a)⟩

instance [Monad m] [ToValue α] : Callable m (m α) := ⟨fun a _ => do return .of (← a)⟩

/-- The first argument is read before the others. -/
def invokeFirst [Monad m] [MonadLiftT Outcome m] [OfValue α] (f : α → List Value → m Value) :
    List Value → m Value
  | v :: rest => do
    let a ← liftM (v.read : Outcome α)
    f a rest
  | [] => do
    let fault : Outcome Value := throw .outOfRange
    liftM fault

instance [Monad m] [MonadLiftT Outcome m] [OfValue α] [Callable m β] : Callable m (α → β) :=
  ⟨fun f => invokeFirst fun a => Callable.invoke (f a)⟩

end ContractLint
