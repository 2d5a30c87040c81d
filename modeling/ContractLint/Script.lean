import ContractLint.Document.Call

/-! # Scripts

A script is a list of steps that are taken one after the other. A step has a name and arguments,
gives a value and may change the state. A step that fails changes nothing, and the next one is taken
nevertheless.
-/

namespace ContractLint

abbrev Step (σ : Type) := σ → List Value → Outcome (Value × σ)

abbrev Steps (σ : Type) := List (String × Step σ)

/-- Functions of values that give a result and the next state. -/
class Turning (σ φ : Type) where
  /-- The result and the next state. -/
  turn : φ → List Value → Outcome (Value × σ)

variable {α β σ φ : Type}

instance [ToValue α] : Turning σ (α × σ) := ⟨fun result _ => pure (.of result.1, result.2)⟩

instance [ToValue α] : Turning σ (Outcome (α × σ)) :=
  ⟨fun outcome _ => do
    let (a, next) ← outcome
    return (.of a, next)⟩

instance [OfValue α] [Turning σ β] : Turning σ (α → β) :=
  ⟨fun f args =>
    match args with
    | v :: rest => do Turning.turn (f (← v.read)) rest
    | [] => throw .outOfRange⟩

namespace Step

def turn [Turning σ φ] (f : σ → φ) : Step σ := fun state args => Turning.turn (f state) args

def ask [Callable Outcome φ] (f : σ → φ) : Step σ := fun state args => do
  return (← Callable.invoke (f state) args, state)

end Step

namespace Steps

def take (steps : Steps σ) (state : σ) (step : List Value) : Outcome Value × σ :=
  let name := (step.head?.map Value.display).getD ""
  match steps.lookup name with
  | none => (throw (.invalid ("bad step " ++ name)), state)
  | some f =>
    match f state (step.drop 1) with
    | .ok (v, next) => (pure v, next)
    | .error fault => (throw fault, state)

/-- Takes some steps; each result comes with the state after the step. -/
def run (steps : Steps σ) (state : σ) : List (List Value) → List (Outcome Value × σ)
  | [] => []
  | step :: rest =>
    let result := steps.take state step
    result :: steps.run result.2 rest

end Steps

end ContractLint
