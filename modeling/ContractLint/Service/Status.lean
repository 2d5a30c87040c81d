import ContractLint.Scan.Analyzer
import ContractLint.Service.Handler

/-! # The state of the service -/

namespace ContractLint.Service

def health : Handler Value := do
  say "Health check requested"
  return .object [("status", .text "healthy"), ("version", .text "0.1.0"), ("timestamp", ← now),
    ("uptime_seconds", .real 0)]

/-- The models and abilities of the assistant and of the model service. -/
def assistants : Handler Value := do
  Scan.Inference.checkKey
  let around := (← setting).around
  let assistant := Scan.Assistant.status around
  let service := Scan.Inference.status around
  let part (available : String) (v : Value) (name : String) : Outcome (List Value) := do
    if (← v.get available).truthy then (← v.getOr name (.list [])).elements else pure []
  return .object [
    ("ai_providers", .object [("openai", assistant), ("huggingface", service)]),
    ("active_models", .list ((← part "openai_available" assistant "supported_models")
      ++ (← part "huggingface_available" service "available_models"))),
    ("total_capabilities", .list ((← part "capabilities" assistant "capabilities")
      ++ (← part "capabilities" service "capabilities")))]

/-- The answer that carries a reason only. -/
def refusal (status : Nat) (detail : String) : Value :=
  .object [("status", .of status), ("media_type", .null), ("headers", .object []),
    ("content", .object [("detail", .text detail)])]

/-- Passes an answer on, with a line about it and the time it took. -/
def logged (method url status : Value) : Handler Value := do
  say (method.display ++ " " ++ url.display ++ " - " ++ status.display ++ " - 0.000s")
  return .object [("status", status), ("media_type", .null),
    ("headers", .object [("X-Process-Time", .text "0.0")]), ("content", .null)]

end ContractLint.Service
