import ContractLint.Document.Codec
import ContractLint.Scan.Run

/-! # Described surroundings

The surroundings of a scan can be given by a document: what programs print, what models and the
assistant reply, and which keys are set. Whatever the document does not mention is not there.
-/

namespace ContractLint.Scan

/-- What the run of a described program comes to. -/
def ToolAnswer.ofValue (v : Value) : Outcome ToolAnswer := do
  if ← v.has "raise" then
    match ← v.field "raise" with
    | .text "timeout" => return .hangs
    | other => return .fails (.refused other.display)
  return .ended {
    output := ← v.maybe "stdout" ""
    complaints := ← v.maybe "stderr" ""
    status := ← v.maybe "returncode" (.int 0) }

def ModelAnswer.ofValue (v : Value) : Outcome ModelAnswer := do
  return {
    status := ← v.maybe "status" (.int 200)
    text := ← v.maybe "text" (.text "")
    document := .ok (← v.get "json") }

/-- The described programs. -/
def toolsOf (v : Value) : Outcome (List (String × ToolAnswer)) := do
  (← v.table "tools").mapM fun (name, answer) => return (name, ← ToolAnswer.ofValue answer)

def Surroundings.ofValue (v : Value) : Outcome Surroundings := do
  let models ← (← v.table "hf").mapM fun (name, answer) =>
    return (name, .ok (← ModelAnswer.ofValue answer))
  let replies : Option (List Value) ← v.maybe "openai" none
  let settings ← v.getOr "env" (.object [])
  return {
    tools := ← toolsOf v
    models
    assistant := replies.map fun replies => replies.map .ok
    assistantKey := ← settings.maybe "OPENAI_API_KEY" none
    localAssistant := ← settings.maybe "LOCAL_AI_MODEL_PATH" none
    modelKey := ← settings.maybe "HUGGINGFACE_API_KEY" none }

end ContractLint.Scan
