import ContractLint.Document.Call
import ContractLint.Scan.Scenario
import ContractLint.Service.Archive
import ContractLint.Service.Export
import ContractLint.Service.Socket
import ContractLint.Service.Status
import ContractLint.Service.Upload

/-! # Requests by name -/

namespace ContractLint.Service

/-- An uploaded file is a text, bytes, or a number of letters. -/
instance : OfValue Content := ⟨Content.ofValue 'a'⟩

/-- Silence is written as null. -/
instance : OfValue Received where
  read
    | .null => pure .silence
    | message => pure (.message message)

/-- A request with its arguments, the last of which may be left out. -/
def request {φ : Type} [Callable Handler φ] (f : φ) (defaults : List Value) (required : Nat) :
    List Value → Handler Value :=
  fun args => Callable.invoke f (args ++ defaults.drop (args.length - required))

def requests : List (String × (List Value → Handler Value)) := [
  ("analyze", request analyzeUpload [] 2),
  ("get", request analysisOf [] 1),
  ("history", request history [.int 50, .int 0] 0),
  ("statistics", request statistics [] 0),
  ("export", request exportAnalysis [.text "json"] 1),
  ("code", request sourceOf [] 1),
  ("health", request health [] 0),
  ("ai_status", request assistants [] 0),
  ("csv", request (fun data => Download.toValue <$> Export.table data) [] 1),
  ("pdf", request (fun data => Download.toValue <$> Export.plain data) [] 1),
  ("simple_pdf", request (fun data => Download.toValue <$> Export.plain data) [] 1),
  ("connect", request connect [] 1),
  ("disconnect", request disconnect [] 1),
  ("break", request breakOff [] 1),
  ("websocket", request serve [] 2),
  ("log_requests", request logged [] 3),
  ("not_found_handler", request (refusal 404 "Endpoint not found") [] 0),
  ("internal_error_handler", request (refusal 500 "Internal server error") [] 0)]

/-- Answers a request, which is given by its name and arguments. -/
def answer (words : List Value) : Handler Value :=
  let name := (words.head?.map Value.display).getD ""
  match requests.lookup name with
  | some handler => handler (words.drop 1)
  | none => throw (.fault (.invalid ("bad step " ++ name)))

def Journal.deliveries (journal : Journal) : List (String × List String) :=
  (journal.sent.map Prod.fst).eraseDups.map fun name =>
    (name, (journal.sent.filter fun delivery => delivery.1 = name).map Prod.snd)

def Setting.ofValue (clock : Timestamp) (v : Value) : Outcome Setting := do
  return ⟨← Scan.Surroundings.ofValue v, ← Database.ofValue (← v.getOr "db" (.object [])), clock⟩

/-- What comes of a request. -/
structure Exchange where
  outcome : Except Problem Value
  state : State
  journal : Journal

/-- Answers requests one after the other, each in a setting of its own. -/
def answerAll (state : State) : List (Setting × List Value) → List Exchange
  | [] => []
  | (setting, words) :: rest =>
    let (outcome, state, journal) := answer words setting state {}
    ⟨outcome, state, journal⟩ :: answerAll state rest

end ContractLint.Service
