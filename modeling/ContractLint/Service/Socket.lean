import ContractLint.Document.Json.Printer
import ContractLint.Document.Json.Reader
import ContractLint.Service.Handler

/-! # Conversations over a connection

A connection sends messages. A ping is answered, any other message is sent back, and a connection
that is silent for too long is sent a ping. The conversation ends when something goes wrong. If that is
a ping to a connection that has gone, the connection is given up.
-/

namespace ContractLint.Service

inductive Received where
  | message (text : Value)
  /-- Nothing for too long. -/
  | silence
  /-- Receiving fails, as it does when the other side has gone. -/
  | failure (fault : Fault)

def signal (kind : String) : Handler String := do
  return Document.Json.line (.object [("type", .text kind), ("timestamp", ← now)])

def messageDocument (message : Value) : Outcome Value :=
  match message with
  | .text s =>
    match Document.Json.parse? s with
    | some v => pure v
    | none => throw (.invalid "the message is no document")
  | other => throw (.mistyped
      ("the JSON object must be str, bytes or bytearray, not " ++ other.kindName))

def reply (name : String) (message : Value) : Handler Unit := do
  let v ← messageDocument message
  if (← v.get "type").isText "ping" then send name (← signal "pong")
  else send name message.display

/-- The problem of a computation, if it fails. -/
def attempt (run : Handler Unit) : Handler (Option Problem) :=
  try
    run
    pure none
  catch problem => pure (some problem)

/-- Talks with a connection until receiving or an answer fails or nothing more is received. A ping
that cannot be sent ends the conversation with its failure. -/
def converse (name : String) : List Received → Handler Unit
  | [] => say "WebSocket error: nothing to receive"
  | .silence :: rest => do
    send name (← signal "ping")
    converse name rest
  | .failure fault :: _ => say ("WebSocket error: " ++ fault.message)
  | .message message :: rest => do
    match ← attempt (reply name message) with
    | some problem => say ("WebSocket error: " ++ problem.message)
    | none => converse name rest

/-- Gives up a connection that has gone; other problems remain. -/
def giveUp (name : String) : Problem → Handler Unit
  | .fault (.disconnected _) => disconnect name
  | problem => throw problem

def serve (name : String) (received : List Received) : Handler Unit := do
  connect name
  try converse name received
  catch problem => giveUp name problem

end ContractLint.Service
