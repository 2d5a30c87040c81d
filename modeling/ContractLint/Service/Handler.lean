import ContractLint.Scan.Run
import ContractLint.Service.Database

/-! # Requests to the service

A handler answers a request. It works in a `Setting`, changes the `State` of the service and keeps
a `Journal` of what it prints, asks, saves and sends. Journal and state survive a failure.
-/

namespace ContractLint.Service

/-- Why a request is not answered. -/
inductive Problem where
  | refused (status : Nat) (detail : String)
  /-- Something went wrong. -/
  | fault (cause : Fault)

def Problem.message : Problem → String
  | refused status detail => Number.digitsText status ++ ": " ++ detail
  | fault cause => cause.message

/-- What surrounds a request. -/
structure Setting where
  /-- Programs, services and keys. -/
  around : Scan.Surroundings
  database : Database
  clock : Timestamp

/-- How a connection breaks. -/
structure Limit where
  /-- How many more texts it takes. -/
  left : Nat
  /-- Why it takes no others. -/
  fault : Fault

/-- What the service remembers between requests. -/
structure State where
  issued : Nat := 0
  /-- The answers to uploads by identifier. -/
  results : List (String × Value) := []
  connections : List String := []
  /-- The limits of connections that break; others do not break. -/
  limits : List (String × Limit) := []

/-- What happens during a request. -/
structure Journal where
  /-- What is printed and asked. -/
  trace : Scan.Trace := {}
  queries : List String := []
  /-- The number of questions for numbers. -/
  counted : Nat := 0
  saved : List Value := []
  /-- The texts sent, each with the name of the connection. -/
  sent : List (String × String) := []

/-- A computation that answers a request. -/
def Handler (α : Type) : Type :=
  Setting → State → Journal → Except Problem α × State × Journal

namespace Handler

variable {α β : Type}

/-- The computation that does nothing. -/
def done (a : α) : Handler α := fun _ state journal => (.ok a, state, journal)

/-- One computation after the other. -/
def andThen (first : Handler α) (next : α → Handler β) : Handler β := fun setting state journal =>
  match first setting state journal with
  | (.ok a, state, journal) => next a setting state journal
  | (.error problem, state, journal) => (.error problem, state, journal)

def fail (problem : Problem) : Handler α := fun _ state journal => (.error problem, state, journal)

/-- A computation with another one in case it fails. -/
def orElse (first : Handler α) (handler : Problem → Handler α) : Handler α :=
  fun setting state journal =>
    match first setting state journal with
    | (.ok a, state, journal) => (.ok a, state, journal)
    | (.error problem, state, journal) => handler problem setting state journal

instance : Monad Handler where
  pure := done
  bind := andThen

instance : MonadExceptOf Problem Handler where
  throw := fail
  tryCatch := orElse

/-- A computation without effects. -/
instance : MonadLift (Except Fault) Handler where
  monadLift outcome := fun _ state journal => (outcome.mapError .fault, state, journal)

/-- A computation that only prints and asks programs and services. -/
instance : MonadLift Scan.Run Handler where
  monadLift run := fun setting state journal =>
    let (outcome, trace) := run setting.around journal.trace
    (outcome.mapError .fault, state, { journal with trace })

instance : Inhabited (Handler α) := ⟨fail (.fault default)⟩

end Handler

/-- What surrounds the request. -/
def setting : Handler Setting := fun setting state journal => (.ok setting, state, journal)

def state : Handler State := fun _ state journal => (.ok state, state, journal)

def update (change : State → State) : Handler Unit := fun _ state journal =>
  (.ok (), change state, journal)

def enter (entry : Journal → Journal) : Handler Unit := fun _ state journal =>
  (.ok (), state, entry journal)

def refuse {α : Type} (status : Nat) (detail : String) : Handler α :=
  throw (.refused status detail)

def say (line : String) : Handler Unit := Scan.say line

/-- The time. -/
def now : Handler Value := do return .text (← setting).clock.text

def identifier (number : Nat) : String := "id-" ++ Number.digitsText number

/-- A new identifier; identifiers are numbered in the order of issue. -/
def newId : Handler String := do
  update fun s => { s with issued := s.issued + 1 }
  return identifier (← state).issued

/-- A computation whose problems are printed and refused, with a reason made from their
wording. -/
def reporting {α : Type} (what : String) (detail : String → String) (run : Handler α) : Handler α :=
  try run
  catch problem =>
    say (what ++ ": " ++ problem.message)
    refuse 500 (detail problem.message)

/-- A computation of which refusals stand as they are and faults are printed and refused with a
fixed reason. -/
def shielding {α : Type} (what detail : String) (run : Handler α) : Handler α :=
  try run
  catch
    | .refused status reason => refuse status reason
    | .fault cause => do
      say (what ++ ": " ++ cause.message)
      refuse 500 detail

/-! ## The database -/

def demand (d : Demand) : Handler Unit := do
  match (← setting).database.failure d with
  | some fault => throw (.fault fault)
  | none => pure ()

/-- Asks the database. -/
def query (text : String) : Handler Unit := do
  enter fun journal => { journal with queries := journal.queries ++ [text] }
  demand (.query text)

def matching (table : Table) (column : String) (v : Value) : String :=
  table.name ++ ".filter(" ++ column ++ " == " ++ v.literal ++ ")"

def first? (table : Table) (column : String) (v : Value) : Handler (Option Row) := do
  query (matching table column v ++ ".first")
  return ((← setting).database.rows table).head?

def rowsWith (table : Table) (column : String) (v : Value) : Handler (List Row) := do
  query (matching table column v ++ ".all")
  return (← setting).database.rows table

def count (text : String) : Handler Value := do
  query (text ++ ".count")
  let counted ← fun _ state journal => (.ok journal.counted, state, journal)
  enter fun journal => { journal with counted := journal.counted + 1 }
  return (← setting).database.counts.getD counted (.int 0)

/-- Adds a row to a table; it stays only if it is committed. -/
def save (table : Table) (row : Row) : Handler Unit := do
  demand (.add table)
  enter fun journal =>
    { journal with saved := journal.saved ++ [.object (("table", .text table.name) :: row)] }

/-- Makes the added rows stay. -/
def commit : Handler Unit := do
  demand .commit
  enter fun journal => { journal with saved := journal.saved ++ [.text "commit"] }

/-! ## Connections -/

def record (name text : String) : Handler Unit :=
  enter fun journal => { journal with sent := journal.sent ++ [(name, text)] }

/-- The limits after a connection has taken a text, unless it takes none. -/
def taken (name : String) : List (String × Limit) → Outcome (List (String × Limit))
  | [] => .ok []
  | (other, limit) :: rest =>
    if other = name then
      match limit.left with
      | 0 => .error limit.fault
      | left + 1 => .ok ((other, { limit with left }) :: rest)
    else (taken name rest).map ((other, limit) :: ·)

def send (name text : String) : Handler Unit := do
  let limits ← taken name (← state).limits
  update fun s => { s with limits }
  record name text

/-- Sends a text to some connections, one after the other. -/
def sendEach (text : String) : List String → Handler Unit
  | [] => pure ()
  | name :: rest => do
    send name text
    sendEach text rest

def broadcast (text : String) : Handler Unit := do sendEach text (← state).connections

def connect (name : String) : Handler Unit := do
  record name "ACCEPT"
  update fun s => { s with connections := s.connections ++ [name] }

def disconnect (name : String) : Handler Unit := do
  if (← state).connections.contains name then
    update fun s => { s with connections := s.connections.erase name }
  else throw (.fault (.invalid "list.remove(x): x not in list"))

/-- From now on a connection takes no texts. -/
def breakOff (name : String) : Handler Unit :=
  update fun s => { s with limits := (name, ⟨0, .outside "socket gone"⟩) :: s.limits }

end ContractLint.Service
