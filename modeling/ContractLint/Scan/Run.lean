import ContractLint.Fault
import ContractLint.Text.Lines

/-! # Runs in given surroundings

A scan asks programs and services outside. What they answer is part of the input, the
`Surroundings`; what the scan prints and asks is recorded in a `Trace`, which survives a failure.
-/

namespace ContractLint.Scan

/-- What a program that has ended leaves behind. -/
structure ToolResult where
  output : String
  complaints : String
  status : Value

/-- What happens when a program is run. -/
inductive ToolAnswer where
  | ended (result : ToolResult)
  /-- It does not end in time. -/
  | hangs
  /-- It cannot be run, or its output cannot be read. -/
  | fails (fault : Fault)

structure ModelAnswer where
  status : Value
  text : Value
  /-- The document of the answer, if it can be read. -/
  document : Outcome Value

/-- The programs, services and settings around a scan. -/
structure Surroundings where
  /-- The programs that can be run, by name. -/
  tools : List (String × ToolAnswer)
  /-- The models that can be asked, by name. -/
  models : List (String × Outcome ModelAnswer)
  /-- The replies of the assistant in order, if there is one. -/
  assistant : Option (List (Outcome Value))
  assistantKey : Option String
  localAssistant : Option String
  modelKey : Option String
deriving Inhabited

structure Post where
  model : String
  authorization : String
  prompt : Value

structure Trace where
  printed : List String := []
  posts : List Post := []
  questions : List String := []
deriving Inhabited

/-- A computation in given surroundings that leaves a trace, also when it fails. -/
def Run (α : Type) : Type := Surroundings → Trace → Except Fault α × Trace

namespace Run

/-- The computation that does nothing. -/
def done {α : Type} (a : α) : Run α := fun _ trace => (.ok a, trace)

/-- One computation after the other. -/
def andThen {α β : Type} (first : Run α) (next : α → Run β) : Run β := fun around trace =>
  match first around trace with
  | (.ok a, trace) => next a around trace
  | (.error fault, trace) => (.error fault, trace)

def fail {α : Type} (fault : Fault) : Run α := fun _ trace => (.error fault, trace)

/-- A computation with another one in case it fails. The trace up to the failure is kept. -/
def orElse {α : Type} (first : Run α) (handler : Fault → Run α) : Run α := fun around trace =>
  match first around trace with
  | (.ok a, trace) => (.ok a, trace)
  | (.error fault, trace) => handler fault around trace

/-- A computation without surroundings. -/
def ofOutcome {α : Type} (outcome : Outcome α) : Run α := fun _ trace => (outcome, trace)

instance : Monad Run where
  pure := done
  bind := andThen

instance : MonadExceptOf Fault Run where
  throw := fail
  tryCatch := orElse

instance : MonadLift (Except Fault) Run where
  monadLift := ofOutcome

instance {α : Type} : Inhabited (Run α) := ⟨fail default⟩

end Run

def surroundings : Run Surroundings := fun around trace => (.ok around, trace)

def say (text : String) : Run Unit := fun _ trace =>
  (.ok (), { trace with printed := trace.printed ++ [text] })

def recordPost (post : Post) : Run Unit := fun _ trace =>
  (.ok (), { trace with posts := trace.posts ++ [post] })

/-- Records a question to the assistant, and gives the number of earlier ones. -/
def recordQuestion (prompt : String) : Run Nat := fun _ trace =>
  (.ok trace.questions.length, { trace with questions := trace.questions ++ [prompt] })

def Trace.log (trace : Trace) : List String :=
  Text.lines (String.join (trace.printed.map fun line => line ++ "\n"))

/-- Runs a program, which is looked up under a key, with a time limit in seconds or without one. -/
def runWithin (limit : Option Nat) (key program : String) : Run ToolResult := do
  match (← surroundings).tools.lookup key with
  | none => throw (.absent (program ++ " not found"))
  | some (.ended result) => return result
  | some .hangs => throw (.timedOut program limit)
  | some (.fails fault) => throw fault

/-- Runs a program, which is looked up under a key, with a time limit in seconds. -/
def runTool (key program : String) (limit : Nat) : Run ToolResult :=
  runWithin (some limit) key program

def fileText (content : Value) : Outcome String :=
  match content with
  | .text s => pure s
  | .null => throw (.mistyped "write() argument must be str, not None")
  | other => throw (.mistyped ("write() argument must be str, not " ++ other.kindName))

/-- The results of some computations, joined. -/
def gather {α : Type} : List (Run (List α)) → Run (List α)
  | [] => pure []
  | first :: rest => do
    let found ← first
    let others ← gather rest
    return found ++ others

end ContractLint.Scan
