import ContractLint.Document.Codec
import ContractLint.Timestamp

/-! # The database of the service

What the database answers during a request is part of the input. Queries are told apart by their
texts only; the answers do not depend on their conditions.
-/

namespace ContractLint.Service

inductive Table where
  | analysis
  | finding
  /-- Measurements of source files. -/
  | metrics
deriving DecidableEq

def Table.name : Table → String
  | analysis => "Analysis"
  | finding => "Finding"
  | metrics => "CodeMetrics"

abbrev Row := List (String × Value)

namespace Row

def get (row : Row) (column : String) : Value := (row.lookup column).getD .null

def select (row : Row) (columns : List String) : List (String × Value) :=
  columns.map fun column => (column, row.get column)

def time (row : Row) (column : String) : Outcome String := do
  return (← Timestamp.parse (← (row.get column).textFor "isoformat")).text

end Row

/-- What the database is asked to do. -/
inductive Demand where
  /-- To take part in a request. -/
  | session
  | query (text : String)
  | add (table : Table)
  /-- To keep the rows that it took. -/
  | commit

/-- Queries and commits fail with a text, if there is one. -/
def Demand.failing (text : Option String) : Demand → Option Fault
  | query _ => text.map .outside
  | commit => text.map .outside
  | session => none
  | add _ => none

structure Database where
  rows : Table → List Row := fun _ => []
  /-- The answers to questions for numbers, in the order of asking. -/
  counts : List Value := []
  /-- The number of analyses of each language. -/
  groups : List (Value × Value) := []
  /-- The demands that it does not meet, each with the failure. -/
  failure : Demand → Option Fault := fun _ => none

instance : Inhabited Database := ⟨{}⟩

def Database.ofValue (v : Value) : Outcome Database := do
  let rowsOf (table : Table) : Outcome (List Row) := do
    let rows : List Value ← v.maybe table.name []
    return rows.map Value.parts
  let analyses ← rowsOf .analysis
  let findings ← rowsOf .finding
  let metrics ← rowsOf .metrics
  let groups : List Value ← v.maybe "groups" []
  return {
    rows := fun
      | .analysis => analyses
      | .finding => findings
      | .metrics => metrics
    counts := ← v.maybe "counts" []
    groups := ← groups.mapM fun group => return (← group.itemAt 0, ← group.itemAt 1)
    failure := Demand.failing (← v.maybe "fail" none) }

end ContractLint.Service
