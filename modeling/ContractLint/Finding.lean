import ContractLint.Digest.Md5
import ContractLint.Location
import ContractLint.Severity
import ContractLint.Timestamp

/-! # Findings

What an analysis reports: a weakness, where it is, how grave it is and what to do about it.
-/

namespace ContractLint

/-- A reported weakness. -/
structure Finding where
  id : String
  title : String
  description : String
  severity : Severity
  /-- Where it is, if that is known. -/
  location : Option Location
  kind : String
  /-- How certain the finding is, from zero to one. -/
  confidence : Value
  snippet : Option String
  recommendation : Option String
  references : Value
  metadata : Value
  detector : String
  /-- When it was made; a finding without a time is as old as the report it stands in. -/
  timestamp : Option Timestamp
deriving Inhabited, BEq

namespace Finding

/-- The identifier made from the headline, the place and the class: the first eight digits of
their digest. -/
def generatedId (title : String) (location : Option Location) (kind : String) : String :=
  let key := title ++ ":" ++ Location.text? location ++ ":" ++ kind
  Text.take 8 (Digest.Md5.hex key.toUTF8.toList)

/-- The finding with an identifier, if it has none yet. -/
def identified (f : Finding) : Finding :=
  if f.id = "" then { f with id := generatedId f.title f.location f.kind } else f

def toFields (f : Finding) : List (String × Value) := [
  ("finding_id", .text f.id),
  ("title", .text f.title),
  ("description", .text f.description),
  ("severity", .text f.severity.name),
  ("location", match f.location with | some place => place.toValue | none => .null),
  ("vulnerability_type", .text f.kind),
  ("confidence", f.confidence),
  ("code_snippet", .ofText? f.snippet),
  ("recommendation", .ofText? f.recommendation),
  ("references", f.references),
  ("metadata", f.metadata),
  ("detector_name", .text f.detector)]

/-- The document of a finding; `clock` is the time of the report. -/
def toValue (clock : Timestamp) (f : Finding) : Value :=
  .object (f.toFields ++ [("timestamp", .text (f.timestamp.getD clock).text)])

/-- The place that a document describes. -/
def locationOf (v : Value) : Outcome Location := do
  let file ← v.field "file_path"
  let lineStart ← v.field "line_start"
  let lineEnd ← v.get "line_end"
  let columnStart ← v.get "column_start"
  let columnEnd ← v.get "column_end"
  return ⟨← file.asText, ← lineStart.asInt, ← lineEnd.asInt?, ← columnStart.asInt?,
    ← columnEnd.asInt?⟩

/-- The time that a document carries, if any. -/
def timestampOf (v : Value) : Outcome (Option Timestamp) := do
  let written ← v.get "timestamp"
  if written.truthy then
    match written with
    | .text s => some <$> Timestamp.parse s
    | _ => throw (.mistyped "fromisoformat: argument must be str")
  else return none

/-- The value, or a default in place of null. -/
def orElse (v default : Value) : Value :=
  match v with
  | .null => default
  | other => other

def ofValue (v : Value) : Outcome Finding := do
  let place ← locationOf (← v.field "location")
  let timestamp ← timestampOf v
  let id ← v.field "finding_id"
  let title ← v.field "title"
  let description ← v.field "description"
  let severity ← Severity.ofValue (← v.field "severity")
  let kind ← v.field "vulnerability_type"
  let confidence ← v.getOr "confidence" (.real 1.0)
  let snippet ← v.get "code_snippet"
  let recommendation ← v.get "recommendation"
  let references ← v.getOr "references" (.list [])
  let metadata ← v.getOr "metadata" (.object [])
  let detector ← v.getOr "detector_name" (.text "unknown")
  let finding : Finding := {
    id := ← if id.truthy then id.asText else pure ""
    title := ← title.asText
    description := ← description.asText
    severity := severity
    location := some place
    kind := ← kind.asText
    confidence := confidence
    snippet := ← snippet.asText?
    recommendation := ← recommendation.asText?
    references := orElse references (.list [])
    metadata := orElse metadata (.object [])
    detector := ← detector.asText
    timestamp := timestamp }
  return finding.identified

/-- One line about a finding, coloured for a terminal. -/
def text (f : Finding) : String :=
  f.severity.color ++ "[" ++ f.severity.name ++ "]" ++ Severity.resetColor ++ " " ++ f.title
    ++ " at " ++ Location.text? f.location

end Finding

instance : ToValue Finding := ⟨fun f => .object f.toFields⟩

instance : OfValue Finding := ⟨Finding.ofValue⟩

end ContractLint
