import ContractLint.Document.Json.Printer
import ContractLint.Report.Basic
import ContractLint.Text.Case

/-! # Reports in the Static Analysis Results Interchange Format

A class of weakness is a rule, described by the first finding of that class. Rules are in the order
of their names.
-/

namespace ContractLint.Report.Sarif

def level : Severity → String
  | .critical => "error"
  | .high => "error"
  | .medium => "warning"
  | .low => "note"
  | .info => "note"

def message (s : String) : Value := .object [("text", .text s)]

/-- The rule of a class of weakness, described by a finding. -/
def rule (f : Finding) : Outcome Value := do
  let help ← if f.references.truthy then f.references.itemAt 0 else pure .null
  return .object ([
    ("id", Value.text f.kind),
    ("name", .text (Text.title (Text.replace f.kind "_" " "))),
    ("shortDescription", message f.title),
    ("fullDescription", message f.description),
    ("defaultConfiguration", .object [("level", .text (level f.severity))])]
    ++ (match help with | .null => [] | link => [("helpUri", link)])
    ++ [("properties", .object [("category", .text "security"), ("detector", .text f.detector)])])

/-- The classes of weakness of some findings, in ascending order. -/
def kinds (findings : List Finding) : List String :=
  (findings.map Finding.kind).eraseDups.mergeSort fun a b => decide (a ≤ b)

def rules (findings : List Finding) : Outcome (List Value) :=
  (kinds findings).filterMap (fun kind => findings.find? fun f => f.kind = kind) |>.mapM rule

/-- A number, or another one in its place if it is missing or zero. -/
def orElse (n : Option Int) (other : Int) : Int :=
  match n with
  | some k => if k = 0 then other else k
  | none => other

/-- The region of a place; columns that are not known are one. -/
def region (place : Location) : Value :=
  .object [
    ("startLine", .int place.lineStart),
    ("endLine", .int (orElse place.lineEnd place.lineStart)),
    ("startColumn", .int (orElse place.columnStart 1)),
    ("endColumn", .int (orElse place.columnEnd 1))]

/-- The snippet of a finding, if there is one to show. -/
def context (output : OutputSettings) (f : Finding) : Outcome (List (String × Value)) :=
  match f.snippet.filter (· != "") with
  | some s =>
    if output.includeSnippets.truthy then do
      let shown ← truncated output s
      return [("contextRegion", .object [("snippet", message shown)])]
    else pure []
  | none => pure []

def result (output : OutputSettings) (e : Entry) : Outcome Value := do
  let f := e.finding
  let physical := [
    ("artifactLocation", Value.object [("uri", .text e.place.file)]),
    ("region", region e.place)] ++ (← context output f)
  return .object [
    ("ruleId", .text f.kind),
    ("ruleIndex", .int 0),
    ("message", message f.description),
    ("level", .text (level f.severity)),
    ("locations", .list [.object [("physicalLocation", .object physical)]]),
    ("properties", .object [
      ("confidence", f.confidence),
      ("detector", .text f.detector),
      ("vulnerability_type", .text f.kind)])]

def fullDescription : String :=
  "ContractQuard is QuantLink's AI-augmented smart contract security analysis tool that provides "
    ++ "foundational static analysis capabilities for Solidity smart contracts."

def schema : String :=
  "https://raw.githubusercontent.com/oasis-tcs/sarif-spec/master/Schemata/sarif-schema-2.1.0.json"

def document (output : OutputSettings) (entries : List Entry) : Outcome Value := do
  let rules ← rules (entries.map Entry.finding)
  let results ← entries.mapM (result output)
  let tool := Value.object [
    ("name", .text "ContractQuard"),
    ("version", .text "0.1.0"),
    ("informationUri", .text "https://github.com/quantlink/contractquard"),
    ("organization", .text "QuantLink"),
    ("shortDescription", message "AI-augmented smart contract security analysis tool"),
    ("fullDescription", message fullDescription),
    ("rules", .list rules)]
  return .object [
    ("version", .text "2.1.0"),
    ("$schema", .text schema),
    ("runs", .list [.object [
      ("tool", .object [("driver", tool)]),
      ("results", .list results),
      ("columnKind", .text "utf16CodeUnits")]])]

/-- The report. -/
def render (output : OutputSettings) (entries : List Entry) : Outcome String := do
  return Document.Json.indented (← document output entries)

end ContractLint.Report.Sarif
