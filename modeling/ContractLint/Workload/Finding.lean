import ContractLint.ConfigFile
import ContractLint.Detector.Registry
import ContractLint.Report.Format

/-! # Sample findings and settings

Findings come in any number. Their severities, files and extents take turns, and all else about
them differs only by their number.
-/

namespace ContractLint.Workload

/-- The numbers below a size, of which there are none below one that is negative. -/
def below (size : Int) : List Nat := List.range size.toNat

/-- The entry of a list that is due when its entries take turns. -/
def turn {α : Type} (list : List α) (first : α) (i : Nat) : α :=
  (list[i % list.length]?).getD first

def snippet : String := Text.joinLines ((List.range 8).map fun i => "line " ++ Number.digitsText i)

/-- A sample finding. Every other one extends over three lines. -/
def finding (i : Nat) : Finding :=
  let number := Number.digitsText i
  { id := "sample-" ++ number
    title := "Issue " ++ number
    description := "Weakness number " ++ number ++ " of the sample."
    severity := turn Severity.all .critical i
    location := some
      { Location.line ("contracts/File" ++ Number.digitsText (i % 4) ++ ".sol") (i + 1) with
        lineEnd := if i % 2 = 0 then some (i + 3) else none }
    kind := "sample"
    confidence := .real 0.5
    snippet := some snippet
    recommendation := some "Check the lines and fix it."
    references := .ofTexts ["Advice for case " ++ number]
    metadata := .object [("i", .int i)]
    detector := "sample"
    timestamp := none }

def findings (size : Int) : List Finding := (below size).map finding

/-- The formats that are tried, with their settings: the terminal in full and in brief, and the
formats for documents. -/
def formats : List (Report.Format × OutputSettings) := [
  (.console, { verbose := .bool true }),
  (.markdown, {}),
  (.html, {}),
  (.console, { colorOutput := .bool false })]

/-- The lengths of a report on the findings and of one on none, for each format. -/
def reports (clock : Timestamp) (size : Int) : Outcome Value := do
  let parts ← formats.mapM fun (format, output) => do
    let full ← format.render output clock (findings size)
    let empty ← format.render output clock []
    return [Value.of full.length, .of empty.length, .of format.name]
  return .list parts.flatten

/-- The findings after they were written and read again. -/
def rereadFindings (clock : Timestamp) (size : Int) : Outcome Value := do
  let lines ← (findings size).mapM fun f => do
    let again ← Finding.ofValue (f.toValue clock)
    return [again.text, Location.text? again.location, again.severity.color, Severity.resetColor]
  return .of lines

/-- Settings for all detectors, of which only grave findings count. -/
def config : Config where
  minSeverity := .text Severity.high.name
  excludeSeverities := .ofTexts [Severity.info.name]
  detectors := Detector.builtin.map fun detector => (detector.profile.name, {})

/-- The settings after they were kept in a file and loaded again, as often as asked for: the lines
of the file, whether they are the same, whether all detectors take part, and what they say. -/
def rereadConfig (size : Int) : Outcome Value := do
  let path := Path.ofText "sample.yaml"
  let rounds ← (below size).mapM fun _ => do
    let files ← config.save ⟨[]⟩ path
    let again ← Config.load files path
    return [
      Value.of (Text.lines (← files.read path)).length,
      .of (again.toValue.same config.toValue),
      .of (again.detectors.all fun (name, _) => (again.detectorEnabled name).truthy),
      again.minSeverity,
      .of Config.defaultFile]
  return .list rounds.flatten

end ContractLint.Workload
