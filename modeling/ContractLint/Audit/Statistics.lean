import ContractLint.Finding

/-! # Numbers about findings -/

namespace ContractLint.Audit

/-- How often each text occurs, in the order in which they first occur. -/
def tally (texts : List String) : List (String × Nat) :=
  texts.eraseDups.map fun text => (text, texts.count text)

def countsValue (counts : List (String × Nat)) : Value :=
  .object (counts.map fun (name, count) => (name, .of count))

def severityCounts (findings : List Finding) : List (String × Nat) :=
  Severity.all.map fun severity =>
    (severity.name, findings.countP fun f => f.severity = severity)

def kindCounts (findings : List Finding) : List (String × Nat) := tally (findings.map Finding.kind)

def detectorCounts (findings : List Finding) : List (String × Nat) :=
  tally (findings.map Finding.detector)

/-- The files of findings, each of which must have a place. -/
def filesOf (findings : List Finding) : Outcome (List String) :=
  findings.mapM fun f =>
    match f.location with
    | some place => pure place.file
    | none => throw (.noMember "NoneType" "file_path")

/-- Numbers about an analysis. -/
structure Statistics where
  total : Nat
  severities : List (String × Nat)
  kinds : List (String × Nat)
  detectors : List (String × Nat)
  files : Nat
  version : Value

def statistics (version : Value) (findings : List Finding) : Outcome Statistics := do
  let files ← filesOf findings
  return {
    total := findings.length
    severities := severityCounts findings
    kinds := kindCounts findings
    detectors := detectorCounts findings
    files := files.eraseDups.length
    version }

/-- The document of the numbers. -/
def Statistics.toValue (s : Statistics) : Value :=
  .object [
    ("total_findings", .of s.total),
    ("severity_breakdown", countsValue s.severities),
    ("vulnerability_type_breakdown", countsValue s.kinds),
    ("detector_breakdown", countsValue s.detectors),
    ("files_analyzed", .of s.files),
    ("solc_version", s.version)]

end ContractLint.Audit
