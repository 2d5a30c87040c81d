import ContractLint.Scan.Finding
import ContractLint.Scan.Run

/-! # Language linters

Clippy for Rust files and gosec for Go files. Their output is searched line by line.
-/

namespace ContractLint.Scan.Lint

def clippyFindings (complaints : String) : List Finding :=
  ((Text.lines complaints).filter fun line => Text.containsAny line ["warning:", "error:"]).map
    fun line =>
      { detector := .text "clippy_detector"
        severity := if Text.contains line "warning:" then .medium else .high
        title := .text "Clippy Lint"
        description := .text (Text.strip line)
        line := .int 1
        recommendation := .text "Follow Clippy suggestions for better code quality"
        category := .text "Clippy" }

def clippy (content : Value) : Run (List Finding) :=
  try
    let _ ← fileText content
    return clippyFindings (← runTool "cargo" "cargo" 30).complaints
  catch fault =>
    say ("Clippy analysis error: " ++ fault.message)
    return []

def gosecSeverity (line : String) : Severity :=
  if Text.contains line "HIGH" then .high
  else if Text.contains line "LOW" then .low
  else .medium

def gosecFindings (output : String) : List Finding :=
  ((Text.lines output).filter fun line => Text.contains line "Severity:").map fun line =>
    { detector := .text "gosec_detector"
      severity := gosecSeverity line
      title := .text "Gosec Security Issue"
      description := .text (Text.strip line)
      line := .int 1
      recommendation := .text "Follow gosec recommendations for security improvements"
      category := .text "Gosec" }

def gosec (content : Value) : Run (List Finding) :=
  try
    let _ ← fileText content
    return gosecFindings (← runTool "gosec" "gosec" 30).output
  catch fault =>
    say ("Gosec analysis error: " ++ fault.message)
    return []

end ContractLint.Scan.Lint
