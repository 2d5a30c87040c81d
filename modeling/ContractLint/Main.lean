import ContractLint.CommandLine.Run

/-! # The program

Reads the files that the command line names, runs the command, prints what it says and writes the
files it leaves changed.
-/

namespace ContractLint

/-- The files among the words of a command line and their option values. -/
def readNamed (words : List String) : IO Files := do
  let mut entries := []
  for word in words.flatMap fun word => word :: (word.splitOn "=").drop 1 do
    try
      let text ← IO.FS.readFile word
      entries := entries ++ [((Path.ofText word).names, Content.text text)]
    catch _ => pure ()
  return ⟨entries⟩

def writeChanged (before after : Files) : IO Unit := do
  for (names, content) in after.entries do
    match content, before.fileAt? names with
    | .text new, some (.text old) =>
      if new ≠ old then IO.FS.writeFile ("/".intercalate names) new
    | .text new, _ =>
      if 1 < names.length then IO.FS.createDirAll ("/".intercalate names.dropLast)
      IO.FS.writeFile ("/".intercalate names) new
    | _, _ => pure ()

end ContractLint

open ContractLint in
/-- Runs a command line. -/
def main (words : List String) : IO UInt32 := do
  let files ← readNamed words
  let ending := (CommandLine.run .missing files words).reported
  IO.print ending.output
  writeChanged files ending.files
  return ending.status.toUInt32
