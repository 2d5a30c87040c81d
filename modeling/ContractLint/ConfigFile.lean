import ContractLint.Config
import ContractLint.Document.Yaml.Printer
import ContractLint.Document.Yaml.Reader
import ContractLint.Files

/-! # Configuration files

A configuration is kept in a file as the text of its document.
-/

namespace ContractLint.Config

def load (files : Files) (path : Path) : Outcome Config := do
  if !files.contains path then
    throw (.absent ("Configuration file not found: " ++ path.text))
  ofValue (← Document.Yaml.parse path.text (← files.read path))

def fileText (config : Config) : String :=
  match config.toValue with
  | .object fields => Document.Yaml.print fields
  | _ => ""

def save (config : Config) (files : Files) (path : Path) : Outcome Files :=
  files.writeDeep path config.fileText

end ContractLint.Config
