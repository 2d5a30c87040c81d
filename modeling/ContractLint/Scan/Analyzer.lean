import ContractLint.Scan.Assistant
import ContractLint.Scan.Inference
import ContractLint.Scan.Lint
import ContractLint.Scan.Rules.Go
import ContractLint.Scan.Rules.Rust
import ContractLint.Scan.Rules.Solidity
import ContractLint.Scan.Slither
import ContractLint.Scan.Syntax

/-! # Analyzers of uploaded files

There is one analyzer for each language. It applies the rules of the language and then asks the
programs and services outside, whose failures are printed and otherwise ignored.
-/

namespace ContractLint.Scan

inductive Analyzer where
  | solidity
  | rust
  | go
deriving DecidableEq, Inhabited

namespace Analyzer

def all : List Analyzer := [solidity, rust, go]

def extension : Analyzer → String
  | solidity => "sol"
  | rust => "rs"
  | go => "go"

def name : Analyzer → String
  | solidity => "SolidityAnalyzer"
  | rust => "RustAnalyzer"
  | go => "GoAnalyzer"

def version : String := "1.0.0"

/-- The analyzer for files with an extension, in capital or small letters. -/
def ofExtension? (ext : String) : Option Analyzer :=
  all.find? fun analyzer => analyzer.extension == Text.lower ext

/-- The rules of an analyzer by name, in the order in which they are applied. -/
def rules : Analyzer → List (String × (Source → List Finding))
  | solidity => Rules.Solidity.all
  | rust => Rules.Rust.all
  | go => Rules.Go.all

def ruleFindings (analyzer : Analyzer) (content : String) : List Finding :=
  analyzer.rules.flatMap fun (_, rule) => rule (Source.ofContent content)

/-- A computation whose failure is printed and gives no findings. -/
def tolerated (name : String) (run : Run (List Finding)) : Run (List Finding) :=
  try run
  catch fault =>
    say (name ++ " failed: " ++ fault.message)
    pure []

def outside (filename content : Value) : Analyzer → List (Run (List Finding))
  | solidity => [
      tolerated "Enhanced Slither analysis" (Slither.analyze content),
      tolerated "AST analysis" (Syntax.analyze content),
      tolerated "AI analysis" (Assistant.analyze filename content),
      tolerated "Hugging Face AI analysis" do
        Inference.checkKey
        Inference.analyze filename content]
  | rust => [tolerated "Clippy analysis" (Lint.clippy content)]
  | go => [tolerated "Gosec analysis" (Lint.gosec content)]

/-- The findings in a file: those of the rules first. -/
def analyze (analyzer : Analyzer) (filename content : Value) : Run (List Finding) := do
  let text ← content.textFor "splitlines"
  return analyzer.ruleFindings text ++ (← gather (analyzer.outside filename content))

def descriptions : Value :=
  .object (all.map fun analyzer => (analyzer.extension, .object [
    ("name", .text analyzer.name),
    ("version", .text version),
    ("extensions", .ofTexts [analyzer.extension])]))

end Analyzer

end ContractLint.Scan
