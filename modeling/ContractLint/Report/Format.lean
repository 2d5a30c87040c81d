import ContractLint.Report.Console
import ContractLint.Report.Html
import ContractLint.Report.Json
import ContractLint.Report.Markdown
import ContractLint.Report.Sarif

/-! # Formats of reports

A catalogue holds formats by name. The name that settings give selects one of them.
-/

namespace ContractLint.Report

inductive Format where
  | console
  | json
  | sarif
  | markdown
  | html
deriving DecidableEq, Inhabited

namespace Format

def name : Format → String
  | console => "console"
  | json => "json"
  | sarif => "sarif"
  | markdown => "markdown"
  | html => "html"

def render (format : Format) (output : OutputSettings) (clock : Timestamp)
    (findings : List Finding) : Outcome String := do
  let entries ← findings.mapM entryOf
  match format with
  | console => Console.render output entries
  | json => Json.render output clock entries
  | sarif => Sarif.render output entries
  | markdown => Markdown.render output entries
  | html => Html.render output clock entries

end Format

/-- What can stand in a catalogue. -/
inductive Maker where
  | concrete (format : Format)
  /-- The outline of a format, which makes no reports. -/
  | outline
  /-- Something that is no format. -/
  | foreign (description : String)

/-- Formats by name. -/
structure Catalogue where
  makers : List (String × Maker)

namespace Catalogue

def ofFormats (formats : List Format) : Catalogue :=
  ⟨formats.map fun format => (format.name, .concrete format)⟩

def basic : Catalogue := ofFormats [.console, .json, .sarif]

def names (c : Catalogue) : List String := c.makers.map Prod.fst

def supports (c : Catalogue) (name : Value) : Outcome Bool := do
  name.hashable
  return name.isOneOf c.names

/-- Puts a format under a name; the place of a name that is already there is kept. -/
def register (c : Catalogue) (name : String) (maker : Maker) : Outcome Catalogue :=
  match maker with
  | .foreign description =>
    throw (.invalid ("Reporter class must inherit from BaseReporter: " ++ description))
  | _ =>
    if c.names.contains name then
      pure ⟨c.makers.map fun entry => if entry.1 = name then (name, maker) else entry⟩
    else pure ⟨c.makers ++ [(name, maker)]⟩

def extend (c : Catalogue) : Outcome Catalogue := do
  let c ← c.register Format.markdown.name (.concrete .markdown)
  c.register Format.html.name (.concrete .html)

def full : Catalogue := ofFormats [.console, .json, .sarif, .markdown, .html]

/-- The format of a name; without a name, the one of the settings. -/
def format (c : Catalogue) (output : OutputSettings) (name : Value) : Outcome Format := do
  let wanted := match name with | .null => output.format | other => other
  if !(← c.supports wanted) then
    throw (.invalid ("Unsupported report format: " ++ wanted.display ++ ". Available formats: "
      ++ (Value.ofTexts c.names).display))
  match c.makers.lookup wanted.display with
  | some (.concrete format) => return format
  | _ => throw (.mistyped ("Can't instantiate abstract class BaseReporter with abstract methods "
      ++ "format_name, generate_report"))

end Catalogue

end ContractLint.Report
