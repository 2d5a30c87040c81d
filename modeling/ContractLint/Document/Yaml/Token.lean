import ContractLint.Document.Yaml.Cursor

/-! # Tokens of YAML -/

namespace ContractLint.Document.Yaml

inductive TokenKind where
  | streamEnd
  /-- A line that speaks to the reader. -/
  | directive
  /-- Three hyphens. -/
  | documentStart
  /-- Three points. -/
  | documentEnd
  | blockSequenceStart
  | blockMappingStart
  | blockEnd
  /-- An opening bracket. -/
  | flowSequenceStart
  /-- A closing bracket. -/
  | flowSequenceEnd
  /-- An opening brace. -/
  | flowMappingStart
  /-- A closing brace. -/
  | flowMappingEnd
  | key
  | value
  | blockEntry
  /-- A comma. -/
  | flowEntry
  | reference (name : String)
  | anchor (name : String)
  /-- The type of a node: the handle in front of its name, and the name. -/
  | tag (handle : Option String) (suffix : String)
  /-- A scalar, and whether it stands without quotes. -/
  | scalar (text : String) (plain : Bool)
deriving DecidableEq, Inhabited

def TokenKind.label : TokenKind → String
  | streamEnd => "<stream end>"
  | directive => "<directive>"
  | documentStart => "<document start>"
  | documentEnd => "<document end>"
  | blockSequenceStart => "<block sequence start>"
  | blockMappingStart => "<block mapping start>"
  | blockEnd => "<block end>"
  | flowSequenceStart => "["
  | flowSequenceEnd => "]"
  | flowMappingStart => "\x7b"
  | flowMappingEnd => "\x7d"
  | key => "?"
  | value => ":"
  | blockEntry => "-"
  | flowEntry => ","
  | reference _ => "<alias>"
  | anchor _ => "<anchor>"
  | tag _ _ => "<tag>"
  | scalar _ _ => "<scalar>"

structure Token where
  kind : TokenKind
  /-- Its first place. -/
  start : Mark
deriving Inhabited

end ContractLint.Document.Yaml
