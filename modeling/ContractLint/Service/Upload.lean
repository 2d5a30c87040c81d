import ContractLint.Digest.Sha256
import ContractLint.Document.Json.Printer
import ContractLint.Files
import ContractLint.Scan.Analyzer
import ContractLint.Service.Handler

/-! # Uploads

An uploaded file is checked and analysed. The findings are saved in the database and remembered, and
the connections hear of the start and of the end of the analysis.
-/

namespace ContractLint.Service

def maxFileSize : Nat := 10 * 1024 * 1024

def maxTextLength : Nat := 1000000

/-- The end of a file name that tells the language, in small letters. -/
def suffixOf (filename : String) : String := Text.lower (Path.ofText filename).suffix

/-- The analyzer for a file name, if there is one. -/
def analyzerFor? (filename : String) : Option Scan.Analyzer :=
  Scan.Analyzer.all.find? fun analyzer => "." ++ analyzer.extension = suffixOf filename

def analyzerFor (filename : String) : Handler Scan.Analyzer :=
  match analyzerFor? filename with
  | some analyzer => return analyzer
  | none => refuse 400 ("Unsupported file type '" ++ suffixOf filename
      ++ "'. Only .go, .rs, .sol files are supported.")

/-- The text of a file that is neither too large nor empty. -/
def checkedText (content : Content) : Handler String := do
  if content.size > maxFileSize then refuse 413 "File too large. Maximum size is 10MB"
  let .ok text := content.decode | refuse 400 "File must be valid UTF-8 encoded text"
  if Text.strip text = "" then refuse 400 "File cannot be empty"
  if text.length > maxTextLength then
    refuse 413 "File content too large. Maximum 1MB of text allowed"
  return text

def checkedName (filename : Value) : Handler String :=
  if !filename.truthy then refuse 400 "Filename is required"
  else match filename with
    | .text name => return name
    | other => throw (.fault (.mistyped
        ("expected str, bytes or os.PathLike object, not " ++ other.kindName)))

def findingDocument (id : String) (f : Scan.Finding) : Value :=
  .object [
    ("id", .text id),
    ("detector", f.detector),
    ("severity", .text f.severity.name),
    ("title", f.title),
    ("description", f.description),
    ("line_number", f.line),
    ("column", f.column),
    ("code_snippet", f.snippet),
    ("recommendation", f.recommendation),
    ("confidence", f.confidence),
    ("impact", f.impact),
    ("cwe_id", f.cwe),
    ("references", f.references)]

def countNaming (documents : List Value) (severity : String) : Nat :=
  (documents.filter fun document => (Row.get document.parts "severity").isText severity).length

def severitiesOf (documents : List Value) : Scan.Tally where
  critical := countNaming documents "CRITICAL"
  high := countNaming documents "HIGH"
  medium := countNaming documents "MEDIUM"
  low := countNaming documents "LOW"
  info := countNaming documents "INFO"

def positionOf (documents : List Value) (position : Nat) (document : Value) : Nat :=
  documents.zipIdx.findIdx fun (other, index) => index == position || other.same document

/-- The category of the finding that belongs to a document. The document does not tell it, so the
finding is found by the position of the document among all. -/
def categoryOf (findings : List Scan.Finding) (documents : List Value) (position : Nat)
    (document : Value) : Outcome Value :=
  match findings[positionOf documents position document]? with
  | some f => pure f.category
  | none => throw .outOfRange

/-- The row of a finding, made of the fields of its document and its category. -/
def findingRow (id : String) (fields : Row) (category : Value) : Row := [
  ("analysis_id", .text id),
  ("detector_name", fields.get "detector"),
  ("severity", fields.get "severity"),
  ("category", category),
  ("title", fields.get "title"),
  ("description", fields.get "description"),
  ("line_number", fields.get "line_number"),
  ("column_number", fields.get "column"),
  ("code_snippet", fields.get "code_snippet"),
  ("recommendation", fields.get "recommendation"),
  ("confidence", fields.get "confidence"),
  ("impact", fields.get "impact"),
  ("cwe_id", fields.get "cwe_id"),
  ("references", fields.get "references")]

/-- How often a word stands before a name. -/
def countDeclared (word text : String) : Nat :=
  ((Pattern.ofText .anyCase (word ++ "\\s+\\w+")).findAll text).length

/-- A file whose analysis has begun. -/
structure Upload where
  /-- The identifier of the analysis. -/
  id : String
  filename : String
  language : String
  size : Nat
  text : String

namespace Upload

def analysisRow (u : Upload) (findings : List Scan.Finding) (documents : List Value) : Row := [
  ("id", .text u.id),
  ("filename", .text u.filename),
  ("file_hash", .text (Digest.Sha256.hex u.text.toUTF8.toList)),
  ("file_content", .text u.text),
  ("language", .text u.language),
  ("file_size", .of u.size),
  ("status", .text "COMPLETED"),
  ("risk_score", .of (Scan.riskScore findings)),
  ("total_findings", .of documents.length),
  ("analysis_duration_ms", .int 0)] ++ (severitiesOf documents).parts

def metricsRow (u : Upload) : Row := [
  ("analysis_id", .text u.id),
  ("lines_of_code", .of (Text.lines u.text).length),
  ("function_count", .of (countDeclared "function" u.text)),
  ("contract_count", .of (countDeclared "contract" u.text))]

def response (u : Upload) (findings : List Scan.Finding) (documents : List Value) (time : Value) : Value :=
  .object [
    ("analysis_id", .text u.id),
    ("status", .text "completed"),
    ("findings", .list documents),
    ("metadata", .object ([
      ("filename", .text u.filename),
      ("file_size", .of u.size),
      ("total_findings", .of documents.length),
      ("analysis_duration_ms", .int 0),
      ("language", .text u.language),
      ("lines_of_code", .of (Text.lines u.text).length),
      ("risk_score", .of (Scan.riskScore findings))] ++ (severitiesOf documents).parts)),
    ("timestamp", time)]

/-- Saves the row of a finding whose document stands at a position. -/
def saveFinding (u : Upload) (findings : List Scan.Finding) (documents : List Value)
    (entry : Value × Nat) : Handler Unit := do
  let category ← categoryOf findings documents entry.2 entry.1
  save .finding (findingRow u.id entry.1.parts category)

/-- Saves an analysis; a failure of the database is printed only. -/
def store (u : Upload) (findings : List Scan.Finding) (documents : List Value) : Handler Unit :=
  try
    demand .session
    save .analysis (u.analysisRow findings documents)
    for entry in documents.zipIdx do u.saveFinding findings documents entry
    save .metrics u.metricsRow
    commit
    say ("Analysis saved to database: " ++ u.id)
  catch problem =>
    say ("Database save failed, using in-memory storage: " ++ problem.message)

/-- Tells the connections that the analysis begins. -/
def announceStart (u : Upload) : Handler Unit := do
  broadcast (Document.Json.line (.object [
    ("type", .text "analysis_started"),
    ("analysis_id", .text u.id),
    ("filename", .text u.filename),
    ("language", .text u.language),
    ("timestamp", ← now)]))

/-- Tells the connections that the analysis is complete. -/
def announceEnd (u : Upload) (findings : List Scan.Finding) : Handler Unit := do
  broadcast (Document.Json.line (.object [
    ("type", .text "analysis_complete"),
    ("analysis_id", .text u.id),
    ("status", .text "completed"),
    ("findings_count", .of findings.length),
    ("duration_ms", .int 0),
    ("timestamp", ← now)]))

/-- Analyses a file, and saves and remembers the answer. -/
def study (u : Upload) (analyzer : Scan.Analyzer) : Handler (List Scan.Finding × Value) := do
  let findings ← analyzer.analyze (.text u.filename) (.text u.text)
  let documents ← findings.mapM fun f => return findingDocument (← newId) f
  u.store findings documents
  let answer := u.response findings documents (← now)
  update fun s => { s with results := (u.id, answer) :: s.results }
  say ("Analysis completed: " ++ u.id ++ " - " ++ Number.digitsText findings.length
    ++ " findings in 0ms")
  return (findings, answer)

def process (u : Upload) (analyzer : Scan.Analyzer) : Handler Value := do
  u.announceStart
  let (findings, answer) ← u.study analyzer
  u.announceEnd findings
  return answer

end Upload

/-- A computation of which texts that cannot be decoded are printed and refused. -/
def decoding {α : Type} (run : Handler α) : Handler α :=
  try run
  catch
    | .fault (.undecodable text) => do
      say ("File encoding error: " ++ text)
      refuse 400 "File encoding error. Please ensure the file is valid UTF-8 text."
    | problem => throw problem

/-- Checks and analyses an uploaded file under an identifier. -/
def examine (id : String) (filename : Value) (content : Content) : Handler Value := do
  let filename ← checkedName filename
  let analyzer ← analyzerFor filename
  let text ← checkedText content
  say ("Analysis started: " ++ id ++ " - " ++ filename ++ " ("
    ++ Number.digitsText content.size ++ " bytes)")
  (Upload.mk id filename analyzer.extension content.size text).process analyzer

def analyzeUpload (filename : Value) (content : Content) : Handler Value := do
  let id ← newId
  shielding "Analysis failed" "Internal server error during analysis. Please try again later."
    (decoding (examine id filename content))

end ContractLint.Service
