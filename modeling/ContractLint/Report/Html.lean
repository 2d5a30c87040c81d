import ContractLint.Report.Basic
import ContractLint.Text.Case

/-! # Reports as pages of a browser

Texts of findings are put into the page as they are.
-/

namespace ContractLint.Report.Html

/-- The rules of style: a selector and its declarations. -/
def styleRules : List (String × List String) := [
  ("body", ["font-family: Arial, sans-serif", "margin: 0", "padding: 20px",
    "background-color: #f5f5f5"]),
  (".container", ["max-width: 1200px", "margin: 0 auto", "background: white", "padding: 20px",
    "border-radius: 8px", "box-shadow: 0 2px 10px rgba(0,0,0,0.1)"]),
  ("header", ["text-align: center", "margin-bottom: 30px"]),
  ("h1", ["color: #333", "margin-bottom: 10px"]),
  (".subtitle", ["color: #666", "margin: 0"]),
  (".summary", ["background: #f8f9fa", "padding: 20px", "border-radius: 6px",
    "margin-bottom: 30px"]),
  (".severity-critical", ["color: #dc3545"]),
  (".severity-high", ["color: #fd7e14"]),
  (".severity-medium", ["color: #ffc107"]),
  (".severity-low", ["color: #28a745"]),
  (".severity-info", ["color: #17a2b8"]),
  (".finding", ["border: 1px solid #ddd", "margin-bottom: 20px", "border-radius: 6px"]),
  (".finding-header", ["padding: 15px", "background: #f8f9fa", "border-bottom: 1px solid #ddd"]),
  (".finding-body", ["padding: 15px"]),
  (".code-snippet", ["background: #f8f8f8", "padding: 10px", "border-radius: 4px",
    "font-family: monospace", "overflow-x: auto"]),
  (".success", ["text-align: center", "padding: 40px", "color: #28a745"]),
  ("footer", ["text-align: center", "margin-top: 40px", "color: #666"])]

def styles : String :=
  "\n" ++ String.join (styleRules.map fun (selector, declarations) =>
    "        " ++ selector ++ " \x7b " ++ String.join (declarations.map (· ++ "; ")) ++ "\x7d\n")
    ++ "        "

def pageStart : String := Text.joinLines [
  "",
  "<!DOCTYPE html>",
  "<html lang=\"en\">",
  "<head>",
  "    <meta charset=\"UTF-8\">",
  "    <meta name=\"viewport\" content=\"width=device-width, initial-scale=1.0\">",
  "    <title>ContractQuard Security Analysis Report</title>",
  "    <style>"]

def nothingFound : String :=
  pageStart ++ styles ++ Text.joinLines [
    "</style>",
    "</head>",
    "<body>",
    "    <div class=\"container\">",
    "        <header>",
    "            <h1>No Security Issues Found</h1>",
    "        </header>",
    "        <div class=\"success\">",
    "            <p>Your smart contract appears to be free of the vulnerabilities checked by "
      ++ "ContractQuard's static analysis.</p>",
    "        </div>",
    "    </div>",
    "</body>",
    "</html>",
    ""]

def styleOf (severity : Severity) : String := "severity-" ++ Text.lower severity.name

/-- The markup before the number of findings of a severity. -/
def countStart (severity : Severity) : String :=
  "<p><span class=\"" ++ styleOf severity ++ "\"><strong>" ++ severity.name ++ ":</strong> "

def countLine (item : Severity × Nat) : String := countStart item.1 ++ Number.digitsText item.2 ++ "</span></p>"

/-- The numbers of a report. -/
def summarySection (s : Summary) : String :=
  "<div class=\"summary\"><h2>Summary</h2>" ++ String.join (s.present.map countLine)
    ++ "<p><strong>Files with issues:</strong> " ++ Number.digitsText s.files.length
    ++ "</p></div>"

/-- The markup before the headline of a finding. -/
def headlineStart (severity : Severity) : String := Text.joinLines [
  "",
  "            <div class=\"finding\">",
  "                <div class=\"finding-header\">",
  "                    <h3 class=\"" ++ styleOf severity ++ "\">"]

/-- The markup between the headline and the place of a finding. -/
def placeStart : String := Text.joinLines [
  "</h3>",
  "                    <p><strong>Location:</strong> "]

/-- The markup between the place and the description of a finding. -/
def descriptionStart : String := Text.joinLines [
  "</p>",
  "                </div>",
  "                <div class=\"finding-body\">",
  "                    <p><strong>Description:</strong> "]

/-- The markup after the description of a finding. -/
def descriptionEnd : String := Text.joinLines ["</p>", "            "]

def headline (index : Nat) (f : Finding) : String :=
  Number.digitsText index ++ ". " ++ f.severity.name ++ " - " ++ f.title

def entry (output : OutputSettings) (index : Nat) (e : Entry) : Outcome String := do
  let f := e.finding
  let snippet ← (shownSnippet output f).mapM (truncated output)
  return headlineStart f.severity ++ headline index f ++ placeStart ++ placeText e ++ descriptionStart ++ f.description
    ++ descriptionEnd
    ++ whenSome snippet (fun s => "<div class=\"code-snippet\"><pre>" ++ s ++ "</pre></div>")
    ++ whenSome (recommendation f)
      (fun s => "<p><strong>Recommendation:</strong> " ++ s ++ "</p>")
    ++ "</div></div>"

def findingsSection (output : OutputSettings) (entries : List Entry) : Outcome String := do
  let parts ← (numbered entries).mapM fun (i, e) => entry output i e
  return "<div class=\"findings\"><h2>Detailed Findings</h2>" ++ String.join parts ++ "</div>"

/-- The markup before the time of a report. -/
def timeStart : String := Text.joinLines [
  "",
  "    </style>",
  "</head>",
  "<body>",
  "    <div class=\"container\">",
  "        <header>",
  "            <h1>ContractQuard Security Analysis Report</h1>",
  "            <p class=\"subtitle\">Generated on "]

/-- The markup after the time of a report. -/
def timeEnd : String := Text.joinLines ["</p>", "        </header>", "", "        "]

/-- The markup right after the findings. -/
def footerStart : String := Text.joinLines ["", "", "        <footer>"]

def pageEnd : String := Text.joinLines [
  "",
  "            <p>Generated by <a href=\"https://github.com/quantlink/contractquard\">"
    ++ "ContractQuard</a> v0.1.0</p>",
  "        </footer>",
  "    </div>",
  "</body>",
  "</html>",
  ""]

/-- The report. -/
def render (output : OutputSettings) (clock : Timestamp) (entries : List Entry) : Outcome String := do
  if entries.isEmpty then return nothingFound
  return pageStart ++ "\n        " ++ styles ++ timeStart ++ clock.text ++ timeEnd ++ summarySection (summary entries)
    ++ Text.joinLines ["", "        "] ++ (← findingsSection output (sorted entries)) ++ footerStart ++ pageEnd

end ContractLint.Report.Html
