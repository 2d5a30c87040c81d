import ContractLint.Document.Value

/-! # Tables of texts

Rows of cells as lines. Commas separate the cells of a row, and a carriage return and a line feed
end it. A cell that holds a comma, a quote or a line end is quoted, and a quote inside a quoted cell
is written twice.
-/

namespace ContractLint.Document.Csv

def needsQuotes (cell : List Char) : Bool :=
  cell.any fun c => c = ',' || c = '"' || c = '\r' || c = '\n'

def quoted (cell : List Char) : List Char :=
  '"' :: cell.flatMap (fun c => if c = '"' then ['"', '"'] else [c]) ++ ['"']

def cellText (cell : String) : String :=
  if needsQuotes cell.toList then String.ofList (quoted cell.toList) else cell

/-- A row as it is written; a single empty cell is quoted to tell it from no cell. -/
def rowText (row : List String) : String :=
  (if row = [""] then "\"\"" else String.intercalate "," (row.map cellText)) ++ "\r\n"

def print (rows : List (List String)) : String := String.join (rows.map rowText)

/-- The cell for a value: null is empty. -/
def cellOf : Value → String
  | .null => ""
  | v => v.display

end ContractLint.Document.Csv
