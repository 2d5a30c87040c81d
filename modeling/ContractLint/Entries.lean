/-! # Tables of entries by name -/

namespace ContractLint.Entries

/-- Replaces the entry of a name, or adds it at the end. -/
def put {α : Type} (entries : List (String × α)) (name : String) (item : α) : List (String × α) :=
  match entries with
  | [] => [(name, item)]
  | (other, old) :: rest =>
    if other = name then (name, item) :: rest else (other, old) :: put rest name item

end ContractLint.Entries
