import ContractLint.Survey.Basic

/-! # Surveys of Rust files -/

namespace ContractLint.Survey

namespace Rust

def crateOf? (line : String) : Option String :=
  if Text.startsWith line "use " && Text.contains line "::" then
    some (Text.strip (Text.replace ((Text.splitOn line "::").headD "") "use " ""))
  else if Text.startsWith line "extern crate " then
    some (Text.strip (Text.replace (Text.replace line "extern crate " "") ";" ""))
  else none

/-- The crates that a source asks for, each once. -/
def dependencies (source : Value) : Outcome (List String) := do
  return ((← linesOf source).filterMap crateOf?).eraseDups

def functions : Value :=
  .list [.object [("name", .text "example_function"), ("visibility", .text "pub"),
    ("parameters", .list []), ("return_type", .text "Result<(), Error>"),
    ("attributes", .list []), ("is_async", .bool false), ("is_unsafe", .bool false)]]

def structs : Value :=
  .list [.object [("name", .text "ExampleStruct"), ("fields", .list []), ("attributes", .list []),
    ("visibility", .text "pub")]]

end Rust

def rust : Language where
  name := "rust"
  compiler := "rustc"
  kinds := [
    ⟨"ink", "InkContract", ["#[ink::contract]", "use ink_lang", "ink_storage", "ink_env"]⟩,
    ⟨"cosmwasm", "CosmWasmContract",
      ["use cosmwasm_std", "cosmwasm_schema", "InstantiateMsg", "ExecuteMsg"]⟩,
    ⟨"anchor", "AnchorContract", ["use anchor_lang", "#[program]", "anchor_spl"]⟩]
  genericTitle := "GenericRustContract"
  frameworks := [
    ⟨"ink", ["ink_lang", "ink_storage", "ink_env", "#[ink::contract]"]⟩,
    ⟨"cosmwasm", ["cosmwasm_std", "cosmwasm_schema", "cosmwasm_storage"]⟩,
    ⟨"anchor", ["anchor_lang", "anchor_spl", "#[program]"]⟩,
    ⟨"near", ["near_sdk", "#[near_bindgen]"]⟩,
    ⟨"solana", ["solana_program", "solana_sdk"]⟩]
  tree := .object [
    ("items", .list [.object [("type", .text "mod"), ("name", .text "contract"),
      ("items", .list [])]]),
    ("attributes", .list []), ("uses", .list [])]
  parts := [
    ("functions", fun _ => pure Rust.functions),
    ("structs", fun _ => pure Rust.structs),
    ("traits", fun _ => pure (.list [])),
    ("impl_blocks", fun _ => pure (.list [])),
    ("attributes", fun _ => pure (.list [])),
    ("dependencies", fun source => .of <$> Rust.dependencies source),
    ("unsafe_blocks", fun _ => pure (.list []))]

end ContractLint.Survey
