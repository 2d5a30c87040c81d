import ContractLint.Survey.Basic

/-! # Surveys of Go files -/

namespace ContractLint.Survey

namespace Go

def quotedIn (line : String) : List String := ((Text.splitOn line "\"").drop 1).take 1

/-- The imported paths in lines; a block of imports is open or not. -/
def importsIn (inBlock : Bool) : List String → List String
  | [] => []
  | line :: rest =>
    if Text.startsWith line "import (" then importsIn true rest
    else if inBlock then
      if line = ")" then importsIn false rest else quotedIn line ++ importsIn true rest
    else if Text.startsWith line "import " then quotedIn line ++ importsIn false rest
    else importsIn false rest

def imports (source : Value) : Outcome (List String) := importsIn false <$> linesOf source

/-- The name of the package of a source: the word after the first blank. -/
def package (source : Value) : Outcome String := do
  match (← linesOf source).find? fun line => Text.startsWith line "package " with
  | some line => return ((Text.splitOn line " ").drop 1).headD ""
  | none => return "unknown"

def functions : Value :=
  .list [.object [("name", .text "example_function"), ("parameters", .list []),
    ("return_types", .list []), ("is_exported", .bool true), ("receiver", .null),
    ("line_start", .int 1), ("line_end", .int 10)]]

def structs : Value :=
  .list [.object [("name", .text "ExampleStruct"), ("fields", .list []),
    ("is_exported", .bool true), ("line_start", .int 1), ("line_end", .int 5)]]

/-- The ways in which a program does things at the same time, with a test for their lines. -/
def concurrency : List (String × (String → Bool)) := [
  ("goroutines", fun line => Text.contains line "go " && Text.contains line "("),
  ("channels", fun line => Text.containsAny line ["make(chan", "chan "]),
  ("mutexes", fun line => Text.containsAny line ["sync.Mutex", "sync.RWMutex"]),
  ("wait_groups", fun line => Text.contains line "sync.WaitGroup"),
  ("select_statements", fun line => Text.contains line "select \x7b")]

/-- The lines of a source in which things are done at the same time, by way. -/
def concurrentLines (source : Value) : Outcome Value := do
  let lines := (← linesOf source).zipIdx 1
  return .object (concurrency.map fun (way, test) =>
    (way, .of ((lines.filter fun (line, _) => test line).map fun (line, number) =>
      "Line " ++ Number.digitsText number ++ ": " ++ line)))

end Go

def go : Language where
  name := "go"
  compiler := "go"
  kinds := [
    ⟨"cosmos_sdk", "CosmosSDKModule",
      ["github.com/cosmos/cosmos-sdk", "sdk.Msg", "sdk.Context", "abci.Application"]⟩,
    ⟨"ethereum", "EthereumGoContract",
      ["github.com/ethereum/go-ethereum", "common.Address", "big.Int", "ethclient"]⟩,
    ⟨"blockchain", "BlockchainModule",
      ["blockchain", "smart contract", "consensus", "validator"]⟩]
  genericTitle := "GenericGoContract"
  frameworks := [
    ⟨"cosmos_sdk", ["github.com/cosmos/cosmos-sdk", "sdk.Msg", "sdk.Context"]⟩,
    ⟨"ethereum", ["github.com/ethereum/go-ethereum", "ethclient", "common.Address"]⟩,
    ⟨"tendermint", ["github.com/tendermint/tendermint", "tmtypes", "abci"]⟩,
    ⟨"fabric", ["github.com/hyperledger/fabric", "chaincode", "shim"]⟩,
    ⟨"geth", ["github.com/ethereum/go-ethereum/core", "geth", "ethdb"]⟩]
  tree := .object [("package", .text "main"), ("imports", .list []), ("declarations", .list []),
    ("functions", .list []), ("types", .list [])]
  parts := [
    ("functions", fun _ => pure Go.functions),
    ("structs", fun _ => pure Go.structs),
    ("interfaces", fun _ => pure (.list [])),
    ("methods", fun _ => pure (.list [])),
    ("imports", fun source => .of <$> Go.imports source),
    ("package_name", fun source => .of <$> Go.package source),
    ("goroutines", fun _ => pure (.list [])),
    ("channels", fun _ => pure (.list []))]

end ContractLint.Survey
