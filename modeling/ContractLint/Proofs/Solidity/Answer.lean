import ContractLint.Proofs.Solidity.Tree
import ContractLint.Proofs.Solidity.Version

/-! # What is said about a file that was not compiled

An answer of the compiler describes contracts if it is an object of objects. Any other answer, be it a failure or a
value of another shape, leaves exactly one message about the file. The message is an error, unless the compiler
complains without the word that tells errors from warnings: then the file is without errors as if it had been compiled
(`clean_iff_described_or_mild`).
-/

namespace ContractLint.Solidity

open Outcome

variable {data : Value}

/-- The answer describes contracts: it is an object whose fields are objects. -/
def describes : Outcome Value → Bool
  | .ok (.object entries) => entries.all fun entry => entry.2.isObject
  | _ => false

/-- The answer is a complaint of the compiler that does not mention an error. -/
def isMild : Outcome Value → Bool
  | .error (.compiler text) => !Text.contains text "Error:"
  | _ => false

/-- The answer to a source file, if there is a compiler. -/
def Prepared.answer? (prepared : Prepared) (source : String) : Option (Outcome Value) :=
  match prepared.compiler with
  | .missing => none
  | .present tools => some (tools.answer (inForce prepared.actions) source)

/-! ## Contracts -/

section Contracts

variable (all : List (String × Value)) (source : String)

private theorem exists_treeOf (object : data.isObject) : ∃ tree, treeOf (.object all) data = .ok tree := by
  cases data with
  | object fields =>
    rw [treeOf, has_eq, ok_bind, Value.field]
    cases fields.lookup "ast" with
    | none => exact ⟨_, rfl⟩
    | some tree => exact ⟨tree, rfl⟩
  | _ => contradiction

theorem exists_contractOf (object : data.isObject) (key : String) :
    ∃ contract, contractOf (.object all) source key data = .ok contract := by
  obtain ⟨tree, known⟩ := exists_treeOf all object
  rw [contractOf, known, ok_bind, get_of_isObject object, get_of_isObject object, get_of_isObject object]
  exact ⟨_, rfl⟩

/-- Anything else is no contract, and the compiler has not complained about it. -/
theorem contractOf_fails (other : data.isObject = false) (key : String) :
    ∃ fault, contractOf (.object all) source key data = .error fault ∧ ∀ text, fault ≠ .compiler text := by
  rw [contractOf, treeOf]
  cases data with
  | object fields => contradiction
  | null | bool | int | real => exact ⟨_, rfl, by simp⟩
  | list items =>
    rw [Value.has, pure_bind]
    cases items.any fun item => item.isText "ast" <;> exact ⟨_, rfl, by simp⟩
  | text s =>
    rw [Value.has, pure_bind]
    cases Text.contains s "ast" <;> exact ⟨_, rfl, by simp⟩

private theorem isObject_iff_contractOf {key : String} :
    data.isObject ↔ ∃ contract, contractOf (.object all) source key data = .ok contract := by
  cases object : data.isObject with
  | true => simpa using exists_contractOf all source object key
  | false =>
    obtain ⟨fault, failed, -⟩ := contractOf_fails all source object key
    simp [failed]

/-- The contracts are those of the objects before the first entry that is none, which is what goes wrong. -/
theorem contractsOf_spec (entries : List (String × Value)) : let read := contractsOf (.object all) source entries
    ((entries.takeWhile fun entry => entry.2.isObject).mapM fun entry =>
      contractOf (.object all) source entry.1 entry.2) = .ok read.1 ∧
    if entries.all fun entry => entry.2.isObject then read.2 = none
    else ∃ fault, read.2 = some fault ∧ ∀ text, fault ≠ .compiler text := by
  induction entries with
  | nil => exact ⟨rfl, rfl⟩
  | cons entry rest ih =>
    obtain ⟨key, data⟩ := entry
    obtain ⟨before, after⟩ := ih
    cases object : data.isObject with
    | true =>
      obtain ⟨contract, done⟩ := exists_contractOf all source object key
      simp only [contractsOf, done, List.takeWhile_cons, object, if_true, List.mapM_cons, ok_bind, before,
        List.all_cons, Bool.true_and]
      exact ⟨rfl, after⟩
    | false =>
      obtain ⟨fault, failed, other⟩ := contractOf_fails all source object key
      simp only [contractsOf, failed, List.takeWhile_cons, object, Bool.false_eq_true, if_false, List.all_cons,
        Bool.false_and]
      exact ⟨rfl, fault, rfl, other⟩

end Contracts

/-! ## Messages -/

private theorem complaints_of_other {fault : Fault} (other : ∀ text, fault ≠ .compiler text) :
    complaints (some fault) = (["Parser error: " ++ fault.message], []) := by
  cases fault with
  | compiler text => exact absurd rfl (other text)
  | _ => rfl

/-- An answer that describes contracts leaves no message. Any other answer leaves one, which is no error if the
compiler has complained mildly. -/
theorem complaints_readAnswer (answer : Outcome Value) (source : String) :
    let messages := complaints (readAnswer answer source).2
    (messages.1 = [] ↔ describes answer ∨ isMild answer) ∧
      (messages.1 ++ messages.2).length = if describes answer then 0 else 1 := by
  cases answer with
  | error fault =>
    cases fault with
    | compiler text =>
      simp only [readAnswer, complaints, describes, isMild]
      cases Text.contains text "Error:" <;> simp
    | _ => simp [readAnswer, complaints, describes, isMild]
  | ok v =>
    cases v with
    | object entries =>
      have read := (contractsOf_spec entries source entries).2
      simp only [readAnswer, Value.entries, describes, isMild]
      split at read
      next all => simp [pure, Except.pure, read, complaints, all]
      next others =>
        obtain ⟨fault, failed, other⟩ := read
        simp [pure, Except.pure, failed, complaints_of_other other, others]
    | _ => simp [readAnswer, Value.entries, complaints, describes, isMild, throw, throwThe, MonadExceptOf.throw]

/-! ## Files -/

section Files

variable (prepared : Prepared) (source file : String)

/-- There are no errors about a file exactly if the compiler describes contracts or complains mildly. -/
theorem Prepared.errors_eq_nil_iff : (prepared.unitOf source file).errors = [] ↔
    ∃ answer, prepared.answer? source = some answer ∧ (describes answer ∨ isMild answer) := by
  obtain ⟨compiler, settings, active, actions⟩ := prepared
  cases compiler with
  | missing => simp [unitOf, answer?]
  | present tools =>
    simp only [answer?, Option.some.injEq, exists_eq_left']
    exact (complaints_readAnswer (tools.answer (inForce actions) source) source).1

private theorem Prepared.length_messages {answer : Outcome Value} (asked : prepared.answer? source = some answer) :
    ((prepared.unitOf source file).errors ++ (prepared.unitOf source file).warnings).length =
      if describes answer then 0 else 1 := by
  obtain ⟨compiler, settings, active, actions⟩ := prepared
  cases compiler with
  | missing => simp [answer?] at asked
  | present tools =>
    obtain rfl := Option.some.inj asked
    exact (complaints_readAnswer (tools.answer (inForce actions) source) source).2

private theorem Prepared.contracts_of_object {entries : List (String × Value)}
    (asked : prepared.answer? source = some (.ok (.object entries))) :
    ((entries.takeWhile fun entry => entry.2.isObject).mapM fun entry =>
      contractOf (.object entries) source entry.1 entry.2) = .ok (prepared.unitOf source file).contracts := by
  obtain ⟨compiler, settings, active, actions⟩ := prepared
  cases compiler with
  | missing => simp [answer?] at asked
  | present tools =>
    have given : tools.answer (inForce actions) source = .ok (.object entries) := Option.some.inj asked
    simp only [unitOf, given]
    exact (contractsOf_spec entries source entries).1

/-- Whatever the compiler answers, there is an account of the file. It has no errors exactly if the answer describes
contracts or is a complaint that does not mention an error, and it has one message unless the answer describes
contracts. Its contracts are the entries of the answer before the first one that cannot be read, which is the first that
is no object. -/
theorem clean_iff_described_or_mild :
    let unit : Solidity.Unit := (prepared.compile source file).1
    (unit.file = file ∧ unit.source = source) ∧
    (unit.errors = [] ↔ ∃ answer, prepared.answer? source = some answer ∧
      (describes answer ∨ isMild answer)) ∧
    (∀ answer, prepared.answer? source = some answer →
      (unit.errors ++ unit.warnings).length = if describes answer then 0 else 1) ∧
    ∀ entries, prepared.answer? source = some (.ok (.object entries)) →
      (∀ entry ∈ entries, entry.2.isObject ↔
        ∃ contract, contractOf (.object entries) source entry.1 entry.2 = .ok contract) ∧
      ((entries.takeWhile fun entry => entry.2.isObject).mapM fun entry =>
        contractOf (.object entries) source entry.1 entry.2) = .ok unit.contracts := by
  intro unit
  rw [show unit = prepared.unitOf source file from prepared.compile_unit source file]
  refine ⟨⟨prepared.unitOf_file source file, prepared.unitOf_source source file⟩,
    prepared.errors_eq_nil_iff source file, fun answer => prepared.length_messages source file, ?_⟩
  intro entries asked
  exact ⟨fun entry _ => isObject_iff_contractOf entries source, prepared.contracts_of_object source file asked⟩

end Files

/-- A compiler that gives the same answer to every file. -/
def answering (answer : Outcome Value) : Toolchain where
  installed := .ok ["0.8.0"]
  canInstall := true
  reported := none
  answer _ _ := answer

/-- An answer of which only the first entry can be read. -/
theorem clean_iff_described_or_mild_partly :
    let answer : Outcome Value := .ok (.object [("a.sol:A", .object []), ("a.sol:B", .null)])
    let unit := (((Compiler.present (answering answer)).prepare {}).compile "" "a.sol").1
    describes answer = false ∧ unit.errors ≠ [] ∧ unit.contracts.map Contract.name = ["A"] := by
  intro answer unit
  obtain ⟨-, clean, -, -⟩ :=
    clean_iff_described_or_mild ((Compiler.present (answering answer)).prepare {}) "" "a.sol"
  refine ⟨rfl, fun none => ?_, rfl⟩
  obtain ⟨given, asked, described | mild⟩ := clean.mp none
  · obtain rfl := Option.some.inj asked
    contradiction
  · obtain rfl := Option.some.inj asked
    contradiction

/-- A file that could not be compiled, about which there is only a warning. -/
theorem failed_file_without_errors :
    let answer : Outcome Value := .error (.compiler "Internal compiler error during compilation")
    let unit := (((Compiler.present (answering answer)).prepare {}).compile "contract A" "a.sol").1
    describes answer = false ∧ unit.errors = [] ∧ unit.contracts.length = 0 ∧
      unit.warnings = ["Internal compiler error during compilation"] :=
  ⟨rfl, rfl, rfl, rfl⟩

end ContractLint.Solidity
