import ContractLint.Solidity.Compiler

/-! # The version in force

The version that was selected last compiles the next file. What is selected when a compiler is prepared
depends on the installed versions and on whether others can be installed, and what the settings ask for
does not always count.
-/

namespace ContractLint.Solidity

variable {prepared : Prepared}

def Action.compiled? : Action → Option Unit
  | compile unit => some unit
  | _ => none

/-- The files that were compiled in the course of some actions. -/
def compiled (actions : List Action) : List Unit := actions.filterMap Action.compiled?

/-- The version selected last is in force. -/
theorem inForce_append (first second : List Action) :
    inForce (first ++ second) = (inForce second).or (inForce first) := by
  rw [inForce, List.filterMap_append, List.getLast?_append]
  rfl

/-- If each of several stretches of actions either selects nothing or the same version in the end, that version
is in force after them exactly if one of them selects it. -/
theorem inForce_flatMap {α : Type} {stretch : α → List Action} {selects : α → Bool} {version : Option Value}
    (each : ∀ a, inForce (stretch a) = if selects a then version else none) (list : List α) :
    inForce (list.flatMap stretch) = if list.any selects then version else none := by
  induction list with
  | nil => rfl
  | cons a rest ih =>
    rw [List.flatMap_cons, inForce_append, ih, each, List.any_cons]
    cases selects a <;> cases rest.any selects <;> simp

theorem compiled_append (first second : List Action) :
    compiled (first ++ second) = compiled first ++ compiled second := List.filterMap_append

theorem compiled_flatMap {α : Type} (stretch : α → List Action) (list : List α) :
    compiled (list.flatMap stretch) = list.flatMap fun a => compiled (stretch a) := List.filterMap_flatMap

theorem compiled_compile (unit : Unit) (rest : List Action) :
    compiled (.compile unit :: rest) = unit :: compiled rest := rfl

/-- A file that is compiled after actions that compile nothing is compiled after all of them. -/
theorem split_after_idle {idle rest before after : List Action} {unit : Unit} (nothing : compiled idle = [])
    (split : idle ++ rest = before ++ .compile unit :: after) :
    ∃ between, before = idle ++ between ∧ rest = between ++ .compile unit :: after := by
  obtain found | ⟨part, whole, tail⟩ := List.append_eq_append_iff.mp split
  · exact found
  · cases part with
    | nil => exact ⟨[], by simpa using whole.symm, tail.symm⟩
    | cons action part =>
      cases tail
      rw [whole, compiled_append, compiled_compile] at nothing
      simp at nothing

namespace Toolchain

/-- The version that is selected when the compiler is prepared. If no version is installed at all, it is the
latest one, whatever the settings ask for. -/
def selection (tools : Toolchain) (settings : CompilerSettings) : Option Value :=
  match tools.installed with
  | .ok installed =>
    if settings.version.truthy then
      if settings.version.isOneOf installed || tools.canInstall then some settings.version else none
    else match newest? installed with
      | some version => some (.text version)
      | none => if tools.canInstall then some (.text "latest") else none
  | .error .nothingInstalled => if tools.canInstall then some (.text "latest") else none
  | .error .other => none

private theorem installAnd_inForce (tools : Toolchain) (version done : Value) :
    inForce (tools.installAnd version done).2 = if tools.canInstall then some version else none := by
  rw [installAnd]
  split <;> rfl

private theorem installAnd_idle (tools : Toolchain) (version done : Value) :
    compiled (tools.installAnd version done).2 = [] := by
  rw [installAnd]
  split <;> rfl

/-- To prepare the compiler puts the selected version in force. -/
theorem prepare_inForce (tools : Toolchain) (settings : CompilerSettings) :
    inForce (tools.prepare settings).2 = tools.selection settings := by
  unfold prepare selection
  cases tools.installed with
  | error failure =>
    cases failure with
    | nothingInstalled =>
      simp only [bootstrap]
      split <;> rfl
    | other => rfl
  | ok installed =>
    simp only [choose]
    by_cases wanted : settings.version.truthy
    · simp only [if_pos wanted]
      by_cases present : settings.version.isOneOf installed
      · simp only [present, if_true, Bool.true_or]
        rfl
      · simp only [present, installAnd_inForce, Bool.false_eq_true, if_false, Bool.false_or]
    · simp only [if_neg wanted]
      cases newest? installed with
      | some version => rfl
      | none => exact tools.installAnd_inForce _ _

/-- To prepare the compiler compiles nothing. -/
theorem prepare_idle (tools : Toolchain) (settings : CompilerSettings) :
    compiled (tools.prepare settings).2 = [] := by
  unfold prepare
  cases tools.installed with
  | error failure =>
    cases failure with
    | nothingInstalled =>
      simp only [bootstrap]
      split <;> rfl
    | other => rfl
  | ok installed =>
    simp only [choose]
    split
    next =>
      split
      next => rfl
      next => exact tools.installAnd_idle _ _
    next =>
      cases newest? installed with
      | some version => rfl
      | none => exact tools.installAnd_idle _ _

end Toolchain

theorem Prepared.unitOf_source (prepared : Prepared) (source file : String) :
    (prepared.unitOf source file).source = source := by
  unfold unitOf
  split <;> rfl

theorem Prepared.unitOf_file (prepared : Prepared) (source file : String) :
    (prepared.unitOf source file).file = file := by
  unfold unitOf
  split <;> rfl

theorem Prepared.compile_present {tools : Toolchain}
    (present : prepared.compiler = .present tools) (source file : String) : let unit := prepared.unitOf source file
    prepared.compile source file = (unit, { prepared with actions := prepared.actions ++ [.compile unit] }) := by
  unfold compile
  split
  next missing => exact nomatch missing.symm.trans present
  next => rfl

/-- Compiling gives the unit of the source. -/
theorem Prepared.compile_unit (prepared : Prepared) (source file : String) :
    (prepared.compile source file).1 = prepared.unitOf source file := by
  unfold compile
  split <;> rfl

/-- Compiling changes only what was done with the compiler. -/
theorem Prepared.compile_keeps (prepared : Prepared) (source file : String) :
    (prepared.compile source file).2 = { prepared with actions := (prepared.compile source file).2.actions } := by
  unfold compile
  split <;> rfl

theorem Compiler.prepare_compiler (compiler : Compiler) (settings : CompilerSettings) :
    (compiler.prepare settings).compiler = compiler := by
  cases compiler <;> rfl

/-- Whichever version is in force, the compiler gives the same answer to a source file. -/
def Compiler.Uniform : Compiler → Prop
  | .missing => True
  | .present tools => ∀ version other source, tools.answer version source = tools.answer other source

/-- Where all versions answer alike, what was done before does not matter for a source file. -/
theorem Prepared.unitOf_uniform (uniform : prepared.compiler.Uniform) (actions : List Action)
    (source file : String) : { prepared with actions }.unitOf source file = prepared.unitOf source file := by
  obtain ⟨compiler, settings, active, before⟩ := prepared
  cases compiler with
  | missing => rfl
  | present tools =>
    have same := uniform (inForce actions) (inForce before) source
    simp only [unitOf, same]
    rfl

end ContractLint.Solidity
