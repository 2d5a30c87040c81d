import ContractLint.Proofs.Detector.Excerpt
import ContractLint.Scan.Analyzer

/-! # Lines that built-in rules name

A built-in rule goes through the numbered lines of a file and reports an issue on some of them. So its
findings name lines that are there, and each shows the lines around its own, which alone is marked
(`ruleFindings_located`), in whatever way the lines of the file are separated.
-/

namespace ContractLint

open List

variable {content : String}

private theorem Text.not_mem_linesFrom {line cs piece : List Char} (before : '\n' ∉ line)
    (member : piece ∈ Text.linesFrom line cs) : '\n' ∉ piece := by
  fun_induction Text.linesFrom line cs with
  | case1 line empty => simp at member
  | case2 line some =>
    rw [mem_singleton] at member
    simpa [member] using before
  | case3 line rest ih =>
    rcases mem_cons.mp member with rfl | later
    · simpa using before
    · exact ih not_mem_nil later
  | case4 line c rest other boundary ih =>
    rcases mem_cons.mp member with rfl | later
    · simpa using before
    · exact ih not_mem_nil later
  | case5 line c rest other inside ih =>
    apply ih _ member
    intro newline
    rcases mem_cons.mp newline with rfl | earlier
    · exact inside rfl
    · exact before earlier

private theorem Text.not_mem_of_mem_lines {line : String} (member : line ∈ Text.lines content) :
    '\n' ∉ line.toList := by
  obtain ⟨piece, known, rfl⟩ := mem_map.mp member
  rw [String.toList_ofList]
  exact not_mem_linesFrom not_mem_nil known

namespace Excerpt

private theorem slice_numbersTo (last start stop : Nat) :
    ((numbersTo 1 last).take stop).drop start = numbersTo (start + 1) (min last stop) := by
  apply ext_getElem
  · simp only [numbersTo, length_drop, length_take, List.Ico.length]
    omega
  · intro index _ _
    simp only [numbersTo, List.Ico, getElem_drop, getElem_take, getElem_range']
    omega

/-- The lines from one position to another have consecutive numbers. -/
theorem slice_numbered (lines : List String) (start stop : Nat) :
    ((numbered lines).take stop).drop start =
      (numbersTo (start + 1) (min lines.length stop)).map fun number => (number, lineOf lines number) := by
  rw [numbered_eq, ← map_take, ← map_drop, slice_numbersTo]

end Excerpt

namespace Scan

/-! ## Snippets -/

/-- The snippet around a line that is there is the excerpt of that line. -/
theorem snippet_eq {number : Nat} (positive : 0 < number)
    (inside : number ≤ (Text.lines content).length) (context : Nat) :
    snippet content number context = Excerpt.ofLines (Text.lines content) number number context := by
  have lines : ¬((Text.lines content).isEmpty ∨ (number : Int) < 1) := by
    rintro (empty | early)
    · rw [List.isEmpty_iff.mp empty, length_nil] at inside
      omega
    · omega
  -- Both ends are those of an excerpt, counted from zero and cut off at the ends of the file.
  have start : (max 0 ((number : Int) - 1 - context)).toNat + 1 = max 1 (number - context) := by omega
  have stop : min (Text.lines content).length
      (min ((Text.lines content).length : Int) ((number : Int) - 1 + context + 1)).toNat =
        min (Text.lines content).length (number + context) := by omega
  have slice := Excerpt.slice_numbered (Text.lines content) (max 0 ((number : Int) - 1 - context)).toNat
    (min ((Text.lines content).length : Int) ((number : Int) - 1 + context + 1)).toNat
  rw [start, stop, Excerpt.numbered, ← map_take, ← map_drop] at slice
  have rows := congrArg (List.map fun shown : Nat × String =>
    Excerpt.row (decide ((number : Int) ≤ shown.1 ∧ (shown.1 : Int) ≤ number)) shown.1 shown.2) slice
  rw [map_map, map_map] at rows
  rw [snippet]
  simp only [if_neg lines, Excerpt.ofLines, Excerpt.around_eq, map_map]
  refine congrArg Text.joinLines (Eq.trans (map_congr_left fun entry _ => ?_) rows)
  have marked : decide ((entry.2 : Int) = number - 1) =
      decide ((number : Int) ≤ (entry.2 + 1 : Nat) ∧ ((entry.2 + 1 : Nat) : Int) ≤ number) := by
    rw [decide_eq_decide]
    omega
  rw [marked]
  rfl

/-! ## Findings on lines -/

def IssuesOn (source : Source) (number : Nat) (findings : List Finding) : Prop :=
  ∀ f ∈ findings, ∃ issue : Issue, f = issue.on source number

/-- The findings of a rule are issues on lines of the file. -/
def Pins (rule : Source → List Finding) : Prop :=
  ∀ source, ∀ f ∈ rule source, ∃ entry ∈ source.numbered, ∃ issue : Issue, f = issue.on source entry.1

namespace IssuesOn

variable {source : Source} {number : Nat} {these others : List Finding}

theorem nil : IssuesOn source number [] := fun _ member => absurd member not_mem_nil

theorem single (issue : Issue) : IssuesOn source number [issue.on source number] := by
  intro f member
  exact ⟨issue, mem_singleton.mp member⟩

theorem append (first : IssuesOn source number these) (second : IssuesOn source number others) :
    IssuesOn source number (these ++ others) := by
  intro f member
  rcases mem_append.mp member with here | there
  · exact first f here
  · exact second f there

theorem ite {condition : Prop} [Decidable condition] (yes : IssuesOn source number these)
    (no : IssuesOn source number others) : IssuesOn source number (if condition then these else others) := by
  split
  · exact yes
  · exact no

theorem map {α : Type} (issue : α → Issue) (xs : List α) :
    IssuesOn source number (xs.map fun x => (issue x).on source number) := by
  intro f member
  obtain ⟨x, _, rfl⟩ := mem_map.mp member
  exact ⟨issue x, rfl⟩

end IssuesOn

section Rules

variable {source : Source} {f : Finding}

/-- What is found on lines is an issue on one of them. -/
theorem exists_entry_of_onLines {issue : Issue} {test : Nat → String → Bool}
    (found : f ∈ issue.onLines source test) :
    ∃ entry ∈ source.numbered, ∃ issue : Issue, f = issue.on source entry.1 := by
  obtain ⟨entry, member, rfl⟩ := mem_map.mp found
  exact ⟨entry, mem_of_mem_filter member, issue, rfl⟩

theorem exists_entry_of_flatMap {each : Nat × String → List Finding}
    (issues : ∀ entry, IssuesOn source entry.1 (each entry)) (found : f ∈ source.numbered.flatMap each) :
    ∃ entry ∈ source.numbered, ∃ issue : Issue, f = issue.on source entry.1 := by
  obtain ⟨entry, member, found⟩ := mem_flatMap.mp found
  exact ⟨entry, member, issues entry f found⟩

end Rules

namespace Rules

private theorem Solidity.integerOverflow_pins : Pins Solidity.integerOverflow := by
  intro source f found
  unfold integerOverflow at found
  split at found
  · exact absurd found not_mem_nil
  · exact exists_entry_of_onLines (mem_of_mem_take found)

private theorem Solidity.deprecatedFunctions_pins : Pins Solidity.deprecatedFunctions := by
  intro source f found
  unfold deprecatedFunctions at found
  refine exists_entry_of_flatMap (fun entry => ?_) found
  exact .map (fun call : String × Pattern => deprecatedIssue call.1) _

private theorem Solidity.all_pin : ∀ entry ∈ Solidity.all, Pins entry.2 := by
  intro entry member
  simp only [all, mem_cons, not_mem_nil, or_false] at member
  rcases member with rfl | rfl | rfl | rfl | rfl | rfl | rfl | rfl | rfl | rfl
  case inr.inr.inl => exact integerOverflow_pins
  case inr.inr.inr.inr.inr.inr.inr.inr.inl => exact deprecatedFunctions_pins
  all_goals
    intro source f found
    dsimp only [reentrancy, accessControl, timestampDependence, uncheckedCalls, gasIssues, txOrigin,
      uninitializedStorage, visibilityIssues] at found
    exact exists_entry_of_onLines found

private theorem Rust.panicConditions_pins : Pins Rust.panicConditions := by
  intro source f found
  unfold panicConditions at found
  refine exists_entry_of_flatMap (fun entry => ?_) found
  exact .map (fun known : Pattern × String => panicIssue known.2) _

private theorem Rust.inkPatterns_pins : Pins Rust.inkPatterns := by
  intro source f found
  unfold inkPatterns at found
  split at found
  · refine exists_entry_of_flatMap (fun entry => ?_) found
    exact .append (.ite (.single _) .nil) (.ite (.single _) .nil)
  · exact absurd found not_mem_nil

private theorem Rust.all_pin : ∀ entry ∈ Rust.all, Pins entry.2 := by
  intro entry member
  simp only [all, mem_cons, not_mem_nil, or_false] at member
  rcases member with rfl | rfl | rfl | rfl | rfl | rfl | rfl
  case inl => exact panicConditions_pins
  case inr.inr.inl => exact inkPatterns_pins
  all_goals
    intro source f found
    dsimp only [integerArithmetic, unsafeCode, errorHandling, storagePatterns, crossContractCalls] at found
    exact exists_entry_of_onLines found

private theorem Go.errorHandling_pins : Pins Go.errorHandling := by
  intro source f found
  unfold errorHandling at found
  refine exists_entry_of_flatMap (fun entry => ?_) found
  exact .append (.ite (.single _) .nil) (.ite (.single _) .nil)

private theorem Go.cosmosPatterns_pins : Pins Go.cosmosPatterns := by
  intro source f found
  unfold cosmosPatterns at found
  split at found
  · refine exists_entry_of_flatMap (fun entry => ?_) found
    exact .append (.ite (.single _) .nil) (.ite (.single _) .nil)
  · exact absurd found not_mem_nil

private theorem Go.messageValidation_pins : Pins Go.messageValidation := by
  intro source f found
  unfold messageValidation at found
  refine exists_entry_of_flatMap (fun entry => ?_) found
  exact .ite (.append (.ite .nil (.single _)) (.ite .nil (.single _))) .nil

private theorem Go.all_pin : ∀ entry ∈ Go.all, Pins entry.2 := by
  intro entry member
  simp only [all, mem_cons, not_mem_nil, or_false] at member
  rcases member with rfl | rfl | rfl | rfl | rfl | rfl | rfl | rfl
  case inl => exact errorHandling_pins
  case inr.inl => exact cosmosPatterns_pins
  case inr.inr.inr.inl => exact messageValidation_pins
  all_goals
    intro source f found
    dsimp only [keeperSecurity, stateMachine, gasMetering, permissionChecks, panicConditions] at found
    exact exists_entry_of_onLines found

end Rules

private theorem Analyzer.rules_pin (analyzer : Analyzer) : ∀ entry ∈ analyzer.rules, Pins entry.2 := by
  cases analyzer with
  | solidity => exact Rules.Solidity.all_pin
  | rust => exact Rules.Rust.all_pin
  | go => exact Rules.Go.all_pin

private theorem depicts_snippet {entry : Nat × String} (member : entry ∈ (Source.ofContent content).numbered) :
    1 ≤ entry.1 ∧ entry.1 ≤ (Text.lines content).length ∧
      Excerpt.Depicts (Text.lines content) entry.1 entry.1 2 (Text.splitNewlines (snippet content entry.1 2)) := by
  obtain ⟨positive, known⟩ := Excerpt.mem_numbered.mp member
  obtain ⟨before, _⟩ := List.getElem?_eq_some_iff.mp known
  have inside : entry.1 ≤ (Text.lines content).length := by
    change entry.1 - 1 < (Text.lines content).length at before
    omega
  have same : snippet content entry.1 2 = Excerpt.ofLines (Text.lines content) entry.1 entry.1 2 :=
    snippet_eq positive inside 2
  refine ⟨positive, inside, ?_⟩
  rw [same]
  exact Excerpt.depicts_ofLines positive (Nat.le_refl _) inside (fun _ => Text.not_mem_of_mem_lines) 2

/-- A finding of a built-in rule names a line of the text, and its snippet shows the two lines before it and the two
after it, as far as there are such lines, each with its number, and marks the line alone. -/
theorem Analyzer.ruleFindings_located (analyzer : Analyzer) (content : String) {f : Finding}
    (found : f ∈ analyzer.ruleFindings content) :
    ∃ (number : Nat) (shown : String), f.line = .int number ∧ 1 ≤ number ∧
      number ≤ (Text.lines content).length ∧
      f.snippet = .text shown ∧
      Excerpt.Depicts (Text.lines content) number number 2 (Text.splitNewlines shown) := by
  obtain ⟨rule, member, found⟩ := mem_flatMap.mp found
  obtain ⟨entry, line, issue, rfl⟩ := analyzer.rules_pin rule member (Source.ofContent content) f found
  obtain ⟨positive, inside, depicted⟩ := depicts_snippet line
  exact ⟨entry.1, snippet content entry.1 2, rfl, positive, inside, rfl, depicted⟩

theorem Analyzer.ruleFindings_located_last_line :
    ∃ f ∈ Analyzer.solidity.ruleFindings "a\r\nb\x0ctx.origin",
      ∃ (number : Nat) (shown : String), f.line = .int number ∧ 1 ≤ number ∧ number ≤ 3 ∧
        f.snippet = .text shown ∧
        Excerpt.Depicts ["a", "b", "tx.origin"] number number 2 (Text.splitNewlines shown) := by
  have lines : Text.lines "a\r\nb\x0ctx.origin" = ["a", "b", "tx.origin"] := by decide +kernel
  have occurs : Rules.Solidity.originUse.occurs "tx.origin" = true := by decide +kernel
  generalize "a\r\nb\x0ctx.origin" = content at lines ⊢
  have last : (3, "tx.origin") ∈ (Source.ofContent content).numbered := by
    apply Excerpt.mem_numbered.mpr
    rw [Source.ofContent, lines]
    exact ⟨by decide, rfl⟩
  have reported : ∃ f, f ∈ Rules.Solidity.txOrigin (Source.ofContent content) := by
    unfold Rules.Solidity.txOrigin
    exact ⟨_, mem_map.mpr ⟨_, mem_filter.mpr ⟨last, occurs⟩, rfl⟩⟩
  obtain ⟨f, reported⟩ := reported
  have found : f ∈ Analyzer.solidity.ruleFindings content :=
    mem_flatMap.mpr ⟨("tx_origin", Rules.Solidity.txOrigin), by simp [rules, Rules.Solidity.all], reported⟩
  have located := Analyzer.ruleFindings_located .solidity content found
  rw [lines] at located
  exact ⟨f, found, located⟩

end Scan

end ContractLint
