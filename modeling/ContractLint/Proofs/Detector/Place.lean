import ContractLint.Detector.Registry
import ContractLint.Proofs.Outcome

/-! # Places and findings

A detector of weaknesses in syntax trees asks for a place in the source when it has found something to report,
and only then. So a detector that does not fail asks for a place exactly if it has findings.
-/

namespace ContractLint.Detector

open Outcome

variable {settings : DetectorSettings} {unit : Solidity.Unit} {source file : String} {function : Value}
  {found : List Finding}

namespace Reentrancy

private theorem suspects_of_analyzeFunction (done : analyzeFunction settings source file function = .ok found) :
    (do return !(← suspects function).isEmpty : Outcome Bool) = .ok (!found.isEmpty) := by
  obtain ⟨pairs, known, done⟩ := bind_eq_ok.mp done
  rw [known, isEmpty_of_mapM done]
  rfl

private theorem asksPlace_of_detect (done : detect settings unit = .ok found) :
    asksPlace unit = .ok (!found.isEmpty) := by
  obtain ⟨lists, trees, done⟩ := bind_eq_ok.mp done
  cases done
  refine anyM_of_mapM (fun tree found done => ?_) trees
  obtain ⟨lists, each, done⟩ := bind_eq_ok.mp done
  cases done
  exact anyM_of_mapM (fun function found => suspects_of_analyzeFunction) each

end Reentrancy

namespace AccessControl

private theorem suspect_of_analyzeFunction {guards : List String}
    (done : analyzeFunction settings guards source file function = .ok found) :
    (do return (← suspect? guards function).isSome : Outcome Bool) = .ok (!found.isEmpty) := by
  obtain ⟨suspect, known, done⟩ := bind_eq_ok.mp done
  rw [known, isEmpty_of_mapM done]
  cases suspect <;> rfl

private theorem asksPlace_of_detect (done : detect settings unit = .ok found) :
    asksPlace unit = .ok (!found.isEmpty) := by
  obtain ⟨lists, trees, done⟩ := bind_eq_ok.mp done
  cases done
  refine anyM_of_mapM (fun tree found done => ?_) trees
  obtain ⟨guards, named, done⟩ := bind_eq_ok.mp done
  obtain ⟨lists, each, done⟩ := bind_eq_ok.mp done
  cases done
  rw [named, ok_bind]
  exact anyM_of_mapM (fun function found => suspect_of_analyzeFunction) each

end AccessControl

namespace UncheckedCall

private theorem unchecked_of_analyzeFunction (done : analyzeFunction settings source file function = .ok found) :
    (do (← callsOf function).anyM fun (body, placed) => isUnchecked body placed.statement : Outcome Bool) =
      .ok (!found.isEmpty) := by
  obtain ⟨calls, known, done⟩ := bind_eq_ok.mp done
  obtain ⟨lists, each, done⟩ := bind_eq_ok.mp done
  cases done
  rw [known, ok_bind]
  refine anyM_of_mapM (fun (body, placed) found done => ?_) each
  obtain ⟨unchecked, judged, done⟩ := bind_eq_ok.mp done
  cases unchecked with
  | false =>
    cases done
    exact judged
  | true =>
    obtain ⟨finding, _, done⟩ := bind_eq_ok.mp done
    cases done
    exact judged

private theorem asksPlace_of_detect (done : detect settings unit = .ok found) :
    asksPlace unit = .ok (!found.isEmpty) := by
  obtain ⟨lists, trees, done⟩ := bind_eq_ok.mp done
  cases done
  refine anyM_of_mapM (fun tree found done => ?_) trees
  obtain ⟨lists, each, done⟩ := bind_eq_ok.mp done
  cases done
  exact anyM_of_mapM (fun function found => unchecked_of_analyzeFunction) each

end UncheckedCall

/-- A detector of weaknesses in syntax trees that does not fail asks for a place exactly if it has findings. -/
theorem asksPlace_of_detect {detector : Detector} (onTrees : detector ≠ .textual)
    (done : detector.detect settings unit = .ok found) :
    detector.asksPlace unit = !found.isEmpty := by
  cases detector with
  | textual => contradiction
  | reentrancy => simp only [asksPlace, Reentrancy.asksPlace_of_detect done]
  | accessControl => simp only [asksPlace, AccessControl.asksPlace_of_detect done]
  | uncheckedCall => simp only [asksPlace, UncheckedCall.asksPlace_of_detect done]

end ContractLint.Detector
