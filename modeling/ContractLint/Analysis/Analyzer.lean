import ContractLint.Analysis.Pass

/-! # Analyzers that are used again

An analyzer has a visitor for each pass, and a visitor writes what it finds on sheets of its own. It
wipes them before it visits the functions of another target, and gives out copies of them. A visit
that fails leaves the sheets half filled. Sheets are known by where they lie on a desk, so that it
can be said which of them are the same.
-/

namespace ContractLint.Analysis

open Program

structure Place where
  findings : Nat
  facts : Nat

/-- The sheets in use. -/
structure Desk where
  findings : List (List Finding)
  facts : List (List (String × Value))

namespace Desk

def read (desk : Desk) (place : Place) : Report :=
  ⟨(desk.findings[place.findings]?).getD [], (desk.facts[place.facts]?).getD []⟩

/-- Writes a report on two sheets, in place of what stands there. -/
def write (desk : Desk) (place : Place) (report : Report) : Desk :=
  ⟨desk.findings.set place.findings report.findings, desk.facts.set place.facts report.facts⟩

/-- Adds a report to what stands on two sheets. -/
def note (desk : Desk) (place : Place) (report : Report) : Desk :=
  desk.write place ((desk.read place).merge report)

/-- Lays down two new sheets with a report. -/
def lay (desk : Desk) (report : Report) : Place × Desk :=
  (⟨desk.findings.length, desk.facts.length⟩,
    ⟨desk.findings ++ [report.findings], desk.facts ++ [report.facts]⟩)

end Desk

inductive Target where
  | module (m : Module)
  | function (f : Function)

/-- The functions of a target, those of contracts first. -/
def Target.functions : Target → List Function
  | module m => m.contracts.flatMap Contract.functions ++ m.functions
  | function f => [f]

/-- The report of a pass that was given out, by where it lies. -/
structure Issue where
  pass : Pass
  place : Place

namespace Pass

/-- Visits functions and notes what the pass reports about them, up to the first failure. -/
def visit (pass : Pass) (place : Place) (desk : Desk) : List Function → Option Fault × Desk
  | [] => (none, desk)
  | f :: rest =>
    match pass.onFunction f with
    | .ok report => pass.visit place (desk.note place report) rest
    | .error fault => (some fault, desk)

/-- Visits functions with wiped sheets, and gives out a copy of the sheets. -/
def issue (pass : Pass) (place : Place) (desk : Desk) (functions : List Function) : Outcome Issue × Desk :=
  match pass.visit place (desk.write place {}) functions with
  | (none, desk) =>
    let (copy, desk) := desk.lay (desk.read place)
    (.ok ⟨pass, copy⟩, desk)
  | (some fault, desk) => (.error fault, desk)

end Pass

/-- An analyzer: for each pass that it knows, where the sheets of the visitor lie. -/
structure Analyzer where
  visitors : List (Pass × Place)

namespace Analyzer

/-- An analyzer for some passes, and the desk with the empty sheets of its visitors. -/
def new (passes : List Pass) : Analyzer × Desk :=
  (⟨passes.zipIdx.map fun entry => (entry.1, ⟨entry.2, entry.2⟩)⟩,
    ⟨passes.map fun _ => [], passes.map fun _ => []⟩)

/-- The reports of some passes about a target. Passes that the analyzer does not know are left out,
and after a failure nothing is given out. -/
def analyze (analyzer : Analyzer) (desk : Desk) (target : Target) :
    List Pass → Outcome (List Issue) × Desk
  | [] => (.ok [], desk)
  | pass :: rest =>
    match analyzer.visitors.lookup pass with
    | none => analyzer.analyze desk target rest
    | some place =>
      match pass.issue place desk target.functions with
      | (.error fault, desk) => (.error fault, desk)
      | (.ok issue, desk) =>
        match analyzer.analyze desk target rest with
        | (.error fault, desk) => (.error fault, desk)
        | (.ok others, desk) => (.ok (issue :: others), desk)

end Analyzer

end ContractLint.Analysis
