import ContractLint.CommandLine.Run
import ContractLint.Proofs.Audit.Run
import ContractLint.Proofs.Solidity.Answer

/-! # Exit statuses

A command line that asks for an analysis is to end with a status that tells how grave the findings are, and
with 3 only if the analysis has failed. The status is chosen from the numbers of the report, which are those of
the findings, but only after the text of the report has been taken from a result that has none. So every
analysis ends with 3, which is its due status exactly if it has failed (`status_due_iff_failed`).

A command line that asks for the check of a file is to end with 0 only if the file compiles without errors. The file
passes whenever it can be read, so that this is its due status exactly if there are no errors (`check_due_iff_clean`).
-/

namespace ContractLint.CommandLine

open Outcome Audit

variable {words : List String} {files : Files} {path : String}

/-! ## Command lines -/

/-- The command line leads to a command with settings and with words of its own: the options before the command ask for
nothing else, and the settings can be read. -/
def Leads (files : Files) (words : List String) (command : Command) (config : Config) (rest : List String) : Prop :=
  ∃ before, readWords globalFlags false {} words = some before ∧
    (before.options.find? fun option => option.1 = "version" || option.1 = "help") = none ∧
    (before.get? "config").all (exists? files) ∧ before.operands = command.name :: rest ∧
    globalConfig files before = .ok config

/-- Words that lead to a command run it. -/
theorem run_of_leads {rest : List String} {command : Command} {config : Config}
    (leads : Leads files words command config rest) (compiler : Solidity.Compiler) :
    run compiler files words = command.run config compiler files rest := by
  obtain ⟨before, read, other, configured, operands, loaded⟩ := leads
  have named : Command.ofName? command.name = some command := by cases command <;> decide
  simp only [run, read, other, configured, operands, named, loaded, Bool.not_true, Bool.false_eq_true, if_false]

/-! ## Command lines that ask for an analysis -/

/-- The command line asks for the analysis of a target that exists, with settings and options. -/
structure AsksForAnalysis (files : Files) (words : List String) (config : Config) (given : Given)
    (target : String) : Prop where
  /-- The options before the command ask for nothing else, and the settings can be read. -/
  command : ∃ before rest, readWords globalFlags false {} words = some before ∧
    (before.options.find? fun option => option.1 = "version" || option.1 = "help") = none ∧
    (before.get? "config").all (exists? files) ∧ before.operands = "analyze" :: rest ∧
    globalConfig files before = .ok config ∧ readWords Command.analyze.flags true {} rest = some given
  /-- The options of the command do not ask for help. -/
  noHelp : given.has "help" = false
  /-- The options have values that they may have, and the target exists. -/
  suits : suits .analyze files given
  operand : given.operands = [target]

namespace AsksForAnalysis

variable {files : Files} {words : List String} {config : Config} {given : Given} {target : String}
  (asked : AsksForAnalysis files words config given target)

include asked

/-- Words that ask for an analysis run it. -/
theorem run_eq (compiler : Solidity.Compiler) :
    run compiler files words = analyze config compiler files given target := by
  obtain ⟨before, rest, read, other, configured, operands, loaded, options⟩ := asked.command
  have leads : Leads files words .analyze config rest := ⟨before, read, other, configured, operands, loaded⟩
  rw [run_of_leads leads]
  simp only [Command.run, options, asked.noHelp, asked.suits, asked.operand, Bool.not_true, Bool.false_eq_true,
    if_false, List.headD_cons]

private theorem present : files.contains (Path.ofText target) := by
  have suits := asked.suits
  simp only [CommandLine.suits, asked.operand, Bool.and_eq_true, List.all_cons] at suits
  have there := suits.1.2.1
  simp only [exists?, Bool.and_eq_true] at there
  exact there.1.2

/-- The least severity is that of the option, or the lowest one without it. -/
theorem exists_severity : ∃ least, Severity.ofValue (analysisConfig config given).minSeverity = .ok least := by
  have suits := asked.suits
  simp only [CommandLine.suits, Command.choices, Bool.and_eq_true, List.all_cons] at suits
  have chosen := suits.2.2.1
  rw [analysisConfig]
  cases option : given.get? "severity" with
  | none => exact ⟨.info, rfl⟩
  | some name =>
    rw [option] at chosen
    simp only [Option.all_some, List.contains_iff_mem, List.mem_cons, List.not_mem_nil, or_false] at chosen
    obtain rfl | rfl | rfl | rfl | rfl := chosen
    · exact ⟨.critical, rfl⟩
    · exact ⟨.high, rfl⟩
    · exact ⟨.medium, rfl⟩
    · exact ⟨.low, rfl⟩
    · exact ⟨.info, rfl⟩

end AsksForAnalysis

/-! ## The default settings -/

private theorem exists_isExcluded (name : String) : ∃ b, isExcluded {} name = .ok b := by
  have patterns : Config.excludePatterns {} = .list [.text "*test*", .text "*mock*"] := rfl
  rw [isExcluded, patterns, Value.elements, pure_bind]
  refine exists_anyM fun pattern member => ?_
  obtain ⟨text, rfl⟩ : ∃ text, pattern = .text text := by
    obtain rfl | rfl : pattern = .text "*test*" ∨ pattern = .text "*mock*" := by simpa using member
    · exact ⟨_, rfl⟩
    · exact ⟨_, rfl⟩
  exact ⟨_, rfl⟩

private theorem exists_isIncluded (path : Path) : ∃ b, isIncluded {} path = .ok b := by
  have pattern : (Path.ofText "*.sol").parts.isEmpty = false := by decide
  have relative : ((Path.ofText "*.sol").root != "") = false := by decide
  have fits : ∃ b, path.fits "*.sol" = .ok b := by
    simp only [Path.fits, pattern, relative, Bool.false_eq_true, if_false]
    exact ⟨_, rfl⟩
  exact exists_anyM (List.forall_mem_cons.mpr ⟨fits, by simp⟩)

private theorem AsksForAnalysis.selects {given : Given} {target : String}
    (asked : AsksForAnalysis files words {} given target) : Selects (analysisConfig {} given) where
  severity := asked.exists_severity
  findings severity := ⟨false, rfl⟩
  files path := by
    obtain ⟨left, excluded⟩ := exists_isExcluded path.name
    obtain ⟨kept, included⟩ := exists_isIncluded path
    have excluded : isExcluded (analysisConfig {} given) path.name = .ok left := excluded
    have included : isIncluded (analysisConfig {} given) path = .ok kept := included
    rw [keepsFile, excluded, ok_bind]
    split
    · exact ⟨false, rfl⟩
    · exact ⟨kept, included⟩

/-! ## The status -/

/-- The status that findings call for: 2 if one is critical, 1 if the gravest are high. -/
def findingsStatus (findings : List Finding) : Nat :=
  if ∃ f ∈ findings, f.severity = .critical then 2
  else if ∃ f ∈ findings, f.severity = .high then 1
  else 0

/-- The status that the outcome of an analysis calls for: 3 if it has failed. -/
def dueStatus : Outcome Session.Report → Nat
  | .ok report => findingsStatus report.findings
  | .error _ => 3

/-- The status chosen from the numbers of findings is the one that the findings call for. -/
theorem statusFor_severityCounts (findings : List Finding) :
    statusFor (severityCounts findings) = findingsStatus findings := by
  have critical : (severityCounts findings).lookup Severity.critical.name =
      some (findings.countP fun f => f.severity = .critical) := rfl
  have high : (severityCounts findings).lookup Severity.high.name =
      some (findings.countP fun f => f.severity = .high) := rfl
  simp only [statusFor, findingsStatus, critical, high, Option.getD_some, List.countP_pos_iff, decide_eq_true_eq]

private theorem findingsStatus_lt (findings : List Finding) : findingsStatus findings < 3 := by
  unfold findingsStatus
  split
  · decide
  · split <;> decide

/-- The result of a run has no text of a report. -/
theorem report_missing (report : Session.Report) :
    report.toValue.field "report" = .error (.missingKey (.text "report")) := rfl

/-- Every analysis ends with status 3, for the result of a run has no text of a report. -/
theorem analyze_status (config : Config) (compiler : Solidity.Compiler) (files : Files) (given : Given)
    (target : String) : (analyze config compiler files given target).status = 3 := by
  unfold analyze
  dsimp only
  cases ((Session.new (analysisConfig config given) compiler).run files target).1 with
  | error fault => rfl
  | ok report =>
    cases emptied files given with
    | error fault => rfl
    | ok files =>
      simp only [report_missing]
      rfl

/-- A command line that asks for an analysis ends with status 3, whatever is found. This is the status that the
analysis calls for exactly if it has failed, which none does with the default settings. The numbers of a report
would give the right status, but they are asked for only after the text of the report, which no result has. -/
theorem status_due_iff_failed {files : Files} {words : List String} {config : Config} {given : Given}
    {target : String} (asked : AsksForAnalysis files words config given target) (compiler : Solidity.Compiler) :
    let outcome := ((Session.new (analysisConfig config given) compiler).run files target).1
    let ending := run compiler files words
    ending.status = 3 ∧ (ending.status = dueStatus outcome ↔ ∃ fault, outcome = .error fault) ∧
      (config = {} → ∃ report, outcome = .ok report) ∧
      ∀ report, outcome = .ok report →
        report.toValue.field "report" = .error (.missingKey (.text "report")) ∧
          statusFor report.statistics.severities = dueStatus outcome := by
  intro outcome ending
  have status : ending.status = 3 := by
    rw [show ending = _ from asked.run_eq compiler, analyze_status]
  refine ⟨status, ?_, ?_, ?_⟩
  · rw [status]
    cases outcome with
    | error fault => simp [dueStatus]
    | ok report => simpa [dueStatus] using Nat.ne_of_gt (findingsStatus_lt report.findings)
  · rintro rfl
    exact Session.exists_run asked.selects asked.present
  · intro report done
    refine ⟨report_missing report, ?_⟩
    rw [done, Session.run_severities done]
    exact statusFor_severityCounts report.findings

def garbled : Files := ⟨[(["a.sol"], .bytes [255])]⟩

theorem asks_garbled : AsksForAnalysis garbled ["analyze", "a.sol", "-s", "HIGH"] {}
    ⟨[("severity", "HIGH")], ["a.sol"]⟩ "a.sol" where
  command := ⟨⟨[], ["analyze", "a.sol", "-s", "HIGH"]⟩, _, rfl, rfl, rfl, rfl, rfl, rfl⟩
  noHelp := rfl
  suits := by decide
  operand := rfl

/-- The analysis of a file that is no text ends with a report. -/
theorem status_due_iff_failed_garbled :
    let given : Given := ⟨[("severity", "HIGH")], ["a.sol"]⟩
    (run .missing garbled ["analyze", "a.sol", "-s", "HIGH"]).status = 3 ∧
      ∃ report, ((Session.new (analysisConfig {} given) .missing).run garbled "a.sol").1 = .ok report := by
  obtain ⟨status, -, completes, -⟩ := status_due_iff_failed asks_garbled .missing
  exact ⟨status, completes rfl⟩

/-- The analysis of a file that is no text finds something critical, but does not end with the status for it. -/
theorem critical_finding_ends_with_failure :
    let given : Given := ⟨[("severity", "HIGH")], ["a.sol"]⟩
    dueStatus ((Session.new (analysisConfig {} given) .missing).run garbled "a.sol").1 = 2 ∧
      (run .missing garbled ["analyze", "a.sol", "-s", "HIGH"]).status = 3 := by
  refine ⟨by rfl, ?_⟩
  rw [asks_garbled.run_eq, analyze_status]

/-! ## Checks of files -/

/-- The command line asks for the check of something that exists. -/
def AsksForCheck (files : Files) (words : List String) (path : String) : Prop :=
  ∃ config rest given, Leads files words .validate config rest ∧
    readWords Command.validate.flags true {} rest = some given ∧ given.has "help" = false ∧
    suits .validate files given ∧ given.operands = [path]

private theorem AsksForCheck.run_eq (asked : AsksForCheck files words path) (compiler : Solidity.Compiler) :
    run compiler files words = validate compiler files path := by
  obtain ⟨config, rest, given, leads, options, noHelp, suits, operand⟩ := asked
  rw [run_of_leads leads]
  simp only [Command.run, options, noHelp, suits, operand, Bool.not_true, Bool.false_eq_true, if_false,
    List.headD_cons]

/-- Everything that exists can be checked, also if its path looks like an option. -/
theorem asksForCheck_of_exists (present : exists? files path) :
    AsksForCheck files ["validate", "--", path] path := by
  refine ⟨{}, ["--", path], ⟨[], [path]⟩, ⟨⟨[], ["validate", "--", path]⟩, rfl, rfl, rfl, rfl, rfl⟩,
    rfl, rfl, ?_, rfl⟩
  simp [suits, present, Command.operands, Command.choices, Given.get?]

/-- The status that the account of a file calls for: 1 if there are errors. -/
def accountStatus (unit : Solidity.Unit) : Nat := if unit.errors = [] then 0 else 1

private theorem validate_of_unreadable {fault : Fault}
    (failed : files.read (.ofText path) = .error fault) (compiler : Solidity.Compiler) :
    validate compiler files path = .printed 1 files ["❌ Validation error: " ++ fault.message] := by
  simp only [validate, failed]

/-- Every file that can be read passes, since there is an account of it. -/
theorem validate_of_read {source : String} (read : files.read (.ofText path) = .ok source)
    (compiler : Solidity.Compiler) :
    validate compiler files path = .printed 0 files ["Validating: " ++ path, "✅ Syntax validation passed"] := by
  simp only [validate, read]
  rfl

/-- The check of a file that cannot be read ends with status 1. Any other file passes, whatever the compiler answers.
This is what the account of the file calls for exactly if there are no errors, that is, if the compiler describes
contracts or complains without mentioning an error. -/
theorem check_due_iff_clean {files : Files} {words : List String} {path : String}
    (asked : AsksForCheck files words path) (compiler : Solidity.Compiler) :
    let ending := run compiler files words
    let prepared := compiler.prepare {}
    (∀ fault, files.read (.ofText path) = .error fault →
      ending = .printed 1 files ["❌ Validation error: " ++ fault.message]) ∧
    ∀ source, files.read (.ofText path) = .ok source →
      let unit := (prepared.compile source path).1
      ending = .printed 0 files ["Validating: " ++ path, "✅ Syntax validation passed"] ∧
      (ending.status = accountStatus unit ↔ unit.errors = []) ∧
      (unit.errors = [] ↔ ∃ answer, prepared.answer? source = some answer ∧
        (Solidity.describes answer ∨ Solidity.isMild answer)) := by
  intro ending prepared
  rw [show ending = validate compiler files path from asked.run_eq compiler]
  refine ⟨fun fault failed => validate_of_unreadable failed compiler, fun source read => ?_⟩
  intro unit
  rw [validate_of_read read]
  refine ⟨rfl, ?_, ?_⟩
  · rw [accountStatus]
    split
    next clean => exact iff_of_true rfl clean
    next errors => exact iff_of_false Nat.zero_ne_one errors
  · rw [show unit = prepared.unitOf source path from prepared.compile_unit source path]
    exact prepared.errors_eq_nil_iff source path

/-- A file with an open brace. -/
def unfinished : Files := ⟨[(["a.sol"], .text "contract C \x7b")]⟩

/-- A compiler that rejects every file. -/
def rejecting : Solidity.Compiler := .present (Solidity.answering (.error (.compiler "Error: Expected a brace")))

/-- Without a compiler there are errors about a file, and it passes. -/
theorem check_due_iff_clean_missing :
    exists? unfinished "a.sol" ∧ (run .missing unfinished ["validate", "--", "a.sol"]).status = 0 ∧
      (((Solidity.Compiler.missing).prepare {}).compile "contract C \x7b" "a.sol").1.errors ≠ [] := by
  have present : exists? unfinished "a.sol" := by decide
  obtain ⟨ending, -, clean⟩ :=
    (check_due_iff_clean (asksForCheck_of_exists present) .missing).2 "contract C \x7b" rfl
  refine ⟨present, by rw [ending]; rfl, fun none => ?_⟩
  obtain ⟨answer, asked, -⟩ := clean.mp none
  contradiction

/-- A file that the compiler rejects passes. -/
theorem rejected_file_passes :
    ((rejecting.prepare {}).compile "contract C \x7b" "a.sol").1.errors = ["Error: Expected a brace"] ∧
      (run rejecting unfinished ["validate", "a.sol"]).status = 0 :=
  ⟨rfl, rfl⟩

end ContractLint.CommandLine
