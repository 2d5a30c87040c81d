import ContractLint.Audit.Statistics
import ContractLint.Proofs.Report.Lossless

/-! # Counts of findings

An audit looks up how often each text occurs (`Audit.tally`), and a report counts up one entry at a time (`counts`).
They come to the same tables (`counts_eq_tally`), so the numbers of an audit are those of the summary of a report. Each
table divides the findings among different names, and no table depends on their order (`statistics_eq_numbers`).
-/

namespace ContractLint.Report

open List Outcome

variable {findings : List Finding} {names : List String} {entries : List Entry}

/-! ## Tables -/

/-- Counting up one entry changes its number alone, or adds it with the number one. -/
theorem bump_map (distinct : names.Nodup) {number : String → Nat} {name : String}
    (new : name ∉ names → number name = 0) :
    bump (names.map fun other => (other, number other)) name =
      (if name ∈ names then names else names ++ [name]).map fun other =>
        (other, number other + if other = name then 1 else 0) := by
  induction names with
  | nil => simp [bump, new]
  | cons first rest ih =>
    obtain ⟨once, distinct⟩ := nodup_cons.mp distinct
    rw [map_cons, bump]
    split
    next same =>
      subst same
      have others : ∀ other ∈ rest, other ≠ first := fun other member same => once (same ▸ member)
      simpa using fun other member => others other member
    next differs =>
      rw [ih distinct (by simpa [Ne.symm differs] using new)]
      by_cases known : name ∈ rest <;> simp [known, differs, Ne.symm differs]

theorem counts_concat (names : List String) (name : String) : counts (names ++ [name]) = bump (counts names) name :=
  foldl_concat bump [] name names

/-- The counts are a tally of the names. -/
theorem counts_eq_tally (names : List String) : counts names = Audit.tally names := by
  induction names using List.reverseRecOn with
  | nil => rfl
  | append_singleton names name ih =>
    rw [counts_concat, ih, Audit.tally, bump_map (nodup_eraseDups names), Audit.tally, eraseDups_append_singleton]
    · simp [count_append, count_cons, @eq_comm String name]
    · simp [mem_eraseDups, count_eq_zero]

private theorem sum_bump (table : List (String × Nat)) (name : String) :
    ((bump table name).map Prod.snd).sum = (table.map Prod.snd).sum + 1 := by
  fun_induction bump table name with
  | case1 => rfl
  | case2 =>
    simp only [map_cons, sum_cons]
    omega
  | case3 other count rest differs ih =>
    simp only [map_cons, sum_cons, ih]
    omega

/-- A table divides a number among different names. -/
def Shares (table : List (String × Nat)) (number : Nat) : Prop :=
  (table.map Prod.fst).Nodup ∧ (table.map Prod.snd).sum = number

private theorem shares_counts {α : Type} (name : α → String) (items : List α) :
    Shares (counts (items.map name)) items.length := by
  constructor
  · rw [counts_eq_tally, Audit.tally, map_map]
    exact (map_id _).symm ▸ nodup_eraseDups (items.map name)
  · induction items using List.reverseRecOn with
    | nil => rfl
    | append_singleton items item ih =>
      rw [map_append, map_singleton, counts_concat, sum_bump, ih, length_append, length_singleton]

private theorem counts_perm {others : List String} (perm : names.Perm others) :
    (counts names).Perm (counts others) := by
  have same : names.eraseDups.Perm others.eraseDups :=
    (perm_ext_iff_of_nodup (nodup_eraseDups names) (nodup_eraseDups others)).mpr fun name => by
      rw [mem_eraseDups, mem_eraseDups, perm.mem_iff]
  rw [counts_eq_tally, counts_eq_tally, Audit.tally, funext fun name => congrArg (Prod.mk name) (perm.count_eq name)]
  exact same.map _

private theorem sum_severities (entries : List Entry) :
    ((summary entries).severities.map Prod.snd).sum = entries.length := by
  induction entries with
  | nil => rfl
  | cons e rest ih =>
    simp only [summary, Severity.all, map_cons, map_nil, sum_cons, sum_nil,
      filter_cons, length_cons] at ih ⊢
    cases e.finding.severity <;> simp <;> omega

/-! ## Summaries -/

/-- The summary of findings, which must have places. -/
def summarized (findings : List Finding) : Outcome Summary := summary <$> findings.mapM entryOf

namespace Summary

def named (s : Summary) : List (String × Nat) := s.severities.map fun entry => (entry.1.name, entry.2)

/-- What an audit says of the findings in a summary. -/
def numbers (version : Value) (s : Summary) : Audit.Statistics where
  total := s.total
  severities := s.named
  kinds := s.kinds
  detectors := s.detectors
  files := s.files.length
  version

/-- Each table of a summary accounts for a number of findings. -/
structure Accounts (s : Summary) (number : Nat) : Prop where
  total : s.total = number
  severities : Shares s.named number
  kinds : Shares s.kinds number
  detectors : Shares s.detectors number
  files : Shares s.files number

/-- Two summaries have the same tables, apart from the order of names. -/
structure Same (s other : Summary) : Prop where
  severities : s.severities = other.severities
  kinds : s.kinds.Perm other.kinds
  detectors : s.detectors.Perm other.detectors
  files : s.files.Perm other.files

end Summary

private theorem summary_accounts (entries : List Entry) : (summary entries).Accounts entries.length where
  total := rfl
  severities := by
    refine ⟨?_, ?_⟩
    · change (Severity.all.map Severity.name).Nodup
      decide
    · rw [Summary.named, map_map]
      exact sum_severities entries
  kinds := shares_counts _ entries
  detectors := shares_counts _ entries
  files := shares_counts _ entries

private theorem summary_same {others : List Entry} (perm : entries.Perm others) :
    (summary entries).Same (summary others) where
  severities := map_congr_left fun severity _ => congrArg (Prod.mk severity) (perm.filter _).length_eq
  kinds := counts_perm (perm.map _)
  detectors := counts_perm (perm.map _)
  files := counts_perm (perm.map _)

/-! ## Findings with places -/

/-- Entries are made exactly of findings with a place. -/
theorem mapM_entryOf_iff :
    findings.mapM entryOf = .ok entries ↔
      (∀ f ∈ findings, ∃ place, f.location = some place) ∧ findings.map entryAt = entries := by
  have whole (located : ∀ f ∈ findings, ∃ place, f.location = some place) :
      findings.mapM entryOf = .ok (findings.map entryAt) := mapM_eq_ok fun f member => entryOf_eq (located f member)
  constructor
  · intro done
    have located : ∀ f ∈ findings, ∃ place, f.location = some place := by
      intro f member
      obtain ⟨e, made⟩ := exists_mapM_iff.mp ⟨entries, done⟩ f member
      rw [entryOf] at made
      cases known : f.location with
      | none => simp [known] at made
      | some place => exact ⟨place, rfl⟩
    exact ⟨located, Except.ok.inj ((whole located).symm.trans done)⟩
  · rintro ⟨located, rfl⟩
    exact whole located

private theorem summarized_eq_ok_iff {s : Summary} :
    summarized findings = .ok s ↔
      (∀ f ∈ findings, ∃ place, f.location = some place) ∧ summary (findings.map entryAt) = s := by
  simp only [summarized, map_eq_ok, mapM_entryOf_iff]
  constructor
  · rintro ⟨entries, ⟨located, rfl⟩, same⟩
    exact ⟨located, same⟩
  · exact fun ⟨located, same⟩ => ⟨_, ⟨located, rfl⟩, same⟩

private theorem filesOf_eq (findings : List Finding) :
    Audit.filesOf findings = List.map (fun e => e.place.file) <$> findings.mapM entryOf := by
  refine mapM_changed (fun f => ?_) findings
  rw [entryOf]
  cases f.location <;> rfl

private theorem severityCounts_eq (findings : List Finding) :
    Audit.severityCounts findings = (summary (findings.map entryAt)).named := by
  rw [Summary.named, summary, map_map]
  refine map_congr_left fun severity _ => congrArg (Prod.mk severity.name) ?_
  change findings.countP _ = ((findings.map entryAt).filter _).length
  rw [filter_map, length_map]
  exact countP_eq_length_filter

private theorem statistics_eq (version : Value) (findings : List Finding) :
    Audit.statistics version findings = Summary.numbers version <$> summarized findings := by
  rw [Audit.statistics, filesOf_eq, summarized]
  cases done : findings.mapM entryOf with
  | error fault => rfl
  | ok entries =>
    obtain ⟨-, rfl⟩ := mapM_entryOf_iff.mp done
    simp [Summary.numbers, severityCounts_eq, Audit.kindCounts, Audit.detectorCounts, summary, counts_eq_tally,
      Audit.tally, entryAt, Function.comp_def]

/-- The numbers of an audit are those of the summary of a report, and both are there exactly if all findings have
places. Each table of a summary divides the findings among different names, and findings in any other order have the
same tables. -/
theorem statistics_eq_numbers (version : Value) (findings : List Finding) :
    Audit.statistics version findings = Summary.numbers version <$> summarized findings ∧
      ((∃ s, summarized findings = .ok s) ↔ ∀ f ∈ findings, ∃ place, f.location = some place) ∧
      ∀ s, summarized findings = .ok s → s.Accounts findings.length ∧
        ∀ other, findings.Perm other → ∃ t, summarized other = .ok t ∧ s.Same t := by
  refine ⟨statistics_eq version findings, ?_, ?_⟩
  · simp [summarized_eq_ok_iff]
  · intro s done
    obtain ⟨located, rfl⟩ := summarized_eq_ok_iff.mp done
    refine ⟨by simpa using summary_accounts (findings.map entryAt), fun other perm => ?_⟩
    refine ⟨_, summarized_eq_ok_iff.mpr ⟨fun f member => ?_, rfl⟩, summary_same (perm.map entryAt)⟩
    exact located f (perm.mem_iff.mpr member)

/-- Findings of two kinds in two files. -/
def mixed : List Finding := [
  { (default : Finding) with kind := "a", location := some (.line "x.sol" 1) },
  { (default : Finding) with kind := "b", location := some (.line "y.sol" 2) },
  { (default : Finding) with kind := "a", location := some (.line "x.sol" 3) }]

theorem statistics_eq_numbers_mixed :
    ∃ s t, summarized mixed = .ok s ∧ s.kinds = [("a", 2), ("b", 1)] ∧ s.Accounts 3 ∧
      summarized mixed.reverse = .ok t ∧ s.Same t := by
  obtain ⟨-, -, tables⟩ := statistics_eq_numbers .null mixed
  obtain ⟨accounts, kept⟩ := tables _ rfl
  obtain ⟨t, done, same⟩ := kept mixed.reverse mixed.reverse_perm.symm
  exact ⟨_, t, rfl, rfl, accounts, done, same⟩

end ContractLint.Report
