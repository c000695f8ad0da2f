import Checkup.Proofs.Remainder
import Checkup.Report.Share

/-!
# What is counted

The result of a scan, its score, the gate, the link and the groups of a report each have a way of
their own to tell errors from warnings: by one label, by the other, by what is left, or by the rank
of a label. They agree on well-formed findings, and whatever the tools print, a scan reports no
others.
-/

namespace Checkup

variable {diagnostics : List Diagnostic}

/-! ### Two kinds of findings -/

/-- The severity is one of the two that are counted. -/
abbrev Diagnostic.IsCounted (d : Diagnostic) : Prop :=
  d.severity = .error ∨ d.severity = .warning

theorem Diagnostic.IsCounted.isWarning {d : Diagnostic} (hd : d.IsCounted) :
    d.isWarning = !d.isError := by
  rcases hd with hseverity | hseverity <;>
    simp [Diagnostic.isWarning, Diagnostic.isError, hseverity]

theorem Diagnostic.IsWellFormed.isWarning {d : Diagnostic} (hd : d.IsWellFormed) :
    d.isWarning = !d.isError :=
  Diagnostic.IsCounted.isWarning hd.severity

theorem countP_isWarning (hformed : ∀ d ∈ diagnostics, d.IsWellFormed) :
    diagnostics.countP (·.isWarning) = diagnostics.countP (!·.isError) := by
  apply List.countP_congr
  intro d hd
  rw [(hformed d hd).isWarning]

theorem countP_isError_add_countP_isWarning (hformed : ∀ d ∈ diagnostics, d.IsWellFormed) :
    diagnostics.countP (·.isError) + diagnostics.countP (·.isWarning) = diagnostics.length := by
  rw [countP_isWarning hformed]
  simpa using (diagnostics.length_eq_countP_add_countP (·.isError)).symm

/-! ### The score -/

namespace Score

/-- The score of a number of errors and a number of warnings. -/
def ofCounts (errors warnings : Nat) : Score :=
  let score := roundQuarters (4 * perfect - (6 * errors + 3 * warnings))
  ⟨score, labelOf score⟩

theorem total_penalty (diagnostics : List Diagnostic) : total penalty diagnostics =
    6 * diagnostics.countP (·.isError) + 3 * diagnostics.countP (!·.isError) := by
  induction diagnostics with
  | nil => rfl
  | cons d rest ih =>
    rw [total_cons, ih, List.countP_cons, List.countP_cons, penalty]
    cases d.isError <;> simp <;> omega

theorem ofDiagnostics_eq_ofCounts (hformed : ∀ d ∈ diagnostics, d.IsWellFormed) :
    ofDiagnostics diagnostics =
      ofCounts (diagnostics.countP (·.isError)) (diagnostics.countP (·.isWarning)) := by
  rw [countP_isWarning hformed]
  unfold ofDiagnostics ofCounts quarters
  rw [total_penalty]

end Score

/-! ### The gate -/

theorem FailOn.fails_error_iff :
    error.fails diagnostics = true ↔ 0 < diagnostics.countP (·.isError) := by
  rw [List.countP_pos_iff]
  exact List.any_eq_true

theorem FailOn.fails_warning_iff : warning.fails diagnostics = true ↔ 0 < diagnostics.length := by
  cases diagnostics with
  | nil => exact ⟨nofun, nofun⟩
  | cons d rest => simp [fails]

/-! ### Groups -/

namespace Report.Group

/-- A finding joins a group or begins one, and only then is it the first of a group. -/
theorem first_of_mem_add {d : Diagnostic} {groups : List Group} {group : Group}
    (hgroup : group ∈ add d groups) : group.first = d ∨ ∃ other ∈ groups, other.first = group.first := by
  induction groups with
  | nil =>
    rw [List.mem_singleton.1 hgroup]
    exact .inl rfl
  | cons head rest ih =>
    unfold add at hgroup
    split at hgroup
    · rcases List.mem_cons.1 hgroup with rfl | hgroup
      · exact .inr ⟨head, List.mem_cons_self, rfl⟩
      · exact .inr ⟨group, List.mem_cons_of_mem _ hgroup, rfl⟩
    · rcases List.mem_cons.1 hgroup with rfl | hgroup
      · exact .inr ⟨group, List.mem_cons_self, rfl⟩
      · rcases ih hgroup with hd | ⟨other, hother, hfirst⟩
        · exact .inl hd
        · exact .inr ⟨other, List.mem_cons_of_mem _ hother, hfirst⟩

theorem first_mem_of_mem_collect {group : Group} (hgroup : group ∈ collect diagnostics) :
    group.first ∈ diagnostics := by
  -- with groups to begin with, the first of a group is new or was the first of one of them
  have hfold : ∀ (found : List Diagnostic) (groups : List Group),
      group ∈ found.foldl (fun groups d => add d groups) groups →
        group.first ∈ found ∨ ∃ other ∈ groups, other.first = group.first := by
    intro found
    induction found with
    | nil => exact fun groups hgroup => .inr ⟨group, hgroup, rfl⟩
    | cons d rest ih =>
      intro groups hgroup
      rcases ih (add d groups) hgroup with hrest | ⟨other, hother, hfirst⟩
      · exact .inl (List.mem_cons_of_mem _ hrest)
      · rcases first_of_mem_add hother with hd | ⟨old, hold, heq⟩
        · exact .inl (by rw [← hfirst, hd]; exact List.mem_cons_self)
        · exact .inr ⟨old, hold, heq.trans hfirst⟩
  rcases hfold diagnostics [] hgroup with hmem | ⟨other, hother, -⟩
  · exact hmem
  · cases hother

theorem exists_ranks {groups : List Group} (hcounted : ∀ group ∈ groups, group.first.IsCounted) :
    ∃ ranks, groups.mapM (fun group => rank group.first.severity) = .ok ranks := by
  induction groups with
  | nil => exact ⟨[], rfl⟩
  | cons group rest ih =>
    obtain ⟨hgroup, hrest⟩ := List.forall_mem_cons.1 hcounted
    obtain ⟨ranks, hranks⟩ := ih hrest
    obtain ⟨n, hn⟩ : ∃ n, rank group.first.severity = .ok n := by
      rcases hgroup with hseverity | hseverity <;> rw [hseverity] <;> exact ⟨_, rfl⟩
    refine ⟨n :: ranks, ?_⟩
    rw [List.mapM_cons, hn, hranks]
    rfl

/-- Findings that are counted can be put in groups by their rules, and every group has its place:
with those that begin with an error, or after them. -/
theorem ofDiagnostics_eq_ok (hcounted : ∀ d ∈ diagnostics, d.IsCounted) :
    ofDiagnostics diagnostics = .ok ((collect diagnostics).filter (·.first.isError) ++
      (collect diagnostics).filter (!·.first.isError)) := by
  have hfirst : ∀ group ∈ collect diagnostics, group.first.IsCounted :=
    fun group hgroup => hcounted _ (first_mem_of_mem_collect hgroup)
  obtain ⟨ranks, hranks⟩ := exists_ranks hfirst
  have hothers : ofSeverity .warning (collect diagnostics) =
      (collect diagnostics).filter (!·.first.isError) :=
    List.filter_congr fun group hgroup => (hfirst group hgroup).isWarning
  unfold ofDiagnostics
  dsimp only
  rw [hranks, hothers]
  rfl

theorem exists_ofDiagnostics (hformed : ∀ d ∈ diagnostics, d.IsWellFormed) :
    ∃ groups, ofDiagnostics diagnostics = .ok groups ∧ groups.Perm (collect diagnostics) :=
  ⟨_, ofDiagnostics_eq_ok fun d hd => (hformed d hd).severity, List.filter_append_perm _ _⟩

end Report.Group

/-! ### Scans -/

/-- All that is made of the findings of a result goes by the numbers of its errors and its warnings,
which are the only kinds of findings that it has. -/
structure ScanResult.IsTallied (r : ScanResult) : Prop where
  wellFormed : ∀ d ∈ r.diagnostics, d.IsWellFormed
  total : r.errors + r.warnings = r.diagnostics.length
  score : ∀ s ∈ r.score, s = .ofCounts r.errors r.warnings
  failsOnError : FailOn.error.fails r.diagnostics = true ↔ 0 < r.errors
  failsOnWarning : FailOn.warning.fails r.diagnostics = true ↔ 0 < r.errors + r.warnings
  shared : ∀ affected score project,
    Report.shareParameters r.diagnostics affected score project =
      [("p", project)] ++ (score.map fun s => ("s", toString s.score)).toList ++
        Report.countParameter "e" r.errors ++ Report.countParameter "w" r.warnings ++
        Report.countParameter "f" affected
  grouped : ∃ groups, Report.Group.ofDiagnostics r.diagnostics = .ok groups ∧
    groups.Perm (Report.Group.collect r.diagnostics)

section Scan

variable {lint deadCode : Option (List String)} {first : Tool} {directory : Path}
  {options : ScanOptions} {runtime : Option RuntimeSettings} {source : SettingsSource}
  {host : Host} {r : ScanResult}

theorem Prospect.isWellFormed_of_examination {prospect : Prospect} {own : List Diagnostic}
    {found : Examination} (hown : (prospect.own host).1 = .ok own)
    (hfound : prospect.examination ((Checks.inOrder lint deadCode first).outcome prospect · host)
      own = .ok found) :
    ∀ d ∈ found.diagnostics, d.IsWellFormed := by
  obtain ⟨left, hleft, rfl⟩ := except_map_eq_ok.1 hfound
  obtain rfl := unsuppressed_eq_ok (except_mapError_eq_ok.1 hleft)
  intro d hd
  rcases List.mem_append.1 (List.mem_filter.1 hd).1 with hd | hd
  · rcases List.mem_append.1 hd with hd | hd
    · exact (Checks.isOfEntry_of_mem_outcome d hd).isWellFormed
    · obtain ⟨file, habout⟩ := Checks.isAbout_of_mem_outcome d hd
      exact habout.isWellFormed
  · rw [prospect.eq_finding_of_mem_own hown d hd]
    exact ReducedMotion.isWellFormed_finding

/-- Whatever the tools print, what a scan returns has errors and warnings only, in categories of the
list, and everything that is made of it goes by how many of each there are. -/
theorem isTallied_of_scan_eq_ok
    (hscan : (scan directory options runtime (Checks.inOrder lint deadCode first) source host).1 =
      .ok r) : r.IsTallied := by
  obtain ⟨prospect, own, found, -, hown, hfound, rfl⟩ := fst_scan_eq_ok.1 hscan
  have hformed := Prospect.isWellFormed_of_examination hown hfound
  have htotal := countP_isError_add_countP_isWarning hformed
  refine ⟨hformed, htotal, ?_, FailOn.fails_error_iff, ?_, ?_,
    Report.Group.exists_ofDiagnostics hformed⟩
  · intro s hs
    change s ∈ if prospect.isOffline then none else some (Score.ofDiagnostics found.diagnostics) at hs
    split at hs
    · cases hs
    · cases hs
      exact Score.ofDiagnostics_eq_ofCounts hformed
  · change _ ↔ 0 < found.diagnostics.countP (·.isError) + found.diagnostics.countP (·.isWarning)
    rw [htotal]
    exact FailOn.fails_warning_iff
  · intro affected score project
    have hwarnings : found.diagnostics.length - found.diagnostics.countP (·.isError) =
        found.diagnostics.countP (·.isWarning) := by omega
    change Report.shareParameters found.diagnostics affected score project = _
    unfold Report.shareParameters
    dsimp only
    rw [hwarnings]
    rfl

end Scan

/-- A project whose linter reports an error and something of a severity that is not known. -/
def Host.withUnknownSeverity : Host :=
  .ofProject reactManifest (fun _ => .unavailable) fun
    | .linter, _, _ => .finished (some 1)
        (.text ("\x7b\"diagnostics\":[" ++
          "\x7b\"code\":\"a\",\"severity\":\"error\",\"filename\":\"A.tsx\"\x7d," ++
          "\x7b\"code\":\"b\",\"severity\":\"fatal\",\"filename\":\"A.tsx\"\x7d]\x7d"))
        (.text "")
    | .deadCode, _, _ => .finished (some 0) (.text "") (.text "")

/-- The unknown severity counts as a warning everywhere. -/
theorem isTallied_withUnknownSeverity : ∃ r,
    (scan .here {} (some default) (Checks.inOrder (some ["oxlint"]) (some ["knip"]) .linter)
      (.given none) Host.withUnknownSeverity).1 = .ok r ∧
    r.IsTallied ∧ r.errors = 1 ∧ r.warnings = 1 ∧ r.score = some ⟨98, "Great"⟩ := by
  obtain ⟨r, hscan, hcounts⟩ := exists_eq_ok_of_any
    (show (scan .here {} (some default) (Checks.inOrder (some ["oxlint"]) (some ["knip"]) .linter)
      (.given none) Host.withUnknownSeverity).1.toOption.any (fun r => r.errors == 1 &&
        r.warnings == 1 && r.score == some ⟨98, "Great"⟩) = true by decide +kernel)
  simp only [Bool.and_eq_true, beq_iff_eq] at hcounts
  obtain ⟨⟨herrors, hwarnings⟩, hscore⟩ := hcounts
  exact ⟨r, hscan, isTallied_of_scan_eq_ok hscan, herrors, hwarnings, hscore⟩

end Checkup
