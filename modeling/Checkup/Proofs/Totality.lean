import Checkup.Proofs.Findings

/-!
# When a scan returns

No fault leaves a check, so a scan of a project that resolves can fail in two places only: the
built-in check reads the manifest of the scanned directory once more, and the suppression of a
finding needs its file to be a text. The linter's findings lie in text files by the way its report is
read; the dead-code tool's keep whatever value the report has there.
-/

namespace Checkup

/-! ### Suppression -/

namespace Suppression

/-- A finding can be suppressed or kept if its rule is suppressed or its file is a text. -/
theorem exists_covers_eq_ok {settings : Settings} {d : Diagnostic} :
    (∃ covered, covers settings d = .ok covered) ↔
      settings.ignoredRules.contains d.ruleKey = true ∨ d.HasTextFile := by
  unfold covers coversFile
  split
  · simp_all
  · rename_i hrule
    split
    · rename_i path hfile
      exact ⟨fun _ => .inr ⟨path, hfile⟩, fun _ => ⟨_, rfl⟩⟩
    · rename_i hfile
      refine ⟨nofun, ?_⟩
      rintro (hrule' | ⟨path, hpath⟩)
      · exact absurd hrule' hrule
      · exact absurd hpath (hfile path)

theorem exists_remaining_eq_ok {settings : Settings} {found : List Diagnostic} :
    (∃ kept, remaining settings found = .ok kept) ↔ ∀ d ∈ found,
      settings.ignoredRules.contains d.ruleKey = true ∨ d.HasTextFile := by
  induction found with
  | nil => exact ⟨fun _ => List.forall_mem_nil _, fun _ => ⟨[], rfl⟩⟩
  | cons d rest ih =>
    rw [List.forall_mem_cons, ← exists_covers_eq_ok, ← ih]
    constructor
    · rintro ⟨kept, hkept⟩
      obtain ⟨covered, hcovered, hkept⟩ := except_bind_eq_ok.1 hkept
      obtain ⟨others, hothers, -⟩ := except_bind_eq_ok.1 hkept
      exact ⟨⟨covered, hcovered⟩, others, hothers⟩
    · rintro ⟨⟨covered, hcovered⟩, others, hothers⟩
      exact ⟨_, except_bind_eq_ok.2 ⟨covered, hcovered, except_bind_eq_ok.2 ⟨others, hothers, rfl⟩⟩⟩

end Suppression

theorem exists_unsuppressed_eq_ok {settings : Option Settings} {found : List Diagnostic} :
    (∃ kept, unsuppressed settings found = .ok kept) ↔ ∀ s ∈ settings, ∀ d ∈ found,
      s.ignoredRules.contains d.ruleKey = true ∨ d.HasTextFile := by
  cases settings with
  | none => exact ⟨fun _ _ hs => absurd hs (Option.not_mem_none _), fun _ => ⟨found, rfl⟩⟩
  | some s =>
    refine Suppression.exists_remaining_eq_ok.trans ?_
    simp only [Option.mem_def, Option.some.injEq, forall_eq']

/-! ### The built-in check -/

/-- Whether the manifest of a directory can be looked for and read, as far as it is there. -/
def Manifest.IsReadable (directory : Path) (host : Host) : Prop :=
  match host.content (file directory) with
  | .error .nameTooLong => False
  | .error _ => True
  | .ok content => ∀ count, content.text?.map Json.read ≠ some (.error (.tooManyDigits count))

namespace Manifest

theorem fst_isIn (directory : Path) (host : Host) :
    (isIn directory host).1 = match host.content (file directory) with
      | .ok _ => .ok true
      | .error .nameTooLong => .error (AccessFault.nameTooLong.toFault (file directory))
      | .error _ => .ok false :=
  Run.fst_isFile (file directory) host

theorem hasNul_of_isIn {directory : Path} {host : Host}
    (hthere : (isIn directory host).1 = .ok true) : directory.hasNul = false := by
  refine Bool.eq_false_iff.2 fun hnul => ?_
  have hfile : (file directory).hasNul = true := by
    unfold Path.hasNul at hnul ⊢
    change (directory.names ++ [fileName]).any _ = true
    rw [List.any_append, hnul, Bool.true_or]
  have hcontent : host.content (file directory) = .error .nulCharacter := by
    rw [Host.content, Host.node, Host.locate, if_pos hfile]
    rfl
  rw [fst_isIn, hcontent] at hthere
  cases hthere

theorem isReadable_iff {directory : Path} {host : Host} : IsReadable directory host ↔
    ∃ isThere, (isIn directory host).1 = .ok isThere ∧
      (isThere = true → ∃ manifest, (readIn directory host).1 = .ok manifest) := by
  unfold IsReadable readIn
  rw [fst_isIn, read_apply]
  cases host.content (file directory) with
  | error fault => cases fault <;> simp
  | ok content =>
    simp only [Except.ok.injEq, exists_eq_left', forall_const]
    rcases content.text?.map Json.read with _ | (_ | count) | value
    · simp
    · simp
    · simp
    · simp

end Manifest

namespace ReducedMotion

variable {host mid : Host} {directory root : Path} {manifest : Manifest}

/-- There is a manifest in the directory, and one of its sections names a library that moves
things. -/
def NamesLibrary (host : Host) (directory : Path) : Prop :=
  (Manifest.isIn directory host).1 = .ok true ∧
    ∃ manifest, (Manifest.readIn directory host).1 = .ok manifest ∧
      ∃ name ∈ ["dependencies", "devDependencies"], ∃ library ∈ libraries,
        (Dependencies.ofSection manifest name).names library = true

def search : List String :=
  ["grep", "-ql", "-E", expression, "--"] ++ searched

theorem isNeeded_iff : isNeeded manifest = true ↔
    ∃ name ∈ ["dependencies", "devDependencies"], ∃ library ∈ libraries,
      (Dependencies.ofSection manifest name).names library = true := by
  simp only [isNeeded, sections, List.any_eq_true]

theorem namesLibrary_iff_isNeeded (hthere : (Manifest.isIn directory host).1 = .ok true)
    (hmanifest : (Manifest.readIn directory host).1 = .ok manifest) :
    NamesLibrary host directory ↔ isNeeded manifest = true := by
  rw [isNeeded_iff]
  constructor
  · rintro ⟨-, other, hother, hlibrary⟩
    exact Except.ok.inj (hother.symm.trans hmanifest) ▸ hlibrary
  · exact fun hlibrary => ⟨hthere, manifest, hmanifest, hlibrary⟩

/-- Neither the words of the search nor the path of a manifest that is there have a NUL in them. -/
theorem isOk_gitSays_search (hthere : (Manifest.isIn root host).1 = .ok true) :
    (host.gitSays root search).isOk = true ↔
      host.surroundings.git root search ≠ .undecodable := by
  have hnul : root.hasNul = false := Manifest.hasNul_of_isIn hthere
  have hwords : (root.names ++ search).any (·.toList.contains '\x00') = false := by
    rw [List.any_append, ← Path.hasNul, hnul, Bool.false_or]
    decide
  rw [Host.gitSays, Answer.isOk_received, and_iff_right hwords]

/-- Once the manifest is read, the check returns unless it asks git and is not answered. -/
theorem exists_searched_eq_ok : (∃ found, ((do
      if !isNeeded manifest then return []
      if (← Git.contains? root expression searched) == some true then return []
      return [finding] : Run (List Diagnostic)) host).1 = .ok found) ↔
        (isNeeded manifest = true → (host.gitSays root search).isOk = true) := by
  cases isNeeded manifest with
  | false => exact ⟨fun _ => nofun, fun _ => ⟨[], rfl⟩⟩
  | true =>
    rw [if_neg (by decide), Run.exists_fst_bind_eq_ok, Git.contains?_apply, imp_iff_right rfl]
    change (∃ answer, (host.gitSays root search).map Git.verdict? = .ok answer ∧ _) ↔ _
    cases host.gitSays root search with
    | error fault => exact ⟨nofun, nofun⟩
    | ok answer =>
      refine ⟨fun _ => rfl, fun _ => ⟨_, rfl, ?_⟩⟩
      split
      · exact ⟨[], rfl⟩
      · exact ⟨[finding], rfl⟩

/-- The check returns when the manifest is readable and git, where it is asked, answers with a
text. -/
theorem exists_check_eq_ok : (∃ found, (check root host).1 = .ok found) ↔
    Manifest.IsReadable root host ∧
      (NamesLibrary host root → host.surroundings.git root search ≠ .undecodable) := by
  have hthere := (Manifest.isQuestion_isIn root).surface_eq host
  have hread := (Manifest.isQuestion_readIn root).reads hthere
  rw [Manifest.isReadable_iff]
  unfold check
  rw [Run.exists_fst_bind_eq_ok]
  constructor
  · rintro ⟨isThere, hisThere, hnext⟩
    cases isThere with
    | false => exact ⟨⟨false, hisThere, nofun⟩, fun hnames => nomatch hisThere.symm.trans hnames.1⟩
    | true =>
      rw [if_neg (by decide), Run.exists_fst_bind_eq_ok] at hnext
      obtain ⟨manifest, hmanifest, hsearched⟩ := hnext
      have hasked := (Manifest.isQuestion_readIn root).surface_eq (Manifest.isIn root host).2
      rw [hread] at hmanifest
      rw [exists_searched_eq_ok, Host.gitSays_eq_of_surface_eq (hasked.trans hthere),
        isOk_gitSays_search hisThere, ← namesLibrary_iff_isNeeded hisThere hmanifest] at hsearched
      exact ⟨⟨true, hisThere, fun _ => ⟨manifest, hmanifest⟩⟩, hsearched⟩
  · rintro ⟨⟨isThere, hisThere, hmanifest⟩, hanswered⟩
    refine ⟨isThere, hisThere, ?_⟩
    cases isThere with
    | false => exact ⟨[], rfl⟩
    | true =>
      obtain ⟨manifest, hmanifest⟩ := hmanifest rfl
      have hasked := (Manifest.isQuestion_readIn root).surface_eq (Manifest.isIn root host).2
      rw [if_neg (by decide), Run.exists_fst_bind_eq_ok]
      refine ⟨manifest, hread.trans hmanifest, ?_⟩
      rw [exists_searched_eq_ok, Host.gitSays_eq_of_surface_eq (hasked.trans hthere),
        isOk_gitSays_search hisThere, ← namesLibrary_iff_isNeeded hisThere hmanifest]
      exact hanswered

end ReducedMotion

/-! ### Scans -/

section Scan

variable {lint deadCode : Option (List String)} {first : Tool} {prospect : Prospect} {host : Host}

/-- The built-in check returns unless it is run and cannot read the manifest, or is not answered. -/
theorem Prospect.exists_own_eq_ok : (∃ own, (prospect.own host).1 = .ok own) ↔
    (prospect.plan.paths = [] → Manifest.IsReadable prospect.directory host ∧
      (ReducedMotion.NamesLibrary host prospect.directory →
        host.surroundings.git prospect.directory ReducedMotion.search ≠ .undecodable)) := by
  unfold own ScanPlan.isLimited
  rw [← ReducedMotion.exists_check_eq_ok]
  cases prospect.plan.paths with
  | nil => exact ⟨fun hown _ => hown, fun hown => hown rfl⟩
  | cons path rest => exact ⟨fun _ hnil => absurd hnil (by simp), fun _ => ⟨[], rfl⟩⟩

/-- What the checks came to is put together when each finding of the dead-code tool can be
suppressed or kept. -/
theorem Prospect.exists_examination_eq_ok {own : List Diagnostic}
    (hown : (prospect.own host).1 = .ok own) :
    (∃ found, prospect.examination ((Checks.inOrder lint deadCode first).outcome prospect · host)
        own = .ok found) ↔
      ∀ s ∈ prospect.settings,
        ∀ d ∈ ((Checks.inOrder lint deadCode first).outcome prospect .deadCode host).diagnostics,
          s.ignoredRules.contains d.ruleKey = true ∨ d.HasTextFile := by
  have hexamined (found : List Diagnostic) : (∃ kept, ((unsuppressed prospect.settings
      found).mapError Fault.shape) = .ok kept) ↔
        ∀ s ∈ prospect.settings, ∀ d ∈ found,
          s.ignoredRules.contains d.ruleKey = true ∨ d.HasTextFile := by
    simp only [except_mapError_eq_ok, exists_unsuppressed_eq_ok]
  unfold examination
  rw [exists_except_map_eq_ok, hexamined]
  constructor
  · intro hall s hs d hd
    exact hall s hs d (List.mem_append_left _ (List.mem_append_right _ hd))
  · intro hdead s hs d hd
    rcases List.mem_append.1 hd with hd | hd
    · rcases List.mem_append.1 hd with hd | hd
      · exact .inr (Checks.isOfEntry_of_mem_outcome d hd).hasTextFile
      · exact hdead s hs d hd
    · exact .inr (prospect.eq_finding_of_mem_own hown d hd ▸ ⟨_, rfl⟩)

variable {directory resolved : Path} {options : ScanOptions} {runtime : Option RuntimeSettings}
  {source : SettingsSource} {project : Project}

/-- A scan of a project that resolves returns exactly when the variables and the settings can be
read, a look at the manifest of the scanned directory does not fail where the built-in check makes
one and git answers it with a text where it asks, and each finding of the dead-code tool has a text
for a file, or a rule that is suppressed, if there are settings at all. JSON is read to any depth,
and without surrogates that stand alone. -/
theorem exists_scan_eq_ok_iff (hresolved : (Run.resolve directory host).1 = .ok resolved)
    (hproject : (Project.discover resolved options.manifest host).1 = .ok project)
    (hreact : project.react.any (·.isTruthy) = true) :
    (∃ r, (scan directory options runtime (Checks.inOrder lint deadCode first) source host).1 =
      .ok r) ↔
    ∃ switches settings,
      (RuntimeSettings.given runtime host).1 = .ok switches ∧
      (source.settings resolved host).1 = .ok settings ∧
      (options.paths = [] → Manifest.IsReadable resolved host ∧
        (ReducedMotion.NamesLibrary host resolved →
          host.surroundings.git resolved ReducedMotion.search ≠ .undecodable)) ∧
      ∀ s ∈ settings, ∀ d ∈ ((Checks.inOrder lint deadCode first).outcome
          ⟨resolved, .ofOptions options settings, settings, switches, project⟩
          .deadCode host).diagnostics,
        s.ignoredRules.contains d.ruleKey = true ∨ d.HasTextFile := by
  constructor
  · rintro ⟨r, hscan⟩
    obtain ⟨prospect, own, found, hprospect, hown, hfound, -⟩ := fst_scan_eq_ok.1 hscan
    obtain ⟨switches, settings, hswitches, hsettings, rfl⟩ :=
      (Prospect.fst_ofScan_eq_ok hresolved hproject hreact).1 hprospect
    exact ⟨switches, settings, hswitches, hsettings, Prospect.exists_own_eq_ok.1 ⟨own, hown⟩,
      (Prospect.exists_examination_eq_ok hown).1 ⟨found, hfound⟩⟩
  · rintro ⟨switches, settings, hswitches, hsettings, hreadable, hfindings⟩
    have hprospect := (Prospect.fst_ofScan_eq_ok hresolved hproject hreact).2
      ⟨switches, settings, hswitches, hsettings, rfl⟩
    obtain ⟨own, hown⟩ : ∃ own, (Prospect.own ⟨resolved, .ofOptions options settings, settings,
        switches, project⟩ host).1 = .ok own := Prospect.exists_own_eq_ok.2 hreadable
    obtain ⟨found, hfound⟩ := (Prospect.exists_examination_eq_ok hown).2 hfindings
    exact ⟨_, fst_scan_eq_ok.2 ⟨_, own, found, hprospect, hown, hfound, rfl⟩⟩

end Scan

/-- A project whose linter finds nothing, and whose dead-code tool reports an export of a file that
has a number for a name. -/
def Host.withNumberedFile : Host :=
  .ofProject reactManifest (fun _ => .unavailable) fun
    | .linter, _, _ => .finished (some 0) (.text "\x7b\"diagnostics\":[]\x7d") (.text "")
    | .deadCode, _, _ => .finished (some 0) (.text ("\x7b\"issues\":[\x7b\"file\":42," ++
        "\"exports\":[\x7b\"name\":\"f\",\"line\":3,\"col\":1\x7d]\x7d]\x7d")) (.text "")

theorem Host.discover_withNumberedFile : ∃ project,
    (Project.discover .root none Host.withNumberedFile).1 = .ok project ∧
      project.react.any (·.isTruthy) = true := by
  exact exists_eq_ok_of_any (by decide +kernel)

/-- Without settings a scan returns, whatever the dead-code tool says of its files. -/
theorem exists_scan_withNumberedFile : ∃ r,
    (scan .here {} (some default) (Checks.inOrder (some ["oxlint"]) (some ["knip"]) .linter)
      (.given none) Host.withNumberedFile).1 = .ok r := by
  obtain ⟨project, hproject, hreact⟩ := Host.discover_withNumberedFile
  have hresolved : (Run.resolve .here Host.withNumberedFile).1 = .ok .root := by rfl
  have hcheck : (ReducedMotion.check .root Host.withNumberedFile).1.isOk = true := by
    decide +kernel
  have hreadable := ReducedMotion.exists_check_eq_ok.1 (exists_eq_ok_of_isOk hcheck)
  have hdefault : (Project.discover .root ({} : ScanOptions).manifest
    Host.withNumberedFile).1 = .ok project := hproject
  exact (exists_scan_eq_ok_iff hresolved hdefault hreact).2
    ⟨default, none, rfl, rfl, fun _ => hreadable,
      fun _ hs => absurd hs (Option.not_mem_none _)⟩

/-- With settings, even empty ones, the scan of the same project stops at the number. -/
theorem scan_withNumberedFile_faults : ∃ project fault,
    (Project.discover .root none Host.withNumberedFile).1 = .ok project ∧
    project.react.any (·.isTruthy) = true ∧
    (scan .here {} (some default) (Checks.inOrder (some ["oxlint"]) (some ["knip"]) .linter)
      (.given (some {})) Host.withNumberedFile).1 = .error fault ∧
    fault.kind = "AttributeError" := by
  obtain ⟨project, hproject, hreact⟩ := Host.discover_withNumberedFile
  have hscan : (match (scan .here {} (some default)
      (Checks.inOrder (some ["oxlint"]) (some ["knip"]) .linter) (.given (some {}))
      Host.withNumberedFile).1 with
    | .error fault => fault.kind
    | .ok _ => "") = "AttributeError" := by decide +kernel
  cases hresult : (scan .here {} (some default)
      (Checks.inOrder (some ["oxlint"]) (some ["knip"]) .linter) (.given (some {}))
      Host.withNumberedFile).1 with
  | error fault =>
    rw [hresult] at hscan
    exact ⟨project, fault, hproject, hreact, rfl, hscan⟩
  | ok r =>
    rw [hresult] at hscan
    exact absurd (show "" = "AttributeError" from hscan) (by decide)

end Checkup
