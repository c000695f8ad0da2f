import Checkup.Proofs.Places

/-!
# The manifest's directory, spelled in two ways

A scan takes the directory of the manifest as it is spelled. The absolute path that a relative one
names leads to the same place, so all that is asked about the place and below it is answered alike.
But the workspace root around it is looked for among the ancestors that the spelling has, and a
relative path has none above the working directory. Where that root does not matter, or is found in
both ways, the spelling is of no consequence; elsewhere a scan of a member of a workspace may miss
the React that its root declares.
-/

namespace Checkup

open Run (Matches)

/-! ### The absolute spelling -/

namespace Path

theorem mem_foldl_climb {name : String} {reached names : List String}
    (hmem : name ∈ names.foldl climb reached) : name ∈ reached ∨ name ∈ names := by
  induction names generalizing reached with
  | nil => exact .inl hmem
  | cons first rest ih =>
    rcases ih hmem with hreached | hrest
    · unfold climb at hreached
      split at hreached
      · exact .inl (List.dropLast_subset _ hreached)
      · rcases List.mem_append.1 hreached with hreached | hfirst
        · exact .inl hreached
        · exact .inr (List.mem_singleton.1 hfirst ▸ List.mem_cons_self)
    · exact .inr (List.mem_cons_of_mem _ hrest)

theorem hasNul_resolve {directory p : Path} (hresolved : directory.IsResolved)
    (hrelative : p.isAbsolute = false) (hnul : p.hasNul = false) :
    (resolve directory p).hasNul = false := by
  have hdirectory := hresolved.hasNul
  unfold hasNul at *
  rw [List.any_eq_false] at *
  intro name hname
  unfold resolve at hname
  rw [join_of_relative hrelative] at hname
  rcases mem_foldl_climb hname with hnone | hmem
  · cases hnone
  · rcases List.mem_append.1 hmem with hmem | hmem
    · exact hdirectory name hmem
    · exact hnul name hmem

end Path

/-- The absolute path that a relative one names leads to the same place: always when there is no
double dot in it, and else when it leads anywhere at all. -/
theorem Host.samePlace_resolve {host : Host} {p : Path}
    (hresolved : host.workingDirectory.IsResolved) (hrelative : p.isAbsolute = false)
    (hplace : ".." ∉ p.names ∨ ∃ target, host.locate p = .ok target) :
    host.SamePlace p (Path.resolve host.workingDirectory p) := by
  have habsolute : (host.workingDirectory.join (Path.resolve host.workingDirectory p)).names =
      (host.workingDirectory.join p).names.foldl Path.climb [] := by
    rw [Path.join_of_isAbsolute rfl]
    rfl
  rcases hplace with hclimbs | ⟨target, hlocate⟩
  · have hjoin := Path.join_of_relative (p := host.workingDirectory) hrelative
    have hall : ".." ∉ (host.workingDirectory.join p).names := by
      rw [hjoin]
      intro hmem
      exact (List.mem_append.1 hmem).elim hresolved.climbs hclimbs
    have hnames := Path.foldl_climb hall []
    rw [List.nil_append] at hnames
    refine ⟨by rw [habsolute, hnames], ?_⟩
    unfold Path.resolve Path.hasNul
    rw [hnames, hjoin, List.any_append]
    have hnul := hresolved.hasNul
    unfold Path.hasNul at hnul
    rw [hnul, Bool.false_or]
  · unfold locate at hlocate
    split at hlocate
    · cases hlocate
    · rename_i hnul
      split at hlocate
      · cases hlocate
      · have hclimb := Node.eq_climb_of_walk hlocate
        refine ⟨?_, ?_⟩
        · rw [habsolute, ← hclimb, hlocate, (Node.leadsHome_of_walk hlocate).2]
        · rw [Path.hasNul_resolve hresolved hrelative (by simpa using hnul)]
          simpa using hnul

/-! ### From discovery to a scan -/

section Scan

variable {host : Host} {p q : Path}

theorem Project.matches_discover (hsame : host.SamePlace p q) (hsettled : host.SettledAlike p q)
    (directory : Path) :
    Matches host (· = ·) (discover directory (some p)) (discover directory (some q)) := by
  unfold discover
  apply (Manifest.matches_isIn hsame).bind
  rintro isThere _ ⟨rfl, hpackage⟩
  cases isThere with
  | false => exact .throw rfl
  | true =>
    apply (Manifest.matches_readIn hpackage).bind
    rintro manifest _ ⟨rfl, hmanifest⟩
    apply (ReactFacts.matches_resolve hsame hsettled hmanifest).bind
    rintro facts _ rfl
    exact .refl (fun _ => rfl) (.bind (.pathExists _) fun _ =>
      .bind (isQuestion_detectCompiler _ _) fun _ =>
        .bind (isQuestion_countSourceFiles _) fun _ => .pure _)

theorem Prospect.matches_ofScan (hsame : host.SamePlace p q) (hsettled : host.SettledAlike p q)
    (directory : Path) (options : ScanOptions) (runtime : Option RuntimeSettings)
    (source : SettingsSource) :
    Matches host (· = ·) (ofScan directory { options with manifest := some p } runtime source)
      (ofScan directory { options with manifest := some q } runtime source) := by
  unfold ofScan
  apply (Matches.refl (fun _ => rfl) (RuntimeSettings.isQuestion_given runtime)).bind
  rintro runtime _ rfl
  apply (Matches.refl (fun _ => rfl) (.resolve directory)).bind
  rintro directory _ rfl
  apply (Matches.refl (fun _ => rfl) (source.isQuestion_settings directory)).bind
  rintro settings _ rfl
  apply (Project.matches_discover hsame hsettled directory).bind
  rintro project _ rfl
  exact .refl (fun _ => rfl) (.ite (.pure _) (.throw _))

theorem agree_scan (hsame : host.SamePlace p q) (hsettled : host.SettledAlike p q)
    (lint deadCode : Option (List String)) (first : Tool) (directory : Path)
    (options : ScanOptions) (runtime : Option RuntimeSettings) (source : SettingsSource) :
    Agree (· = ·)
      (scan directory { options with manifest := some p } runtime
        (Checks.inOrder lint deadCode first) source host).1
      (scan directory { options with manifest := some q } runtime
        (Checks.inOrder lint deadCode first) source host).1 := by
  rw [fst_scan, fst_scan]
  apply (Prospect.matches_ofScan hsame hsettled directory options runtime source).agree.bind
  rintro prospect _ rfl
  exact .refl (fun _ => rfl) _

/-- Whatever root is found around a place, the projects that are discovered there differ in what is
known of React alone. -/
theorem Project.discover_of_samePlace (hsame : host.SamePlace p q) {directory : Path}
    {project project' : Project} (hproject : (discover directory (some p) host).1 = .ok project)
    (hproject' : (discover directory (some q) host).1 = .ok project') : ∃ facts : ReactFacts,
      project' = { project with react := facts.version, framework := facts.framework } := by
  rw [fst_discover] at hproject hproject'
  obtain ⟨isThere, hthere, hproject⟩ := except_bind_eq_ok.1 hproject
  obtain ⟨isThere', hthere', hproject'⟩ := except_bind_eq_ok.1 hproject'
  obtain ⟨rfl, hpackage⟩ := (Manifest.matches_isIn hsame).agree.related hthere hthere'
  cases isThere with
  | false => cases hproject
  | true =>
    obtain ⟨manifest, hmanifest, hproject⟩ := except_bind_eq_ok.1 hproject
    obtain ⟨manifest', hmanifest', hproject'⟩ := except_bind_eq_ok.1 hproject'
    obtain ⟨rfl, -⟩ := (Manifest.matches_readIn hpackage).agree.related hmanifest hmanifest'
    obtain ⟨facts, -, hproject⟩ := except_bind_eq_ok.1 hproject
    obtain ⟨facts', -, hproject'⟩ := except_bind_eq_ok.1 hproject'
    obtain ⟨typeScript, htypeScript, hproject⟩ := except_bind_eq_ok.1 hproject
    obtain ⟨compiler, hcompiler, hproject⟩ := except_bind_eq_ok.1 hproject
    obtain ⟨sourceFiles, hsourceFiles, hproject⟩ := except_bind_eq_ok.1 hproject
    rw [htypeScript, hcompiler, hsourceFiles] at hproject'
    cases hproject
    cases hproject'
    exact ⟨facts', rfl⟩

theorem exists_discover_of_scan {lint deadCode : Option (List String)} {first : Tool}
    {directory : Path} {options : ScanOptions} {runtime : Option RuntimeSettings}
    {source : SettingsSource} {result : ScanResult}
    (hscan : (scan directory options runtime (Checks.inOrder lint deadCode first) source host).1 =
      .ok result) : ∃ resolved project, (Run.resolve directory host).1 = .ok resolved ∧
        (Project.discover resolved options.manifest host).1 = .ok project ∧
        result.project = some project := by
  obtain ⟨prospect, own, examined, hprospect, -, hexamined, rfl⟩ := fst_scan_eq_ok.1 hscan
  rw [Prospect.fst_ofScan] at hprospect
  obtain ⟨switches, -, hprospect⟩ := except_bind_eq_ok.1 hprospect
  obtain ⟨resolved, hresolved, hprospect⟩ := except_bind_eq_ok.1 hprospect
  obtain ⟨settings, -, hprospect⟩ := except_bind_eq_ok.1 hprospect
  obtain ⟨project, hproject, hprospect⟩ := except_bind_eq_ok.1 hprospect
  refine ⟨resolved, project, hresolved, hproject, ?_⟩
  split at hprospect
  · cases hprospect
    obtain ⟨found, -, rfl⟩ := except_map_eq_ok.1 hexamined
    rfl
  · cases hprospect

end Scan

/-- The directory of the manifest can be spelled as a relative path or as the absolute one that it
names. The two scans end alike where nothing hangs on the workspace root around it, or that root is
found in both ways. Where both return, their projects differ at most in what is known of React. -/
theorem scan_of_spelling {host : Host} {p : Path}
    (hresolved : host.workingDirectory.IsResolved) (hrelative : p.isAbsolute = false)
    (hplace : ".." ∉ p.names ∨ ∃ target, host.locate p = .ok target)
    (lint deadCode : Option (List String)) (first : Tool) (directory : Path)
    (options : ScanOptions) (runtime : Option RuntimeSettings) (source : SettingsSource) :
    (host.SettledAlike p (Path.resolve host.workingDirectory p) → Agree (· = ·)
      (scan directory { options with manifest := some p } runtime
        (Checks.inOrder lint deadCode first) source host).1
      (scan directory { options with manifest := some (Path.resolve host.workingDirectory p) }
        runtime (Checks.inOrder lint deadCode first) source host).1) ∧
    ∀ result result',
      (scan directory { options with manifest := some p } runtime
        (Checks.inOrder lint deadCode first) source host).1 = .ok result →
      (scan directory { options with manifest := some (Path.resolve host.workingDirectory p) }
        runtime (Checks.inOrder lint deadCode first) source host).1 = .ok result' →
      ∃ project, ∃ facts : ReactFacts, result.project = some project ∧ result'.project =
        some { project with react := facts.version, framework := facts.framework } := by
  have hsame := Host.samePlace_resolve hresolved hrelative hplace
  constructor
  · intro hsettled
    exact agree_scan hsame hsettled lint deadCode first directory options runtime source
  · intro result result' hscan hscan'
    obtain ⟨resolved, project, hdirectory, hproject, hresult⟩ := exists_discover_of_scan hscan
    obtain ⟨resolved', project', hdirectory', hproject', hresult'⟩ := exists_discover_of_scan hscan'
    obtain rfl := Except.ok.inj (hdirectory.symm.trans hdirectory')
    obtain ⟨facts, hfacts⟩ := Project.discover_of_samePlace hsame hproject hproject'
    exact ⟨project, facts, hresult, hfacts ▸ hresult'⟩

/-- A scan that runs no checks, with the manifest in a directory. -/
def ScanOptions.withoutChecks (manifest : Path) : ScanOptions where
  lint := some false
  deadCode := some false
  manifest := some manifest

/-- Seen from the workspace root, the package that claims nothing has that root above it in both
spellings, and both scans find the same version and framework. -/
theorem scan_of_spelling_withClaims : ∃ result,
    (scan .here (.withoutChecks ⟨.relative, ["ui"]⟩) none (Checks.inOrder none none .linter) .disk
      Host.withClaims).1 = .ok result ∧
    (scan .here (.withoutChecks ⟨.root, ["ui"]⟩) none (Checks.inOrder none none .linter) .disk
      Host.withClaims).1 = .ok result ∧
    result.project.map (·.framework) = some .nextjs := by
  have hresolved : Host.withClaims.workingDirectory.IsResolved := ⟨rfl, List.not_mem_nil, rfl⟩
  have hsettled : Host.withClaims.SettledAlike ⟨.relative, ["ui"]⟩ ⟨.root, ["ui"]⟩ :=
    .nearest (isNearestRoot_singleton (eq_ok_of_toOption (by decide +kernel)))
      (isNearestRoot_singleton (eq_ok_of_toOption (by decide +kernel))) ⟨rfl, rfl⟩
  obtain ⟨hagree, -⟩ := scan_of_spelling (p := ⟨.relative, ["ui"]⟩) hresolved rfl
    (.inl (by decide)) none none .linter .here (.withoutChecks ⟨.relative, ["ui"]⟩) none .disk
  obtain ⟨result, hscan, hframework⟩ := exists_eq_ok_of_any
    (show (scan .here (.withoutChecks ⟨.relative, ["ui"]⟩) none (Checks.inOrder none none .linter)
      .disk Host.withClaims).1.toOption.any
        (fun result => result.project.map (·.framework) == some .nextjs) = true by decide +kernel)
  obtain ⟨result', hscan'⟩ := exists_eq_ok_of_isOk
    (show (scan .here (.withoutChecks ⟨.root, ["ui"]⟩) none (Checks.inOrder none none .linter)
      .disk Host.withClaims).1.isOk = true by decide +kernel)
  obtain rfl := (hagree hsettled).related hscan hscan'
  exact ⟨result, hscan, hscan', eq_of_beq hframework⟩

/-- A workspace root that claims React, seen from its member, which claims nothing. -/
def Host.withinMember : Host :=
  { ofProject "" (fun _ => .unavailable) fun _ _ _ => .hangs with
    workingDirectory := ⟨.root, ["web"]⟩
    tree := .directory [
      ("package.json", .file (.text
        "\x7b\"workspaces\":[\"web\"],\"dependencies\":\x7b\"react\":\"19\"\x7d\x7d")),
      ("web", .directory [("package.json", .file (.text "\x7b\"name\":\"web\"\x7d"))])] }

/-- In the member itself a scan does not find React when the directory of the manifest is given as
the working directory, and does when the same directory is given by its absolute path. -/
theorem scan_withinMember :
    Path.resolve Host.withinMember.workingDirectory .here = ⟨.root, ["web"]⟩ ∧
    (scan .here (.withoutChecks .here) none .usual .disk Host.withinMember).1 = .error .noReact ∧
    ∃ result, (scan .here (.withoutChecks ⟨.root, ["web"]⟩) none .usual .disk
      Host.withinMember).1 = .ok result := by
  refine ⟨by decide, eq_error_of_faultOf (by decide +kernel), exists_eq_ok_of_isOk ?_⟩
  decide +kernel

end Checkup
