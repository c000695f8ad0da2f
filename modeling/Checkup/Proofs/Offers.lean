import Checkup.Proofs.ExitStatus
import Checkup.Proofs.ReactSearch

/-!
# Packages that are offered

The packages that a run chooses from are those whose manifest names React or one of two frameworks
that bring it along (`Dependencies.hasReact`), whatever is given for the name. A scan asks for more:
something has to be given for `react` itself, there or in a manifest around (`DeclaresReact`). So a
package can be offered that no scan accepts, and a run through all packages that are offered ends at
the first one of these.
-/

namespace Checkup

open Run (IsQuestion)

/-! ### What the lists hold -/

/-- What a question leaves of a list passes it, and is in the order of the list. -/
theorem gives_filterM {α : Type} {test : α → Run Bool} (htest : ∀ a, IsQuestion (test a))
    (items : List α) (host : Host) :
    Gives (fun kept => kept.Sublist items ∧ ∀ a ∈ kept, (test a host).1 = .ok true)
      (items.filterM test host).1 := by
  have hquestion (items kept : List α) : IsQuestion (List.filterAuxM test items kept) := by
    induction items generalizing kept with
    | nil => exact .pure kept
    | cons item rest ih => exact .bind (htest item) fun _ => ih _
  -- the items that pass are put in front of those that were kept before, the last one first
  have haux (items kept : List α) :
      Gives (fun all => ∃ more : List α, all = more.reverse ++ kept ∧ more.Sublist items ∧
        ∀ a ∈ more, (test a host).1 = .ok true) (List.filterAuxM test items kept host).1 := by
    induction items generalizing kept with
    | nil => exact .pure ⟨[], rfl, .refl _, nofun⟩
    | cons item rest ih =>
      refine (htest item).gives_bind (fun _ => hquestion _ _) fun passes hpasses all hall => ?_
      obtain ⟨more, rfl, hmore, hpass⟩ := ih _ all hall
      cases passes with
      | true =>
        exact ⟨item :: more, by simp, hmore.cons_cons item, List.forall_mem_cons.2 ⟨hpasses, hpass⟩⟩
      | false => exact ⟨more, rfl, hmore.cons item, hpass⟩
  refine (hquestion items []).gives_bind (fun _ => .pure _) fun all hall => .pure ?_
  obtain ⟨more, rfl, hmore, hpass⟩ := haux items [] all hall
  simpa using ⟨hmore, hpass⟩

namespace Workspace

theorem gives_packagesAmong (found : List Path) (host : Host) :
    Gives (fun packages => ∀ directory ∈ packages, (Manifest.isIn directory host).1 = .ok true)
      (packagesAmong found host).1 := by
  intro packages hpackages directory hmem
  have hpackage :=
    (gives_filterM isQuestion_isPackage found host packages hpackages).2 directory hmem
  obtain ⟨isDirectory, -, hpackage⟩ := ((IsQuestion.isDirectory directory).fst_bind_eq_ok
    fun _ => .ite (Manifest.isQuestion_isIn _) (.pure _)).1 hpackage
  cases isDirectory with
  | true => exact hpackage
  | false => cases hpackage

theorem gives_directories (root : Path) (pattern : String) (host : Host) :
    Gives (fun found => ∀ directory ∈ found, (Manifest.isIn directory host).1 = .ok true)
      (directories root pattern host).1 := by
  unfold directories
  cases Pattern.ofText pattern with
  | literal path => exact gives_packagesAmong _ host
  | wildcard base suffix =>
    have hentries (found : List Path) : IsQuestion (packagesAmong found) := .filterM isQuestion_isPackage _
    refine (IsQuestion.isDirectory _).gives_bind
      (fun _ => .ite (.bind (.listNames _) fun _ => hentries _) (.pure _)) fun isDirectory _ => ?_
    cases isDirectory with
    | true =>
      exact (IsQuestion.listNames _).gives_bind (fun _ => hentries _)
        fun names _ => gives_packagesAmong _ host
    | false => exact .pure nofun

end Workspace

namespace Package

/-- The package has a manifest that names React, or a framework that brings it along. -/
structure NamesReact (package : Package) (host : Host) : Prop where
  isIn : (Manifest.isIn package.directory host).1 = .ok true
  hasReact : ∃ manifest, (Manifest.readIn package.directory host).1 = .ok manifest ∧
    (Dependencies.ofManifest manifest).hasReact = true

theorem gives_reactAmong {directories : List Path} {host : Host}
    (hpackages : ∀ directory ∈ directories, (Manifest.isIn directory host).1 = .ok true) :
    Gives (fun found => ∀ package ∈ found, package.NamesReact host)
      (reactAmong directories host).1 := by
  induction directories with
  | nil => exact .pure nofun
  | cons directory rest ih =>
    obtain ⟨hfirst, hrest⟩ := List.forall_mem_cons.1 hpackages
    refine (Manifest.isQuestion_readIn directory).gives_bind (fun _ =>
      .bind (isQuestion_reactAmong rest) fun _ => .ite (.pure _) (.pure _)) fun manifest hmanifest => ?_
    refine (isQuestion_reactAmong rest).gives_bind (fun _ => .ite (.pure _) (.pure _))
      fun others hothers => ?_
    have hnamed := ih hrest others hothers
    split
    · rename_i hreact
      exact .pure (List.forall_mem_cons.2 ⟨⟨hfirst, manifest, hmanifest, hreact⟩, hnamed⟩)
    · exact .pure hnamed

theorem gives_reactInPatterns (root : Path) (patterns : List String) (host : Host) :
    Gives (fun found => ∀ package ∈ found, package.NamesReact host)
      (reactInPatterns root patterns host).1 := by
  induction patterns with
  | nil => exact .pure nofun
  | cons pattern rest ih =>
    have hrest (found : List Package) : IsQuestion (do
        return found ++ (← reactInPatterns root rest)) :=
      .bind (isQuestion_reactInPatterns root rest) fun _ => .pure _
    refine (Workspace.isQuestion_directories root pattern).gives_bind
      (fun _ => .bind (isQuestion_reactAmong _) hrest) fun directories hdirectories => ?_
    refine (isQuestion_reactAmong directories).gives_bind hrest fun found hfound => ?_
    refine (isQuestion_reactInPatterns root rest).gives_bind (fun _ => .pure _)
      fun others hothers => .pure (List.forall_mem_append.2 ⟨?_, ih others hothers⟩)
    exact gives_reactAmong (Workspace.gives_directories root pattern host directories hdirectories)
      found hfound

theorem gives_inWorkspaces (root : Path) (manifestDirectory : Option Path) (host : Host) :
    Gives (fun found => ∀ package ∈ found, package.NamesReact host)
      (inWorkspaces root manifestDirectory host).1 := by
  have hpatterns (manifest : Manifest) : IsQuestion (do
      reactInPatterns root (← Workspace.patterns (manifestDirectory.getD root) manifest)) :=
    .bind (Workspace.isQuestion_patterns _ _) fun _ => isQuestion_reactInPatterns _ _
  refine (Manifest.isQuestion_isIn _).gives_bind
    (fun _ => .ite (.pure _) (.bind (Manifest.isQuestion_readIn _) hpatterns)) fun isThere _ => ?_
  cases isThere with
  | false => exact .pure nofun
  | true =>
    refine (Manifest.isQuestion_readIn _).gives_bind hpatterns fun manifest _ => ?_
    exact (Workspace.isQuestion_patterns _ _).gives_bind (fun _ => isQuestion_reactInPatterns _ _)
      fun patterns _ => gives_reactInPatterns root patterns host

theorem gives_reactIn? (directory : Path) (host : Host) :
    Gives (fun found => ∀ package ∈ found, package.NamesReact host)
      (reactIn? directory host).1 := by
  have hread : IsQuestion (do
      let manifest ← Manifest.readIn directory
      if (Dependencies.ofManifest manifest).hasReact then
        return some (ofManifest manifest directory)
      return none) :=
    .bind (Manifest.isQuestion_readIn _) fun _ => .ite (.pure _) (.pure _)
  refine (Manifest.isQuestion_isIn _).gives_bind (fun _ => .ite hread (.pure _))
    fun isThere hthere => ?_
  cases isThere with
  | false => exact .pure nofun
  | true =>
    refine (Manifest.isQuestion_readIn _).gives_bind (fun _ => .ite (.pure _) (.pure _))
      fun manifest hmanifest => ?_
    split
    · rename_i hreact
      refine .pure fun package hpackage => ?_
      cases hpackage
      exact ⟨hthere, manifest, hmanifest, hreact⟩
    · exact .pure nofun

theorem gives_reactInEntries (directory : Path) (names : List String) (host : Host) :
    Gives (fun found => ∀ package ∈ found, package.NamesReact host)
      (reactInEntries directory names host).1 := by
  induction names with
  | nil => exact .pure nofun
  | cons name rest ih =>
    have hrest (found : Option Package) : IsQuestion (do
        return found.toList ++ (← reactInEntries directory rest)) :=
      .bind (isQuestion_reactInEntries _ _) fun _ => .pure _
    refine (IsQuestion.isDirectory _).gives_bind (fun _ =>
      .ite (isQuestion_reactInEntries _ _) (.bind (isQuestion_reactIn? _) hrest))
        fun isDirectory _ => ?_
    split
    · exact ih
    · refine (isQuestion_reactIn? _).gives_bind hrest fun found hfound => ?_
      refine (isQuestion_reactInEntries _ _).gives_bind (fun _ => .pure _)
        fun others hothers => .pure (List.forall_mem_append.2 ⟨?_, ih others hothers⟩)
      intro package hpackage
      exact gives_reactIn? _ host found hfound package (Option.mem_toList.1 hpackage)

theorem gives_inSubdirectories (root : Path) (manifestDirectory : Option Path) (host : Host) :
    Gives (fun found => ∀ package ∈ found, package.NamesReact host)
      (inSubdirectories root manifestDirectory host).1 := by
  have hentries (own : Option Package) : IsQuestion (do
      return own.toList ++ (← reactInEntries (manifestDirectory.getD root)
        (← Run.listNames (manifestDirectory.getD root)))) :=
    .bind (.listNames _) fun _ => .bind (isQuestion_reactInEntries _ _) fun _ => .pure _
  refine (IsQuestion.isDirectory _).gives_bind
    (fun _ => .ite (.pure _) (.bind (isQuestion_reactIn? _) hentries)) fun isDirectory _ => ?_
  cases isDirectory with
  | false => exact .pure nofun
  | true =>
    refine (isQuestion_reactIn? root).gives_bind hentries fun own hown => ?_
    refine (IsQuestion.listNames _).gives_bind
      (fun _ => .bind (isQuestion_reactInEntries _ _) fun _ => .pure _) fun names _ => ?_
    refine (isQuestion_reactInEntries _ _).gives_bind (fun _ => .pure _)
      fun others hothers => .pure (List.forall_mem_append.2 ⟨?_, ?_⟩)
    · intro package hpackage
      exact gives_reactIn? root host own hown package (Option.mem_toList.1 hpackage)
    · exact gives_reactInEntries _ _ host others hothers

/-- The package is one that a run chooses from: a workspace of the root, or the root or one of its
directories. -/
def IsOffered (package : Package) (root : Path) (host : Host) : Prop :=
  ∃ found, package ∈ found ∧ ((inWorkspaces root none host).1 = .ok found ∨
    (inSubdirectories root none host).1 = .ok found)

theorem IsOffered.namesReact {package : Package} {root : Path} {host : Host}
    (hoffered : package.IsOffered root host) : package.NamesReact host := by
  obtain ⟨found, hmem, hfound | hfound⟩ := hoffered
  · exact gives_inWorkspaces root none host found hfound package hmem
  · exact gives_inSubdirectories root none host found hfound package hmem

end Package

/-! ### What a run makes of them -/

namespace Cli

variable {options : Options} {runtime : RuntimeSettings} {lint deadCode : Option (List String)}
  {first : Tool} {directory resolved : Path} {settings : Option Settings} {paths : List String}
  {project : Project} {host : Host}

/-- A project that is scanned ends the run for want of React exactly when React is not declared for
it. -/
theorem comesTo_noReact_iff (hsettings : (Settings.load directory host).1 = .ok settings)
    (hscope : (scopePaths directory (.resolve options.diff settings) options.score host).1 =
      .ok (some paths))
    (hresolved : (Run.resolve directory host).1 = .ok resolved)
    (hproject : (Project.discover resolved none host).1 = .ok project) :
    ComesTo options runtime (Checks.inOrder lint deadCode first) directory host (.fatal .noReact) ↔
      ¬ DeclaresReact host resolved := by
  have hdeclares := Project.react_iff hproject
  rw [Option.getD_none] at hdeclares
  rw [← hdeclares, Bool.not_eq_true]
  constructor
  · intro hcomes
    generalize hverdict : Verdict.fatal .noReact = verdict at hcomes
    cases hcomes with
    | untouched => cases hverdict
    | scanned => cases hverdict
    | fatal hloaded hlimited hbegun hscan =>
      cases hverdict
      obtain ⟨place, -, -, found, -, hplace, -, hfound, hreact⟩ :=
        Prospect.fst_ofScan_eq_noReact.1 (fst_ofScan_of_reported hscan rfl)
      have hsurface := Host.surface_eq_of_machine_eq hbegun
      rw [(IsQuestion.resolve _).reads hsurface, hresolved] at hplace
      cases hplace
      replace hfound : (Project.discover resolved none _).1 = .ok found := hfound
      rw [(Project.isQuestion_discover _ _).reads hsurface, hproject] at hfound
      cases hfound
      exact hreact
  · intro hreact
    have hfault : (Prospect.ofScan directory (scanOptions options paths) (some runtime)
        (.given settings) host).1 = .error .noReact :=
      Prospect.fst_ofScan_eq_noReact.2
        ⟨resolved, runtime, settings, project, rfl, hresolved, rfl, hproject, hreact⟩
    refine .fatal hsettings hscope rfl ?_ rfl
    rw [fst_scan]
    exact congrArg (Except.bind · _) hfault

end Cli

/-- A package that is offered has a manifest that names React or a framework that brings it along.
That is not what a scan asks for: discovery finds React for it exactly when something is given for
`react` itself, and a run that scans the package ends there for want of React when nothing is. -/
theorem react_of_isOffered {package : Package} {root : Path} {host : Host}
    (hoffered : package.IsOffered root host) :
    package.NamesReact host ∧
    (∀ project, (Project.discover package.directory none host).1 = .ok project →
      (project.react.any (·.isTruthy) = true ↔ DeclaresReact host package.directory)) ∧
    ∀ (options : Cli.Options) runtime lint deadCode first mid settings paths resolved project,
      (Settings.load package.directory mid).1 = .ok settings →
      (Cli.scopePaths package.directory (.resolve options.diff settings) options.score mid).1 =
        .ok (some paths) →
      (Run.resolve package.directory mid).1 = .ok resolved →
      (Project.discover resolved none mid).1 = .ok project →
      (Cli.ComesTo options runtime (Checks.inOrder lint deadCode first) package.directory mid
          (.fatal .noReact) ↔ ¬ DeclaresReact mid resolved) := by
  refine ⟨hoffered.namesReact, fun project hproject => ?_, ?_⟩
  · have hdeclares := Project.react_iff hproject
    rwa [Option.getD_none] at hdeclares
  intro options runtime lint deadCode first mid settings paths resolved project hsettings hscope
    hresolved hproject
  exact Cli.comesTo_noReact_iff hsettings hscope hresolved hproject

/-- A workspace with a package for the web and one for the phone, each of which names its framework
and leaves React to it. -/
def Host.withFrameworks : Host :=
  { Host.ofProject "" (fun _ => .unavailable) (fun _ _ _ => .hangs) with
    tree := .directory [
      ("package.json", .file (.text "\x7b\"workspaces\":[\"admin\",\"app\"]\x7d")),
      ("admin", .directory [("package.json",
        .file (.text "\x7b\"dependencies\":\x7b\"next\":\"15\"\x7d\x7d"))]),
      ("app", .directory [("package.json",
        .file (.text "\x7b\"dependencies\":\x7b\"react-native\":\"0.76\"\x7d\x7d"))])] }

theorem Host.isOffered_withFrameworks : ∃ package : Package,
    package.directory = ⟨.root, ["admin"]⟩ ∧ package.IsOffered .root Host.withFrameworks := by
  obtain ⟨found, hfound, hany⟩ := exists_eq_ok_of_any
    (show (Package.inWorkspaces .root none Host.withFrameworks).1.toOption.any
      (·.any (·.directory == ⟨.root, ["admin"]⟩)) = true by decide +kernel)
  obtain ⟨package, hmem, hdirectory⟩ := List.any_eq_true.1 hany
  exact ⟨package, eq_of_beq hdirectory, found, hmem, .inl hfound⟩

theorem Host.discover_withFrameworks : ∃ project,
    (Project.discover ⟨.root, ["admin"]⟩ none Host.withFrameworks).1 = .ok project ∧
      project.react = none := by
  obtain ⟨project, hproject, hnone⟩ := exists_eq_ok_of_any
    (show (Project.discover ⟨.root, ["admin"]⟩ none Host.withFrameworks).1.toOption.any
      (·.react.isNone) = true by decide +kernel)
  exact ⟨project, hproject, Option.isNone_iff_eq_none.1 hnone⟩

/-- The first package of the workspace is offered and ends a run, though it names a framework. -/
theorem comesTo_withFrameworks : ∃ package : Package,
    package.IsOffered .root Host.withFrameworks ∧ package.NamesReact Host.withFrameworks ∧
    ¬ DeclaresReact Host.withFrameworks package.directory ∧
    Cli.ComesTo { (default : Cli.Options) with score := true } default
      (Checks.inOrder (some ["oxlint"]) (some ["knip"]) .linter) package.directory
      Host.withFrameworks (.fatal .noReact) := by
  obtain ⟨package, hdirectory, hoffered⟩ := Host.isOffered_withFrameworks
  obtain ⟨project, hproject, hreact⟩ := Host.discover_withFrameworks
  obtain ⟨settings, hsettings, hnone⟩ := exists_eq_ok_of_any
    (show (Settings.load ⟨.root, ["admin"]⟩ Host.withFrameworks).1.toOption.any (·.isNone) = true by
      decide +kernel)
  obtain rfl := Option.isNone_iff_eq_none.1 hnone
  rw [← hdirectory] at hproject hsettings
  have hresolved : (Run.resolve package.directory Host.withFrameworks).1 =
      .ok package.directory := by
    rw [hdirectory]
    rfl
  obtain ⟨hnames, hfinds, hends⟩ := react_of_isOffered hoffered
  have hdeclares : ¬ DeclaresReact Host.withFrameworks package.directory := by
    rw [← hfinds project hproject, hreact]
    decide
  exact ⟨package, hoffered, hnames, hdeclares,
    (hends _ _ _ _ _ _ _ [] _ _ hsettings rfl hresolved hproject).2 hdeclares⟩

/-- Discovery finds no React for a package that is offered, and a run through all the packages of
the workspace ends at the first one. -/
theorem run_withFrameworks : ∃ (package : Package) (project : Project) (after : Host),
    package.IsOffered .root Host.withFrameworks ∧
    (Project.discover package.directory none Host.withFrameworks).1 = .ok project ∧
    project.react.any (·.isTruthy) = false ∧
    Cli.run ["-y", "--score"] .usual Host.withFrameworks = (.ok 1, after) ∧
    after.output = "✗ No React dependency found in package.json\n" := by
  obtain ⟨package, hdirectory, hoffered⟩ := Host.isOffered_withFrameworks
  obtain ⟨project, hproject, hreact⟩ := Host.discover_withFrameworks
  obtain ⟨status, after, hrun, hends⟩ := Run.exists_of_returnsWith
    (show (Cli.run ["-y", "--score"] .usual).returnsWith Host.withFrameworks
      (fun status after => status == 1 &&
        after.output == "✗ No React dependency found in package.json\n") = true by decide +kernel)
  obtain ⟨rfl, houtput⟩ : status = 1 ∧
      after.output = "✗ No React dependency found in package.json\n" := by simpa using hends
  exact ⟨package, project, after, hoffered, hdirectory ▸ hproject, by rw [hreact]; rfl, hrun, houtput⟩

end Checkup
