import Checkup.Proofs.Offers

/-!
# Projects that are asked for by name

A run that is given names takes a project for each of them, or ends for want of one (`Heeds`). That
holds only where there is something to name: without packages the names are not looked at, a list of
blanks and commas takes nothing, and the message about a missing project needs every package to have a
text for a name. Where the names are heeded, the exit status can be relied on: a run that ends with
zero has scanned each project that was named, or found nothing in it that changed.
-/

namespace Checkup

open Run (IsUnreported)

/-! ### Faults of the listing -/

namespace Package

theorem isUnreported_reactAmong (directories : List Path) :
    IsUnreported (reactAmong directories) := by
  induction directories with
  | nil => exact .pure _
  | cons directory rest ih =>
    exact .bind (Manifest.isUnreported_readIn _) fun _ => .bind ih fun _ => .ite (.pure _) (.pure _)

theorem isUnreported_reactInPatterns (root : Path) (patterns : List String) :
    IsUnreported (reactInPatterns root patterns) := by
  induction patterns with
  | nil => exact .pure _
  | cons pattern rest ih =>
    refine .bind (Workspace.isUnreported_directories _ _) fun _ => ?_
    exact .bind (isUnreported_reactAmong _) fun _ => .bind ih fun _ => .pure _

theorem isUnreported_inWorkspaces (root : Path) (manifestDirectory : Option Path) :
    IsUnreported (inWorkspaces root manifestDirectory) := by
  refine .bind (Manifest.isUnreported_isIn _) fun _ => .ite (.pure _) ?_
  refine .bind (Manifest.isUnreported_readIn _) fun _ => ?_
  exact .bind (Workspace.isUnreported_patterns _ _) fun _ => isUnreported_reactInPatterns _ _

theorem isUnreported_reactIn? (directory : Path) : IsUnreported (reactIn? directory) := by
  refine .bind (Manifest.isUnreported_isIn _) fun _ => .ite ?_ (.pure _)
  exact .bind (Manifest.isUnreported_readIn _) fun _ => .ite (.pure _) (.pure _)

theorem isUnreported_reactInEntries (directory : Path) (names : List String) :
    IsUnreported (reactInEntries directory names) := by
  induction names with
  | nil => exact .pure _
  | cons name rest ih =>
    refine .bind (.isDirectory _) fun _ => .ite ih ?_
    exact .bind (isUnreported_reactIn? _) fun _ => .bind ih fun _ => .pure _

theorem isUnreported_inSubdirectories (root : Path) (manifestDirectory : Option Path) :
    IsUnreported (inSubdirectories root manifestDirectory) := by
  refine .bind (.isDirectory _) fun _ => .ite (.pure _) ?_
  refine .bind (isUnreported_reactIn? _) fun _ => .bind (.listNames _) fun _ => ?_
  exact .bind (isUnreported_reactInEntries _ _) fun _ => .pure _

def IsCalled (package : Package) (name : String) : Prop :=
  package.name = .text name ∨ package.directory.name = name

end Package

theorem exists_of_except_mapM_eq_error {ε α β : Type} {f : α → Except ε β} {items : List α} {fault : ε}
    (hfault : items.mapM f = .error fault) : ∃ item ∈ items, f item = .error fault := by
  induction items with
  | nil => cases hfault
  | cons item rest ih =>
    rw [List.mapM_cons] at hfault
    cases hitem : f item with
    | error found =>
      rw [hitem] at hfault
      cases hfault
      exact ⟨item, List.mem_cons_self, hitem⟩
    | ok b =>
      rw [hitem] at hfault
      cases hrest : rest.mapM f with
      | error found =>
        dsimp only [bind, Except.bind] at hfault
        rw [hrest] at hfault
        cases hfault
        obtain ⟨other, hmem, hother⟩ := ih hrest
        exact ⟨other, List.mem_cons_of_mem _ hmem, hother⟩
      | ok others =>
        dsimp only [bind, Except.bind] at hfault
        rw [hrest] at hfault
        cases hfault

namespace Cli

variable {root : Path} {list name : String} {host : Host} {packages : List Package}
  {directories : List Path} {directory : Path}

theorem isUnreported_candidates (root : Path) : IsUnreported (candidates root) :=
  .bind (Package.isUnreported_inWorkspaces _ _) fun _ =>
    .ite (Package.isUnreported_inSubdirectories _ _) (.pure _)

/-! ### One name -/

theorem isMeant_iff {package : Package} : isMeant name package = true ↔ package.IsCalled name := by
  unfold isMeant Package.IsCalled
  rw [Bool.or_eq_true, Json.isText_iff, beq_iff_eq]

/-- The message about a missing project can be worded when every package has a text for a name. -/
theorem exists_availableNames_eq_ok (place : Nat) :
    (∃ names, availableNames place packages = .ok names) ↔
      ∀ package ∈ packages, ∃ name, package.name = .text name := by
  induction packages generalizing place with
  | nil => exact ⟨fun _ => nofun, fun _ => ⟨[], rfl⟩⟩
  | cons package rest ih =>
    rw [List.forall_mem_cons, ← ih (place + 1), availableNames]
    split
    · rename_i name hname
      constructor
      · rintro ⟨names, hnames⟩
        obtain ⟨others, hothers, -⟩ := except_bind_eq_ok.1 hnames
        exact ⟨⟨name, hname⟩, others, hothers⟩
      · rintro ⟨-, others, hothers⟩
        exact ⟨name :: others, except_bind_eq_ok.2 ⟨others, hothers, rfl⟩⟩
    · rename_i hother
      refine ⟨nofun, ?_⟩
      rintro ⟨⟨name, hname⟩, -⟩
      exact absurd hname (hother name)

theorem exists_of_directoryOf_eq_ok (hfound : directoryOf packages name = .ok directory) :
    ∃ package ∈ packages, package.IsCalled name ∧ package.directory = directory := by
  unfold directoryOf at hfound
  cases hfind : packages.find? (isMeant name) with
  | none =>
    rw [hfind] at hfound
    dsimp only at hfound
    split at hfound <;> cases hfound
  | some package =>
    rw [hfind] at hfound
    cases hfound
    exact ⟨package, List.mem_of_find?_eq_some hfind, isMeant_iff.1 (List.find?_some hfind), rfl⟩

theorem exists_directoryOf_eq_ok :
    (∃ directory, directoryOf packages name = .ok directory) ↔
      ∃ package ∈ packages, package.IsCalled name := by
  constructor
  · rintro ⟨directory, hfound⟩
    obtain ⟨package, hmem, hcalled, -⟩ := exists_of_directoryOf_eq_ok hfound
    exact ⟨package, hmem, hcalled⟩
  · rintro ⟨package, hmem, hcalled⟩
    have hsome : (packages.find? (isMeant name)).isSome = true :=
      List.find?_isSome.2 ⟨package, hmem, isMeant_iff.2 hcalled⟩
    obtain ⟨found, hfind⟩ := Option.isSome_iff_exists.1 hsome
    refine ⟨found.directory, ?_⟩
    unfold directoryOf
    rw [hfind]

/-- A name that finds nothing is reported as missing when that can be worded. -/
theorem directoryOf_eq_error {fault : Fault} (hfault : directoryOf packages name = .error fault) :
    (∃ missing available, fault = .noSuchProject missing available) ↔
      ∀ package ∈ packages, ∃ name, package.name = .text name := by
  rw [← exists_availableNames_eq_ok 0]
  unfold directoryOf at hfault
  split at hfault
  · cases hfault
  · split at hfault
    · rename_i names hnames
      cases hfault
      exact ⟨fun _ => ⟨names, hnames⟩, fun _ => ⟨_, _, rfl⟩⟩
    · rename_i found hfound
      cases hfault
      constructor
      · rintro ⟨missing, available, ⟨⟩⟩
      · rintro ⟨names, hnames⟩
        cases hfound.symm.trans hnames

/-! ### All names -/

/-- The names are heeded: the choice ends for want of a project of one of the names, or it takes
some of the packages that are listed, none that is not named, and one for each name. -/
inductive Heeds (root : Path) (list : String) (host : Host) : Prop
  | missing {name available : String}
      (hselect : (selectProjects root (some list) false host).1 =
        .error (.noSuchProject name available))
  | taken {packages : List Package} {directories : List Path}
      (hcandidates : (candidates root host).1 = .ok packages)
      (hselect : (selectProjects root (some list) false host).1 = .ok directories)
      (hsome : directories ≠ [])
      (hnamed : ∀ directory ∈ directories, ∃ package ∈ packages, package.directory = directory ∧
        ∃ name ∈ namesIn list, package.IsCalled name)
      (heach : ∀ name ∈ namesIn list, ∃ package ∈ packages, package.IsCalled name ∧
        package.directory ∈ directories)

theorem fst_selectProjects_of_names (hlist : list ≠ "") :
    (selectProjects root (some list) false host).1 = (do
      let packages ← (candidates root host).1
      if packages.isEmpty then return [root] else requested list packages) := by
  have hnames : (some list).filter (· != "") = some list := by simpa using hlist
  unfold selectProjects
  rw [hnames]
  refine ((isQuestion_candidates root).fst_bind (fun packages => .ite (.pure _) ?_) host).trans ?_
  · dsimp only
    cases requested list packages with
    | ok directories => exact .pure _
    | error fault => exact .throw _
  · refine congrArg (Except.bind _) (funext fun packages => ?_)
    cases packages with
    | nil => rfl
    | cons package rest =>
      dsimp only [List.isEmpty_cons]
      rw [if_neg (by simp), if_neg (by simp)]
      cases requested list (package :: rest) <;> rfl

theorem fst_selectProjects_of_packages (hlist : list ≠ "")
    (hcandidates : (candidates root host).1 = .ok packages) (hpackages : packages ≠ []) :
    (selectProjects root (some list) false host).1 = requested list packages := by
  rw [fst_selectProjects_of_names hlist, hcandidates]
  dsimp only [bind, Except.bind]
  rw [if_neg (by simpa using hpackages)]

/-- The names find something to choose from, and each finds a package, or its absence can be
reported. -/
theorem heeds_of_packages (hlist : list ≠ "")
    (hcandidates : (candidates root host).1 = .ok packages) (hpackages : packages ≠ [])
    (hnames : namesIn list ≠ [])
    (hworded : (∀ name ∈ namesIn list, ∃ package ∈ packages, package.IsCalled name) ∨
      ∀ package ∈ packages, ∃ name, package.name = .text name) : Heeds root list host := by
  have hselect := fst_selectProjects_of_packages hlist hcandidates hpackages
  cases hrequested : requested list packages with
  | error fault =>
    obtain ⟨name, hname, hfault⟩ := exists_of_except_mapM_eq_error hrequested
    have htexts : ∀ package ∈ packages, ∃ name, package.name = .text name := by
      apply hworded.resolve_left
      intro hall
      obtain ⟨directory, hfound⟩ := exists_directoryOf_eq_ok.2 (hall name hname)
      cases hfound.symm.trans hfault
    obtain ⟨missing, available, rfl⟩ := (directoryOf_eq_error hfault).2 htexts
    exact .missing (hselect.trans hrequested)
  | ok directories =>
    have hmap := except_mapM_eq_ok.1 hrequested
    refine .taken hcandidates (hselect.trans hrequested) ?_ (fun directory hmem => ?_)
      fun name hname => ?_
    · rintro rfl
      exact hnames (List.map_eq_nil_iff.1 hmap)
    · have htaken : .ok directory ∈ (namesIn list).map (directoryOf packages) := by
        rw [hmap]
        exact List.mem_map_of_mem hmem
      obtain ⟨name, hname, hfound⟩ := List.mem_map.1 htaken
      obtain ⟨package, hpackage, hcalled, hdirectory⟩ := exists_of_directoryOf_eq_ok hfound
      exact ⟨package, hpackage, hdirectory, name, hname, hcalled⟩
    · have hfound : directoryOf packages name ∈ directories.map .ok := by
        rw [← hmap]
        exact List.mem_map_of_mem hname
      obtain ⟨directory, hmem, hdirectory⟩ := List.mem_map.1 hfound
      obtain ⟨package, hpackage, hcalled, rfl⟩ := exists_of_directoryOf_eq_ok hdirectory.symm
      exact ⟨package, hpackage, hcalled, hmem⟩

theorem Heeds.exists_packages (hlist : list ≠ "") (hheeds : Heeds root list host) :
    ∃ packages, (candidates root host).1 = .ok packages ∧ packages ≠ [] ∧ namesIn list ≠ [] ∧
      ((∀ name ∈ namesIn list, ∃ package ∈ packages, package.IsCalled name) ∨
        ∀ package ∈ packages, ∃ name, package.name = .text name) := by
  cases hheeds with
  | missing hselect =>
    rw [fst_selectProjects_of_names hlist] at hselect
    obtain ⟨packages, hcandidates, hselect⟩ :=
      (isUnreported_candidates root host).exists_of_bind rfl hselect
    cases packages with
    | nil => cases hselect
    | cons package rest =>
      rw [if_neg (by simp)] at hselect
      obtain ⟨name, hname, hfault⟩ := exists_of_except_mapM_eq_error hselect
      exact ⟨_, hcandidates, by simp, List.ne_nil_of_mem hname,
        .inr ((directoryOf_eq_error hfault).1 ⟨_, _, rfl⟩)⟩
  | @taken packages directories hcandidates hselect hsome hnamed heach =>
    have hpackages : packages ≠ [] := by
      rintro rfl
      obtain ⟨directory, hmem⟩ := List.exists_mem_of_ne_nil _ hsome
      obtain ⟨package, hpackage, -⟩ := hnamed directory hmem
      cases hpackage
    refine ⟨packages, hcandidates, hpackages, fun hnone => ?_, .inl fun name hname => ?_⟩
    · obtain ⟨directory, hmem⟩ := List.exists_mem_of_ne_nil _ hsome
      obtain ⟨-, -, -, name, hname, -⟩ := hnamed directory hmem
      rw [hnone] at hname
      cases hname
    · obtain ⟨package, hpackage, hcalled, -⟩ := heach name hname
      exact ⟨package, hpackage, hcalled⟩

/-! ### The gate -/

section Gate

variable {options : Options} {runtime : RuntimeSettings} {checks : Checks} {after : Host}
  {verdicts : List Verdict}

/-- Where no verdict fails the run, each project was gone through and passes. -/
theorem Handled.passes (hhandled : Handled options runtime checks host directories verdicts after)
    (hpass : verdicts.any Verdict.fails = false) : ∀ directory ∈ directories, ∃ mid verdict,
      ComesTo options runtime checks directory mid verdict ∧ verdict.fails = false := by
  induction hhandled with
  | done host => exact nofun
  | next hcomes hgoes hrest ih =>
    rw [List.any_cons, Bool.or_eq_false_iff] at hpass
    exact List.forall_mem_cons.2 ⟨⟨_, _, hcomes, hpass.1⟩, ih hpass.2⟩
  | @stopped directory rest verdict host hcomes hstops =>
    cases verdict with
    | fatal fault => cases hpass
    | untouched => cases hstops
    | scanned found level => cases hstops

theorem Concluded.passes (hconcluded : Concluded options runtime checks root host 0 after) :
    ∃ directories, (selectProjects root options.project false host).1 = .ok directories ∧
      ∀ directory ∈ directories, ∃ mid verdict,
        ComesTo options runtime checks directory mid verdict ∧ verdict.fails = false := by
  cases hconcluded with
  | unchosen _ _ hstatus _ => cases hstatus
  | @handled directories begun ended verdicts hchoice hbegun hhandled hended hstatus =>
    refine ⟨directories, hchoice, hhandled.passes (Bool.eq_false_iff.2 fun hfails => ?_)⟩
    rw [hfails] at hstatus
    cases hstatus

theorem isOffered_of_candidates (hcandidates : (candidates root host).1 = .ok packages)
    {package : Package} (hmem : package ∈ packages) : package.IsOffered root host := by
  obtain ⟨workspaces, hworkspaces, hcandidates⟩ :=
    ((Package.isQuestion_inWorkspaces root none).fst_bind_eq_ok fun _ =>
      .ite (Package.isQuestion_inSubdirectories _ _) (.pure _)).1 hcandidates
  split at hcandidates
  · exact ⟨packages, hmem, .inr hcandidates⟩
  · cases hcandidates
    exact ⟨packages, hmem, .inl hworkspaces⟩

/-- Names are heeded exactly where there are packages to choose from, the list has a name that is not
blank, and either all names are found or every package has a text for a name. Where they are, a run
with these names that ends with zero has come to each project that is named, and either scanned it and
found nothing that fails the run, or found nothing in it that has changed. -/
theorem heeds_iff (hlist : list ≠ "") :
    (Heeds root list host ↔ ∃ packages, (candidates root host).1 = .ok packages ∧ packages ≠ [] ∧
      namesIn list ≠ [] ∧
      ((∀ name ∈ namesIn list, ∃ package ∈ packages, package.IsCalled name) ∨
        ∀ package ∈ packages, ∃ name, package.name = .text name)) ∧
    (Heeds root list host → ∀ options runtime checks after, options.project = some list →
      Concluded options runtime checks root host 0 after →
      namesIn list ≠ [] ∧ ∀ name ∈ namesIn list, ∃ package : Package,
        package.IsOffered root host ∧ package.IsCalled name ∧ ∃ mid verdict,
          ComesTo options runtime checks package.directory mid verdict ∧ verdict.fails = false) := by
  refine ⟨⟨Heeds.exists_packages hlist, ?_⟩, ?_⟩
  · rintro ⟨packages, hcandidates, hpackages, hnames, hworded⟩
    exact heeds_of_packages hlist hcandidates hpackages hnames hworded
  intro hheeds options runtime checks after hproject hconcluded
  obtain ⟨-, -, -, hnames, -⟩ := hheeds.exists_packages hlist
  obtain ⟨directories, hchoice, hpasses⟩ := hconcluded.passes
  rw [hproject] at hchoice
  refine ⟨hnames, fun name hname => ?_⟩
  cases hheeds with
  | missing hselect => cases hchoice.symm.trans hselect
  | taken hcandidates hselect hsome hnamed heach =>
    obtain rfl := Except.ok.inj (hchoice.symm.trans hselect)
    obtain ⟨package, hpackage, hcalled, hmem⟩ := heach name hname
    exact ⟨package, isOffered_of_candidates hcandidates hpackage, hcalled,
      hpasses package.directory hmem⟩

end Gate

end Cli

/-- A workspace root that uses React, with one workspace that does too and one that does not. -/
def Host.withLibrary : Host :=
  { ofProject "" (fun _ => .unavailable) fun _ _ _ => .hangs with
    tree := .directory [
      ("package.json", .file (.text
        "\x7b\"workspaces\":[\"ui\",\"web\"],\"dependencies\":\x7b\"react\":\"19\"\x7d\x7d")),
      ("ui", .directory [("package.json", .file (.text "\x7b\"name\":\"ui\"\x7d"))]),
      ("web", .directory [("package.json", .file (.text
        "\x7b\"name\":\"@acme/web\",\"dependencies\":\x7b\"react\":\"19\"\x7d\x7d"))])] }

namespace Cli

/-- A name of each kind, that of the package and that of its directory, is heeded, and a run with both
ends with zero. -/
theorem heeds_withLibrary : "web, @acme/web" ≠ "" ∧ Heeds .root "web, @acme/web" Host.withLibrary ∧
    ∃ options runtime after, options.project = some "web, @acme/web" ∧
      Concluded options runtime .usual .root Host.withLibrary 0 after ∧
      namesIn "web, @acme/web" ≠ [] ∧ ∀ name ∈ namesIn "web, @acme/web", ∃ package : Package,
        package.IsOffered .root Host.withLibrary ∧ package.IsCalled name ∧ ∃ mid verdict,
          ComesTo options runtime .usual package.directory mid verdict ∧ verdict.fails = false := by
  have hlist : "web, @acme/web" ≠ "" := by decide
  have hnames : namesIn "web, @acme/web" = ["web", "@acme/web"] := by decide +kernel
  obtain ⟨packages, hcandidates, htest⟩ := exists_eq_ok_of_any
    (show (candidates .root Host.withLibrary).1.toOption.any (fun packages =>
      packages.any (isMeant "web") && packages.any (isMeant "@acme/web")) = true by decide +kernel)
  rw [Bool.and_eq_true, List.any_eq_true, List.any_eq_true] at htest
  obtain ⟨⟨first, hfirst, hweb⟩, ⟨second, hsecond, hacme⟩⟩ := htest
  have hcalled : ∀ name ∈ namesIn "web, @acme/web", ∃ package ∈ packages, package.IsCalled name := by
    rw [hnames]
    exact List.forall_mem_cons.2 ⟨⟨first, hfirst, isMeant_iff.1 hweb⟩,
      List.forall_mem_singleton.2 ⟨second, hsecond, isMeant_iff.1 hacme⟩⟩
  let options : Options := { (default : Options) with
    directory := ".", project := some "web, @acme/web", score := true, lint := some false,
    deadCode := some false }
  obtain ⟨runtime, hruntime⟩ := exists_eq_ok_of_isOk
    (show (RuntimeSettings.ofHost Host.withLibrary).1.isOk = true by decide +kernel)
  have hroot : (Run.resolve (Path.ofText options.directory) Host.withLibrary).1 = .ok .root :=
    eq_ok_of_toOption (by decide +kernel)
  have hdirectory : (Run.isDirectory .root Host.withLibrary).1 = .ok true :=
    eq_ok_of_toOption (by decide +kernel)
  obtain ⟨status, after, hrun, hstatus⟩ := Run.exists_of_returnsWith
    (show (runOptions options .usual).returnsWith Host.withLibrary
      (fun status _ => status == 0) = true by decide +kernel)
  obtain rfl : status = 0 := by simpa using hstatus
  have hconcluded := concluded_of_runOptions hruntime hroot hdirectory
    (by simp [isInteractive, options]) hrun
  have hheeds : Heeds .root "web, @acme/web" Host.withLibrary := (heeds_iff hlist).1.2
    ⟨packages, hcandidates, List.ne_nil_of_mem hfirst, by simp [hnames], .inl hcalled⟩
  exact ⟨hlist, hheeds, options, runtime, after, rfl, hconcluded,
    (heeds_iff hlist).2 hheeds options runtime .usual after rfl hconcluded⟩

/-- Within the workspace that does not use React, a project is asked for that is nowhere, and the run
scans the workspace and ends with zero; below the root, a list of a comma takes nothing. -/
theorem selectProjects_withLibrary :
    (selectProjects ⟨.root, ["ui"]⟩ (some "api") false Host.withLibrary).1 =
      .ok [⟨.root, ["ui"]⟩] ∧
    ¬ Heeds ⟨.root, ["ui"]⟩ "api" Host.withLibrary ∧
    (run ["ui", "--project", "api", "--score", "--no-lint", "--no-dead-code"] .usual
      Host.withLibrary).1 = .ok 0 ∧
    (selectProjects .root (some ",") false Host.withLibrary).1 = .ok [] ∧
    ¬ Heeds .root "," Host.withLibrary := by
  have hwithin : (selectProjects ⟨.root, ["ui"]⟩ (some "api") false Host.withLibrary).1 =
      .ok [⟨.root, ["ui"]⟩] := eq_ok_of_toOption (by decide +kernel)
  have hcomma : (selectProjects .root (some ",") false Host.withLibrary).1 = .ok [] :=
    eq_ok_of_toOption (by decide +kernel)
  refine ⟨hwithin, fun hheeds => ?_, eq_ok_of_toOption (by decide +kernel), hcomma, fun hheeds => ?_⟩
  · cases hheeds with
    | missing hselect => cases hwithin.symm.trans hselect
    | taken hcandidates hselect hsome hnamed heach =>
      obtain ⟨packages, hnone, hempty⟩ := exists_eq_ok_of_any
        (show (candidates ⟨.root, ["ui"]⟩ Host.withLibrary).1.toOption.any List.isEmpty = true by
          decide +kernel)
      obtain rfl := Except.ok.inj (hnone.symm.trans hcandidates)
      rw [List.isEmpty_iff.1 hempty] at hnamed
      obtain ⟨directory, hmem⟩ := List.exists_mem_of_ne_nil _ hsome
      obtain ⟨package, hpackage, -⟩ := hnamed directory hmem
      cases hpackage
  · cases hheeds with
    | missing hselect => cases hcomma.symm.trans hselect
    | taken hcandidates hselect hsome hnamed heach =>
      exact absurd (Except.ok.inj (hcomma.symm.trans hselect)).symm hsome

end Cli

end Checkup
