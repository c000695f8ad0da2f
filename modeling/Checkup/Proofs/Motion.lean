import Checkup.Proofs.Remainder
import Checkup.Proofs.Switches

/-!
# Which manifest the built-in check judges

The built-in check asks two things: whether a manifest names a library that moves things, and
whether git finds a mention of reduced motion. Both are asked about the directory that is scanned. A
project that is described by the manifest of another directory is not judged by that manifest, which
matters when only one of the two names a library and git finds no mention.
-/

namespace Checkup

namespace ReducedMotion

variable {host mid : Host} {directory root : Path}

/-- Git answers that some file in the directory mentions reduced motion. -/
def IsMentioned (host : Host) (directory : Path) : Prop :=
  ∃ output, host.surroundings.git directory search = .finished 0 output

theorem namesLibrary_iff : NamesLibrary host directory ↔
    (Manifest.isIn directory host).1.toOption = some true ∧
      (Manifest.readIn directory host).1.toOption.any isNeeded = true := by
  have htoOption {α : Type} {result : Except Fault α} {a : α} :
      result.toOption = some a ↔ result = .ok a := by
    cases result <;> simp [Except.toOption]
  simp only [NamesLibrary, Option.any_eq_true, htoOption, isNeeded_iff]

instance : Decidable (NamesLibrary host directory) :=
  decidable_of_iff' _ namesLibrary_iff

theorem isMentioned_iff :
    IsMentioned host directory ↔
      Git.verdict? (host.surroundings.git directory search) = some true := by
  unfold IsMentioned Git.verdict?
  split <;> simp_all

instance : Decidable (IsMentioned host directory) :=
  decidable_of_iff' _ isMentioned_iff

/-- What the check adds to a scan, where one directory's manifest is judged and another directory is
searched. -/
def contribution (host : Host) (paths : List String) (judged scanned : Path) : List Diagnostic :=
  if paths = [] ∧ NamesLibrary host judged ∧ ¬IsMentioned host scanned then [finding] else []

theorem isMentioned_of_contains? {answer : Option Bool} {after : Host}
    (hanswer : Git.contains? root expression searched mid = (.ok answer, after))
    (hmid : mid.surface = host.surface) : answer = some true ↔ IsMentioned host root := by
  rw [Git.contains?_apply] at hanswer
  obtain ⟨given, hgiven, rfl⟩ := except_map_eq_ok.1 (congrArg Prod.fst hanswer)
  rw [Host.gitSays_eq_of_surface_eq hmid] at hgiven
  rw [isMentioned_iff, ← Answer.eq_of_received hgiven]
  exact .rfl

/-- The check judges the manifest of the directory that it searches. -/
theorem check_eq_contribution {own : List Diagnostic} (hown : (check root host).1 = .ok own) :
    own = contribution host [] root root := by
  have hrun : check root host = (.ok own, (check root host).2) := Prod.ext hown rfl
  obtain ⟨isThere, mid, hthere, hmid, hrun⟩ :=
    (Manifest.isQuestion_isIn root).exists_of_bind_eq_ok hrun
  have hnothing (hnames : ¬NamesLibrary host root) : [] = contribution host [] root root :=
    (if_neg fun hall => hnames hall.2.1).symm
  cases isThere with
  | false =>
    cases hrun
    exact hnothing fun hnames => nomatch hthere.symm.trans hnames.1
  | true =>
    obtain ⟨manifest, asked, hmanifest, hasked, hrun⟩ :=
      (Manifest.isQuestion_readIn root).exists_of_bind_eq_ok hrun
    rw [(Manifest.isQuestion_readIn root).reads (Host.surface_eq_of_machine_eq hmid)] at hmanifest
    cases hneeded : isNeeded manifest with
    | false =>
      rw [hneeded] at hrun
      cases hrun
      refine hnothing fun ⟨_, other, hother, hlibrary⟩ => ?_
      obtain rfl := Except.ok.inj (hmanifest.symm.trans hother)
      rw [isNeeded_iff.2 hlibrary] at hneeded
      cases hneeded
    | true =>
      have hnames : NamesLibrary host root := ⟨hthere, manifest, hmanifest, isNeeded_iff.1 hneeded⟩
      rw [hneeded] at hrun
      obtain ⟨answer, after, hanswer, hrun⟩ := Run.bind_eq_ok.1 hrun
      have hmentioned := isMentioned_of_contains? hanswer
        (Host.surface_eq_of_machine_eq (hasked.trans hmid))
      split at hrun
      case isTrue hfound =>
        cases hrun
        exact (if_neg fun hall => hall.2.2 (hmentioned.1 (eq_of_beq hfound))).symm
      case isFalse hfound =>
        cases hrun
        refine (if_pos ⟨rfl, hnames, fun hthere => hfound ?_⟩).symm
        rw [hmentioned.2 hthere]
        rfl

end ReducedMotion

/-! ### Scans -/

section Scan

open ReducedMotion

variable {lint deadCode : Option (List String)} {first : Tool} {directory : Path}
  {options : ScanOptions} {runtime : Option RuntimeSettings} {source : SettingsSource}
  {prospect : Prospect} {host : Host} {r : ScanResult}

theorem finding_notMem_outcome (tool : Tool) :
    finding ∉ ((Checks.inOrder lint deadCode first).outcome prospect tool host).diagnostics := by
  intro hmem
  cases tool with
  | linter =>
    obtain ⟨file, hcomponent, hfile⟩ := (Checks.isOfEntry_of_mem_outcome _ hmem).exists_file
    obtain rfl : Manifest.fileName = file := Json.text.inj hfile
    exact absurd hcomponent (by decide)
  | deadCode =>
    obtain ⟨file, issue, names, line, column, hissue⟩ := Checks.isAbout_of_mem_outcome _ hmem
    have hplugin : "react-doctor" = DeadCode.toolName := congrArg Diagnostic.plugin hissue
    exact absurd hplugin (by decide)

/-- What the built-in check adds to a scan; a limited one leaves it out. -/
theorem Prospect.own_eq_contribution {own : List Diagnostic}
    (hown : (prospect.own host).1 = .ok own) :
    own = contribution host prospect.plan.paths prospect.directory prospect.directory := by
  unfold Prospect.own ScanPlan.isLimited at hown
  cases hpaths : prospect.plan.paths with
  | nil =>
    rw [hpaths] at hown
    exact check_eq_contribution hown
  | cons path rest =>
    rw [hpaths] at hown
    cases hown
    exact (if_neg fun hall => List.cons_ne_nil _ _ hall.1).symm

/-- Which manifest is judged makes no difference in a limited scan, where reduced motion is
mentioned, and where both manifests name a library or neither does. -/
theorem contribution_eq_iff {paths : List String} {judged other scanned : Path} :
    contribution host paths judged scanned = contribution host paths other scanned ↔
      (paths = [] → ¬IsMentioned host scanned →
        (NamesLibrary host judged ↔ NamesLibrary host other)) := by
  unfold contribution
  by_cases hpaths : paths = [] <;> by_cases hmentioned : IsMentioned host scanned <;>
    by_cases hjudged : NamesLibrary host judged <;> by_cases hother : NamesLibrary host other <;>
    simp [hpaths, hmentioned, hjudged, hother]

/-- Whatever the tools come to, the findings of a scan are theirs and then what the built-in check
adds, as far as the settings leave them. It judges the manifest in the scanned directory, so what it
adds is what the manifest that describes the project calls for only where the two manifests agree
about libraries, reduced motion is mentioned, or the scan is a limited one. -/
theorem diagnostics_eq_kept_contribution
    (hscan : (scan directory options runtime (Checks.inOrder lint deadCode first) source host).1 =
      .ok r) :
    ∃ prospect tools,
      (Prospect.ofScan directory options runtime source host).1 = .ok prospect ∧
      tools = ((Checks.inOrder lint deadCode first).outcome prospect .linter host).diagnostics ++
        ((Checks.inOrder lint deadCode first).outcome prospect .deadCode host).diagnostics ∧
      finding ∉ tools ∧
      r.diagnostics = Suppression.kept prospect.settings (tools ++
        contribution host options.paths prospect.directory prospect.directory) ∧
      (contribution host options.paths prospect.directory prospect.directory =
          contribution host options.paths (options.manifest.getD prospect.directory)
            prospect.directory ↔
        (options.paths = [] → ¬IsMentioned host prospect.directory →
          (NamesLibrary host prospect.directory ↔
            NamesLibrary host (options.manifest.getD prospect.directory)))) := by
  obtain ⟨prospect, own, found, hprospect, hown, hfound, rfl⟩ := fst_scan_eq_ok.1 hscan
  obtain ⟨left, hleft, rfl⟩ := except_map_eq_ok.1 hfound
  have hpaths : prospect.plan.paths = options.paths :=
    congrArg ScanPlan.paths (Prospect.plan_eq hprospect)
  refine ⟨prospect, _, hprospect, rfl, ?_, ?_, contribution_eq_iff⟩
  · rw [List.mem_append]
    exact fun hmem => hmem.elim (finding_notMem_outcome .linter) (finding_notMem_outcome .deadCode)
  · rw [← hpaths, ← Prospect.own_eq_contribution hown]
    exact unsuppressed_eq_ok (except_mapError_eq_ok.1 hleft)

end Scan

/-- Two packages that use React, of which the first one also uses a library that moves things. Git
does not answer. -/
def Host.withTwoManifests : Host :=
  { ofProject "" (fun _ => .unavailable) fun _ _ _ => .hangs with
    tree := .directory [
      ("app", .directory [("package.json", .file (.text
        "\x7b\"dependencies\":\x7b\"react\":\"19\",\"gsap\":\"3\"\x7d\x7d"))]),
      ("src", .directory [("package.json", .file (.text reactManifest))])] }

/-- A scan without the tools, of a project that is described in another directory. -/
def ScanOptions.describedIn (manifest : Path) : ScanOptions :=
  { lint := some false, deadCode := some false, manifest := some manifest }

/-- A library that only the scanned directory's manifest names is found fault with. -/
theorem finding_mem_withTwoManifests : ∃ r,
    (scan ⟨.root, ["app"]⟩ (.describedIn ⟨.root, ["src"]⟩) none (Checks.inOrder none none .linter)
      (.given none) Host.withTwoManifests).1 = .ok r ∧
    ReducedMotion.finding ∈ r.diagnostics ∧
    ¬ReducedMotion.NamesLibrary Host.withTwoManifests ⟨.root, ["src"]⟩ := by
  obtain ⟨r, hscan⟩ := exists_eq_ok_of_isOk
    (show (scan ⟨.root, ["app"]⟩ (.describedIn ⟨.root, ["src"]⟩) none
      (Checks.inOrder none none .linter) (.given none) Host.withTwoManifests).1.isOk = true by
        decide +kernel)
  obtain ⟨p, hp, hknown⟩ := exists_eq_ok_of_any
    (show (Prospect.ofScan ⟨.root, ["app"]⟩ (.describedIn ⟨.root, ["src"]⟩) none (.given none)
      Host.withTwoManifests).1.toOption.any
        (fun p => p.directory == ⟨.root, ["app"]⟩ && p.settings.isNone) = true by decide +kernel)
  obtain ⟨prospect, tools, hprospect, -, -, hdiagnostics, -⟩ :=
    diagnostics_eq_kept_contribution hscan
  obtain rfl := Except.ok.inj (hp.symm.trans hprospect)
  obtain ⟨hdirectory, hsettings⟩ := Bool.and_eq_true_iff.1 hknown
  have hadds : ReducedMotion.contribution Host.withTwoManifests []
      ⟨.root, ["app"]⟩ ⟨.root, ["app"]⟩ = [ReducedMotion.finding] :=
    if_pos ⟨rfl, by decide +kernel, by decide +kernel⟩
  refine ⟨r, hscan, ?_, by decide +kernel⟩
  rw [hdiagnostics, eq_of_beq hdirectory, Option.isNone_iff_eq_none.1 hsettings]
  rw [Suppression.kept_of_eq_nil rfl rfl]
  exact List.mem_append_right _ (hadds ▸ List.mem_singleton_self _)

/-- A library that only the manifest of the project names is not found fault with, though git finds
no mention of reduced motion. -/
theorem scan_withTwoManifests : ∃ r,
    (scan ⟨.root, ["src"]⟩ (.describedIn ⟨.root, ["app"]⟩) none (Checks.inOrder none none .linter)
      (.given none) Host.withTwoManifests).1 = .ok r ∧
    r.diagnostics = [] ∧
    ReducedMotion.NamesLibrary Host.withTwoManifests ⟨.root, ["app"]⟩ ∧
    ¬ReducedMotion.IsMentioned Host.withTwoManifests ⟨.root, ["src"]⟩ := by
  obtain ⟨r, hscan, hnone⟩ := exists_eq_ok_of_any
    (show (scan ⟨.root, ["src"]⟩ (.describedIn ⟨.root, ["app"]⟩) none
      (Checks.inOrder none none .linter) (.given none) Host.withTwoManifests).1.toOption.any
        (·.diagnostics.isEmpty) = true by decide +kernel)
  exact ⟨r, hscan, List.isEmpty_iff.1 hnone, by decide +kernel, by decide +kernel⟩

end Checkup
