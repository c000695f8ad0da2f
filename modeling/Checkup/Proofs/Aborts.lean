import Checkup.Proofs.Faults
import Checkup.Proofs.SearchOrder

/-!
# Scans that are given up

A scan is given up where there is no manifest, and where no manifest that can tell about React does.
Both are found out by asking, before the first check, and so a scan that is given up has started no
process, has waited for nothing and has written nothing.
-/

namespace Checkup

/-! ### Without a trace -/

/-- All that lies between the two hosts is questions: the files and the processes are the same, and
what the record has gained was asked of git, or is a message for the log. -/
structure Host.OnlyAsked (before after : Host) : Prop where
  tree : after.tree = before.tree
  started : after.started = before.started
  spawns : after.spawns = before.spawns
  recorded : Host.Recorded Event.isInquiry before after

section Scan

variable {lint deadCode : Option (List String)} {first : Tool} {directory : Path}
  {options : ScanOptions} {runtime : Option RuntimeSettings} {source : SettingsSource}
  {host : Host} {fault : Fault}

/-- A fault that is reported is the scan's when it is that of what the scan asks before its
checks. -/
theorem fst_scan_eq_error (hreported : fault.isReported = true) :
    (scan directory options runtime (Checks.inOrder lint deadCode first) source host).1 =
      .error fault ↔ (Prospect.ofScan directory options runtime source host).1 = .error fault := by
  refine ⟨fun hscan => fst_ofScan_of_reported hscan hreported, fun hprospect => ?_⟩
  rw [fst_scan, hprospect]
  rfl

/-- A scan that ends in a fault that is reported has not come to its checks, whatever they are. -/
theorem exists_scan_eq_error (hreported : fault.isReported = true)
    (hscan : (scan directory options runtime (Checks.inOrder lint deadCode first) source host).1 =
      .error fault) :
    ∃ after, host.OnlyAsked after ∧
      ∀ checks, scan directory options runtime checks source host = (.error fault, after) := by
  have hquestion := Prospect.isQuestion_ofScan directory options runtime source
  have hprospect := (fst_scan_eq_error hreported).1 hscan
  rw [← hquestion.reads
    (show { host with clock := host.clock.drop 1 }.surface = host.surface from rfl)] at hprospect
  have hquiet := hquestion.quiet { host with clock := host.clock.drop 1 }
  have hrecords := hquestion.records { host with clock := host.clock.drop 1 }
  rcases hasked : Prospect.ofScan directory options runtime source
    { host with clock := host.clock.drop 1 } with ⟨result, after⟩
  rw [hasked] at hprospect hquiet hrecords
  obtain rfl : result = .error fault := hprospect
  refine ⟨after, ⟨Host.tree_eq_of_surface_eq (congrArg Machine.surface hquiet),
    congrArg Machine.started hquiet, ?_, hrecords⟩, fun checks => ?_⟩
  · rw [Host.spawns_eq_deeds, Host.spawns_eq_deeds]
    exact congrArg (List.filterMap (·.spawn?)) (congrArg Machine.deeds hquiet)
  · exact (Run.bind_of_ok (Run.now_apply host)).trans (Run.bind_of_error hasked)

end Scan

/-! ### The two reasons -/

/-- Everything that discovery may ask about a project is answered; the manifests are those that can
tell about React. -/
structure Project.Answers (host : Host) (directory manifestDirectory : Path)
    (manifests : List Manifest) : Prop where
  searched : Searched host manifestDirectory manifests
  typeScript : (Run.pathExists (directory / "tsconfig.json") host).1.isOk = true
  compiler : ∀ manifest, (Manifest.readIn manifestDirectory host).1 = .ok manifest →
    (detectCompiler directory manifest host).1.isOk = true
  sourceFiles : (countSourceFiles directory host).1.isOk = true

theorem Searched.exists_readIn {host : Host} {directory : Path} {manifests : List Manifest}
    (hsearched : Searched host directory manifests) :
    ∃ manifest, (Manifest.readIn directory host).1 = .ok manifest := by
  cases hsearched with
  | root _ hown =>
    obtain ⟨hmanifest, -, -⟩ := hown
    exact ⟨_, hmanifest⟩
  | member _ hown _ =>
    obtain ⟨hmanifest, -, -⟩ := hown
    exact ⟨_, hmanifest⟩

/-- No version counts when no manifest gives anything for `react`. -/
theorem firstVersion_isTruthy_eq_false {manifests : List Manifest} :
    (firstVersion manifests).any (·.isTruthy) = false ↔
      ∀ manifest ∈ manifests, (Dependencies.ofManifest manifest).uses "react" = false := by
  unfold firstVersion Dependencies.uses
  cases hfound : (manifests.map fun manifest =>
      Json.lookup (Dependencies.ofManifest manifest) "react").find? (·.isTruthy) with
  | none => simpa using List.find?_eq_none.1 hfound
  | some version =>
    have htruthy : version.isTruthy = true := List.find?_some hfound
    obtain ⟨manifest, hmanifest, rfl⟩ := List.mem_map.1 (List.mem_of_find?_eq_some hfound)
    simp only [Option.any_some, htruthy, Bool.true_eq_false, false_iff]
    intro hnone
    rw [hnone manifest hmanifest] at htruthy
    cases htruthy

section Scan

variable {lint deadCode : Option (List String)} {first : Tool} {directory resolved : Path}
  {options : ScanOptions} {runtime : Option RuntimeSettings} {source : SettingsSource}
  {host : Host} {switches : RuntimeSettings} {settings : Option Settings} {isThere : Bool}
  {manifests : List Manifest}

/-- When all that a scan asks before its checks is answered, only the two reasons can keep it from
them. -/
theorem fst_ofScan_eq_error (fault : Fault)
    (hswitches : (RuntimeSettings.given runtime host).1 = .ok switches)
    (hresolved : (Run.resolve directory host).1 = .ok resolved)
    (hsettings : (source.settings resolved host).1 = .ok settings)
    (hthere : (Manifest.isIn (options.manifest.getD resolved) host).1 = .ok isThere)
    (hanswers : isThere = true →
      Project.Answers host resolved (options.manifest.getD resolved) manifests) :
    (Prospect.ofScan directory options runtime source host).1 = .error fault ↔
      (isThere = false ∧ fault = .noManifest (options.manifest.getD resolved)) ∨
      (isThere = true ∧ (firstVersion manifests).any (·.isTruthy) = false ∧ fault = .noReact) := by
  rw [Prospect.fst_ofScan, hswitches, hresolved]
  dsimp only [bind, Except.bind]
  rw [hsettings]
  dsimp only
  cases isThere with
  | false =>
    rw [Project.fst_discover, hthere]
    constructor
    · rintro ⟨⟩
      exact .inl ⟨rfl, rfl⟩
    · rintro (⟨-, rfl⟩ | ⟨⟨⟩, -⟩)
      rfl
  | true =>
    obtain ⟨hsearched, htypeScript, hcompiler, hsourceFiles⟩ := hanswers rfl
    obtain ⟨manifest, hmanifest⟩ := hsearched.exists_readIn
    obtain ⟨typeScript, htypeScript⟩ := exists_eq_ok_of_isOk htypeScript
    obtain ⟨compiler, hcompiler⟩ := exists_eq_ok_of_isOk (hcompiler manifest hmanifest)
    obtain ⟨sourceFiles, hsourceFiles⟩ := exists_eq_ok_of_isOk hsourceFiles
    rw [Project.fst_discover_of_searched hthere hmanifest hsearched htypeScript hcompiler
      hsourceFiles]
    dsimp only
    cases hreact : (firstVersion manifests).any (·.isTruthy) with
    | true =>
      constructor
      · rintro ⟨⟩
      · rintro (⟨⟨⟩, -⟩ | ⟨-, ⟨⟩, -⟩)
    | false =>
      constructor
      · rintro ⟨⟩
        exact .inr ⟨rfl, rfl, rfl⟩
      · rintro (⟨⟨⟩, -⟩ | ⟨-, -, rfl⟩)
        rfl

/-- A scan is given up for want of a manifest exactly where there is none, and for want of React
exactly where there is a manifest, but neither it nor its workspaces give anything for `react`, and
neither does the nearest workspace root around with its workspaces, if the directory is no such root
itself. Either way it has only asked, and would have ended so with any other checks. -/
theorem scan_aborts_iff
    (hswitches : (RuntimeSettings.given runtime host).1 = .ok switches)
    (hresolved : (Run.resolve directory host).1 = .ok resolved)
    (hsettings : (source.settings resolved host).1 = .ok settings)
    (hthere : (Manifest.isIn (options.manifest.getD resolved) host).1 = .ok isThere)
    (hanswers : isThere = true →
      Project.Answers host resolved (options.manifest.getD resolved) manifests) :
    let ended := scan directory options runtime (Checks.inOrder lint deadCode first) source host
    (∀ p, ended.1 = .error (.noManifest p) ↔
      isThere = false ∧ p = options.manifest.getD resolved) ∧
    (ended.1 = .error .noReact ↔ isThere = true ∧
      ∀ manifest ∈ manifests, (Dependencies.ofManifest manifest).uses "react" = false) ∧
    ((∃ p, ended.1 = .error (.noManifest p)) ∨ ended.1 = .error .noReact →
      host.OnlyAsked ended.2 ∧
      ∀ checks, scan directory options runtime checks source host = ended) := by
  have hfaults (fault : Fault) :=
    fst_ofScan_eq_error fault hswitches hresolved hsettings hthere hanswers
  rw [← firstVersion_isTruthy_eq_false]
  refine ⟨fun p => ?_, ?_, fun hended => ?_⟩
  · rw [fst_scan_eq_error rfl, hfaults]
    simp
  · rw [fst_scan_eq_error rfl, hfaults]
    simp
  · obtain ⟨fault, hreported, hfault⟩ : ∃ fault, fault.isReported = true ∧
        (scan directory options runtime (Checks.inOrder lint deadCode first) source host).1 =
          .error fault := by
      rcases hended with ⟨p, hfault⟩ | hfault
      · exact ⟨_, rfl, hfault⟩
      · exact ⟨_, rfl, hfault⟩
    obtain ⟨after, honly, hany⟩ := exists_scan_eq_error hreported hfault
    rw [hany]
    exact ⟨honly, hany⟩

end Scan

/-- A workspace root with one workspace, neither of which gives anything for `react`. -/
def Host.withoutReact : Host :=
  { ofProject "" (fun _ => .unavailable) fun _ _ _ => .hangs with
    tree := .directory [
      ("package.json", .file (.text "\x7b\"workspaces\":[\"ui\"]\x7d")),
      ("ui", .directory [("package.json", .file (.text "\x7b\"name\":\"ui\"\x7d"))])] }

theorem Host.answers_withoutReact : ∃ ui root,
    Project.Answers withoutReact ⟨.root, ["ui"]⟩ ⟨.root, ["ui"]⟩ ([ui] ++ [root, ui]) ∧
    ∀ manifest ∈ [ui] ++ [root, ui], (Dependencies.ofManifest manifest).uses "react" = false := by
  have hreads (directory : Path) {manifest : Manifest}
      (hmanifest : (Manifest.readIn directory withoutReact).1 = .ok manifest)
      (hunused : (Manifest.readIn directory withoutReact).1.toOption.any
        (fun found => !(Dependencies.ofManifest found).uses "react") = true) :
      (Dependencies.ofManifest manifest).uses "react" = false := by
    rw [hmanifest] at hunused
    change (!(Dependencies.ofManifest manifest).uses "react") = true at hunused
    simpa using hunused
  obtain ⟨ui, hui, hown⟩ : ∃ ui, (Manifest.readIn ⟨.root, ["ui"]⟩ withoutReact).1 = .ok ui ∧
      OwnManifests withoutReact ⟨.root, ["ui"]⟩ [ui] :=
    ownManifests_of_patterns (eq_ok_of_toOption (by decide +kernel)) .nil
  have hworkspaces : WorkspaceManifests withoutReact .root ["ui"] [ui] := by
    apply WorkspaceManifests.cons_singleton (eq_ok_of_toOption (by decide +kernel)) hui
    exact .nil
  obtain ⟨root, hroot, haround⟩ := ownManifests_of_patterns
    (eq_ok_of_toOption (by decide +kernel)) hworkspaces
  have hnearest : IsNearestRoot withoutReact ⟨.root, ["ui"]⟩ .root :=
    isNearestRoot_singleton (eq_ok_of_toOption (by decide +kernel))
  have huiUnused := hreads _ hui (by decide +kernel)
  refine ⟨ui, root, ⟨.member (eq_ok_of_toOption (by decide +kernel)) hown
    (.within hnearest (eq_ok_of_toOption (by decide +kernel)) haround), by decide +kernel, ?_,
    by decide +kernel⟩, ?_⟩
  · intro manifest hmanifest
    obtain ⟨compiler, hcompiler⟩ := exists_eq_ok_of_isOk
      (show ((do
        Project.detectCompiler ⟨.root, ["ui"]⟩ (← Manifest.readIn ⟨.root, ["ui"]⟩))
          withoutReact).1.isOk = true by decide +kernel)
    obtain ⟨found, hfound, hcompiler⟩ := ((Manifest.isQuestion_readIn _).fst_bind_eq_ok
      fun _ => Project.isQuestion_detectCompiler _ _).1 hcompiler
    obtain rfl := Except.ok.inj (hmanifest.symm.trans hfound)
    rw [hcompiler]
    rfl
  · simpa [huiUnused] using hreads _ hroot (by decide +kernel)

/-- The workspace is given up for want of React, and a directory that is not there for want of a
manifest. -/
theorem scan_aborts_withoutReact :
    let ended (directory : Path) := scan directory {} (some default)
      (Checks.inOrder (some ["oxlint"]) (some ["knip"]) .linter) (.given none) Host.withoutReact
    (ended ⟨.root, ["ui"]⟩).1 = .error .noReact ∧
    Host.withoutReact.OnlyAsked (ended ⟨.root, ["ui"]⟩).2 ∧
    (ended ⟨.root, ["none"]⟩).1 = .error (.noManifest ⟨.root, ["none"]⟩) ∧
    Host.withoutReact.OnlyAsked (ended ⟨.root, ["none"]⟩).2 := by
  intro ended
  obtain ⟨ui, root, hanswers, hunused⟩ := Host.answers_withoutReact
  have hthere : (Manifest.isIn (({} : ScanOptions).manifest.getD ⟨.root, ["ui"]⟩)
      Host.withoutReact).1 = .ok true := eq_ok_of_toOption (by decide +kernel)
  have hmissing : (Manifest.isIn (({} : ScanOptions).manifest.getD ⟨.root, ["none"]⟩)
      Host.withoutReact).1 = .ok false := eq_ok_of_toOption (by decide +kernel)
  have hresolved (name : String) (hplain : (⟨.root, [name]⟩ : Path).hasNul = false ∧
      Path.resolve .root ⟨.root, [name]⟩ = ⟨.root, [name]⟩) :
      (Run.resolve ⟨.root, [name]⟩ Host.withoutReact).1 = .ok ⟨.root, [name]⟩ := by
    unfold Run.resolve
    rw [hplain.1]
    exact congrArg Except.ok hplain.2
  obtain ⟨-, hnoReact, honly⟩ := @scan_aborts_iff (some ["oxlint"]) (some ["knip"]) .linter _ _ {}
    (some default) (.given none) _ _ _ _ _ rfl (hresolved "ui" (by decide)) rfl hthere
    fun _ => hanswers
  obtain ⟨hnoManifest, -, honly'⟩ := @scan_aborts_iff (some ["oxlint"]) (some ["knip"]) .linter _ _
    {} (some default) (.given none) _ _ _ _ [] rfl (hresolved "none" (by decide)) rfl hmissing nofun
  have hend := hnoReact.2 ⟨rfl, hunused⟩
  have hend' := (hnoManifest _).2 ⟨rfl, rfl⟩
  exact ⟨hend, (honly (.inr hend)).1, hend', (honly' (.inl ⟨_, hend'⟩)).1⟩

end Checkup
