import Checkup.Proofs.Changes
import Checkup.Proofs.Console
import Checkup.Proofs.Deeds

/-!
# Scans of what changed

A run that is limited to changes gives the linter the changed component files, in the order in which
git names them, and does nothing else: no dead-code tool is started and no files are searched. The
list of files goes through the filter for source files, the one for component files and the batches;
an empty list means no limit at one place and nothing to do at another, so each hand-over is a lemma
of its own.
-/

namespace Checkup

open Run (Keeps IsIdle IsQuestion)

/-! ### The scope of a run -/

namespace Cli

theorem sayUnless_apply {quiet : Bool} {line : String} {host : Host}
    (hsaid : quiet = true ∨ host.CanSay line) :
    ∃ after, sayUnless quiet line host = (.ok (), after) ∧ after.machine = host.machine := by
  have hok : (sayUnless quiet line host).1 = .ok () := by
    unfold sayUnless
    split
    · rfl
    · rename_i hloud
      exact Run.say_eq_ok (hsaid.resolve_left hloud)
  exact ⟨(sayUnless quiet line host).2, Prod.ext hok rfl, (isQuestion_sayUnless _ _).quiet host⟩

/-- What a run is limited to, from what git says has changed. -/
def scopeOf : Option Git.Changes → Option (List String)
  | none => some []
  | some changes =>
    if (Git.sourceFiles changes.files).isEmpty then none else some (Git.sourceFiles changes.files)

/-- The lines in which a run says what it is limited to, and that it begins. -/
def progress (directory : Path) : Option Git.Changes → List String
  | none =>
    ["[dim]No changes detected against a base branch. Running a full scan.[/]\n",
      "[dim]Scanning " ++ directory.text ++ "...[/]\n"]
  | some changes =>
    comparison changes ::
      if (Git.sourceFiles changes.files).isEmpty then
        ["[dim]No changed source files. Nothing to scan.[/]\n"]
      else ["[dim]Scanning " ++ directory.text ++ "...[/]\n"]

theorem fst_scopePaths {directory : Path} {request : DiffRequest} {quiet : Bool} {host : Host}
    {changes : Option Git.Changes} (hrequest : request ≠ .everything)
    (hchanges : (Git.changes? directory request.branch? host).1 = .ok changes)
    (hsaid : quiet = true ∨ ∀ line ∈ progress directory changes, host.CanSay line) :
    (scopePaths directory request quiet host).1 = .ok (scopeOf changes) := by
  have hasked := (Git.isQuestion_changes? directory request.branch?).surface_eq host
  unfold scopePaths
  rw [if_neg (by simpa using hrequest)]
  rcases hrun : Git.changes? directory request.branch? host with ⟨result, mid⟩
  rw [hrun] at hchanges hasked
  cases hchanges
  rw [Run.bind_of_ok hrun]
  have hsaid (line : String) (hline : line ∈ progress directory changes) :
      quiet = true ∨ mid.CanSay line :=
    hsaid.imp_right fun hall => (Host.canSay_congr hasked).2 (hall line hline)
  cases changes with
  | none =>
    obtain ⟨after, hline, -⟩ := sayUnless_apply (hsaid _ List.mem_cons_self)
    exact congrArg Prod.fst (Run.bind_of_ok hline)
  | some c =>
    obtain ⟨compared, hline, hmachine⟩ := sayUnless_apply (hsaid _ List.mem_cons_self)
    dsimp only
    rw [Run.bind_of_ok hline, scopeOf]
    split
    · rename_i hnone
      have hnothing := (hsaid "[dim]No changed source files. Nothing to scan.[/]\n"
        (by simp [progress, hnone])).imp_right
          (Host.canSay_congr (Host.surface_eq_of_machine_eq hmachine)).2
      obtain ⟨after, hline, -⟩ := sayUnless_apply hnothing
      exact congrArg Prod.fst (Run.bind_of_ok hline)
    · rfl

/-- What begins is announced, unless no source file has changed. -/
theorem mem_progress {directory : Path} {changes : Option Git.Changes} {paths : List String}
    (hscope : scopeOf changes = some paths) :
    "[dim]Scanning " ++ directory.text ++ "...[/]\n" ∈ progress directory changes := by
  cases changes with
  | none => exact List.mem_cons_of_mem _ List.mem_cons_self
  | some c =>
    unfold scopeOf at hscope
    unfold progress
    dsimp only at hscope
    split at hscope
    · cases hscope
    · rename_i hsome
      dsimp only
      rw [if_neg hsome]
      exact List.mem_cons_of_mem _ List.mem_cons_self

variable {directory : Path} {options : Options} {runtime : RuntimeSettings}
  {settings : Option Settings} {paths : List String} {host : Host}

/-- What is done for a project is what its scan does; the report on it does nothing. -/
theorem deeds_scanProject (directory : Path) (paths : List String) (options : Options)
    (settings : Option Settings) (runtime : RuntimeSettings) (checks : Checks) (host : Host) :
    (scanProject directory paths options settings runtime checks host).2.deeds =
      (scan directory (scanOptions options paths) (some runtime) checks (.given settings)
        host).2.deeds := by
  let SameDeeds (before after : Host) : Prop := after.deeds = before.deeds
  have hrefl (host : Host) : SameDeeds host host := rfl
  refine Keeps.snd_bind hrefl (fun result => ?_) host
  dsimp only
  split
  · exact IsIdle.of_isQuiet (.bind (isQuestion_sayScore _ _).quiet fun _ => .pure _)
  · cases result.project with
    | some p => exact IsIdle.bind (isIdle_report _ _ _ _ _ _) fun _ => .of_isQuiet (.pure _)
    | none => exact hrefl

/-- A run that knows its settings and its scope has changed nothing on the way. -/
theorem exists_scoped {scope : Option (List String)}
    (hsettings : (Settings.load directory host).1 = .ok settings)
    (hscope : (scopePaths directory (.resolve options.diff settings) options.score host).1 =
      .ok scope) :
    ∃ loaded limited, Settings.load directory host = (.ok settings, loaded) ∧
      scopePaths directory (.resolve options.diff settings) options.score loaded =
        (.ok scope, limited) ∧
      limited.machine = host.machine := by
  have hloaded : (Settings.load directory host).2.machine = host.machine :=
    (Settings.isQuestion_load directory).quiet host
  have hquestion :=
    isQuestion_scopePaths directory (.resolve options.diff settings) options.score
  have hread := hquestion.reads (Host.surface_eq_of_machine_eq hloaded)
  rw [hscope] at hread
  refine ⟨_, _, Prod.ext hsettings rfl, Prod.ext hread rfl, ?_⟩
  exact (hquestion.quiet _).trans hloaded

theorem runProject_of_scope_eq_none (runtime : RuntimeSettings) (checks : Checks)
    (hsettings : (Settings.load directory host).1 = .ok settings)
    (hscope : (scopePaths directory (.resolve options.diff settings) options.score host).1 =
      .ok none) :
    ∃ after, runProject directory options runtime checks host = (.ok false, after) ∧
      after.machine = host.machine := by
  obtain ⟨loaded, limited, hload, hrun, hmachine⟩ := exists_scoped hsettings hscope
  refine ⟨limited, ?_, hmachine⟩
  rw [runProject_eq, Run.bind_of_ok hload, Run.bind_of_ok hrun]
  rfl

/-- What a run does for a project is what its scan does, once the scan is announced. -/
theorem deeds_runProject (runtime : RuntimeSettings) (checks : Checks)
    (hsettings : (Settings.load directory host).1 = .ok settings)
    (hscope : (scopePaths directory (.resolve options.diff settings) options.score host).1 =
      .ok (some paths))
    (hsaid : options.score = true ∨
      host.CanSay ("[dim]Scanning " ++ directory.text ++ "...[/]\n")) :
    ∃ begun, begun.machine = host.machine ∧
      (runProject directory options runtime checks host).2.deeds =
        (scan directory (scanOptions options paths) (some runtime) checks (.given settings)
          begun).2.deeds := by
  obtain ⟨loaded, limited, hload, hrun, hmachine⟩ := exists_scoped hsettings hscope
  let SameDeeds (before after : Host) : Prop := after.deeds = before.deeds
  have hrefl (host : Host) : SameDeeds host host := rfl
  have hend (begun : Host) : SameDeeds
      (scanProject directory paths options settings runtime checks begun).2
      (runBegun directory paths options settings runtime checks begun).2 := by
    refine Keeps.snd_bind hrefl (fun result => ?_) begun
    dsimp only
    split
    · exact IsIdle.of_isQuiet (.bind (IsQuestion.sayNothing).quiet fun _ => .pure _)
    · exact hrefl
  have hsurface := Host.surface_eq_of_machine_eq hmachine
  obtain ⟨announced, hannounced, hquiet⟩ :=
    sayUnless_apply (hsaid.imp_right (Host.canSay_congr hsurface).2)
  refine ⟨announced, hquiet.trans hmachine, ?_⟩
  rw [runProject_eq, Run.bind_of_ok hload, Run.bind_of_ok hrun]
  dsimp only
  rw [Run.bind_of_ok hannounced]
  exact (hend announced).trans (deeds_scanProject directory paths options settings runtime checks _)

theorem isLimited_ofOptions (hpaths : paths ≠ []) :
    (ScanPlan.ofOptions (scanOptions options paths) settings).isLimited = true := by
  unfold ScanPlan.isLimited
  change (!paths.isEmpty) = true
  simp [hpaths]

theorem componentPaths_of_ne_nil (hpaths : paths ≠ []) :
    componentPaths paths = some (paths.filter SourceFile.isComponent) := by
  unfold componentPaths
  exact if_neg (by simp [hpaths])

section Diff

variable {resolved : Path} {project : Project} {command : Lint.Command} {begun written : Host}
  {lint : Option (List String)}
  (hresolved : (Run.resolve directory host).1 = .ok resolved)
  (hproject : (Project.discover resolved none host).1 = .ok project)
  (hreact : project.react.any (·.isTruthy) = true)
include hresolved hproject hreact

/-- What the scan of a run knows before its checks, when the project resolves. -/
theorem fst_ofScan_of_resolves (options : Options) (settings : Option Settings)
    (runtime : RuntimeSettings) (paths : List String) (hmachine : begun.machine = host.machine) :
    (Prospect.ofScan directory (scanOptions options paths) (some runtime) (.given settings)
      begun).1 = .ok ⟨resolved, .ofOptions (scanOptions options paths) settings, settings, runtime,
        project⟩ := by
  have hmanifest : (Project.discover resolved (scanOptions options paths).manifest host).1 =
      .ok project := hproject
  have hswitches : (RuntimeSettings.given (some runtime) host).1 = .ok runtime := rfl
  have hsettings : ((SettingsSource.given settings).settings resolved host).1 = .ok settings := rfl
  have hquestion :=
    Prospect.isQuestion_ofScan directory (scanOptions options paths) (some runtime) (.given settings)
  rw [hquestion.reads (Host.surface_eq_of_machine_eq hmachine)]
  exact (Prospect.fst_ofScan_eq_ok hresolved hmanifest hreact).2
    ⟨runtime, settings, hswitches, hsettings, rfl⟩

/-- The findings of a limited scan are those of the lint check that the settings leave: no other
check adds to them. -/
theorem unsuppressed_of_ne_nil {deadCode : Option (List String)} {first : Tool}
    {result : ScanResult} (hlint : ScanPlan.pick options.lint (settings.bind (·.lint)) true = true)
    (hpaths : paths ≠ [])
    (hscan : (scan directory (scanOptions options paths) (some runtime)
      (Checks.inOrder lint deadCode first) (.given settings) host).1 = .ok result) :
    unsuppressed settings (CheckOutcome.ofResult (Lint.check lint
      ⟨resolved, project, runtime, some (paths.filter SourceFile.isComponent)⟩ host).1).diagnostics =
        .ok result.diagnostics := by
  have hprospect :=
    fst_ofScan_of_resolves hresolved hproject hreact options settings runtime paths rfl
  have hleft := unsuppressed_of_isLimited hprospect hlint (isLimited_ofOptions hpaths) hscan
  rw [← componentPaths_of_ne_nil hpaths]
  exact hleft

variable (hlint : ScanPlan.pick options.lint (settings.bind (·.lint)) true = true)
  (hcommand : (Lint.resolveCommand lint ⟨resolved, project, runtime, none⟩ host).1 = .ok command)
  (hwrite : host.write (Lint.configurationFile host) (.text
    (Lint.factsOf ⟨resolved, project, runtime, none⟩).configuration.pretty) = .ok written)
include hlint hcommand hwrite

/-- A limited scan starts the linter's processes for the component files, and does nothing else. -/
theorem delivers_scan (deadCode : Option (List String)) (first : Tool) (hpaths : paths ≠ [])
    (hmachine : begun.machine = host.machine) :
    ∃ started, host.Spawned (scan directory (scanOptions options paths) (some runtime)
        (Checks.inOrder lint deadCode first) (.given settings) begun).2 started ∧
      Lint.Delivers host
        (Lint.baseArguments command (Lint.configurationFile host) project.typeScript)
        (paths.filter SourceFile.isComponent) started := by
  have hprospect :=
    fst_ofScan_of_resolves hresolved hproject hreact options settings runtime paths hmachine
  obtain ⟨mid, hsurface, hsame, hdeeds, hscan⟩ :=
    deeds_scan_of_isLimited lint deadCode first hprospect hlint (isLimited_ofOptions hpaths)
  let context : CheckContext := ⟨resolved, project, runtime, componentPaths paths⟩
  have hcommand' : (Lint.resolveCommand lint context host).1 = .ok command := hcommand
  obtain ⟨started, hspawned, hdelivers⟩ := Lint.delivers_check
    (hsurface.trans (Host.surface_eq_of_machine_eq hmachine))
    (hsame.trans (.of_machine_eq hmachine)) (componentPaths_of_ne_nil hpaths) hcommand' hwrite
  have hbefore : mid.deeds = host.deeds := hdeeds.trans (congrArg Machine.deeds hmachine)
  refine ⟨started, hscan.trans ?_, hdelivers⟩
  rw [← hbefore]
  exact hspawned

/-- A scan without a limit starts the linter once, for the whole project. -/
theorem linters_scan_whole (deadCode : Option (List String)) (first : Tool)
    (hmachine : begun.machine = host.machine) :
    ∃ spawn, Event.linters (scan directory (scanOptions options []) (some runtime)
        (Checks.inOrder lint deadCode first) (.given settings) begun).2.deeds =
          Event.linters host.deeds ++ [spawn] ∧
      spawn.arguments =
        Lint.baseArguments command (Lint.configurationFile host) project.typeScript ++ ["."] := by
  have hprospect :=
    fst_ofScan_of_resolves hresolved hproject hreact options settings runtime [] hmachine
  obtain ⟨mid, hsurface, hsame, hlinters, hscan⟩ :=
    linters_scan lint deadCode first hprospect hlint
  let context : CheckContext := ⟨resolved, project, runtime, none⟩
  have hwhole : context.paths = none := rfl
  obtain ⟨spawn, hspawned, htool, harguments⟩ := Lint.spawned_check_of_whole
    (hsurface.trans (Host.surface_eq_of_machine_eq hmachine))
    (hsame.trans (.of_machine_eq hmachine)) hwhole hcommand hwrite
  have hstarted : [spawn].filter (·.tool == .linter) = [spawn] := by simp [htool]
  have hbefore : Event.linters mid.deeds = Event.linters host.deeds :=
    hlinters.trans (congrArg (fun m => Event.linters m.deeds) hmachine)
  refine ⟨spawn, hscan.trans ?_, harguments⟩
  rw [← hbefore, ← hstarted]
  exact hspawned.linters_eq

/-- A run that is limited to changes starts the linter exactly for the component files among them
and does nothing else; it ends before its scan when no source file is among them, and is a full one
when git has no answer. The lines that say so have to be such as the console can show. -/
theorem runProject_of_diff {changes : Option Git.Changes} (deadCode : Option (List String))
    (first : Tool) (hsettings : (Settings.load directory host).1 = .ok settings)
    (hrequest : DiffRequest.resolve options.diff settings ≠ .everything)
    (hchanges : (Git.changes? directory (DiffRequest.resolve options.diff settings).branch?
      host).1 = .ok changes)
    (hsaid : options.score = true ∨ ∀ line ∈ progress directory changes, host.CanSay line) :
    let checks := Checks.inOrder lint deadCode first
    let run := runProject directory options runtime checks host
    let base := Lint.baseArguments command (Lint.configurationFile host) project.typeScript
    (changes = none →
      (∃ begun, begun.machine = host.machine ∧
        run.2.deeds = (scan directory (scanOptions options []) (some runtime) checks
          (.given settings) begun).2.deeds) ∧
      ∃ spawn, run.2.spawns.filter (·.tool == .linter) =
          host.spawns.filter (·.tool == .linter) ++ [spawn] ∧
        spawn.arguments = base ++ ["."]) ∧
    ∀ c ∈ changes,
      (Git.sourceFiles c.files = [] → run.1 = .ok false ∧ run.2.machine = host.machine) ∧
      (Git.sourceFiles c.files ≠ [] →
        (∃ started, host.Spawned run.2 started ∧ Lint.Delivers host base
          (c.files.filter (SourceFile.hasExtension SourceFile.componentExtensions)) started) ∧
        ∀ result, (scan directory (scanOptions options (Git.sourceFiles c.files)) (some runtime)
            checks (.given settings) host).1 = .ok result →
          unsuppressed settings (CheckOutcome.ofResult (Lint.check lint
            ⟨resolved, project, runtime, some (c.files.filter
              (SourceFile.hasExtension SourceFile.componentExtensions))⟩ host).1).diagnostics =
            .ok result.diagnostics) := by
  intro checks run base
  have hscope := fst_scopePaths hrequest hchanges hsaid
  have hannounced {paths : List String} (hpaths : scopeOf changes = some paths) :=
    hsaid.imp_right fun hall => hall _ (mem_progress hpaths)
  constructor
  · rintro rfl
    obtain ⟨begun, hmachine, hdeeds⟩ :=
      deeds_runProject runtime checks hsettings hscope (hannounced rfl)
    obtain ⟨spawn, hspawn, harguments⟩ := linters_scan_whole hresolved hproject hreact hlint
      hcommand hwrite deadCode first hmachine
    refine ⟨⟨begun, hmachine, hdeeds⟩, spawn, ?_, harguments⟩
    rw [← Host.linters_deeds, ← Host.linters_deeds, hdeeds]
    exact hspawn
  rintro c hc
  obtain rfl : changes = some c := hc
  constructor
  · intro hnone
    have hscope : (scopePaths directory (.resolve options.diff settings) options.score host).1 =
        .ok none := by
      rw [hscope, scopeOf, if_pos (by simp [hnone])]
    obtain ⟨after, hrun, hmachine⟩ :=
      runProject_of_scope_eq_none runtime checks hsettings hscope
    exact ⟨congrArg Prod.fst hrun, (congrArg (·.2.machine) hrun).trans hmachine⟩
  · intro hsome
    have hpaths : scopeOf (some c) = some (Git.sourceFiles c.files) :=
      if_neg (by simp [hsome])
    rw [hpaths] at hscope
    have hlines : Git.AreLines c.files := Git.yields_changes? directory _ host _ hchanges c rfl
    have hcomponents : (Git.sourceFiles c.files).filter SourceFile.isComponent =
        c.files.filter (SourceFile.hasExtension SourceFile.componentExtensions) :=
      (Git.sourceFiles_filter_isComponent c.files).trans (Git.filter_isComponent_eq hlines)
    rw [← hcomponents]
    constructor
    · obtain ⟨begun, hmachine, hdeeds⟩ :=
        deeds_runProject runtime checks hsettings hscope (hannounced hpaths)
      obtain ⟨started, hspawned, hdelivers⟩ := delivers_scan hresolved hproject hreact hlint
        hcommand hwrite deadCode first hsome hmachine
      exact ⟨started, hdeeds.trans hspawned, hdelivers⟩
    · intro result hscan
      exact unsuppressed_of_ne_nil hresolved hproject hreact hlint hsome hscan

end Diff

end Cli

/-- A project with three changed files, one of them a component file, whose linter finds nothing. -/
def Host.withChanges : Host :=
  .ofProject reactManifest
    (fun arguments =>
      if arguments = ["rev-parse", "--is-inside-work-tree"] then .finished 0 "true\n"
      else if arguments = Git.changed ["HEAD"] then
        .finished 0 "src/App.tsx\nsrc/format.ts\nREADME.md\n"
      else .unavailable)
    fun _ _ _ => .finished (some 0) (.text "\x7b\"diagnostics\":[]\x7d") (.text "")

/-- The same project, without a directory for temporary files. -/
def Host.withoutTemporary : Host :=
  { withChanges with tree := .directory [("package.json", .file (.text reactManifest))] }

/-- The same project, in a directory whose path reads as markup. -/
def Host.withMarkup : Host :=
  { withChanges with
    tree := .directory [
      ("a[", .directory [("x]b", .directory [("package.json", .file (.text reactManifest))])]),
      ("tmp", .directory [])] }

namespace Cli

def changesOnly : Options :=
  { (default : Options) with lint := some true, score := true, diff := some "" }

/-- The changed component file, and only it, is given to the linter. -/
theorem runProject_withChanges : ∃ project started,
    (Project.discover .root none Host.withChanges).1 = .ok project ∧
    Host.withChanges.Spawned (runProject .here changesOnly default
      (Checks.inOrder (some ["oxlint"]) (some ["knip"]) .linter) Host.withChanges).2 started ∧
    started.flatMap (·.arguments.drop (Lint.baseArguments ⟨["oxlint"], none⟩
      (Lint.configurationFile Host.withChanges) project.typeScript).length) = ["src/App.tsx"] := by
  obtain ⟨project, hproject, hreact⟩ : ∃ project,
      (Project.discover .root none Host.withChanges).1 = .ok project ∧
        project.react.any (·.isTruthy) = true := exists_eq_ok_of_any (by decide +kernel)
  obtain ⟨settings, hsettings, hnone⟩ : ∃ settings,
      (Settings.load .here Host.withChanges).1 = .ok settings ∧ settings.isNone = true :=
    exists_eq_ok_of_any (by decide +kernel)
  obtain rfl := Option.isNone_iff_eq_none.1 hnone
  have hchanges : (Git.changes? .here none Host.withChanges).1 =
      .ok (some ⟨["src/App.tsx", "src/format.ts", "README.md"], none, none, true⟩) :=
    eq_ok_of_toOption (by decide +kernel)
  obtain ⟨written, hwrite⟩ := Host.exists_write_eq_ok
    (show (Host.withChanges.write (Lint.configurationFile Host.withChanges) (.text "")).isOk = true
      by decide +kernel)
    (.text (Lint.factsOf ⟨.root, project, default, none⟩).configuration.pretty)
  have hresolved : (Run.resolve .here Host.withChanges).1 = .ok .root := by rfl
  have hlint : ScanPlan.pick changesOnly.lint ((none : Option Settings).bind (·.lint)) true =
      true := rfl
  have hcommand : (Lint.resolveCommand (some ["oxlint"]) ⟨.root, project, default, none⟩
      Host.withChanges).1 = .ok ⟨["oxlint"], none⟩ := rfl
  have hrequest : DiffRequest.resolve changesOnly.diff none ≠ .everything := by decide
  have hchanged := (runProject_of_diff hresolved hproject hreact hlint hcommand hwrite
    (some ["knip"]) .linter hsettings hrequest hchanges (.inl rfl)).2 _ rfl
  obtain ⟨⟨started, hspawned, hdelivers⟩, -⟩ := hchanged.2 (by decide)
  have hcomponents : ["src/App.tsx", "src/format.ts", "README.md"].filter
      (SourceFile.hasExtension SourceFile.componentExtensions) = ["src/App.tsx"] := by decide
  have hend : ∀ process ∈ Host.withChanges.processes .linter started,
      (Lint.resultOf process).isOk = true := by
    intro process hmem
    obtain ⟨⟨spawn, n⟩, -, hprocess⟩ := List.mem_map.1 hmem
    have hfinished : process = (spawn, .finished (some 0)
        (.text "\x7b\"diagnostics\":[]\x7d") (.text "")) := hprocess.symm
    rw [hfinished, Lint.resultOf_finished]
    decide +kernel
  exact ⟨project, started, hproject, hspawned, hcomponents ▸ (hdelivers.complete hend).2⟩

/-- Where the configuration of the linter cannot be written, it is not started at all, and neither
is it where the scan is announced and the path of the directory has a tag in it. -/
theorem spawns_runProject_eq_nil :
    (∃ project, (Project.discover .root none Host.withoutTemporary).1 = .ok project ∧
      project.react.any (·.isTruthy) = true ∧
      (Git.changes? .here none Host.withoutTemporary).1 =
        .ok (some ⟨["src/App.tsx", "src/format.ts", "README.md"], none, none, true⟩) ∧
      (runProject .here changesOnly default (Checks.inOrder (some ["oxlint"]) (some ["knip"]) .linter)
        Host.withoutTemporary).2.spawns = []) ∧
    ∃ project, (Project.discover ⟨.root, ["a[", "x]b"]⟩ none Host.withMarkup).1 = .ok project ∧
      project.react.any (·.isTruthy) = true ∧
      (Git.changes? ⟨.root, ["a[", "x]b"]⟩ none Host.withMarkup).1 =
        .ok (some ⟨["src/App.tsx", "src/format.ts", "README.md"], none, none, true⟩) ∧
      (runProject ⟨.root, ["a[", "x]b"]⟩ { changesOnly with score := false } default
        (Checks.inOrder (some ["oxlint"]) (some ["knip"]) .linter) Host.withMarkup).2.spawns = [] := by
  constructor
  · obtain ⟨project, hproject, hreact⟩ : ∃ project,
        (Project.discover .root none Host.withoutTemporary).1 = .ok project ∧
          project.react.any (·.isTruthy) = true := exists_eq_ok_of_any (by decide +kernel)
    refine ⟨project, hproject, hreact, eq_ok_of_toOption (by decide +kernel), ?_⟩
    exact List.isEmpty_iff.1 (by decide +kernel)
  · obtain ⟨project, hproject, hreact⟩ : ∃ project,
        (Project.discover ⟨.root, ["a[", "x]b"]⟩ none Host.withMarkup).1 = .ok project ∧
          project.react.any (·.isTruthy) = true := exists_eq_ok_of_any (by decide +kernel)
    refine ⟨project, hproject, hreact, eq_ok_of_toOption (by decide +kernel), ?_⟩
    exact List.isEmpty_iff.1 (by decide +kernel)

end Cli

end Checkup
