import Checkup.Proofs.Footprint

/-!
# The checks side by side

The two checks of a scan do not get in each other's way. Whichever of them is run first, each comes
to what it would come to if it were run alone, and so the result of a scan is put together from what
its checks come to one by one (`fst_scan`). A check that fails leaves no findings, so that all it
adds to a result is its reason.
-/

namespace Checkup

open Run (Keeps Respects SameSurface)

/-! ### A check on its own -/

/-- A check that ended with a fault has a reason and no findings. -/
theorem CheckOutcome.ofResult_error (fault : Fault) :
    ∃ why, ofResult (.error fault) = ⟨[], some why⟩ := by
  cases fault <;> exact ⟨_, rfl⟩

/-- What the check of a tool comes to when it alone is run on a host. -/
def Checks.outcome (checks : Checks) (prospect : Prospect) (tool : Tool) (host : Host) :
    CheckOutcome :=
  if prospect.plan.wants tool then .ofResult (checks.of tool prospect.context host).1
  else CheckRun.skipped.outcome

/-- The checks with fixed commands, or with those that are found, in either order. -/
def Checks.inOrder (lint deadCode : Option (List String)) (first : Tool) : Checks :=
  { Checks.withCommands lint deadCode with first }

namespace Checks

variable {lint deadCode : Option (List String)} {first : Tool} {prospect : Prospect} {tool : Tool}
  {h h' : Host}

theorem toolName_deadCode_ne (processId : Nat) :
    DeadCode.toolName ≠ Lint.configurationName processId :=
  (Lint.configurationName_ne (by decide)).symm

theorem fileName_ne (processId : Nat) :
    Manifest.fileName ≠ Lint.configurationName processId :=
  (Lint.configurationName_ne (by decide)).symm

/-- A check in a scan comes to what it comes to on its host, and spares what is not its tool's. The
dead-code check does not even change what the lint check may ask. -/
theorem runOne_apply (lint deadCode : Option (List String)) (first : Tool) (prospect : Prospect)
    (tool : Tool) (host : Host) : ∃ run after,
      (inOrder lint deadCode first).runOne prospect.plan prospect.context tool host =
        (.ok run, after) ∧
      run.outcome = (inOrder lint deadCode first).outcome prospect tool host ∧
      host.Spares tool after ∧ (tool = .deadCode → after.surface = host.surface) := by
  have hdeadCode := DeadCode.isWork_check deadCode DeadCode.usualPatience prospect.context
    (toolName_deadCode_ne host.processId)
  unfold runOne CheckRun.ofWanted outcome
  split
  · refine ⟨_, _, rfl, rfl, ?_⟩
    cases tool with
    | linter => exact ⟨Lint.spares_check lint prospect.context host, nofun⟩
    | deadCode => exact ⟨hdeadCode.spares host, fun _ => hdeadCode.surface host⟩
  · exact ⟨_, _, rfl, rfl, .of_machine_eq rfl, fun _ => rfl⟩

/-- The lint check comes to the same wherever the surface and the linter's processes are. -/
theorem outcome_linter_congr (hsurface : h.surface = h'.surface) (hsame : h.SameTool .linter h') :
    (inOrder lint deadCode first).outcome prospect .linter h =
      (inOrder lint deadCode first).outcome prospect .linter h' := by
  have hcheck := (Lint.respects_check lint prospect.context h h' ⟨hsurface, hsame⟩).1
  change Checks.outcome _ _ _ _ = Checks.outcome _ _ _ _
  unfold outcome of
  dsimp only [inOrder, withCommands]
  rw [hcheck]

/-- The dead-code check comes to the same also where the linter's configuration is another. -/
theorem outcome_deadCode_congr
    (hfiles : h.SameFilesBut (Lint.configurationName h.processId) h')
    (hsame : h.SameTool .deadCode h') :
    (inOrder lint deadCode first).outcome prospect .deadCode h =
      (inOrder lint deadCode first).outcome prospect .deadCode h' := by
  have hcheck := ((DeadCode.isWork_check deadCode DeadCode.usualPatience prospect.context
    (toolName_deadCode_ne h.processId)).respects h h' ⟨hfiles, hsame⟩).1
  unfold outcome of
  dsimp only [inOrder, withCommands]
  rw [hcheck]

/-- A check comes to the same wherever the surface and its tool's processes are. -/
theorem outcome_congr (hsurface : h.surface = h'.surface) (hsame : h.SameTool tool h') :
    (inOrder lint deadCode first).outcome prospect tool h =
      (inOrder lint deadCode first).outcome prospect tool h' := by
  cases tool with
  | linter => exact outcome_linter_congr hsurface hsame
  | deadCode => exact outcome_deadCode_congr (.of_surface_eq hsurface) hsame

/-- Both checks come to what they come to on their own, in either order. -/
theorem run_apply (lint deadCode : Option (List String)) (first : Tool) (prospect : Prospect)
    (host : Host) : ∃ lintRun deadCodeRun after,
      (inOrder lint deadCode first).run prospect.plan prospect.context host =
        (.ok (lintRun, deadCodeRun), after) ∧
      lintRun.outcome = (inOrder lint deadCode first).outcome prospect .linter host ∧
      deadCodeRun.outcome = (inOrder lint deadCode first).outcome prospect .deadCode host ∧
      after.clock = host.clock ∧
      host.SameFilesBut (Lint.configurationName host.processId) after := by
  cases first with
  | linter =>
    obtain ⟨lintRun, mid, hlint, hcomes, hspares, -⟩ :=
      runOne_apply lint deadCode .linter prospect .linter host
    obtain ⟨deadCodeRun, after, hdead, hcomes', hspares', -⟩ :=
      runOne_apply lint deadCode .linter prospect .deadCode mid
    refine ⟨lintRun, deadCodeRun, after, ?_, hcomes, ?_, hspares'.clock.trans hspares.clock, ?_⟩
    · exact (Run.bind_of_ok hlint).trans (Run.bind_of_ok hdead)
    · rw [hcomes', outcome_deadCode_congr hspares.files (hspares.sameTool nofun)]
    · exact hspares.files.trans (Host.processId_eq_of_files hspares.files ▸ hspares'.files)
  | deadCode =>
    obtain ⟨deadCodeRun, mid, hdead, hcomes, hspares, hsurface⟩ :=
      runOne_apply lint deadCode .deadCode prospect .deadCode host
    obtain ⟨lintRun, after, hlint, hcomes', hspares', -⟩ :=
      runOne_apply lint deadCode .deadCode prospect .linter mid
    refine ⟨lintRun, deadCodeRun, after, ?_, ?_, hcomes, hspares'.clock.trans hspares.clock, ?_⟩
    · exact (Run.bind_of_ok hdead).trans (Run.bind_of_ok hlint)
    · rw [hcomes', outcome_linter_congr (hsurface rfl).symm (hspares.sameTool nofun)]
    · exact hspares.files.trans (Host.processId_eq_of_files hspares.files ▸ hspares'.files)

end Checks

/-! ### The result of a scan -/

namespace Checks

/-- The reasons of the checks that failed, the linter's first. -/
def reasons (outcome : Tool → CheckOutcome) : List (String × String) :=
  (outcome .linter).reason (label .linter) ++ (outcome .deadCode).reason (label .deadCode)

theorem label_injective {tool other : Tool} (hlabel : label tool = label other) :
    tool = other := by
  cases tool <;> cases other <;> first | rfl | exact absurd hlabel (by decide)

theorem get?_reasons (outcome : Tool → CheckOutcome) (tool : Tool) :
    Named.get? (label tool) (reasons outcome) = (outcome tool).failure := by
  unfold reasons CheckOutcome.reason
  cases tool <;> rcases (outcome .linter).failure with _ | why <;>
    rcases (outcome .deadCode).failure with _ | why' <;> rfl

theorem erase_reasons (outcome : Tool → CheckOutcome) (tool : Tool) :
    Named.erase (label tool) (reasons outcome) = reasons fun other =>
      if other = tool then CheckRun.skipped.outcome else outcome other := by
  have hself (o : CheckOutcome) : Named.erase (label tool) (o.reason (label tool)) = [] := by
    unfold CheckOutcome.reason
    cases o.failure <;> simp [Named.erase]
  have hother {other : Tool} (hne : other ≠ tool) (o : CheckOutcome) :
      Named.erase (label tool) (o.reason (label other)) = o.reason (label other) := by
    unfold CheckOutcome.reason
    cases o.failure <;> simp [Named.erase, mt label_injective hne]
  have happend (reasons more : List (String × String)) : Named.erase (label tool) (reasons ++ more) =
      Named.erase (label tool) reasons ++ Named.erase (label tool) more := List.filter_append ..
  unfold reasons
  cases tool with
  | linter =>
    have hne : Tool.deadCode ≠ .linter := by decide
    rw [happend, hself, hother hne]
    rfl
  | deadCode =>
    have hne : Tool.linter ≠ .deadCode := by decide
    rw [happend, hself, hother hne]
    rfl

theorem map_fst_reasons (outcome : Tool → CheckOutcome) : (reasons outcome).map (·.1) =
    ([.linter, .deadCode].filter fun tool => (outcome tool).failure.isSome).map label := by
  unfold reasons CheckOutcome.reason
  rcases hlint : (outcome .linter).failure with _ | why <;>
    rcases hdead : (outcome .deadCode).failure with _ | why' <;> simp [hlint, hdead]

theorem label_mem_skipped (outcome : Tool → CheckOutcome) (tool : Tool) :
    label tool ∈ (reasons outcome).map (·.1) ↔ (outcome tool).failure.isSome := by
  rw [map_fst_reasons, List.mem_map]
  constructor
  · rintro ⟨other, hother, hlabel⟩
    exact label_injective hlabel ▸ (List.mem_filter.1 hother).2
  · intro hfailed
    exact ⟨tool, List.mem_filter.2 ⟨by cases tool <;> simp, hfailed⟩, rfl⟩

/-- The checks that fail are those that are run and end with a fault. -/
theorem isSome_failure (checks : Checks) (prospect : Prospect) (tool : Tool) (host : Host) :
    (checks.outcome prospect tool host).failure.isSome =
      (prospect.plan.wants tool && !(checks.of tool prospect.context host).1.isOk) := by
  unfold outcome
  cases prospect.plan.wants tool with
  | false => rfl
  | true =>
    rcases (checks.of tool prospect.context host).1 with fault | found
    · obtain ⟨why, hwhy⟩ := CheckOutcome.ofResult_error fault
      rw [if_pos rfl, hwhy]
      rfl
    · rfl

end Checks

namespace Prospect

/-- The built-in check, which looks at whole projects only. -/
def own (prospect : Prospect) : Run (List Diagnostic) :=
  if prospect.plan.isLimited then pure [] else ReducedMotion.check prospect.directory

def examination (prospect : Prospect) (outcome : Tool → CheckOutcome) (own : List Diagnostic) :
    Except Fault Examination :=
  ((unsuppressed prospect.settings ((outcome .linter).diagnostics ++
    (outcome .deadCode).diagnostics ++ own)).mapError .shape).map fun found =>
      ⟨prospect.project, prospect.plan, found, Checks.reasons outcome⟩

def result (prospect : Prospect) (found : Examination) (elapsed : Number) : ScanResult where
  diagnostics := found.diagnostics
  score := if prospect.isOffline then none else some (.ofDiagnostics found.diagnostics)
  reasons := found.reasons
  project := some found.project
  elapsed := elapsed
  paths := found.plan.paths

/-- What a scan knows before its checks, from the questions it asks. -/
theorem fst_ofScan (directory : Path) (options : ScanOptions) (runtime : Option RuntimeSettings)
    (source : SettingsSource) (host : Host) :
    (ofScan directory options runtime source host).1 = (do
      let runtime ← (RuntimeSettings.given runtime host).1
      let directory ← (Run.resolve directory host).1
      let settings ← (source.settings directory host).1
      let project ← (Project.discover directory options.manifest host).1
      if project.react.any (·.isTruthy) then
        return ⟨directory, .ofOptions options settings, settings, runtime, project⟩
      else throw .noReact) := by
  have hfind := isQuestion_find
  unfold ofScan
  rw [(RuntimeSettings.isQuestion_given runtime).fst_bind (fun _ => .bind (.resolve _) fun _ =>
    .bind (source.isQuestion_settings _) fun _ => hfind _ _ _ _)]
  refine congrArg (Except.bind _) (funext fun runtime => ?_)
  rw [(Run.IsQuestion.resolve directory).fst_bind (fun _ =>
    .bind (source.isQuestion_settings _) fun _ => hfind _ _ _ _)]
  refine congrArg (Except.bind _) (funext fun directory => ?_)
  rw [(source.isQuestion_settings directory).fst_bind (fun _ => hfind _ _ _ _)]
  refine congrArg (Except.bind _) (funext fun settings => ?_)
  unfold find
  rw [(Project.isQuestion_discover directory _).fst_bind (fun _ => .ite (.pure _) (.throw _))]
  refine congrArg (Except.bind _) (funext fun project => ?_)
  split <;> rfl

/-- When the project resolves, a scan knows all that it needs if the switches of the run and the
settings can be read. -/
theorem fst_ofScan_eq_ok {directory resolved : Path} {options : ScanOptions}
    {runtime : Option RuntimeSettings} {source : SettingsSource} {project : Project}
    {prospect : Prospect} {host : Host} (hresolved : (Run.resolve directory host).1 = .ok resolved)
    (hproject : (Project.discover resolved options.manifest host).1 = .ok project)
    (hreact : project.react.any (·.isTruthy) = true) :
    (ofScan directory options runtime source host).1 = .ok prospect ↔ ∃ switches settings,
      (RuntimeSettings.given runtime host).1 = .ok switches ∧
      (source.settings resolved host).1 = .ok settings ∧
      prospect = ⟨resolved, .ofOptions options settings, settings, switches, project⟩ := by
  rw [fst_ofScan, hresolved]
  constructor
  · intro hprospect
    obtain ⟨switches, hswitches, hprospect⟩ := except_bind_eq_ok.1 hprospect
    obtain ⟨_, ⟨⟩, hprospect⟩ := except_bind_eq_ok.1 hprospect
    obtain ⟨settings, hsettings, hprospect⟩ := except_bind_eq_ok.1 hprospect
    rw [hproject] at hprospect
    obtain ⟨_, ⟨⟩, hprospect⟩ := except_bind_eq_ok.1 hprospect
    rw [if_pos hreact] at hprospect
    exact ⟨switches, settings, hswitches, hsettings, (Except.ok.inj hprospect).symm⟩
  · rintro ⟨switches, settings, hswitches, hsettings, rfl⟩
    rw [hswitches]
    refine except_bind_eq_ok.2 ⟨_, rfl, except_bind_eq_ok.2 ⟨_, rfl, ?_⟩⟩
    refine except_bind_eq_ok.2 ⟨settings, hsettings, ?_⟩
    rw [hproject]
    refine except_bind_eq_ok.2 ⟨_, rfl, ?_⟩
    rw [if_pos hreact]
    rfl

theorem respects_own (prospect : Prospect) (processId : Nat) :
    Respects (Host.SameFilesBut (Lint.configurationName processId)) prospect.own :=
  .ite (.pure _) (ReducedMotion.respects_check _ (Checks.fileName_ne processId))

theorem clock_own (prospect : Prospect) (host : Host) :
    (prospect.own host).2.clock = host.clock := by
  unfold own
  split
  · rfl
  · exact (ReducedMotion.spares_check prospect.directory .linter host).clock

theorem combine_apply (prospect : Prospect) (lint deadCode : List Diagnostic) (host : Host) :
    combine lint deadCode prospect.directory prospect.plan.isLimited prospect.settings
        ReducedMotion.check host =
      ((do
        let own ← (prospect.own host).1
        (unsuppressed prospect.settings (lint ++ deadCode ++ own)).mapError .shape),
        (prospect.own host).2) := by
  unfold combine own
  split
  · rw [pure_bind]
    dsimp only [Run.pure_apply, bind, Except.bind]
    cases unsuppressed prospect.settings (lint ++ deadCode ++ []) <;> rfl
  · rw [Run.bind_apply]
    rcases ReducedMotion.check prospect.directory host with ⟨fault | own, after⟩
    · rfl
    · dsimp only [bind, Except.bind]
      cases unsuppressed prospect.settings (lint ++ deadCode ++ own) <;> rfl

end Prospect

/-- The milliseconds between the next two readings of a host's clock. -/
def Host.elapsed (host : Host) : Number :=
  (((host.clock.drop 1).headD (.real 0.0)).sub (host.clock.headD (.real 0.0))).thousandfold

theorem Run.now_apply (host : Host) :
    now host = (.ok (host.clock.headD (.real 0.0)), { host with clock := host.clock.drop 1 }) := by
  unfold now
  rw [get_bind]
  cases hclock : host.clock with
  | nil => exact congrArg (Except.ok _, { host with clock := · }) hclock
  | cons reading rest => rfl

theorem millisecondsSince_apply (started : Number) (host : Host) :
    ∃ after, millisecondsSince started host =
      (.ok ((host.clock.headD (.real 0.0)).sub started).thousandfold, after) :=
  ⟨_, Run.bind_of_ok (Run.now_apply host)⟩

theorem Run.noteAll_apply (notices : List Notice) (host : Host) :
    ∃ after, noteAll notices host = (.ok (), after) ∧ after.machine = host.machine := by
  induction notices generalizing host with
  | nil => exact ⟨host, rfl, rfl⟩
  | cons notice rest ih =>
    obtain ⟨after, hrest, hmachine⟩ := ih (host.record (.notice notice))
    exact ⟨after, hrest, hmachine.trans (Host.machine_record rfl host)⟩

theorem Examination.ofProspect_apply (lint deadCode : Option (List String)) (first : Tool)
    (prospect : Prospect) (host : Host) : ∃ after,
      ofProspect prospect (Checks.inOrder lint deadCode first) host =
        ((do
          let own ← (prospect.own host).1
          prospect.examination
            ((Checks.inOrder lint deadCode first).outcome prospect · host) own), after) ∧
      after.clock = host.clock := by
  obtain ⟨lintRun, deadCodeRun, mid, hrun, hlint, hdead, hclock, hfiles⟩ :=
    Checks.run_apply lint deadCode first prospect host
  obtain ⟨noted, hnotes, hmachine⟩ := Run.noteAll_apply (lintRun.notices deadCodeRun) mid
  have hown := (prospect.respects_own host.processId host noted
    (.ofMachine hfiles rfl hmachine)).1
  refine ⟨(prospect.own noted).2, ?_, ?_⟩
  · unfold ofProspect
    rw [Run.bind_of_ok hrun]
    dsimp only
    rw [Run.bind_of_ok hnotes, hlint, hdead, Run.bind_apply, prospect.combine_apply, hown]
    rcases (prospect.own noted).1 with fault | own
    · rfl
    · dsimp only [bind, Except.bind, Prospect.examination]
      rcases unsuppressed prospect.settings _ with fault | found <;> rfl
  · exact (prospect.clock_own noted).trans ((congrArg Machine.clock hmachine).trans hclock)

/-- The result of a scan is put together from what its checks come to on their own. -/
theorem fst_scan (lint deadCode : Option (List String)) (first : Tool) (directory : Path)
    (options : ScanOptions) (runtime : Option RuntimeSettings) (source : SettingsSource)
    (host : Host) :
    (scan directory options runtime (Checks.inOrder lint deadCode first) source host).1 = (do
      let prospect ← (Prospect.ofScan directory options runtime source host).1
      let own ← (prospect.own host).1
      let found ← prospect.examination
        ((Checks.inOrder lint deadCode first).outcome prospect · host) own
      return prospect.result found host.elapsed) := by
  have hquestion := Prospect.isQuestion_ofScan directory options runtime source
  have hread := hquestion.reads
    (show { host with clock := host.clock.drop 1 }.surface = host.surface from rfl)
  have hquiet := hquestion.quiet { host with clock := host.clock.drop 1 }
  unfold scan
  rw [Run.bind_of_ok (Run.now_apply host), Run.bind_apply]
  rcases hprospect : Prospect.ofScan directory options runtime source
    { host with clock := host.clock.drop 1 } with ⟨fault | prospect, mid⟩ <;>
    rw [hprospect] at hread hquiet <;> rw [← hread]
  · rfl
  · have hsurface : mid.surface = host.surface := congrArg Machine.surface hquiet
    have hsame (tool : Tool) : mid.SameTool tool host :=
      (Host.SameTool.of_machine_eq hquiet).trans ⟨rfl, rfl, rfl⟩
    obtain ⟨after, hexamined, hclock⟩ :=
      Examination.ofProspect_apply lint deadCode first prospect mid
    have hclock : after.clock = host.clock.drop 1 :=
      hclock.trans (congrArg Machine.clock hquiet)
    have hown := (prospect.respects_own mid.processId mid host (.of_surface_eq hsurface)).1
    have houtcome : ((Checks.inOrder lint deadCode first).outcome prospect · mid) =
        ((Checks.inOrder lint deadCode first).outcome prospect · host) :=
      funext fun tool => Checks.outcome_congr hsurface (hsame tool)
    rw [hown, houtcome] at hexamined
    dsimp only
    rw [Run.bind_apply, hexamined]
    change _ = (prospect.own host).1.bind fun own =>
      (prospect.examination _ own).bind fun found => .ok (prospect.result found host.elapsed)
    rcases (prospect.own host).1 with fault | own
    · rfl
    · dsimp only [bind, Except.bind]
      rcases prospect.examination _ own with fault | found
      · rfl
      · obtain ⟨done, hreading⟩ := millisecondsSince_apply (host.clock.headD (.real 0.0)) after
        rw [hclock] at hreading
        exact congrArg Prod.fst (Run.bind_of_ok hreading)

/-- A scan that returns knows its project, has asked the built-in check, and could suppress. -/
theorem fst_scan_eq_ok {lint deadCode : Option (List String)} {first : Tool} {directory : Path}
    {options : ScanOptions} {runtime : Option RuntimeSettings} {source : SettingsSource}
    {host : Host} {r : ScanResult} :
    (scan directory options runtime (Checks.inOrder lint deadCode first) source host).1 = .ok r ↔
      ∃ prospect own found,
        (Prospect.ofScan directory options runtime source host).1 = .ok prospect ∧
        (prospect.own host).1 = .ok own ∧
        prospect.examination ((Checks.inOrder lint deadCode first).outcome prospect · host) own =
          .ok found ∧
        prospect.result found host.elapsed = r := by
  rw [fst_scan]
  constructor
  · intro hscan
    obtain ⟨prospect, hprospect, hscan⟩ := except_bind_eq_ok.1 hscan
    obtain ⟨own, hown, hscan⟩ := except_bind_eq_ok.1 hscan
    obtain ⟨found, hfound, hscan⟩ := except_bind_eq_ok.1 hscan
    exact ⟨prospect, own, found, hprospect, hown, hfound, Except.ok.inj hscan⟩
  · rintro ⟨prospect, own, found, hprospect, hown, hfound, rfl⟩
    exact except_bind_eq_ok.2 ⟨prospect, hprospect, except_bind_eq_ok.2 ⟨own, hown,
      except_bind_eq_ok.2 ⟨found, hfound, rfl⟩⟩⟩

/-- A result lists the checks that were run and failed, the linter's first. -/
theorem skipped_eq {lint deadCode : Option (List String)} {first : Tool} {directory : Path}
    {options : ScanOptions} {runtime : Option RuntimeSettings} {source : SettingsSource}
    {host : Host} {r : ScanResult}
    (hscan : (scan directory options runtime (Checks.inOrder lint deadCode first) source host).1 =
      .ok r) :
    ∃ prospect, (Prospect.ofScan directory options runtime source host).1 = .ok prospect ∧
      r.skipped = ([.linter, .deadCode].filter fun tool => prospect.plan.wants tool &&
        !((Checks.inOrder lint deadCode first).of tool prospect.context host).1.isOk).map
          Checks.label := by
  obtain ⟨prospect, own, found, hprospect, -, hfound, rfl⟩ := fst_scan_eq_ok.1 hscan
  obtain ⟨kept, -, rfl⟩ := except_map_eq_ok.1 hfound
  refine ⟨prospect, hprospect, (Checks.map_fst_reasons
    ((Checks.inOrder lint deadCode first).outcome prospect · host)).trans ?_⟩
  simp only [Checks.isSome_failure]

namespace Suppression

theorem remaining_append (settings : Settings) (found more : List Diagnostic) :
    remaining settings (found ++ more) = (do
      let kept ← remaining settings found
      return kept ++ (← remaining settings more)) := by
  induction found with
  | nil =>
    simp only [List.nil_append, remaining]
    cases remaining settings more <;> rfl
  | cons d rest ih =>
    simp only [List.cons_append, remaining, ih]
    rcases covers settings d with _ | covered
    · rfl
    rcases remaining settings rest with _ | kept
    · rfl
    rcases remaining settings more with _ | kept'
    · rfl
    cases covered <;> rfl

end Suppression

theorem unsuppressed_append (settings : Option Settings) (found more : List Diagnostic) :
    unsuppressed settings (found ++ more) = (do
      let kept ← unsuppressed settings found
      return kept ++ (← unsuppressed settings more)) := by
  cases settings with
  | none => rfl
  | some settings => exact Suppression.remaining_append settings found more

end Checkup
