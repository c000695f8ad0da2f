import Checkup.Proofs.Isolation
import Checkup.Proofs.Spawns

/-!
# What a scan does

Of what a scan does, only its checks show: finding out about the project is a question. A limited
scan does what its lint check does, and of a full one the linter's processes are those of that check.
-/

namespace Checkup

open Run (Keeps)

/-! ### The linter in a scan -/

/-- Nothing that was done in between shows, as far as the function looks. -/
abbrev Host.SameDeeds {β : Type} (f : List Event → β) (before after : Host) : Prop :=
  f after.deeds = f before.deeds

section Scan

variable {β : Type} {f : List Event → β} {lint deadCode : Option (List String)} {first : Tool}
  {prospect : Prospect}

theorem Run.IsQuiet.sameDeeds {α : Type} {step : Run α} (hstep : Run.IsQuiet step) :
    Keeps (Host.SameDeeds f) step :=
  fun host => congrArg (fun m => f m.deeds) (hstep host)

/-- When neither the dead-code check nor the built-in one shows, what shows of an examination is the
lint check, on a host that is as good as the first one. -/
theorem Examination.deeds_ofProspect
    (hdead : Keeps (Host.SameDeeds f)
      ((Checks.inOrder lint deadCode first).runOne prospect.plan prospect.context .deadCode))
    (hown : Keeps (Host.SameDeeds f) prospect.own) (host : Host) :
    ∃ mid, mid.surface = host.surface ∧ mid.SameTool .linter host ∧ f mid.deeds = f host.deeds ∧
      f (ofProspect prospect (Checks.inOrder lint deadCode first) host).2.deeds =
        f ((Checks.inOrder lint deadCode first).runOne prospect.plan prospect.context .linter
          mid).2.deeds := by
  have hrefl (host : Host) : Host.SameDeeds f host host := rfl
  have htrans {a b c : Host} (hab : Host.SameDeeds f a b) (hbc : Host.SameDeeds f b c) :
      Host.SameDeeds f a c := hbc.trans hab
  have hend : Host.SameDeeds f
      ((Checks.inOrder lint deadCode first).run prospect.plan prospect.context host).2
      (ofProspect prospect (Checks.inOrder lint deadCode first) host).2 := by
    refine Keeps.snd_bind hrefl (fun runs => ?_) host
    refine .bind htrans (Run.IsQuestion.noteAll _).quiet.sameDeeds fun _ => ?_
    refine .bind htrans (fun host => ?_) fun _ => hrefl
    rw [prospect.combine_apply]
    exact hown host
  cases first with
  | linter =>
    refine ⟨host, rfl, .of_machine_eq rfl, rfl, hend.trans ?_⟩
    refine Keeps.snd_bind hrefl (fun lintRun => ?_) host
    exact .bind htrans hdead fun deadCodeRun => hrefl
  | deadCode =>
    obtain ⟨run, mid, hrun, -, hspares, hsurface⟩ :=
      Checks.runOne_apply lint deadCode .deadCode prospect .deadCode host
    have hmid : Host.SameDeeds f host mid := by
      have hkept := hdead host
      rw [hrun] at hkept
      exact hkept
    have hfirst : (Checks.inOrder lint deadCode .deadCode).run prospect.plan prospect.context host =
        (do
          let lint ← (Checks.inOrder lint deadCode .deadCode).runOne prospect.plan prospect.context
            .linter
          return (lint, run)) mid := Run.bind_of_ok hrun
    rw [hfirst] at hend
    have hsame : host.SameTool .linter mid := hspares.sameTool nofun
    refine ⟨mid, hsurface rfl, hsame.symm, hmid, hend.trans ?_⟩
    refine Keeps.snd_bind hrefl (fun lintRun => ?_) mid
    exact hrefl

variable {directory : Path} {options : ScanOptions} {runtime : Option RuntimeSettings}
  {source : SettingsSource} {host : Host}

theorem deeds_scan
    (hprospect : (Prospect.ofScan directory options runtime source host).1 = .ok prospect)
    (hdead : Keeps (Host.SameDeeds f)
      ((Checks.inOrder lint deadCode first).runOne prospect.plan prospect.context .deadCode))
    (hown : Keeps (Host.SameDeeds f) prospect.own) :
    ∃ mid, mid.surface = host.surface ∧ mid.SameTool .linter host ∧ f mid.deeds = f host.deeds ∧
      f (scan directory options runtime (Checks.inOrder lint deadCode first) source host).2.deeds =
        f ((Checks.inOrder lint deadCode first).runOne prospect.plan prospect.context .linter
          mid).2.deeds := by
  let asked : Host := { host with clock := host.clock.drop 1 }
  have hquestion := Prospect.isQuestion_ofScan directory options runtime source
  have hasked : asked.surface = host.surface := rfl
  have hread := hquestion.reads hasked
  have hquiet := hquestion.quiet asked
  rw [hprospect] at hread
  rcases hrun : Prospect.ofScan directory options runtime source asked with ⟨result, begun⟩
  rw [hrun] at hread hquiet
  cases hread
  have hmachine : begun.machine = asked.machine := hquiet
  have hsurface : begun.surface = host.surface :=
    (Host.surface_eq_of_machine_eq hmachine).trans hasked
  have hdeeds : begun.deeds = host.deeds := congrArg Machine.deeds hmachine
  have hlinter : begun.SameTool .linter host :=
    (Host.SameTool.of_machine_eq hmachine).trans ⟨rfl, rfl, rfl⟩
  have hrefl (host : Host) : Host.SameDeeds f host host := rfl
  have hclock (started : Number) : Keeps (Host.SameDeeds f) (millisecondsSince started) :=
    fun host => by rw [millisecondsSince, Run.bind_of_ok (Run.now_apply host)]; rfl
  have hscan : Host.SameDeeds f
      (Examination.ofProspect prospect (Checks.inOrder lint deadCode first) begun).2
      (scan directory options runtime (Checks.inOrder lint deadCode first) source host).2 := by
    unfold scan
    rw [Run.bind_of_ok (Run.now_apply host), Run.bind_of_ok hrun]
    refine Keeps.snd_bind hrefl (fun found => ?_) begun
    exact .bind (fun hab hbc => hbc.trans hab) (hclock _) fun elapsed => hrefl
  obtain ⟨mid, hmid, hsame, hbefore, hexamined⟩ := Examination.deeds_ofProspect hdead hown begun
  exact ⟨mid, hmid.trans hsurface, hsame.trans hlinter, hbefore.trans (congrArg f hdeeds),
    hscan.trans hexamined⟩

theorem Checks.deeds_runOne_linter (hlint : prospect.plan.lint = true) (host : Host) :
    ((inOrder lint deadCode first).runOne prospect.plan prospect.context .linter host).2.deeds =
      (Lint.check lint prospect.context host).2.deeds := by
  have hwants : prospect.plan.wants .linter = true := hlint
  unfold runOne CheckRun.ofWanted
  rw [if_pos hwants]
  rfl

theorem deeds_scan_of_isLimited (lint deadCode : Option (List String)) (first : Tool)
    (hprospect : (Prospect.ofScan directory options runtime source host).1 = .ok prospect)
    (hlint : prospect.plan.lint = true) (hlimited : prospect.plan.isLimited = true) :
    ∃ mid, mid.surface = host.surface ∧ mid.SameTool .linter host ∧ mid.deeds = host.deeds ∧
      (scan directory options runtime (Checks.inOrder lint deadCode first) source host).2.deeds =
        (Lint.check lint prospect.context mid).2.deeds := by
  have hdead : Keeps (Host.SameDeeds id)
      ((Checks.inOrder lint deadCode first).runOne prospect.plan prospect.context .deadCode) := by
    have hwants : prospect.plan.wants .deadCode = false := by
      unfold ScanPlan.wants
      rw [hlimited]
      exact Bool.and_false _
    unfold Checks.runOne CheckRun.ofWanted
    rw [if_neg (by simp [hwants])]
    exact fun _ => rfl
  have hown : Keeps (Host.SameDeeds id) prospect.own := by
    unfold Prospect.own
    rw [if_pos hlimited]
    exact fun _ => rfl
  obtain ⟨mid, hsurface, hsame, hmid, hscan⟩ := deeds_scan hprospect hdead hown
  exact ⟨mid, hsurface, hsame, hmid, hscan.trans (Checks.deeds_runOne_linter hlint mid)⟩

/-- The findings of a limited scan are those of the lint check that the settings leave. -/
theorem unsuppressed_of_isLimited {result : ScanResult}
    (hprospect : (Prospect.ofScan directory options runtime source host).1 = .ok prospect)
    (hlint : prospect.plan.lint = true) (hlimited : prospect.plan.isLimited = true)
    (hscan : (scan directory options runtime (Checks.inOrder lint deadCode first) source host).1 =
      .ok result) :
    unsuppressed prospect.settings
        (CheckOutcome.ofResult (Lint.check lint prospect.context host).1).diagnostics =
      .ok result.diagnostics := by
  obtain ⟨found, own, examined, hfound, hown, hexamined, hresult⟩ := fst_scan_eq_ok.1 hscan
  obtain rfl : prospect = found := Except.ok.inj (hprospect.symm.trans hfound)
  have hnone : own = [] := by
    unfold Prospect.own at hown
    rw [if_pos hlimited] at hown
    exact (Except.ok.inj hown).symm
  have hdead : ((Checks.inOrder lint deadCode first).outcome prospect .deadCode host).diagnostics =
      [] := by
    unfold Checks.outcome ScanPlan.wants
    rw [hlimited]
    simp [CheckRun.skipped]
  have hlinter : (Checks.inOrder lint deadCode first).outcome prospect .linter host =
      .ofResult (Lint.check lint prospect.context host).1 := if_pos hlint
  rw [hnone] at hexamined
  unfold Prospect.examination at hexamined
  dsimp only at hexamined
  rw [hdead, hlinter, List.append_nil, List.append_nil] at hexamined
  rw [← hresult]
  rcases hleft : unsuppressed prospect.settings
    (CheckOutcome.ofResult (Lint.check lint prospect.context host).1).diagnostics with
    fault | left <;> rw [hleft] at hexamined <;> cases hexamined
  rfl

end Scan

/-! ### The linter's processes -/

def Event.linters (deeds : List Event) : List Spawn :=
  (deeds.filterMap (·.spawn?)).filter (·.tool == .linter)

theorem Host.linters_deeds (host : Host) :
    Event.linters host.deeds = host.spawns.filter (·.tool == .linter) := by
  rw [spawns_eq_deeds, Event.linters]

theorem Host.Spawned.linters_eq {before after : Host} {started : List Spawn}
    (hspawned : Spawned before after started) :
    Event.linters after.deeds = Event.linters before.deeds ++
      started.filter (·.tool == .linter) := by
  rw [linters_deeds, linters_deeds, hspawned.spawns_eq, List.filter_append]

theorem DeadCode.linters_check (fixed : Option (List String)) (patience : Patience)
    (context : CheckContext) :
    Keeps (Host.SameDeeds Event.linters) (check fixed patience context) := by
  intro host
  obtain ⟨started, hspawned, htools, -⟩ := check_apply fixed patience context host
  have hnone : started.filter (·.tool == .linter) = [] :=
    List.filter_eq_nil_iff.2 fun spawn hmem => by simp [htools spawn hmem]
  have hlinters := hspawned.linters_eq
  rw [hnone, List.append_nil] at hlinters
  exact hlinters

theorem Git.linters_contains? (directory : Path) (expression : String) (patterns : List String) :
    Keeps (Host.SameDeeds Event.linters) (contains? directory expression patterns) := by
  intro host
  have hspawns : (contains? directory expression patterns host).2.spawns = host.spawns := by
    rw [contains?_apply]
    simp [Host.spawns, Host.record, Event.spawn?]
  unfold Host.SameDeeds
  rw [Host.linters_deeds, Host.linters_deeds, hspawns]

theorem ReducedMotion.linters_check (directory : Path) :
    Keeps (Host.SameDeeds Event.linters) (check directory) := by
  have htrans {a b c : Host} (hab : Host.SameDeeds Event.linters a b)
      (hbc : Host.SameDeeds Event.linters b c) : Host.SameDeeds Event.linters a c := hbc.trans hab
  unfold check
  refine .bind htrans (Manifest.isQuestion_isIn _).quiet.sameDeeds fun _ => ?_
  refine .ite (fun _ => rfl) ?_
  refine .bind htrans (Manifest.isQuestion_readIn _).quiet.sameDeeds fun _ => ?_
  refine .ite (fun _ => rfl) ?_
  exact .bind htrans (Git.linters_contains? _ _ _) fun _ => .ite (fun _ => rfl) fun _ => rfl

/-- The processes of the linter that a full scan starts are those of the lint check. -/
theorem linters_scan {prospect : Prospect} {directory : Path} {options : ScanOptions}
    {runtime : Option RuntimeSettings} {source : SettingsSource} {host : Host}
    (lint deadCode : Option (List String)) (first : Tool)
    (hprospect : (Prospect.ofScan directory options runtime source host).1 = .ok prospect)
    (hlint : prospect.plan.lint = true) :
    ∃ mid, mid.surface = host.surface ∧ mid.SameTool .linter host ∧
      Event.linters mid.deeds = Event.linters host.deeds ∧
      Event.linters (scan directory options runtime (Checks.inOrder lint deadCode first) source
        host).2.deeds = Event.linters (Lint.check lint prospect.context mid).2.deeds := by
  have hdead : Keeps (Host.SameDeeds Event.linters)
      ((Checks.inOrder lint deadCode first).runOne prospect.plan prospect.context .deadCode) := by
    unfold Checks.runOne CheckRun.ofWanted
    exact .ite (DeadCode.linters_check deadCode _ prospect.context) fun _ => rfl
  have hown : Keeps (Host.SameDeeds Event.linters) prospect.own :=
    .ite (fun _ => rfl) (ReducedMotion.linters_check _)
  obtain ⟨mid, hsurface, hsame, hmid, hscan⟩ := deeds_scan hprospect hdead hown
  exact ⟨mid, hsurface, hsame, hmid,
    hscan.trans (congrArg Event.linters (Checks.deeds_runOne_linter hlint mid))⟩

end Checkup
