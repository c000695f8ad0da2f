import Checkup.Proofs.Isolation
import Checkup.Proofs.Spawns

/-!
# Tools that crash

A tool that ends badly and prints nothing has crashed. The dead-code check fails when its tool
crashes on every try. The lint check looks at what its tool complains of and not at how it ended, so
that a crash fails the check only where there was a complaint: a linter that is killed and says
nothing passes for one that found nothing.
-/

namespace Checkup

open Run (Respects)

namespace Outcome

/-- Whether the process ended badly, or nobody knows how, and printed nothing. -/
def isCrash : Outcome → Bool
  | finished status output _ => status != some 0 && Text.strip output.lossy == ""
  | _ => false

def isSilent : Outcome → Bool
  | finished _ _ errors => Text.strip errors.lossy == ""
  | _ => false

/-- The outcome, with a silent crash replaced by a good end without findings. -/
def hushed (outcome : Outcome) : Outcome :=
  if outcome.isCrash && outcome.isSilent then finished (some 0) (.text "") (.text "") else outcome

theorem exists_of_isCrash {outcome : Outcome} (hcrash : outcome.isCrash = true) :
    ∃ status output errors, outcome = finished status output errors ∧ status ≠ some 0 ∧
      Text.strip output.lossy = "" := by
  cases outcome with
  | finished status output errors =>
    simp only [isCrash, Bool.and_eq_true, bne_iff_ne, beq_iff_eq] at hcrash
    exact ⟨status, output, errors, rfl, hcrash.1, hcrash.2⟩
  | hangs => cases hcrash
  | refused fault => cases hcrash

end Outcome

/-! ### One process -/

section Process

variable (spawn : Spawn) {outcome : Outcome}

theorem DeadCode.resultOf_of_isCrash (hcrash : outcome.isCrash = true) :
    ∃ failure, resultOf (spawn, outcome) = .error (.check failure) := by
  obtain ⟨status, output, errors, rfl, hstatus, hblank⟩ := Outcome.exists_of_isCrash hcrash
  have hbad : status.getD (-1) ≠ 0 := by
    cases status with
    | none => decide
    | some code => exact fun hzero => hstatus (congrArg some hzero)
  unfold resultOf
  rw [CommandResult.forCheck_finished]
  dsimp only [bind, Except.bind]
  rw [if_pos (by simp [hblank, hbad])]
  exact ⟨_, rfl⟩

namespace Lint

theorem resultOf_of_complaint (hcrash : outcome.isCrash = true) (hloud : outcome.isSilent = false) :
    ∃ failure, resultOf (spawn, outcome) = .error (.check failure) := by
  obtain ⟨status, output, errors, rfl, -, hblank⟩ := Outcome.exists_of_isCrash hcrash
  have hcomplaint : (Text.strip errors.lossy != "") = true := by
    simpa [Outcome.isSilent] using hloud
  rw [resultOf_finished]
  unfold reportOf
  dsimp only
  rw [hblank, if_neg (by simp), if_pos hcomplaint]
  exact ⟨_, rfl⟩

theorem resultOf_of_isSilent (hcrash : outcome.isCrash = true) (hsilent : outcome.isSilent = true) :
    resultOf (spawn, outcome) = .ok [] := by
  obtain ⟨status, output, errors, rfl, -, hblank⟩ := Outcome.exists_of_isCrash hcrash
  have hnothing : Text.strip errors.lossy = "" := by simpa [Outcome.isSilent] using hsilent
  rw [resultOf_finished]
  unfold reportOf
  dsimp only
  rw [hblank, hnothing]
  rfl

theorem resultOf_hushed (outcome : Outcome) :
    resultOf (spawn, outcome.hushed) = resultOf (spawn, outcome) := by
  unfold Outcome.hushed
  split
  · rename_i hboth
    obtain ⟨hcrash, hsilent⟩ := Bool.and_eq_true_iff.1 hboth
    rw [resultOf_of_isSilent spawn hcrash hsilent]
    rfl
  · rfl

end Lint

end Process

/-! ### The linter's reports -/

namespace Host

/-- The hosts show the same surface, and the lint check makes the same of the linter's processes. -/
structure SameReports (h h' : Host) : Prop where
  surface : h.surface = h'.surface
  started : h.started .linter = h'.started .linter
  resultOf : ∀ n spawn,
    Lint.resultOf (spawn, h.surroundings.process .linter n spawn.arguments) =
      Lint.resultOf (spawn, h'.surroundings.process .linter n spawn.arguments)

theorem isView_sameReports : Run.IsView SameReports where
  surface := SameReports.surface
  ofMachine := by
    rintro h h' k k' ⟨hsurface, hstarted, hresult⟩ hk hk'
    have hprocess : k.surroundings.process = h.surroundings.process := congrArg Machine.process hk
    have hprocess' : k'.surroundings.process = h'.surroundings.process :=
      congrArg Machine.process hk'
    have hcount : k.started = h.started := congrArg Machine.started hk
    have hcount' : k'.started = h'.started := congrArg Machine.started hk'
    refine ⟨?_, by rw [hcount, hcount', hstarted], fun n spawn => ?_⟩
    · rw [surface_eq_of_machine_eq hk, surface_eq_of_machine_eq hk', hsurface]
    · rw [hprocess, hprocess']
      exact hresult n spawn
  tree := fun tree ⟨hsurface, hstarted, hresult⟩ =>
    ⟨congrArg ({ · with tree }) hsurface, hstarted, hresult⟩

end Host

theorem Lint.respects_lintBatch_sameReports (arguments : List String) (root : Path)
    (environment : Option Variables) :
    Respects Host.SameReports (lintBatch arguments root environment) := by
  rintro h h' ⟨hsurface, hstarted, hresult⟩
  have htree := Host.tree_eq_of_surface_eq hsurface
  rw [lintBatch_apply, lintBatch_apply, htree]
  refine ⟨?_, hsurface, ?_, hresult⟩
  · have hprocess := hresult (h.started .linter) ⟨.linter, arguments, root, environment, h'.tree⟩
    unfold Host.next
    rw [hprocess, hstarted]
  · simp [Host.afterStart, Tool.countOne, hstarted]

/-- The host with the linter's silent crashes replaced by good ends without findings. -/
def Host.hushed (host : Host) : Host :=
  { host with surroundings := { host.surroundings with
      process := fun tool n arguments =>
        if tool = .linter then (host.surroundings.process tool n arguments).hushed
        else host.surroundings.process tool n arguments } }

/-- No silent crash of the linter makes a difference to the lint check. -/
theorem Lint.fst_check_hushed (fixed : Option (List String)) (context : CheckContext)
    (host : Host) : (check fixed context host.hushed).1 = (check fixed context host).1 := by
  have hsame : Host.SameReports host.hushed host :=
    ⟨rfl, rfl, fun _ _ => resultOf_hushed _ _⟩
  exact (respects_check_of_view Host.isView_sameReports respects_lintBatch_sameReports fixed context
    _ _ hsame).1

/-! ### Crashes and checks -/

theorem DeadCode.exists_failure_of_crash (fixed : Option (List String))
    (patience : Patience) (context : CheckContext) (host : Host) : ∃ started,
      (check fixed patience context host).2.spawns = host.spawns ++ started ∧
      (started ≠ [] → (∀ process ∈ host.processes .deadCode started, process.2.isCrash = true) →
        ∃ failure, (check fixed patience context host).1 = .error (.check failure)) := by
  obtain ⟨started, hspawned, -, hlast⟩ := check_apply fixed patience context host
  refine ⟨started, hspawned.spawns_eq, fun hstarted hcrashes => ?_⟩
  have hprocesses : host.processes .deadCode started ≠ [] := by
    simpa [Host.processes] using hstarted
  have hprocess := List.getLast?_eq_some_getLast hprocesses
  rw [hlast _ hprocess]
  exact resultOf_of_isCrash _ (hcrashes _ (List.getLast_mem hprocesses))

/-- A linter that crashes and complains fails its check; one that only crashes without a complaint
counts as one that found nothing. -/
theorem Lint.counts_crashes (fixed : Option (List String)) (context : CheckContext) (host : Host) :
    ∃ started, (check fixed context host).2.spawns = host.spawns ++ started ∧
      (∀ process ∈ host.processes .linter started,
        process.2.isCrash = true → process.2.isSilent = false →
          ∃ failure, (check fixed context host).1 = .error (.check failure)) ∧
      (started ≠ [] →
        (∀ process ∈ host.processes .linter started,
          process.2.isCrash = true ∧ process.2.isSilent = true) →
        (check fixed context host).1 = .ok []) := by
  obtain ⟨started, hspawned, hlinted⟩ := linted_check fixed context host
  refine ⟨started, hspawned.spawns_eq, fun process hmem hcrash hloud => ?_, fun hstarted hcrashes => ?_⟩
  · rcases hlinted with rfl | ⟨planned, hlinted⟩
    · cases hmem
    · obtain ⟨failure, hresult⟩ := resultOf_of_complaint process.1 hcrash hloud
      exact ⟨failure, hlinted.failed process hmem _ hresult⟩
  · rcases hlinted with rfl | ⟨planned, hlinted⟩
    · exact absurd rfl hstarted
    · refine hlinted.nothing fun process hmem => ?_
      exact resultOf_of_isSilent _ (hcrashes process hmem).1 (hcrashes process hmem).2

theorem label_mem_skipped_iff {lint deadCode : Option (List String)} {first : Tool}
    {directory : Path} {options : ScanOptions} {runtime : Option RuntimeSettings}
    {source : SettingsSource} {host : Host} {r : ScanResult}
    (hscan : (scan directory options runtime (Checks.inOrder lint deadCode first) source host).1 =
      .ok r) :
    ∃ prospect, (Prospect.ofScan directory options runtime source host).1 = .ok prospect ∧
      ∀ tool, Checks.label tool ∈ r.skipped ↔ prospect.plan.wants tool = true ∧
        ∃ fault, ((Checks.inOrder lint deadCode first).of tool prospect.context host).1 =
          .error fault := by
  obtain ⟨prospect, own, found, hprospect, -, hfound, rfl⟩ := fst_scan_eq_ok.1 hscan
  obtain ⟨kept, -, rfl⟩ := except_map_eq_ok.1 hfound
  refine ⟨prospect, hprospect, fun tool => ?_⟩
  refine (Checks.label_mem_skipped
    ((Checks.inOrder lint deadCode first).outcome prospect · host) tool).trans ?_
  rw [Checks.isSome_failure, Bool.and_eq_true]
  refine and_congr_right fun _ => ?_
  cases ((Checks.inOrder lint deadCode first).of tool prospect.context host).1 with
  | error fault => exact ⟨fun _ => ⟨fault, rfl⟩, fun _ => rfl⟩
  | ok found =>
    constructor
    · intro hfailed
      cases hfailed
    · rintro ⟨fault, hfault⟩
      cases hfault

/-- What crashes come to in the checks and in a scan. -/
structure CountsCrashes (fixed : Option (List String)) (patience : DeadCode.Patience)
    (context : CheckContext) (host : Host) : Prop where
  deadCode : ∃ started,
    (DeadCode.check fixed patience context host).2.spawns = host.spawns ++ started ∧
    (started ≠ [] → (∀ process ∈ host.processes .deadCode started, process.2.isCrash = true) →
      ∃ failure, (DeadCode.check fixed patience context host).1 = .error (.check failure))
  linter : ∃ started,
    (Lint.check fixed context host).2.spawns = host.spawns ++ started ∧
    (∀ process ∈ host.processes .linter started,
      process.2.isCrash = true → process.2.isSilent = false →
        ∃ failure, (Lint.check fixed context host).1 = .error (.check failure)) ∧
    (started ≠ [] →
      (∀ process ∈ host.processes .linter started,
        process.2.isCrash = true ∧ process.2.isSilent = true) →
      (Lint.check fixed context host).1 = .ok [])
  hushed : (Lint.check fixed context host.hushed).1 = (Lint.check fixed context host).1
  skipped : ∀ lint deadCode first directory options runtime source r,
    (scan directory options runtime (Checks.inOrder lint deadCode first) source host).1 = .ok r →
    ∃ prospect, (Prospect.ofScan directory options runtime source host).1 = .ok prospect ∧
      ∀ tool, Checks.label tool ∈ r.skipped ↔ prospect.plan.wants tool = true ∧
        ∃ fault, ((Checks.inOrder lint deadCode first).of tool prospect.context host).1 =
          .error fault

/-- A tool that crashes on every try fails the dead-code check, and so does a linter that crashes
and complains fail the lint check. A linter that crashes without a complaint counts as one that
found nothing. A scan lists the checks that failed. -/
theorem check_of_crash (fixed : Option (List String)) (patience : DeadCode.Patience)
    (context : CheckContext) (host : Host) : CountsCrashes fixed patience context host where
  deadCode := DeadCode.exists_failure_of_crash fixed patience context host
  linter := Lint.counts_crashes fixed context host
  hushed := Lint.fst_check_hushed fixed context host
  skipped _ _ _ _ _ _ _ _ := label_mem_skipped_iff

/-- A project whose linter is killed before it says anything. -/
def Host.withKilledLinter : Host :=
  .ofProject reactManifest (fun _ => .unavailable) fun
    | .linter, _, _ => .finished (some (-9)) (.text "") (.text "")
    | .deadCode, _, _ => .finished (some 0) (.text "") (.text "")

/-- The killed linter passes for one that found nothing, in its check and in a scan. -/
theorem check_withKilledLinter :
    (∃ spawn, (Lint.check (some ["oxlint"]) ⟨.root, default, default, none⟩
        Host.withKilledLinter).2.spawns = [spawn] ∧ spawn.tool = .linter) ∧
    (∀ n arguments,
      (Host.withKilledLinter.surroundings.process .linter n arguments).isCrash = true) ∧
    (Lint.check (some ["oxlint"]) ⟨.root, default, default, none⟩ Host.withKilledLinter).1 = .ok [] ∧
    ∃ r, (scan .here {} none (Checks.inOrder (some ["oxlint"]) (some ["knip"]) .linter) .disk
      Host.withKilledLinter).1 = .ok r ∧ r.skipped = [] := by
  have hcrash : (Outcome.finished (some (-9)) (.text "") (.text "")).isCrash = true := by
    decide +kernel
  refine ⟨?_, fun _ _ => hcrash, ?_, ?_⟩
  · have htools : (Lint.check (some ["oxlint"]) ⟨.root, default, default, none⟩
        Host.withKilledLinter).2.spawns.map (·.tool) = [.linter] := by decide +kernel
    obtain ⟨spawn, hspawns, htool⟩ := List.map_eq_singleton_iff.1 htools
    exact ⟨spawn, hspawns, htool⟩
  · obtain ⟨found, hcheck, hnone⟩ := exists_eq_ok_of_any
      (show (Lint.check (some ["oxlint"]) ⟨.root, default, default, none⟩
        Host.withKilledLinter).1.toOption.any List.isEmpty = true by decide +kernel)
    rw [hcheck, List.isEmpty_iff.1 hnone]
  · obtain ⟨r, hscan, hskipped⟩ := exists_eq_ok_of_any
      (show (scan .here {} none (Checks.inOrder (some ["oxlint"]) (some ["knip"]) .linter) .disk
        Host.withKilledLinter).1.toOption.any (·.skipped.isEmpty) = true by decide +kernel)
    exact ⟨r, hscan, List.isEmpty_iff.1 hskipped⟩

end Checkup
