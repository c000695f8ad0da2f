import Checkup.Proofs.Isolation

/-!
# A scan and a diagnosis

`scan` and `diagnose` come to their checks on two ways: one asks for the switches of the run first
and takes the manifest's directory as it is, the other asks for them last and resolves that
directory. Behind them both is one survey. Where the directory of the manifest is already what it
resolves to, both ways lead to that survey and leave the host alike, so that a scan and a diagnosis
differ in nothing but in the score that a run without the network leaves out.
-/

namespace Checkup

namespace Path

/-- A path that is what it resolves to: one slash, no double dot, and a path at all. -/
structure IsResolved (p : Path) : Prop where
  anchor : p.anchor = .root
  climbs : ".." ∉ p.names
  hasNul : p.hasNul = false

theorem foldl_climb {names : List String} (hclimbs : ".." ∉ names) (above : List String) :
    names.foldl climb above = above ++ names := by
  induction names generalizing above with
  | nil => exact (List.append_nil above).symm
  | cons name rest ih =>
    obtain ⟨hname, hrest⟩ := not_or.1 (mt List.mem_cons.2 hclimbs)
    have hstep : climb above name = above ++ [name] := if_neg (by simpa using Ne.symm hname)
    rw [List.foldl_cons, hstep, ih hrest, List.append_assoc, List.singleton_append]

theorem IsResolved.resolve_eq {p : Path} (hresolved : p.IsResolved) (directory : Path) :
    resolve directory p = p := by
  obtain ⟨anchor, names⟩ := p
  obtain ⟨rfl, hclimbs, -⟩ := hresolved
  rw [resolve, join_of_isAbsolute rfl, foldl_climb hclimbs, List.nil_append]

end Path

namespace Run

variable {α β : Type}

theorem map_apply (f : α → β) (step : Run α) (host : Host) :
    (f <$> step) host = ((step host).1.map f, (step host).2) := by
  rw [map_eq_pure_bind, bind_apply]
  rcases step host with ⟨_ | a, after⟩ <;> rfl

theorem resolve_apply_of_not_hasNul {p : Path} (hnul : p.hasNul = false) (host : Host) :
    resolve p host = (.ok (Path.resolve host.workingDirectory p), host) := by
  unfold resolve
  rw [if_neg (by simp [hnul])]
  rfl

theorem resolveGiven_apply {given : Option Path} (hgiven : ∀ p ∈ given, p.IsResolved)
    (host : Host) : resolveGiven given host = (.ok given, host) := by
  cases given with
  | none => rfl
  | some p =>
    have hresolved := hgiven p rfl
    have hresolve := resolve_apply_of_not_hasNul hresolved.hasNul host
    rw [hresolved.resolve_eq] at hresolve
    exact bind_of_ok hresolve

end Run

theorem RuntimeSettings.ofHost_apply (host : Host) :
    ofHost host = (ofVariables host.environment, host) := by
  unfold ofHost
  rw [Run.get_bind]
  cases ofVariables host.environment <;> rfl

/-! ### Plans for the same work -/

/-- Plans that ask for the same checks on the same paths. -/
structure ScanPlan.SameWork (plan other : ScanPlan) : Prop where
  lint : plan.lint = other.lint
  deadCode : plan.deadCode = other.deadCode
  paths : plan.paths = other.paths

namespace ScanPlan.SameWork

variable {plan other : ScanPlan} (hsame : plan.SameWork other)
include hsame

theorem isLimited_eq : plan.isLimited = other.isLimited := by
  rw [isLimited, isLimited, hsame.paths]

theorem wants_eq (tool : Tool) : plan.wants tool = other.wants tool := by
  cases tool with
  | linter => exact hsame.lint
  | deadCode => rw [wants, wants, hsame.deadCode, hsame.isLimited_eq]

theorem run_eq (checks : Checks) (context : CheckContext) :
    checks.run plan context = checks.run other context := by
  unfold Checks.run Checks.runOne
  simp only [hsame.wants_eq]

/-- An examination depends on the checks and the paths of its plan alone. -/
theorem ofProspect_eq (directory : Path) (settings : Option Settings) (runtime : RuntimeSettings)
    (project : Project) (checks : Checks) :
    Examination.ofProspect ⟨directory, plan, settings, runtime, project⟩ checks =
      (fun found => { found with plan }) <$>
        Examination.ofProspect ⟨directory, other, settings, runtime, project⟩ checks := by
  have hcontext : Prospect.context ⟨directory, plan, settings, runtime, project⟩ =
      Prospect.context ⟨directory, other, settings, runtime, project⟩ := by
    rw [Prospect.context, Prospect.context, hsame.paths]
  unfold Examination.ofProspect
  simp only [map_bind, map_pure, hsame.isLimited_eq]
  rw [hcontext, hsame.run_eq checks]

end ScanPlan.SameWork

/-! ### The survey behind a scan and a diagnosis -/

namespace ScanOptions

/-- What the caller of a scan asks for, as far as a diagnosis can be asked for it. -/
def forDiagnosis (options : ScanOptions) : DiagnosisOptions where
  lint := options.lint
  deadCode := options.deadCode
  manifest := options.manifest
  paths := options.paths

def result (options : ScanOptions) (runtime : RuntimeSettings) (found : Examination)
    (elapsed : Number) : ScanResult where
  diagnostics := found.diagnostics
  score := if options.offline || runtime.offline then none else some (.ofDiagnostics found.diagnostics)
  reasons := found.reasons
  project := some found.project
  elapsed := elapsed
  paths := found.plan.paths

end ScanOptions

namespace DiagnosisOptions

/-- A diagnosis is asked for as a scan that says nothing about its report. -/
def forScan (options : DiagnosisOptions) : ScanOptions where
  lint := options.lint
  deadCode := options.deadCode
  manifest := options.manifest
  paths := options.paths

end DiagnosisOptions

theorem ScanPlan.sameWork_forScan (options : ScanOptions) (settings : Option Settings) :
    (ofOptions options.forDiagnosis.forScan settings).SameWork (ofOptions options settings) :=
  ⟨rfl, rfl, rfl⟩

namespace Examination

def diagnosis (found : Examination) (elapsed : Number) : Diagnosis where
  diagnostics := found.diagnostics
  score := .ofDiagnostics found.diagnostics
  project := found.project
  elapsed := elapsed

theorem run_eq (directory : Path) (options : ScanOptions) (settings : Option Settings)
    (runtime : RuntimeSettings) (checks : Checks) :
    run directory options settings runtime checks = (do
      let project ← Project.discover directory options.manifest
      if project.react.any (·.isTruthy) then
        ofProspect ⟨directory, .ofOptions options settings, settings, runtime, project⟩ checks
      else throw .noReact) := by
  unfold run Prospect.find
  rw [bind_assoc]
  refine congrArg _ (funext fun project => ?_)
  split
  · exact pure_bind _ _
  · rfl

/-- What a diagnosis examines is what a scan examines, but for the plan's part on the report. -/
theorem run_forScan (directory : Path) (options : ScanOptions) (settings : Option Settings)
    (runtime : RuntimeSettings) (checks : Checks) :
    run directory options.forDiagnosis.forScan settings runtime checks =
      (fun found => { found with plan := .ofOptions options.forDiagnosis.forScan settings }) <$>
        run directory options settings runtime checks := by
  rw [run_eq, run_eq, map_bind]
  refine congrArg _ (funext fun project => ?_)
  split
  · exact (ScanPlan.sameWork_forScan options settings).ofProspect_eq _ _ _ _ _
  · rfl

end Examination

/-- What a scan and a diagnosis have in common: the examination of a directory with the settings
that are found there, and how long it took. -/
def survey (directory : Path) (options : ScanOptions) (runtime : RuntimeSettings)
    (checks : Checks) : Run (Examination × Number) := do
  let started ← Run.now
  let directory ← Run.resolve directory
  let settings ← Settings.load directory
  let found ← Examination.run directory options settings runtime checks
  let elapsed ← millisecondsSince started
  return (found, elapsed)

section

variable {directory : Path} {options : ScanOptions} {runtime : RuntimeSettings} {checks : Checks}
  {host : Host}

theorem scan_eq_survey (hruntime : RuntimeSettings.ofVariables host.environment = .ok runtime) :
    scan directory options none checks .disk host =
      ((fun (found, elapsed) => options.result runtime found elapsed) <$>
        survey directory options runtime checks) host := by
  have hswitches (clock : List Number) : RuntimeSettings.given none { host with clock } =
      (.ok runtime, { host with clock }) := by
    rw [← hruntime]
    exact RuntimeSettings.ofHost_apply _
  unfold scan survey Prospect.ofScan
  rw [map_bind, Run.bind_of_ok (Run.now_apply host), Run.bind_of_ok (Run.now_apply host)]
  simp only [bind_assoc, map_bind]
  rw [Run.bind_of_ok (hswitches _)]
  refine congrFun (congrArg _ (funext fun directory => congrArg _ (funext fun settings => ?_))) _
  rw [Examination.run_eq, Prospect.find, bind_assoc, bind_assoc]
  refine congrArg _ (funext fun project => ?_)
  split
  · rw [pure_bind]
    rfl
  · rfl

theorem diagnose_eq_survey (hruntime : RuntimeSettings.ofVariables host.environment = .ok runtime)
    (hmanifest : ∀ p ∈ options.manifest, p.IsResolved) :
    diagnose directory options.forDiagnosis checks host =
      ((fun (found, elapsed) => found.diagnosis elapsed) <$>
        survey directory options runtime checks) host := by
  unfold diagnose survey
  rw [map_bind, Run.bind_of_ok (Run.now_apply host), Run.bind_of_ok (Run.now_apply host), map_bind]
  refine Run.bind_congr fun resolved mid hresolve => ?_
  have hgiven : Run.resolveGiven options.forDiagnosis.manifest mid = (.ok options.manifest, mid) :=
    Run.resolveGiven_apply hmanifest mid
  rw [Run.bind_of_ok hgiven, map_bind]
  refine Run.bind_congr fun settings after hload => ?_
  -- the variables are read last here, when only questions have been asked
  have hmid : mid.environment = host.environment := by
    have hquestion := Host.environment_eq_of_surface_eq
      ((Run.IsQuestion.resolve directory).surface_eq { host with clock := host.clock.drop 1 })
    rwa [hresolve] at hquestion
  have hafter : after.environment = mid.environment := by
    have hquestion := Host.environment_eq_of_surface_eq
      ((Settings.isQuestion_load resolved).surface_eq mid)
    rwa [hload] at hquestion
  have hswitches : RuntimeSettings.ofHost after = (.ok runtime, after) := by
    rw [RuntimeSettings.ofHost_apply, hafter, hmid, hruntime]
  rw [Run.bind_of_ok hswitches]
  refine congrFun ?_ after
  change (Examination.run resolved options.forDiagnosis.forScan settings runtime checks >>= _) = _
  rw [Examination.run_forScan, bind_map_left, map_bind]
  refine congrArg _ (funext fun found => ?_)
  rw [map_bind]
  simp only [map_pure]
  rfl

end

/-- A scan with the settings of its project and a diagnosis of the same project agree: they leave
the host alike, and so have started the same processes, and they end in the same fault or find the
same. The score of a diagnosis is that of a scan that is not offline. -/
theorem scan_agrees_with_diagnose (directory : Path) (options : ScanOptions) (checks : Checks)
    (host : Host) {runtime : RuntimeSettings}
    (hruntime : (RuntimeSettings.ofHost host).1 = .ok runtime)
    (hmanifest : ∀ p ∈ options.manifest, p.IsResolved) :
    (scan directory options none checks .disk host).2 =
      (diagnose directory options.forDiagnosis checks host).2 ∧
    ((∃ fault, (scan directory options none checks .disk host).1 = .error fault ∧
        (diagnose directory options.forDiagnosis checks host).1 = .error fault) ∨
      ∃ r d, (scan directory options none checks .disk host).1 = .ok r ∧
        (diagnose directory options.forDiagnosis checks host).1 = .ok d ∧
        r.diagnostics = d.diagnostics ∧ r.project = some d.project ∧ r.elapsed = d.elapsed ∧
        r.score = if options.offline || runtime.offline then none else some d.score) := by
  rw [RuntimeSettings.ofHost_apply] at hruntime
  rw [scan_eq_survey hruntime, diagnose_eq_survey hruntime hmanifest, Run.map_apply, Run.map_apply]
  refine ⟨rfl, ?_⟩
  rcases (survey directory options runtime checks host).1 with fault | ⟨found, elapsed⟩
  · exact .inl ⟨fault, rfl, rfl⟩
  · exact .inr ⟨_, _, rfl, rfl, rfl, rfl, rfl, rfl⟩

/-- A project whose linter finds one thing and whose dead-code tool finds none. -/
def Host.withFinding : Host :=
  .ofProject reactManifest (fun _ => .unavailable) fun
    | .linter, _, _ => .finished (some 1)
        (.text "\x7b\"diagnostics\":[\x7b\"code\":\"react(jsx-key)\",\"filename\":\"App.tsx\"\x7d]\x7d")
        (.text "")
    | .deadCode, _, _ => .finished (some 0) (.text "") (.text "")

/-- With the manifest's directory given as it is, both find the same one thing. -/
theorem scan_agrees_withFinding : ∃ r d,
    (scan .here { manifest := some .root } none
      (Checks.inOrder (some ["oxlint"]) (some ["knip"]) .linter) .disk Host.withFinding).1 = .ok r ∧
    (diagnose .here { manifest := some .root }
      (Checks.inOrder (some ["oxlint"]) (some ["knip"]) .linter) Host.withFinding).1 = .ok d ∧
    r.diagnostics.length = 1 ∧ r.diagnostics = d.diagnostics ∧ r.score = some d.score := by
  obtain ⟨r, hscan, hlength⟩ := exists_eq_ok_of_any
    (show (scan .here { manifest := some .root } none
      (Checks.inOrder (some ["oxlint"]) (some ["knip"]) .linter) .disk
      Host.withFinding).1.toOption.any (·.diagnostics.length == 1) = true by decide +kernel)
  obtain ⟨runtime, hruntime, honline⟩ := exists_eq_ok_of_any
    (show (RuntimeSettings.ofHost Host.withFinding).1.toOption.any (!·.offline) = true by
      decide +kernel)
  have hmanifest : ∀ p ∈ ({ manifest := some .root } : ScanOptions).manifest, p.IsResolved := by
    rintro _ ⟨⟩
    exact ⟨rfl, by decide, by decide⟩
  obtain ⟨-, ⟨fault, hfault, -⟩ | ⟨r', d, hr, hd, hdiagnostics, -, -, hscore⟩⟩ :=
    scan_agrees_with_diagnose .here { manifest := some .root }
      (Checks.inOrder (some ["oxlint"]) (some ["knip"]) .linter) Host.withFinding hruntime hmanifest
  · rw [hscan] at hfault
    cases hfault
  · obtain rfl : r = r' := Except.ok.inj (hscan.symm.trans hr)
    have hoffline : runtime.offline = false := by simpa using honline
    rw [hoffline] at hscore
    exact ⟨r, d, hscan, hd, eq_of_beq hlength, hdiagnostics, hscore⟩

/-- An absolute directory without dots is not yet what it resolves to. With a NUL in it, a scan
finds no manifest there and a diagnosis refuses it; with two slashes at its front, both miss the
manifest, each in another directory. -/
theorem scan_disagrees_with_diagnose :
    (RuntimeSettings.ofHost Host.withFinding).1.isOk = true ∧
    (∀ p ∈ [(⟨.root, ["a\x00b"]⟩ : Path), ⟨.doubleRoot, ["none"]⟩],
      p.isAbsolute = true ∧ "." ∉ p.names ∧ ".." ∉ p.names) ∧
    (scan .here { manifest := some ⟨.root, ["a\x00b"]⟩ } none .usual .disk Host.withFinding).1 =
      .error (.noManifest ⟨.root, ["a\x00b"]⟩) ∧
    (diagnose .here { manifest := some ⟨.root, ["a\x00b"]⟩ } .usual Host.withFinding).1 =
      .error (.badValue "embedded null byte") ∧
    (scan .here { manifest := some ⟨.doubleRoot, ["none"]⟩ } none .usual .disk Host.withFinding).1 =
      .error (.noManifest ⟨.doubleRoot, ["none"]⟩) ∧
    (diagnose .here { manifest := some ⟨.doubleRoot, ["none"]⟩ } .usual Host.withFinding).1 =
      .error (.noManifest ⟨.root, ["none"]⟩) := by
  refine ⟨by decide +kernel, by decide, ?_, ?_, ?_, ?_⟩ <;>
    exact eq_error_of_faultOf (by decide +kernel)

end Checkup
