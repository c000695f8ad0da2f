import Checkup.Proofs.Faults

/-!
# The exit status as a gate

A run goes through its projects one after another, and its exit status is one exactly when one of
them fails it. What a project comes to is a `Verdict`: nothing to scan, a scan with findings that are
weighed at a level, or a fault that ends the run. A step of the loop gives one verdict
(`exists_comesTo_of_ok`), and the loop threads the host through the verdicts in order (`Handled`),
so that a later project can neither clear what an earlier one found nor be reached after a fault.
-/

namespace Checkup.Cli

open Run (IsQuestion)

/-! ### Verdicts -/

inductive Verdict
  /-- nothing to scan among what changed -/
  | untouched
  /-- findings, weighed at a level -/
  | scanned (found : List Diagnostic) (level : FailOn)
  /-- a fault that is reported -/
  | fatal (fault : Fault)

namespace Verdict

def fails : Verdict → Bool
  | untouched => false
  | scanned found level => level.fails found
  | fatal _ => true

def isFatal : Verdict → Bool
  | fatal _ => true
  | _ => false

/-- The verdict tells what a run on a project gives. -/
def Explains (verdict : Verdict) : Except Fault Bool → Prop
  | .ok failed => verdict.isFatal = false ∧ failed = verdict.fails
  | .error fault => verdict = fatal fault

end Verdict

section Project

variable (options : Options) (runtime : RuntimeSettings) (checks : Checks)

/-- What a project comes to on the host that the run finds it on. Its findings are weighed at the
level that was asked for, else at that of its own settings, and else fail no run. -/
inductive ComesTo (directory : Path) (host : Host) : Verdict → Prop
  | untouched {settings : Option Settings}
      (hsettings : (Settings.load directory host).1 = .ok settings)
      (hscope : (scopePaths directory (.resolve options.diff settings) options.score host).1 =
        .ok none) : ComesTo directory host .untouched
  | scanned {settings : Option Settings} {paths : List String} {begun : Host} {result : ScanResult}
      (hsettings : (Settings.load directory host).1 = .ok settings)
      (hscope : (scopePaths directory (.resolve options.diff settings) options.score host).1 =
        .ok (some paths))
      (hbegun : begun.machine = host.machine)
      (hscan : (scan directory (scanOptions options paths) (some runtime) checks (.given settings)
        begun).1 = .ok result) :
      ComesTo directory host (.scanned result.diagnostics
        ((options.failOn.or (settings.bind (·.failOn))).getD .never))
  | fatal {settings : Option Settings} {paths : List String} {begun : Host} {fault : Fault}
      (hsettings : (Settings.load directory host).1 = .ok settings)
      (hscope : (scopePaths directory (.resolve options.diff settings) options.score host).1 =
        .ok (some paths))
      (hbegun : begun.machine = host.machine)
      (hscan : (scan directory (scanOptions options paths) (some runtime) checks (.given settings)
        begun).1 = .error fault)
      (hreported : fault.isReported = true) : ComesTo directory host (.fatal fault)

/-- How a run goes through projects: each verdict is that of the next project, on the host that the
one before has left, and a fatal one is the last. -/
inductive Handled : Host → List Path → List Verdict → Host → Prop
  | done (host : Host) : Handled host [] [] host
  | next {directory : Path} {rest : List Path} {verdict : Verdict} {verdicts : List Verdict}
      {host after : Host}
      (hcomes : ComesTo options runtime checks directory host verdict)
      (hgoes : verdict.isFatal = false)
      (hrest : Handled (runProject directory options runtime checks host).2 rest verdicts after) :
      Handled host (directory :: rest) (verdict :: verdicts) after
  | stopped {directory : Path} {rest : List Path} {verdict : Verdict} {host : Host}
      (hcomes : ComesTo options runtime checks directory host verdict)
      (hstops : verdict.isFatal = true) :
      Handled host (directory :: rest) [verdict] (runProject directory options runtime checks host).2

end Project

section Step

variable {directory : Path} {options : Options} {runtime : RuntimeSettings} {checks : Checks}
  {host after : Host}

/-- The report on a project changes nothing about how its scan ended, unless it ends in a fault that
is not of the domain. -/
theorem fst_scan_of_scanProject {paths : List String} {settings : Option Settings}
    {result : Except Fault ScanResult}
    (hresult : Reported result)
    (hrun : scanProject directory paths options settings runtime checks host = (result, after)) :
    (scan directory (scanOptions options paths) (some runtime) checks (.given settings) host).1 =
      result := by
  rcases hscan : scan directory (scanOptions options paths) (some runtime) checks (.given settings)
    host with ⟨fault | found, scanned⟩
  · have hfaults : scanProject directory paths options settings runtime checks host =
        (.error fault, scanned) := Run.bind_of_error hscan
    rw [hfaults] at hrun
    cases hrun
    rfl
  · have hreport := (Run.bind_of_ok hscan).symm.trans hrun
    dsimp only at hreport
    split at hreport
    · obtain ⟨said, mid, -, hend⟩ := (isUnreported_sayScore _ _).exists_of_bind hresult hreport
      cases hend
      rfl
    · cases hproject : found.project with
      | none =>
        rw [hproject] at hreport
        cases hreport
        rfl
      | some p =>
        rw [hproject] at hreport
        obtain ⟨said, mid, -, hend⟩ :=
          (isUnreported_report _ _ _ _ _ _).exists_of_bind hresult hreport
        cases hend
        rfl

/-- What a project comes to once its scan is begun, in any way but by a fault that is not of the
domain: the fault is that of the scan, and else its findings are weighed at its level. -/
theorem exists_comesTo_of_begun {settings : Option Settings} {paths : List String} {begun : Host}
    {result : Except Fault Bool} (hsettings : (Settings.load directory host).1 = .ok settings)
    (hscope : (scopePaths directory (.resolve options.diff settings) options.score host).1 =
      .ok (some paths))
    (hbegun : begun.machine = host.machine)
    (hresult : Reported result)
    (hrun : runBegun directory paths options settings runtime checks begun = (result, after)) :
    ∃ verdict, ComesTo options runtime checks directory host verdict ∧ verdict.Explains result := by
  unfold runBegun at hrun
  rw [Run.bind_apply] at hrun
  rcases hscanned : scanProject directory paths options settings runtime checks begun with
    ⟨fault | found, mid⟩ <;> rw [hscanned] at hrun <;> dsimp only at hrun
  · cases hrun
    exact ⟨.fatal fault, .fatal hsettings hscope hbegun
      (fst_scan_of_scanProject (.error (hresult fault rfl)) hscanned) (hresult fault rfl), rfl⟩
  · have hscan := fst_scan_of_scanProject (.ok found) hscanned
    refine ⟨.scanned found.diagnostics (gateLevel options settings),
      .scanned hsettings hscope hbegun hscan, ?_⟩
    split at hrun
    · obtain ⟨said, ended, -, hend⟩ := Run.IsUnreported.sayNothing.exists_of_bind hresult hrun
      cases hend
      exact ⟨rfl, rfl⟩
    · cases hrun
      exact ⟨rfl, rfl⟩

/-- What a project comes to, in any way but by a fault that is not of the domain. -/
theorem exists_comesTo {result : Except Fault Bool}
    (hresult : Reported result)
    (hrun : runProject directory options runtime checks host = (result, after)) :
    ∃ verdict, ComesTo options runtime checks directory host verdict ∧ verdict.Explains result := by
  rw [runProject_eq] at hrun
  have hsettings := Settings.isUnreported_load directory
  obtain ⟨settings, loaded, hsettings, hloaded, hrun⟩ :=
    hsettings.exists_of_bind_question (Settings.isQuestion_load directory) hresult hrun
  have hquestion := isQuestion_scopePaths directory (.resolve options.diff settings) options.score
  obtain ⟨scope, limited, hscope, hlimited, hrun⟩ :=
    (isUnreported_scopePaths _ _ _).exists_of_bind_question hquestion hresult hrun
  replace hlimited : limited.machine = host.machine := hlimited.trans hloaded
  rw [hquestion.reads (Host.surface_eq_of_machine_eq hloaded)] at hscope
  cases scope with
  | none =>
    cases hrun
    exact ⟨.untouched, .untouched hsettings hscope, rfl, rfl⟩
  | some paths =>
    obtain ⟨-, announced, -, hannounced, hrun⟩ := (isUnreported_sayUnless _ _).exists_of_bind_question
      (isQuestion_sayUnless _ _) hresult hrun
    exact exists_comesTo_of_begun hsettings hscope (hannounced.trans hlimited) hresult hrun

end Step

/-! ### The loop -/

variable {options : Options} {runtime : RuntimeSettings} {checks : Checks}

/-- The loop handles its projects in order. It ends in a fault when the last of them does, and else
tells whether one of them failed the run. -/
theorem exists_handled (directories : List Path) (host : Host)
    (hreported : Reported (runProjects options runtime checks directories host).1) :
    ∃ verdicts, Handled options runtime checks host directories verdicts
        (runProjects options runtime checks directories host).2 ∧
      match (runProjects options runtime checks directories host).1 with
      | .ok failed => failed = verdicts.any Verdict.fails
      | .error fault => Verdict.fatal fault ∈ verdicts := by
  induction directories generalizing host with
  | nil => exact ⟨[], .done host, rfl⟩
  | cons directory rest ih =>
    have heq : runProjects options runtime checks (directory :: rest) =
        runProject directory options runtime checks >>= fun failed => do
          return (← runProjects options runtime checks rest) || failed := rfl
    rw [heq] at hreported ⊢
    rw [Run.bind_apply] at hreported ⊢
    rcases hrun : runProject directory options runtime checks host with ⟨fault | failed, mid⟩ <;>
      rw [hrun] at hreported
    · obtain ⟨verdict, hcomes, rfl⟩ := exists_comesTo hreported hrun
      have hstopped : Handled options runtime checks host (directory :: rest) [.fatal fault]
          (runProject directory options runtime checks host).2 := .stopped hcomes rfl
      rw [hrun] at hstopped
      exact ⟨_, hstopped, List.mem_singleton_self _⟩
    · obtain ⟨verdict, hcomes, hgoes, rfl⟩ := exists_comesTo (.ok failed) hrun
      have hrest : Reported (runProjects options runtime checks rest mid).1 := by
        intro fault hfault
        refine hreported fault ?_
        dsimp only
        rw [Run.bind_of_error (Prod.ext hfault rfl)]
      obtain ⟨verdicts, hhandled, hresult⟩ := ih mid hrest
      have hnext : Handled options runtime checks host (directory :: rest) (verdict :: verdicts)
          (runProjects options runtime checks rest mid).2 :=
        .next hcomes hgoes (by rwa [hrun])
      dsimp only
      rcases hlater : runProjects options runtime checks rest mid with ⟨fault | later, after⟩ <;>
        rw [hlater] at hnext hresult
      · rw [Run.bind_of_error hlater]
        exact ⟨_, hnext, List.mem_cons_of_mem _ hresult⟩
      · rw [Run.bind_of_ok hlater]
        refine ⟨_, hnext, ?_⟩
        dsimp only at hresult
        rw [hresult]
        exact Bool.or_comm _ _

/-! ### The run -/

theorem isQuestion_candidates (root : Path) : IsQuestion (candidates root) :=
  .bind (Package.isQuestion_inWorkspaces _ _) fun _ =>
    .ite (Package.isQuestion_inSubdirectories _ _) (.pure _)

/-- The choice of the projects of a run without a dialogue only asks. -/
theorem isQuestion_selectProjects (root : Path) (list : Option String) :
    IsQuestion (selectProjects root list false) := by
  refine .bind (isQuestion_candidates root) fun packages => .ite (.pure _) ?_
  cases list.filter (· != "") with
  | some names =>
    dsimp only
    cases requested names packages with
    | ok directories => exact .pure _
    | error fault => exact .throw _
  | none =>
    dsimp only
    rw [if_pos (by simp)]
    exact .pure _

/-- How a run below a root ends that chooses its projects without a dialogue. Either the choice ends
in a fault that is reported, and nothing is done; or the chosen projects are handled, begun on the
machine that the run found, and the status tells whether one of them failed the run. -/
inductive Concluded (options : Options) (runtime : RuntimeSettings) (checks : Checks) (root : Path)
    (host : Host) (status : Nat) (after : Host) : Prop
  | unchosen {fault : Fault}
      (hchoice : (selectProjects root options.project false host).1 = .error fault)
      (hreported : fault.isReported = true)
      (hstatus : status = 1)
      (hquiet : after.machine = host.machine)
  | handled {directories : List Path} {begun ended : Host} {verdicts : List Verdict}
      (hchoice : (selectProjects root options.project false host).1 = .ok directories)
      (hbegun : begun.machine = host.machine)
      (hhandled : Handled options runtime checks begun directories verdicts ended)
      (hended : after.machine = ended.machine)
      (hstatus : status = if verdicts.any Verdict.fails then 1 else 0)

section Run

variable {options : Options} {runtime : RuntimeSettings} {checks : Checks} {root : Path}
  {host begun after : Host} {status : Nat}

theorem Concluded.of_machine_eq (hbegun : begun.machine = host.machine)
    (hconcluded : Concluded options runtime checks root begun status after) :
    Concluded options runtime checks root host status after := by
  have hsame := (isQuestion_selectProjects root options.project).reads
    (Host.surface_eq_of_machine_eq hbegun)
  cases hconcluded with
  | unchosen hchoice hreported hstatus hquiet =>
    exact .unchosen (hsame ▸ hchoice) hreported hstatus (hquiet.trans hbegun)
  | handled hchoice hfound hhandled hended hstatus =>
    exact .handled (hsame ▸ hchoice) (hfound.trans hbegun) hhandled hended hstatus

theorem concluded_of_runBelow_ok {failed : Bool} (hdialogue : isInteractive options runtime = false)
    (hbelow : runBelow root options runtime checks host = (.ok failed, after)) :
    Concluded options runtime checks root host (Cli.status failed) after := by
  unfold runBelow at hbelow
  rw [hdialogue] at hbelow
  obtain ⟨directories, begun, hchoice, hbegun, hrun⟩ :=
    (isQuestion_selectProjects root options.project).exists_of_bind_eq_ok hbelow
  have hreported : Reported (runProjects options runtime checks directories begun).1 :=
    hrun ▸ .ok failed
  obtain ⟨verdicts, hhandled, hverdicts⟩ := exists_handled directories begun hreported
  rw [hrun] at hhandled hverdicts
  exact .handled hchoice hbegun hhandled rfl (congrArg Cli.status hverdicts)

theorem concluded_of_runBelow_error {fault : Fault} {said : Host}
    (hdialogue : isInteractive options runtime = false)
    (hbelow : runBelow root options runtime checks host = (.error fault, after))
    (hreported : fault.isReported = true) (hsaid : said.machine = after.machine) :
    Concluded options runtime checks root host 1 said := by
  unfold runBelow at hbelow
  rw [hdialogue, Run.bind_apply] at hbelow
  have hquiet := (isQuestion_selectProjects root options.project).quiet host
  rcases hchoice : selectProjects root options.project false host with ⟨found | directories, begun⟩ <;>
    rw [hchoice] at hbelow hquiet
  · cases hbelow
    exact .unchosen (congrArg Prod.fst hchoice) hreported rfl (hsaid.trans hquiet)
  · dsimp only at hbelow
    have hfaults : Reported (runProjects options runtime checks directories begun).1 :=
      hbelow ▸ .error hreported
    obtain ⟨verdicts, hhandled, hverdicts⟩ := exists_handled directories begun hfaults
    rw [hbelow] at hhandled hverdicts
    have hfails : verdicts.any Verdict.fails = true := List.any_eq_true.2 ⟨_, hverdicts, rfl⟩
    exact .handled (congrArg Prod.fst hchoice) hquiet hhandled hsaid (by rw [hfails]; rfl)

theorem concluded_of_runAnnounced (hdialogue : isInteractive options runtime = false)
    (hrun : runAnnounced root options runtime checks host = (.ok status, after)) :
    Concluded options runtime checks root host status after := by
  unfold runAnnounced at hrun
  rw [Run.bind_of_ok (Run.attempt_apply _ _)] at hrun
  rcases hbelow : runBelow root options runtime checks host with ⟨fault | failed, ended⟩ <;>
    rw [hbelow] at hrun <;> dsimp only at hrun
  · split at hrun
    · rename_i hreported
      obtain ⟨-, said, -, hsaid, hend⟩ := (IsQuestion.say _).exists_of_bind_eq_ok hrun
      cases hend
      exact concluded_of_runBelow_error hdialogue hbelow hreported hsaid
    · cases hrun
  · cases hrun
    exact concluded_of_runBelow_ok hdialogue hbelow

theorem concluded_of_runOptions (hruntime : (RuntimeSettings.ofHost host).1 = .ok runtime)
    (hroot : (Run.resolve (Path.ofText options.directory) host).1 = .ok root)
    (hdirectory : (Run.isDirectory root host).1 = .ok true)
    (hdialogue : isInteractive options runtime = false)
    (hrun : runOptions options checks host = (.ok status, after)) :
    Concluded options runtime checks root host status after := by
  rw [runOptions_eq] at hrun
  obtain ⟨switches, first, hswitches, hfirst, hrun⟩ :=
    RuntimeSettings.isQuestion_ofHost.exists_of_bind_eq_ok hrun
  obtain rfl : switches = runtime := Except.ok.inj (hswitches.symm.trans hruntime)
  obtain ⟨place, second, hplace, hsecond, hrun⟩ :=
    (IsQuestion.resolve _).exists_of_bind_eq_ok hrun
  rw [(IsQuestion.resolve _).reads (Host.surface_eq_of_machine_eq hfirst), hroot] at hplace
  cases hplace
  obtain ⟨there, third, hthere, hthird, hrun⟩ :=
    (IsQuestion.isDirectory _).exists_of_bind_eq_ok hrun
  have hmachine := hsecond.trans hfirst
  rw [(IsQuestion.isDirectory _).reads (Host.surface_eq_of_machine_eq hmachine), hdirectory] at hthere
  cases hthere
  obtain ⟨-, announced, -, hannounced, hrun⟩ :=
    (isQuestion_sayUnless _ _).exists_of_bind_eq_ok hrun
  exact .of_machine_eq (hannounced.trans (hthird.trans hmachine))
    (concluded_of_runAnnounced hdialogue hrun)

theorem isQuestion_directoryIsFile (words : Words) : IsQuestion (directoryIsFile words) := by
  refine .get_bind (fun host => ?_) fun hsurface => by rw [Host.node_eq_of_surface_eq hsurface]
  split
  · exact .pure _
  · exact .throw _
  · exact .pure _

/-- The exit status of a run without a dialogue is the gate: with valid options on an existing
directory it is one when the choice of the projects or one of them ends in a fault of the domain, or
when the findings of one of them fail the run at the level that holds for that project, and else
zero. The projects are handled in the order in which they were chosen, and none after a fault. -/
theorem run_concluded {arguments : List String} {words : Words} {isFile : Bool}
    (hread : read arguments = .ok words) (hinformation : words.information = none)
    (hfile : (directoryIsFile words host).1 = .ok isFile) (hoptions : words.options isFile = .ok options)
    (hruntime : (RuntimeSettings.ofHost host).1 = .ok runtime)
    (hroot : (Run.resolve (Path.ofText options.directory) host).1 = .ok root)
    (hdirectory : (Run.isDirectory root host).1 = .ok true)
    (hdialogue : isInteractive options runtime = false)
    (hreturns : (runWords words checks host).1 = .ok status) :
    (run arguments checks host).1 = .ok status ∧
      Concluded options runtime checks root host status (run arguments checks host).2 := by
  rcases hwords : runWords words checks host with ⟨result, after⟩
  rw [hwords] at hreturns
  cases hreturns
  have hrun : run arguments checks host = (.ok status, after) := by
    unfold run
    rw [hread]
    dsimp only
    rw [Run.bind_of_ok (Run.attempt_apply _ _), hwords]
    rfl
  rw [hrun]
  refine ⟨rfl, ?_⟩
  unfold runWords at hwords
  rw [hinformation] at hwords
  obtain ⟨found, mid, hfound, hmid, hwords⟩ :=
    (isQuestion_directoryIsFile words).exists_of_bind_eq_ok hwords
  rw [hfile] at hfound
  cases hfound
  rw [hoptions] at hwords
  have hsurface := Host.surface_eq_of_machine_eq hmid
  refine .of_machine_eq hmid (concluded_of_runOptions ?_ ?_ ?_ hdialogue hwords)
  · rw [RuntimeSettings.isQuestion_ofHost.reads hsurface, hruntime]
  · rw [(IsQuestion.resolve _).reads hsurface, hroot]
  · rw [(IsQuestion.isDirectory _).reads hsurface, hdirectory]

end Run

/-- A manifest of a project that uses React and moves things on the screen. -/
def movingManifest : String :=
  "\x7b\"dependencies\":\x7b\"react\":\"19\",\"gsap\":\"3\"\x7d\x7d"

end Checkup.Cli

namespace Checkup

/-- Two projects with an error each, of which the first one's settings fail runs on errors. -/
def Host.withOwnGate : Host :=
  { Host.ofProject Cli.movingManifest (fun _ => .unavailable) (fun _ _ _ => .hangs) with
    tree := .directory [
      ("package.json", .file (.text "\x7b\"workspaces\":[\"a\",\"b\"]\x7d")),
      ("a", .directory [("package.json", .file (.text Cli.movingManifest)),
        ("react-doctor.config.json", .file (.text "\x7b\"failOn\":\"error\"\x7d"))]),
      ("b", .directory [("package.json", .file (.text Cli.movingManifest))])] }

namespace Cli

/-- The second project, whose settings fail no run, does not clear what the first one has found. -/
theorem run_withOwnGate : ∃ options runtime, options.failOn = none ∧
    (selectProjects .root options.project false Host.withOwnGate).1 =
      .ok [⟨.root, ["a"]⟩, ⟨.root, ["b"]⟩] ∧
    (run ["--score", "--no-lint", "--no-dead-code"] .usual Host.withOwnGate).1 = .ok 1 ∧
    Concluded options runtime .usual .root Host.withOwnGate 1
      (run ["--score", "--no-lint", "--no-dead-code"] .usual Host.withOwnGate).2 := by
  let words : Words := { score := true, lint := some false, deadCode := some false }
  let options : Options := { (default : Options) with
    directory := ".", score := true, lint := some false, deadCode := some false }
  have hread : read ["--score", "--no-lint", "--no-dead-code"] = .ok words :=
    eq_ok_of_toOption (by decide +kernel)
  have hfile : (directoryIsFile words Host.withOwnGate).1 = .ok false :=
    eq_ok_of_toOption (by decide +kernel)
  have hoptions : words.options false = .ok options := eq_ok_of_toOption (by decide +kernel)
  obtain ⟨runtime, hruntime⟩ := exists_eq_ok_of_isOk
    (show (RuntimeSettings.ofHost Host.withOwnGate).1.isOk = true by decide +kernel)
  have hroot : (Run.resolve (Path.ofText options.directory) Host.withOwnGate).1 = .ok .root :=
    eq_ok_of_toOption (by decide +kernel)
  have hdirectory : (Run.isDirectory .root Host.withOwnGate).1 = .ok true :=
    eq_ok_of_toOption (by decide +kernel)
  have hdialogue : isInteractive options runtime = false := by simp [isInteractive, options]
  have hreturns : (runWords words .usual Host.withOwnGate).1 = .ok 1 :=
    eq_ok_of_toOption (by decide +kernel)
  have hselect : (selectProjects .root options.project false Host.withOwnGate).1 =
      .ok [⟨.root, ["a"]⟩, ⟨.root, ["b"]⟩] := eq_ok_of_toOption (by decide +kernel)
  obtain ⟨hrun, hconcluded⟩ := run_concluded hread rfl hfile hoptions hruntime hroot hdirectory
    hdialogue hreturns
  exact ⟨options, runtime, rfl, hselect, hrun, hconcluded⟩

end Cli

end Checkup
