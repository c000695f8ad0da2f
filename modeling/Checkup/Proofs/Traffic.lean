import Checkup.Proofs.Advice
import Checkup.Proofs.ExitStatus
import Checkup.Proofs.Remainder
import Checkup.Proofs.Restoration

/-!
# What goes over the network

A run talks to the network in one place only: the report on a project with findings asks the score
service about them. The checks and their scans, the dialogue and all that is printed or written stay
on the machine (`IsLocal`), so what a run has sent is read off its reports, project by project. Each
of them sends the findings of its own scan, as its own settings have left them, or nothing.
-/

namespace Checkup

open Run (IsQuestion IsLocal)

/-! ### Messages -/

namespace Host

def traffic (host : Host) : List Event :=
  host.events.filter (·.isTraffic)

/-- Between the two hosts the messages went over the network, one right after the other, and nothing
else did. -/
def Sent (messages : List Event) (before after : Host) : Prop :=
  ∃ asking asked : Host, before.Recorded Event.isLocal asking ∧
    asked.events = asking.events ++ messages ∧ asked.Recorded Event.isLocal after

/-- What lies between the two hosts is questions and lines of output: the machine is the same, and
nothing went over the network. -/
structure Asked (before after : Host) : Prop where
  machine : after.machine = before.machine
  recorded : before.Recorded Event.isLocal after

variable {before mid after : Host} {messages : List Event}

theorem Asked.trans (hfirst : before.Asked mid) (hsecond : mid.Asked after) : before.Asked after :=
  ⟨hsecond.machine.trans hfirst.machine, hfirst.recorded.trans hsecond.recorded⟩

theorem Recorded.traffic_eq (hlocal : before.Recorded Event.isLocal after) :
    after.traffic = before.traffic := by
  apply hlocal.filter_eq
  intro event hevent
  simpa [Event.isLocal] using hevent

theorem Sent.traffic_eq (hsent : before.Sent messages after)
    (hmessages : ∀ message ∈ messages, message.isTraffic = true) :
    after.traffic = before.traffic ++ messages := by
  obtain ⟨asking, asked, hbefore, hevents, hafter⟩ := hsent
  rw [hafter.traffic_eq, ← hbefore.traffic_eq]
  unfold traffic
  rw [hevents, List.filter_append, List.filter_eq_self.2 hmessages]

theorem Sent.of_recorded (hlocal : before.Recorded Event.isLocal mid)
    (hsent : mid.Sent messages after) : before.Sent messages after := by
  obtain ⟨asking, asked, hmid, hevents, hafter⟩ := hsent
  exact ⟨asking, asked, hlocal.trans hmid, hevents, hafter⟩

theorem Sent.recorded (hsent : before.Sent messages mid)
    (hlocal : mid.Recorded Event.isLocal after) : before.Sent messages after := by
  obtain ⟨asking, asked, hbefore, hevents, hmid⟩ := hsent
  exact ⟨asking, asked, hbefore, hevents, hmid.trans hlocal⟩

end Host

namespace Estimate

/-- The messages that take findings to the score service: one request, over a connection of its
own, with all of the findings in order. -/
def messages (settings : RuntimeSettings) (found : List Diagnostic) : List Event :=
  [.connect settings.fetchTimeout settings.proxy,
    .post settings.scoreUrl (.object [("diagnostics", .array (found.map (·.toJson)))])]

theorem isTraffic_of_mem_messages (settings : RuntimeSettings) (found : List Diagnostic) :
    ∀ message ∈ messages settings found, message.isTraffic = true := by
  simp [messages, Event.isTraffic]

theorem sent_ask {settings : RuntimeSettings} {host : Host} (honline : settings.offline = false)
    (haccepted : host.surroundings.refusal settings.proxy = none) (found : List Diagnostic) :
    host.Sent (messages settings found) (ask found settings true host).2 := by
  have hlast : (ask found settings true host).2 =
      (host.record (.connect settings.fetchTimeout settings.proxy)).record
        (.post settings.scoreUrl (request found)) := by
    unfold ask
    simp only [honline, Bool.false_eq_true, if_false, if_true, Run.bind_apply, connect_apply,
      haccepted, Run.modify_apply, Run.get_apply]
    cases ofReply _ <;> rfl
  refine ⟨host, _, .of_events_eq rfl, ?_, .of_events_eq rfl⟩
  rw [hlast]
  simp [Host.record, messages, request]

end Estimate

namespace Run

variable {α β : Type} {allowed : Prop} {messages : List Event} {step : Run α} {next : α → Run β}

/-- A step that sends the messages at most, and only if that is allowed. -/
abbrev MaySend (allowed : Prop) (messages : List Event) (step : Run α) : Prop :=
  Keeps (fun before after =>
    before.Recorded Event.isLocal after ∨ allowed ∧ before.Sent messages after) step

/-- After a question, either nothing goes over the network, or the run has gone through it. -/
theorem IsQuestion.recorded_or_exists_asked {host after : Host} {result : Except Fault β}
    (hstep : IsQuestion step) (hrun : (step >>= next) host = (result, after)) :
    host.Recorded Event.isLocal after ∨
      ∃ a mid, (step host).1 = .ok a ∧ host.Asked mid ∧ next a mid = (result, after) := by
  obtain hlocal | ⟨a, mid, hfirst, hmid, hend⟩ := hstep.isLocal.exists_of_bind hrun
  · exact .inl hlocal
  · have hquiet := hstep.quiet host
    rw [hfirst] at hquiet
    exact .inr ⟨a, mid, congrArg Prod.fst hfirst, ⟨hquiet, hmid⟩, hend⟩

namespace MaySend

theorem of_isLocal (hstep : IsLocal step) : MaySend allowed messages step :=
  fun host => .inl (hstep host)

theorem bind_isLocal (hstep : MaySend allowed messages step) (hnext : ∀ a, IsLocal (next a)) :
    MaySend allowed messages (step >>= next) := by
  intro host
  have hrest := Records.recorded_of_bind hnext (Prod.eta ((step >>= next) host)).symm
  obtain hlocal | ⟨hallowed, hsent⟩ := hstep host
  · exact .inl (hlocal.trans hrest)
  · exact .inr ⟨hallowed, hsent.recorded hrest⟩

/-- After a step that stays on the machine, what is sent depends on what the step has given. -/
theorem recorded_or_exists_sent {allowed : α → Prop} {messages : α → List Event}
    (hstep : IsLocal step) (hnext : ∀ a, MaySend (allowed a) (messages a) (next a)) (host : Host) :
    host.Recorded Event.isLocal ((step >>= next) host).2 ∨
      ∃ a mid, step host = (.ok a, mid) ∧ host.Recorded Event.isLocal mid ∧ allowed a ∧
        mid.Sent (messages a) ((step >>= next) host).2 := by
  rcases hrun : (step >>= next) host with ⟨result, after⟩
  obtain hlocal | ⟨a, mid, hfirst, hmid, hend⟩ := hstep.exists_of_bind hrun
  · exact .inl hlocal
  have hrest := hnext a mid
  rw [hend] at hrest
  obtain hlocal | ⟨hallowed, hsent⟩ := hrest
  · exact .inl (hmid.trans hlocal)
  · exact .inr ⟨a, mid, hfirst, hmid, hallowed, hsent⟩

theorem isLocal_bind (hstep : IsLocal step) (hnext : ∀ a, MaySend allowed messages (next a)) :
    MaySend allowed messages (step >>= next) := by
  intro host
  obtain hlocal | ⟨-, mid, -, hmid, hallowed, hsent⟩ := recorded_or_exists_sent hstep hnext host
  · exact .inl hlocal
  · exact .inr ⟨hallowed, hsent.of_recorded hmid⟩

end MaySend

end Run

/-! ### Scans -/

namespace Lint

theorem isLocal_writeConfiguration (file : Path) (text : String) :
    IsLocal (writeConfiguration file text) := by
  refine .bind (Run.records_edit (Host.isEdit_write _ _)).attempt fun result => ?_
  split
  · exact .pure _
  · exact .throw _
  · exact .throw _

theorem isLocal_check (fixed : Option (List String)) (context : CheckContext) :
    IsLocal (check fixed context) := by
  refine .ite (.pure _) (.bind (isQuestion_resolveCommand fixed context).isLocal fun command => ?_)
  refine .get_bind fun host => .withLast ?_ (Run.records_edit (Host.isEdit_removeFile _))
  exact .bind (isLocal_writeConfiguration _ _) fun _ =>
    (isWork_lintBatches Run.ofSurface_sameSurface _ _ _ _).isLocal

end Lint

theorem ReducedMotion.isLocal_check (root : Path) : IsLocal (check root) := by
  have hsearch : IsLocal (Git.contains? root expression searched) := by
    intro host
    rw [Git.contains?_apply]
    exact .record rfl host
  refine .bind (Manifest.isQuestion_isIn _).isLocal fun _ => .ite (.pure _) ?_
  refine .bind (Manifest.isQuestion_readIn _).isLocal fun _ => .ite (.pure _) ?_
  exact .bind hsearch fun _ => .ite (.pure _) (.pure _)

section Scan

variable {lint deadCode : Option (List String)} {first : Tool}

theorem Checks.isLocal_of (tool : Tool) (context : CheckContext) :
    IsLocal ((inOrder lint deadCode first).of tool context) := by
  cases tool with
  | linter => exact Lint.isLocal_check lint context
  | deadCode =>
    exact (DeadCode.isWork_check deadCode DeadCode.usualPatience context
      (toolName_deadCode_ne 0)).isLocal

theorem Checks.isLocal_runOne (plan : ScanPlan) (context : CheckContext) (tool : Tool) :
    IsLocal ((inOrder lint deadCode first).runOne plan context tool) := by
  refine .ite (.get_bind fun host => ?_) (.pure _)
  exact .bind (isLocal_of tool context).attempt fun _ => .get_bind fun _ => .pure _

theorem Checks.isLocal_run (plan : ScanPlan) (context : CheckContext) :
    IsLocal ((inOrder lint deadCode first).run plan context) := by
  cases first with
  | linter =>
    exact .bind (isLocal_runOne _ _ _) fun _ => .bind (isLocal_runOne _ _ _) fun _ => .pure _
  | deadCode =>
    exact .bind (isLocal_runOne _ _ _) fun _ => .bind (isLocal_runOne _ _ _) fun _ => .pure _

theorem isLocal_combine (found more : List Diagnostic) (directory : Path) (limited : Bool)
    (settings : Option Settings) :
    IsLocal (combine found more directory limited settings ReducedMotion.check) := by
  refine .ite (.bind (.pure _) fun own => ?_) (.bind (ReducedMotion.isLocal_check _) fun own => ?_)
  -- with or without findings of its own, what the settings leave is looked at in the same way
  all_goals
    dsimp only
    cases unsuppressed settings (found ++ more ++ own) with
    | ok left => exact .pure _
    | error fault => exact .throw _

theorem Examination.isLocal_ofProspect (prospect : Prospect) :
    IsLocal (ofProspect prospect (Checks.inOrder lint deadCode first)) := by
  refine .bind (Checks.isLocal_run _ _) fun runs => .bind (IsQuestion.noteAll _).isLocal fun _ => ?_
  refine .bind (isLocal_combine _ _ _ _ _) fun _ => .pure _

theorem isLocal_now : IsLocal Run.now := by
  intro host
  rw [Run.now_apply]
  exact .of_events_eq rfl

theorem isLocal_checkUp {β : Type} {ask : Run Prospect} (hask : IsQuestion ask)
    (result : Prospect → Examination → Number → β) :
    IsLocal (checkUp ask (Checks.inOrder lint deadCode first) result) := by
  refine .bind isLocal_now fun _ => .bind hask.isLocal fun prospect => ?_
  refine .bind (Examination.isLocal_ofProspect prospect) fun _ => ?_
  exact .bind (.bind isLocal_now fun _ => .pure _) fun _ => .pure _

theorem isLocal_scan (directory : Path) (options : ScanOptions) (runtime : Option RuntimeSettings)
    (source : SettingsSource) :
    IsLocal (scan directory options runtime (Checks.inOrder lint deadCode first) source) :=
  isLocal_checkUp (Prospect.isQuestion_ofScan ..) _

theorem isLocal_diagnose (directory : Path) (options : DiagnosisOptions) :
    IsLocal (diagnose directory options (Checks.inOrder lint deadCode first)) := by
  rw [diagnose_eq_checkUp]
  exact isLocal_checkUp (Prospect.isQuestion_ofDiagnosis ..) _

/-- What a scan with given settings finds is nothing that they suppress. -/
theorem suppresses_eq_false_of_mem {directory : Path} {options : ScanOptions}
    {runtime : Option RuntimeSettings} {settings : Option Settings} {host : Host} {r : ScanResult}
    (hscan : (scan directory options runtime (Checks.inOrder lint deadCode first) (.given settings)
      host).1 = .ok r) :
    ∀ d ∈ r.diagnostics, Suppression.suppresses settings d = false := by
  obtain ⟨prospect, own, found, hprospect, -, hfound, rfl⟩ := fst_scan_eq_ok.1 hscan
  obtain ⟨left, hleft, rfl⟩ := except_map_eq_ok.1 hfound
  obtain rfl := unsuppressed_eq_ok (except_mapError_eq_ok.1 hleft)
  have hsettings : prospect.settings = settings := by
    rw [Prospect.fst_ofScan] at hprospect
    obtain ⟨switches, -, hprospect⟩ := except_bind_eq_ok.1 hprospect
    obtain ⟨resolved, -, hprospect⟩ := except_bind_eq_ok.1 hprospect
    obtain ⟨_, ⟨⟩, hprospect⟩ := except_bind_eq_ok.1 hprospect
    obtain ⟨project, -, hprospect⟩ := except_bind_eq_ok.1 hprospect
    split at hprospect <;> cases hprospect
    rfl
  intro d hd
  rw [← hsettings]
  simpa using (List.mem_filter.1 hd).2

end Scan

/-! ### Dialogues and reports -/

namespace Cli

open Run (MaySend)

theorem isLocal_printError (text : String) : IsLocal (Run.printError text) :=
  .modify fun _ => rfl

theorem isLocal_ask : IsLocal ask := by
  refine .bind (IsQuestion.print _).isLocal fun _ host => ?_
  rw [Run.get_bind]
  split
  · exact .of_events_eq rfl
  · exact .of_events_eq rfl

theorem isLocal_askUntilPicked (packages : List Package) (fuel : Nat) :
    IsLocal (askUntilPicked packages fuel) := by
  induction fuel with
  | zero => exact .throw _
  | succ fuel ih =>
    refine .bind isLocal_ask fun answer => ?_
    cases picked? packages answer with
    | some directories => exact .pure _
    | none => exact .bind (IsQuestion.say _).isLocal fun _ => ih

theorem isQuestion_sayChoices (root : Path) (number : Nat) (packages : List Package) :
    IsQuestion (sayChoices root number packages) := by
  induction packages generalizing number with
  | nil => exact .pure _
  | cons package rest ih =>
    unfold sayChoices
    cases choiceLine root number package with
    | ok line => exact .bind (.say _) fun _ => ih _
    | error fault => exact .bind (.throw _) fun _ => ih _

theorem isLocal_selectProjects (root : Path) (list : Option String) (interactive : Bool) :
    IsLocal (selectProjects root list interactive) := by
  have hprompt (packages : List Package) : IsLocal (prompt packages root) :=
    .bind (IsQuestion.say _).isLocal fun _ => .bind (isQuestion_sayChoices _ _ _).isLocal fun _ =>
      .get_bind fun _ => isLocal_askUntilPicked _ _
  refine .bind (isQuestion_candidates root).isLocal fun packages => .ite (.pure _) ?_
  cases list.filter (· != "") with
  | some names =>
    dsimp only
    cases requested names packages with
    | ok directories => exact .pure _
    | error fault => exact .throw _
  | none => exact .ite (.pure _) (hprompt packages)

section Report

/-- Findings that a run may ask the score service about: there are some, they are reported, and
neither the options nor the environment keep the run off the network. -/
structure IsOpen (options : Options) (runtime : RuntimeSettings) (result : ScanResult) : Prop where
  online : options.offline = false
  reported : options.score = false
  reachable : runtime.offline = false
  found : result.diagnostics ≠ []

variable {result : ScanResult} {options : Options} {runtime : RuntimeSettings}

theorem maySend_reportFindings (p : Project) (verbose : Bool) (hreported : options.score = false)
    (hfound : result.diagnostics ≠ []) :
    MaySend (IsOpen options runtime result) (Estimate.messages runtime result.diagnostics)
      (reportFindings result p options runtime verbose) := by
  have hask : MaySend (IsOpen options runtime result) (Estimate.messages runtime result.diagnostics)
      (if options.offline || runtime.offline then pure none
        else Estimate.ask result.diagnostics runtime true) := by
    intro host
    by_cases hoffline : (options.offline || runtime.offline) = true
    · rw [if_pos hoffline]
      exact .inl (.of_events_eq rfl)
    · rw [if_neg hoffline]
      obtain ⟨honline, hreachable⟩ : options.offline = false ∧ runtime.offline = false := by
        simpa using hoffline
      cases hrefusal : host.surroundings.refusal runtime.proxy with
      | none =>
        exact .inr ⟨⟨honline, hreported, hreachable, hfound⟩,
          Estimate.sent_ask hreachable hrefusal _⟩
      | some fault =>
        rw [Estimate.ask_of_refused hreachable hrefusal]
        exact .inl (.of_events_eq rfl)
  rw [reportFindings_eq]
  refine hask.bind_isLocal fun estimate => .bind (Sections.isOfLines_isQuestion.findings _ _).isLocal fun _ => ?_
  refine .bind ((Report.records_write _ _).mono fun _ => Event.isLocal_of_isInquiry)
    fun directory => .bind (Sections.isOfLines_isQuestion.orFail _).isLocal fun link => ?_
  exact .bind (Sections.isOfLines_isQuestion.summary _ _).isLocal fun _ =>
    (Sections.isOfLines_isQuestion.skipped _ _).isLocal

theorem maySend_report (p : Project) (hasSettings verbose : Bool)
    (hreported : options.score = false) :
    MaySend (IsOpen options runtime result) (Estimate.messages runtime result.diagnostics)
      (report result p options hasSettings runtime verbose) := by
  refine .isLocal_bind (Sections.isOfLines_isQuestion.project _ _ _).isLocal fun _ => ?_
  by_cases hclean : result.diagnostics.isEmpty = true
  · rw [if_pos hclean]
    exact .of_isLocal (Sections.isOfLines_isQuestion.clean _ _ _).isLocal
  · rw [if_neg hclean]
    exact maySend_reportFindings p verbose hreported (by simpa using hclean)

end Report

/-! ### Projects -/

section Project

variable (options : Options) (runtime : RuntimeSettings) (checks : Checks)

/-- What a run on a project sends. Either nothing goes over the network; or its scan, which itself
stays on the machine, has findings, none of them suppressed by the project's settings, and after it
these go out in one request. -/
inductive Sends (directory : Path) (host : Host) : List Event → Host → Prop
  | nothing {after : Host} (hlocal : host.Recorded Event.isLocal after) :
      Sends directory host [] after
  | findings {settings : Option Settings} {paths : List String} {begun scanned after : Host}
      {result : ScanResult}
      (hsettings : (Settings.load directory host).1 = .ok settings)
      (hscope : (scopePaths directory (.resolve options.diff settings) options.score host).1 =
        .ok (some paths))
      (hbegun : host.Asked begun)
      (hscan : scan directory (scanOptions options paths) (some runtime) checks (.given settings)
        begun = (.ok result, scanned))
      (hscanned : begun.Recorded Event.isLocal scanned)
      (hopen : IsOpen options runtime result)
      (hkept : ∀ d ∈ result.diagnostics, Suppression.suppresses settings d = false)
      (hsent : scanned.Sent (Estimate.messages runtime result.diagnostics) after) :
      Sends directory host (Estimate.messages runtime result.diagnostics) after

/-- What the projects of a run send in turn; each begins where the one before has ended, and the
last of them may be followed by others that the run does not come to. -/
inductive SendInTurn : Host → List Path → List (List Event) → Host → Prop
  | done (host : Host) : SendInTurn host [] [] host
  | next {directory : Path} {rest : List Path} {messages : List Event} {more : List (List Event)}
      {host after : Host}
      (hfirst : Sends options runtime checks directory host messages
        (runProject directory options runtime checks host).2)
      (hrest : SendInTurn (runProject directory options runtime checks host).2 rest more after) :
      SendInTurn host (directory :: rest) (messages :: more) after
  | stopped {directory : Path} {rest : List Path} {messages : List Event} {host : Host}
      (hlast : Sends options runtime checks directory host messages
        (runProject directory options runtime checks host).2) :
      SendInTurn host (directory :: rest) [messages]
        (runProject directory options runtime checks host).2

end Project

section Step

variable {lint deadCode : Option (List String)} {first : Tool} {options : Options}
  {runtime : RuntimeSettings} {directory : Path} {settings : Option Settings} {paths : List String}

/-- A scan is followed by its report, which may send what the scan has found. -/
theorem scanProject_sends {host after : Host} {outcome : Except Fault ScanResult}
    (hrun : scanProject directory paths options settings runtime
      (Checks.inOrder lint deadCode first) host = (outcome, after)) :
    host.Recorded Event.isLocal after ∨
    ∃ result scanned, scan directory (scanOptions options paths) (some runtime)
        (Checks.inOrder lint deadCode first) (.given settings) host = (.ok result, scanned) ∧
      host.Recorded Event.isLocal scanned ∧ IsOpen options runtime result ∧
      scanned.Sent (Estimate.messages runtime result.diagnostics) after := by
  rw [← show (scanProject ..).2 = after from congrArg Prod.snd hrun]
  refine MaySend.recorded_or_exists_sent (isLocal_scan _ _ _ _) (fun result => ?_) host
  by_cases hscore : options.score = true
  · rw [if_pos hscore]
    exact .of_isLocal (.bind (isQuestion_sayScore _ _).isLocal fun _ => .pure _)
  · rw [if_neg hscore]
    cases result.project with
    | none => exact .of_isLocal (.pure _)
    | some p =>
      exact (maySend_report p _ _ (by simpa using hscore)).bind_isLocal fun _ => .pure _

theorem exists_sends_of_begun {host begun after : Host} {outcome : Except Fault Bool}
    (hsettings : (Settings.load directory host).1 = .ok settings)
    (hscope : (scopePaths directory (.resolve options.diff settings) options.score host).1 =
      .ok (some paths))
    (hbegun : host.Asked begun)
    (hrun : runBegun directory paths options settings runtime (Checks.inOrder lint deadCode first)
      begun = (outcome, after)) :
    ∃ messages, Sends options runtime (Checks.inOrder lint deadCode first) directory host messages
      after := by
  have hlocal := Run.Records.recorded_of_bind
    (fun result => .ite (.bind IsQuestion.sayNothing.isLocal fun _ => .pure _) (.pure _)) hrun
  obtain hscan | ⟨result, scanned, hscan, hscanned, hopen, hsent⟩ :=
    scanProject_sends (Prod.eta _).symm
  · exact ⟨[], .nothing ((hbegun.recorded.trans hscan).trans hlocal)⟩
  · exact ⟨_, .findings hsettings hscope hbegun hscan hscanned hopen
      (suppresses_eq_false_of_mem (congrArg Prod.fst hscan)) (hsent.recorded hlocal)⟩

theorem exists_sends {host after : Host} {outcome : Except Fault Bool}
    (hrun : runProject directory options runtime (Checks.inOrder lint deadCode first) host =
      (outcome, after)) :
    ∃ messages, Sends options runtime (Checks.inOrder lint deadCode first) directory host messages
      after := by
  rw [runProject_eq] at hrun
  obtain hlocal | ⟨settings, loaded, hsettings, hloaded, hrun⟩ :=
    (Settings.isQuestion_load directory).recorded_or_exists_asked hrun
  · exact ⟨[], .nothing hlocal⟩
  have hquestion := isQuestion_scopePaths directory (.resolve options.diff settings) options.score
  obtain hlocal | ⟨scope, limited, hscope, hlimited, hrun⟩ := hquestion.recorded_or_exists_asked hrun
  · exact ⟨[], .nothing (hloaded.recorded.trans hlocal)⟩
  rw [hquestion.reads (Host.surface_eq_of_machine_eq hloaded.machine)] at hscope
  replace hlimited := hloaded.trans hlimited
  cases scope with
  | none =>
    cases hrun
    exact ⟨[], .nothing hlimited.recorded⟩
  | some paths =>
    obtain hlocal | ⟨-, announced, -, hannounced, hrun⟩ :=
      (isQuestion_sayUnless _ _).recorded_or_exists_asked hrun
    · exact ⟨[], .nothing (hlimited.recorded.trans hlocal)⟩
    · exact exists_sends_of_begun hsettings hscope (hlimited.trans hannounced) hrun

end Step

/-! ### Runs -/

section Turns

variable {options : Options} {runtime : RuntimeSettings} {checks : Checks} {directory : Path}
  {directories : List Path} {host after : Host}

theorem Sends.traffic_eq {messages : List Event}
    (hsends : Sends options runtime checks directory host messages after) :
    after.traffic = host.traffic ++ messages := by
  cases hsends with
  | nothing hlocal => simp [hlocal.traffic_eq]
  | findings _ _ hbegun _ hscanned _ _ hsent =>
    rw [hsent.traffic_eq (Estimate.isTraffic_of_mem_messages _ _),
      (hbegun.recorded.trans hscanned).traffic_eq]

/-- All that goes over the network is what the projects send, in their order. -/
theorem SendInTurn.traffic_eq {messages : List (List Event)}
    (hsend : SendInTurn options runtime checks host directories messages after) :
    after.traffic = host.traffic ++ messages.flatten := by
  induction hsend with
  | done host => simp
  | next hfirst _ ih => rw [ih, hfirst.traffic_eq, List.flatten_cons, List.append_assoc]
  | stopped hlast => rw [hlast.traffic_eq, List.flatten_singleton]

theorem SendInTurn.recorded {messages : List (List Event)}
    (hsend : SendInTurn options runtime checks host directories messages after)
    (hclosed : ∀ result, ¬ IsOpen options runtime result) : host.Recorded Event.isLocal after := by
  have hnothing {directory : Path} {messages : List Event} {host after : Host}
      (hsends : Sends options runtime checks directory host messages after) :
      host.Recorded Event.isLocal after := by
    cases hsends with
    | nothing hlocal => exact hlocal
    | findings _ _ _ _ _ hopen _ _ => exact absurd hopen (hclosed _)
  induction hsend with
  | done host => exact .of_events_eq rfl
  | next hfirst _ ih => exact (hnothing hfirst).trans ih
  | stopped hlast => exact hnothing hlast

end Turns

section Below

variable (options : Options) (runtime : RuntimeSettings) (checks : Checks)

/-- What a run below a root sends: nothing, or what the projects that it has chosen send in turn. -/
inductive SendBelow (root : Path) (host : Host) : List (List Event) → Host → Prop
  | nothing {after : Host} (hlocal : host.Recorded Event.isLocal after) :
      SendBelow root host [] after
  | projects {directories : List Path} {messages : List (List Event)} {asked begun ended after : Host}
      (hasked : host.Asked asked)
      (hchoice : selectProjects root options.project (isInteractive options runtime) asked =
        (.ok directories, begun))
      (hbegun : asked.Recorded Event.isLocal begun)
      (hsend : SendInTurn options runtime checks begun directories messages ended)
      (hended : ended.Recorded Event.isLocal after) : SendBelow root host messages after

end Below

section Below

variable {options : Options} {runtime : RuntimeSettings} {checks : Checks} {root : Path}
  {host mid after : Host} {messages : List (List Event)}

theorem SendBelow.of_asked (hmid : host.Asked mid)
    (hsend : SendBelow options runtime checks root mid messages after) :
    SendBelow options runtime checks root host messages after := by
  cases hsend with
  | nothing hlocal => exact .nothing (hmid.recorded.trans hlocal)
  | projects hasked hchoice hbegun hsend hended =>
    exact .projects (hmid.trans hasked) hchoice hbegun hsend hended

theorem SendBelow.record
    (hsend : SendBelow options runtime checks root host messages mid)
    (hlocal : mid.Recorded Event.isLocal after) :
    SendBelow options runtime checks root host messages after := by
  cases hsend with
  | nothing hbefore => exact .nothing (hbefore.trans hlocal)
  | projects hasked hchoice hbegun hsend hended =>
    exact .projects hasked hchoice hbegun hsend (hended.trans hlocal)

theorem SendBelow.traffic_eq
    (hsend : SendBelow options runtime checks root host messages after) :
    after.traffic = host.traffic ++ messages.flatten := by
  cases hsend with
  | nothing hlocal => simp [hlocal.traffic_eq]
  | projects hasked _ hbegun hsend hended =>
    rw [hended.traffic_eq, hsend.traffic_eq, (hasked.recorded.trans hbegun).traffic_eq]

theorem SendBelow.recorded (hsend : SendBelow options runtime checks root host messages after)
    (hclosed : ∀ result, ¬ IsOpen options runtime result) : host.Recorded Event.isLocal after := by
  cases hsend with
  | nothing hlocal => exact hlocal
  | projects hasked _ hbegun hsend hended =>
    exact ((hasked.recorded.trans hbegun).trans (hsend.recorded hclosed)).trans hended

end Below

section Run

variable {lint deadCode : Option (List String)} {first : Tool} {options : Options}
  {runtime : RuntimeSettings} {root : Path} {host after : Host}

theorem exists_sendInTurn (directories : List Path) (host : Host) :
    ∃ messages, SendInTurn options runtime (Checks.inOrder lint deadCode first) host directories
      messages (runProjects options runtime (Checks.inOrder lint deadCode first) directories host).2 := by
  induction directories generalizing host with
  | nil => exact ⟨[], .done host⟩
  | cons directory rest ih =>
    have heq : runProjects options runtime (Checks.inOrder lint deadCode first) (directory :: rest) =
        runProject directory options runtime (Checks.inOrder lint deadCode first) >>= fun failed => do
          return (← runProjects options runtime (Checks.inOrder lint deadCode first) rest) ||
            failed := rfl
    obtain ⟨messages, hfirst⟩ := exists_sends
      (Prod.eta (runProject directory options runtime (Checks.inOrder lint deadCode first) host)).symm
    rw [heq, Run.bind_apply]
    rcases hrun : runProject directory options runtime (Checks.inOrder lint deadCode first) host with
      ⟨fault | failed, mid⟩
    · have hstopped : SendInTurn options runtime (Checks.inOrder lint deadCode first) host
          (directory :: rest) [messages] _ := .stopped hfirst
      rw [hrun] at hstopped
      exact ⟨_, hstopped⟩
    · obtain ⟨more, hrest⟩ := ih mid
      have hnext : SendInTurn options runtime (Checks.inOrder lint deadCode first) host
          (directory :: rest) (messages :: more) _ := .next hfirst (by rwa [hrun])
      refine ⟨messages :: more, ?_⟩
      dsimp only
      rwa [Run.snd_bind_pure]

theorem exists_sendBelow (root : Path) (host : Host) :
    ∃ messages, SendBelow options runtime (Checks.inOrder lint deadCode first) root host messages
      (runBelow root options runtime (Checks.inOrder lint deadCode first) host).2 := by
  rcases hrun : runBelow root options runtime (Checks.inOrder lint deadCode first) host with
    ⟨outcome, after⟩
  obtain hlocal | ⟨directories, begun, hchoice, hbegun, hrun⟩ :=
    (isLocal_selectProjects _ _ _).exists_of_bind hrun
  · exact ⟨[], .nothing hlocal⟩
  obtain ⟨messages, hsend⟩ := exists_sendInTurn directories begun
  rw [hrun] at hsend
  exact ⟨messages, .projects ⟨rfl, .of_events_eq rfl⟩ hchoice hbegun hsend (.of_events_eq rfl)⟩

theorem exists_sendBelow_of_announced {outcome : Except Fault Nat}
    (hrun : runAnnounced root options runtime (Checks.inOrder lint deadCode first) host =
      (outcome, after)) :
    ∃ messages, SendBelow options runtime (Checks.inOrder lint deadCode first) root host messages
      after := by
  obtain ⟨messages, hsend⟩ := exists_sendBelow root host
  have hlast : (Run.attempt (runBelow root options runtime (Checks.inOrder lint deadCode first))
      host).2.Recorded Event.isLocal after := by
    refine Run.Records.recorded_of_bind (fun result => ?_) hrun
    cases result with
    | ok failed => exact .pure _
    | error fault => exact .ite (.bind (IsQuestion.say _).isLocal fun _ => .pure _) (.throw _)
  exact ⟨messages, hsend.record hlast⟩

theorem recorded_or_exists_sendBelow {outcome : Except Fault Nat}
    (hrun : runOptions options (Checks.inOrder lint deadCode first) host = (outcome, after)) :
    host.Recorded Event.isLocal after ∨ ∃ runtime root messages,
      (RuntimeSettings.ofHost host).1 = .ok runtime ∧
      (Run.resolve (Path.ofText options.directory) host).1 = .ok root ∧
      SendBelow options runtime (Checks.inOrder lint deadCode first) root host messages after := by
  rw [runOptions_eq] at hrun
  obtain hlocal | ⟨runtime, switched, hruntime, hswitched, hrun⟩ :=
    RuntimeSettings.isQuestion_ofHost.recorded_or_exists_asked hrun
  · exact .inl hlocal
  obtain hlocal | ⟨root, placed, hroot, hplaced, hrun⟩ :=
    (IsQuestion.resolve _).recorded_or_exists_asked hrun
  · exact .inl (hswitched.recorded.trans hlocal)
  rw [(IsQuestion.resolve _).reads (Host.surface_eq_of_machine_eq hswitched.machine)] at hroot
  replace hplaced := hswitched.trans hplaced
  obtain hlocal | ⟨there, seen, -, hseen, hrun⟩ :=
    (IsQuestion.isDirectory _).recorded_or_exists_asked hrun
  · exact .inl (hplaced.recorded.trans hlocal)
  replace hseen := hplaced.trans hseen
  cases there with
  | false =>
    exact .inl (hseen.recorded.trans (Run.Records.recorded_of_eq
      (.bind (IsQuestion.say _).isLocal fun _ => .pure _) hrun))
  | true =>
    obtain hlocal | ⟨-, announced, -, hannounced, hrun⟩ :=
      (isQuestion_sayUnless _ _).recorded_or_exists_asked hrun
    · exact .inl (hseen.recorded.trans hlocal)
    · obtain ⟨messages, hsend⟩ := exists_sendBelow_of_announced hrun
      exact .inr ⟨runtime, root, messages, hruntime, hroot,
        hsend.of_asked (hseen.trans hannounced)⟩

end Run

/-! ### Command lines -/

/-- What a command line sends: nothing, or what its projects send in turn, none of which it does
with `--offline` or `--score`, nor where the environment is offline. -/
inductive RunSends (arguments : List String) (checks : Checks) (host : Host) :
    List (List Event) → Host → Prop
  | nothing {after : Host} (hlocal : host.Recorded Event.isLocal after) :
      RunSends arguments checks host [] after
  | below {words : Words} {isFile : Bool} {options : Options} {runtime : RuntimeSettings}
      {root : Path} {messages : List (List Event)} {after : Host}
      (hread : read arguments = .ok words)
      (honline : words.offline = false)
      (hreported : words.score = false)
      (hoptions : words.options isFile = .ok options)
      (hruntime : (RuntimeSettings.ofHost host).1 = .ok runtime)
      (hreachable : runtime.offline = false)
      (hroot : (Run.resolve (Path.ofText options.directory) host).1 = .ok root)
      (hsend : SendBelow options runtime checks root host messages after) :
      RunSends arguments checks host messages after

theorem options_of_words {words : Words} {isFile : Bool} {options : Options}
    (hoptions : words.options isFile = .ok options) :
    options.offline = words.offline ∧ options.score = words.score := by
  obtain ⟨level, -, hoptions⟩ := except_bind_eq_ok.1 hoptions
  dsimp only at hoptions
  split at hoptions
  · cases hoptions
  split at hoptions
  · cases hoptions
  · cases hoptions
    exact ⟨rfl, rfl⟩

theorem isLocal_complain (misuse : Misuse) : IsLocal (complain misuse) :=
  .bind (isLocal_printError _) fun _ => .pure _

section Command

variable {lint deadCode : Option (List String)} {first : Tool} {checks : Checks}
  {arguments : List String} {host mid after : Host}

theorem RunSends.record {messages : List (List Event)}
    (hsends : RunSends arguments checks host messages mid)
    (hlocal : mid.Recorded Event.isLocal after) : RunSends arguments checks host messages after := by
  cases hsends with
  | nothing hbefore => exact .nothing (hbefore.trans hlocal)
  | below hread honline hreported hoptions hruntime hreachable hroot hsend =>
    exact .below hread honline hreported hoptions hruntime hreachable hroot (hsend.record hlocal)

theorem RunSends.traffic_eq {messages : List (List Event)}
    (hsends : RunSends arguments checks host messages after) :
    after.traffic = host.traffic ++ messages.flatten := by
  cases hsends with
  | nothing hlocal => simp [hlocal.traffic_eq]
  | below _ _ _ _ _ _ _ hsend => exact hsend.traffic_eq

theorem exists_runSends_of_runOptions {words : Words} {isFile : Bool} {options : Options}
    {outcome : Except Fault Nat} (hread : read arguments = .ok words)
    (hoptions : words.options isFile = .ok options) (hasked : host.Asked mid)
    (hrun : runOptions options (Checks.inOrder lint deadCode first) mid = (outcome, after)) :
    ∃ messages, RunSends arguments (Checks.inOrder lint deadCode first) host messages after := by
  have hsurface := Host.surface_eq_of_machine_eq hasked.machine
  obtain ⟨honline, hreported⟩ := options_of_words hoptions
  obtain hlocal | ⟨runtime, root, messages, hruntime, hroot, hsend⟩ :=
    recorded_or_exists_sendBelow hrun
  · exact ⟨[], .nothing (hasked.recorded.trans hlocal)⟩
  rw [RuntimeSettings.isQuestion_ofHost.reads hsurface] at hruntime
  rw [(IsQuestion.resolve _).reads hsurface] at hroot
  -- a run that is kept off the network has sent nothing, whatever its projects are
  by_cases hopen : words.offline = false ∧ words.score = false ∧ runtime.offline = false
  · obtain ⟨honline, hreported, hreachable⟩ := hopen
    exact ⟨messages, .below hread honline hreported hoptions hruntime hreachable hroot
      (hsend.of_asked hasked)⟩
  · refine ⟨[], .nothing ?_⟩
    have hclosed (result : ScanResult) : ¬ IsOpen options runtime result := fun hresult =>
      hopen ⟨honline ▸ hresult.online, hreported ▸ hresult.reported, hresult.reachable⟩
    exact hasked.recorded.trans (hsend.recorded hclosed)

theorem exists_runSends_of_runWords {words : Words} {outcome : Except Fault Nat}
    (hread : read arguments = .ok words)
    (hrun : runWords words (Checks.inOrder lint deadCode first) host = (outcome, after)) :
    ∃ messages, RunSends arguments (Checks.inOrder lint deadCode first) host messages after := by
  have hprint {text : String}
      (hrun : (do
        Run.print text
        return 0) host = (outcome, after)) : host.Recorded Event.isLocal after :=
    Run.Records.recorded_of_eq (.bind (IsQuestion.print _).isLocal fun _ => .pure _) hrun
  unfold runWords at hrun
  cases hinformation : words.information with
  | some flag =>
    rw [hinformation] at hrun
    cases flag <;> exact ⟨[], .nothing (hprint hrun)⟩
  | none =>
    rw [hinformation] at hrun
    obtain hlocal | ⟨isFile, asked, -, hasked, hrun⟩ :=
      (isQuestion_directoryIsFile words).recorded_or_exists_asked hrun
    · exact ⟨[], .nothing hlocal⟩
    cases hoptions : words.options isFile with
    | error misuse =>
      rw [hoptions] at hrun
      exact ⟨[], .nothing (hasked.recorded.trans
        (Run.Records.recorded_of_eq (isLocal_complain misuse) hrun))⟩
    | ok options =>
      rw [hoptions] at hrun
      exact exists_runSends_of_runOptions hread hoptions hasked hrun

/-- What goes over the network. A scan and a diagnosis send nothing. A run sends what its projects
send, in their order and without anything else: for a project either nothing, or, after its scan has
had findings, one request that holds just these findings, of which none is suppressed by the
project's settings. With `--offline` or `--score`, and where the environment is offline, a run sends
nothing. -/
theorem run_sends (lint deadCode : Option (List String)) (first : Tool) (arguments : List String)
    (host : Host) :
    (∀ directory options runtime source,
      IsLocal (scan directory options runtime (Checks.inOrder lint deadCode first) source)) ∧
    (∀ directory options, IsLocal (diagnose directory options (Checks.inOrder lint deadCode first))) ∧
    ∃ messages, RunSends arguments (Checks.inOrder lint deadCode first) host messages
        (run arguments (Checks.inOrder lint deadCode first) host).2 ∧
      (run arguments (Checks.inOrder lint deadCode first) host).2.traffic =
        host.traffic ++ messages.flatten := by
  refine ⟨isLocal_scan, isLocal_diagnose, ?_⟩
  suffices hsends : ∃ messages, RunSends arguments (Checks.inOrder lint deadCode first) host messages
      (run arguments (Checks.inOrder lint deadCode first) host).2 by
    obtain ⟨messages, hsends⟩ := hsends
    exact ⟨messages, hsends, hsends.traffic_eq⟩
  unfold run
  cases hread : read arguments with
  | error misuse => exact ⟨[], .nothing (isLocal_complain misuse host)⟩
  | ok words =>
    obtain ⟨messages, hsends⟩ := exists_runSends_of_runWords hread
      (Prod.eta (runWords words (Checks.inOrder lint deadCode first) host)).symm
    refine ⟨messages, hsends.record ?_⟩
    refine Run.Keeps.snd_bind (fun _ => .of_events_eq rfl) (fun result => ?_) host
    split
    · exact Run.Records.pure _
    · exact Run.Records.bind (isLocal_printError _) fun _ => .pure _
    · exact Run.Records.throw _

end Command

end Cli

def Event.body? : Event → Option Json
  | post _ body => some body
  | _ => none

/-- A package whose linter finds two things, of which its settings suppress one. For the other it
gives a number where its advice should be, which ends the run when that is to be printed. -/
def Host.withSuppressed : Host :=
  let host := ofProject reactManifest (fun _ => .unavailable) fun _ _ _ =>
    .finished (some 0)
      (.text ("\x7b\"diagnostics\":[" ++
        "\x7b\"code\":\"react(jsx-key)\",\"filename\":\"App.tsx\",\"help\":5\x7d," ++
        "\x7b\"code\":\"react(no-danger)\",\"filename\":\"App.tsx\"\x7d]\x7d")) (.text "")
  { host with
    tree := .directory [
      ("package.json", .file (.text "\x7b\"workspaces\":[\"web\"]\x7d")),
      ("web", .directory [("package.json", .file (.text reactManifest)),
        ("react-doctor.config.json", .file (.text
          "\x7b\"ignore\":\x7b\"rules\":[\"react/no-danger\"]\x7d\x7d"))]),
      ("tmp", .directory [])] }

/-- The one finding that is left goes out, alone in its request. -/
theorem Cli.runSends_withSuppressed : ∃ messages,
    RunSends ["--no-dead-code"] (.inOrder (some ["oxlint"]) none .linter) Host.withSuppressed messages
      (run ["--no-dead-code"] (.inOrder (some ["oxlint"]) none .linter) Host.withSuppressed).2 ∧
    (messages.flatten.filterMap (·.body?)).map Json.compact =
      ["\x7b\"diagnostics\": [\x7b\"filePath\": \"App.tsx\", \"plugin\": \"react\", " ++
        "\"rule\": \"jsx-key\", \"severity\": \"warning\", \"message\": \"\", \"help\": 5, " ++
        "\"line\": 0, \"column\": 0, \"category\": \"Correctness\"\x7d]\x7d"] := by
  obtain ⟨-, -, messages, hsends, htraffic⟩ :=
    run_sends (some ["oxlint"]) none .linter ["--no-dead-code"] Host.withSuppressed
  have hnone : Host.withSuppressed.traffic = [] := rfl
  rw [hnone, List.nil_append] at htraffic
  refine ⟨messages, hsends, ?_⟩
  rw [← htraffic]
  decide +kernel

end Checkup
