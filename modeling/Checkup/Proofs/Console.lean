import Checkup.Cli.Command
import Checkup.Proofs.Footprint

/-!
# What is only printed

Everything that a run prints is a question that asks nothing. The report on a project adds to the
output, sends what it found to the score service and writes its own directory; it starts no process
and searches through no files.
-/

namespace Checkup

open Run (IsQuestion IsQuiet IsIdle Records)

/-! ### Lines -/

namespace Run.IsQuestion

theorem print (text : String) : IsQuestion (print text) :=
  ⟨fun _ => rfl, fun _ => rfl, .modify fun _ => rfl⟩

theorem say (text : String) : IsQuestion (say text) := by
  refine .get_bind (fun host => ?_) fun hsurface => by rw [Host.console_eq_of_surface_eq hsurface]
  cases host.surroundings.console.render text with
  | ok line => exact .print _
  | error fault => exact .throw _

theorem sayNothing : IsQuestion sayNothing := .print _

theorem escaped (text : String) : IsQuestion (escaped text) :=
  .get_bind (fun _ => .pure _) fun hsurface => by rw [Host.console_eq_of_surface_eq hsurface]

theorem printPanel (lines : List String) : IsQuestion (printPanel lines) :=
  .get_bind (fun _ => .print _) fun hsurface => by rw [Host.console_eq_of_surface_eq hsurface]

end Run.IsQuestion

def Host.CanSay (host : Host) (line : String) : Prop :=
  (host.surroundings.console.render line).isOk = true

instance (host : Host) (line : String) : Decidable (host.CanSay line) :=
  inferInstanceAs (Decidable (_ = true))

theorem Host.canSay_congr {h h' : Host} {line : String} (hsurface : h.surface = h'.surface) :
    h.CanSay line ↔ h'.CanSay line := by
  rw [CanSay, CanSay, console_eq_of_surface_eq hsurface]

theorem Run.say_apply (text : String) (host : Host) : say text host =
    match host.surroundings.console.render text with
      | .ok line => (.ok (), { host with output := host.output ++ (line ++ "\n") })
      | .error fault => (.error (.library fault), host) := by
  unfold say
  rw [Run.get_bind]
  cases host.surroundings.console.render text <;> rfl

theorem Run.say_eq_ok {text : String} {host : Host} (hsaid : host.CanSay text) :
    (say text host).1 = .ok () := by
  obtain ⟨line, hline⟩ := exists_eq_ok_of_isOk hsaid
  rw [say_apply, hline]

/-! ### Sections -/

namespace Sections

/-- A property of steps that every section has because the lines and the panels in it do. -/
structure IsOfLines (P : ∀ {α : Type}, Run α → Prop) : Prop where
  pure : ∀ {α : Type} (a : α), P (pure a : Run α)
  bind : ∀ {α β : Type} {step : Run α} {next : α → Run β}, P step → (∀ a, P (next a)) →
    P (step >>= next)
  throw : ∀ {α : Type} (fault : ShapeFault), P (throw (.shape fault) : Run α)
  say : ∀ text, P (Run.say text)
  sayNothing : P Run.sayNothing
  escaped : ∀ text, P (Run.escaped text)
  printPanel : ∀ lines, P (Run.printPanel lines)

theorem isOfLines_isQuestion : IsOfLines IsQuestion where
  pure := .pure
  bind := .bind
  throw _ := .throw _
  say := .say
  sayNothing := .sayNothing
  escaped := .escaped
  printPanel := .printPanel

namespace IsOfLines

variable {P : ∀ {α : Type}, Run α → Prop}

theorem branch {α : Type} {c : Prop} [Decidable c] {yes no : Run α} (hyes : P yes) (hno : P no) :
    P (if c then yes else no) := by
  split
  · exact hyes
  · exact hno

variable (hlines : IsOfLines P)
include hlines

theorem orFail {α : Type} (result : Except ShapeFault α) : P (orFail result) := by
  cases result with
  | ok found => exact hlines.pure _
  | error fault => exact hlines.throw _

theorem project (p : Project) (hasSettings : Bool) (changed : Option Int) :
    P (project p hasSettings changed) := by
  have hend : P (do
      if hasSettings then Run.say (found ++ " Loaded [cyan]react-doctor config[/].")
      Run.sayNothing) :=
    branch (hlines.bind (hlines.say _) fun _ => hlines.sayNothing) hlines.sayNothing
  refine hlines.bind (hlines.escaped _) fun _ => hlines.bind (hlines.say _) fun _ =>
    hlines.bind (hlines.say _) fun _ => hlines.bind (hlines.say _) fun _ =>
    hlines.bind (hlines.say _) fun _ => ?_
  cases changed with
  | some n => exact hlines.bind (hlines.say _) fun _ => hend
  | none => exact hlines.bind (hlines.say _) fun _ => hend

theorem sayFaint (line : String) : P (sayFaint line) :=
  hlines.bind (hlines.escaped line) fun _ => hlines.say _

theorem sayAllFaint (lines : List String) : P (sayAllFaint lines) := by
  induction lines with
  | nil => exact hlines.pure _
  | cons line rest ih => exact hlines.bind (hlines.sayFaint line) fun _ => ih

theorem sayPlaces (entries : List Report.FileLines) : P (sayPlaces entries) := by
  induction entries with
  | nil => exact hlines.pure _
  | cons entry rest ih =>
    exact hlines.bind (hlines.orFail _) fun text => hlines.bind (hlines.sayFaint text) fun _ => ih

theorem group (g : Report.Group) (verbose : Bool) : P (group g verbose) := by
  refine hlines.bind (hlines.escaped _) fun _ => hlines.bind (hlines.say _) fun _ =>
    hlines.bind (hlines.orFail _) fun lines => hlines.bind (hlines.sayAllFaint lines) fun _ => ?_
  exact branch (hlines.bind (hlines.orFail _) fun entries =>
    hlines.bind (hlines.sayPlaces entries) fun _ => hlines.sayNothing) hlines.sayNothing

theorem groups (verbose : Bool) (found : List Report.Group) : P (groups verbose found) := by
  induction found with
  | nil => exact hlines.pure _
  | cons g rest ih => exact hlines.bind (hlines.group g verbose) fun _ => ih

theorem findings (diagnostics : List Diagnostic) (verbose : Bool) :
    P (findings diagnostics verbose) :=
  hlines.bind (hlines.orFail _) fun found => hlines.groups verbose found

theorem summary (result : ScanResult) (extras : Extras) : P (summary result extras) := by
  refine hlines.bind (hlines.orFail _) fun counts => hlines.bind (hlines.printPanel _) fun _ => ?_
  suffices hend : P _ by
    cases extras.directory with
    | some directory =>
      exact hlines.bind (hlines.escaped _) fun _ => hlines.bind (hlines.say _) fun _ => hend
    | none => exact hend
  cases extras.share.filter (· != "") with
  | some link => exact hlines.bind (hlines.escaped _) fun _ => hlines.say _
  | none => exact hlines.pure _

theorem clean (checks : List String) (score : Option Score) (noScore : String) :
    P (clean checks score noScore) :=
  branch
    (hlines.bind (hlines.say _) fun _ => branch (hlines.say _) (hlines.printPanel _))
    (hlines.bind (hlines.say _) fun _ => hlines.say _)

theorem reasons (why : List (String × String)) : P (reasons why) := by
  induction why with
  | nil => exact hlines.pure _
  | cons first rest ih =>
    exact hlines.bind (branch (hlines.say _)
      (hlines.bind (hlines.escaped _) fun _ => hlines.say _)) fun _ => ih

theorem skipped (checks : List String) (why : List (String × String)) : P (skipped checks why) :=
  branch (hlines.bind (hlines.say _) fun _ => hlines.reasons why) (hlines.pure _)

end IsOfLines

end Sections

/-! ### Reports -/

theorem Estimate.isQuiet_connect (settings : RuntimeSettings) : IsQuiet (connect settings) := by
  refine .get_bind fun host => ?_
  cases host.surroundings.refusal settings.proxy with
  | none => exact .modify (Host.machine_record rfl)
  | some fault => exact .throw _

theorem Estimate.isQuiet_ask (diagnostics : List Diagnostic) (settings : RuntimeSettings)
    (ownConnection : Bool) : IsQuiet (ask diagnostics settings ownConnection) := by
  unfold ask
  suffices hpost : IsQuiet _ by
    cases settings.offline with
    | true => exact .pure _
    | false =>
      cases ownConnection with
      | true => exact .bind (isQuiet_connect settings) fun _ => hpost
      | false => exact hpost
  refine .bind (.modify (Host.machine_record rfl)) fun _ => .get_bind fun host => ?_
  cases ofReply host.surroundings.score with
  | ok estimate => exact .pure _
  | error fault => exact .throw _

theorem Host.isEdit_makeDirectory (p : Path) : IsEdit (·.makeDirectory p) := by
  intro h h' hsurface
  simp only [makeDirectory, workingDirectory_eq_of_surface_eq hsurface,
    tree_eq_of_surface_eq hsurface, bind, Except.bind]
  split
  · exact .inl ⟨_, rfl, rfl⟩
  split
  · exact .inl ⟨_, rfl, rfl⟩
  split
  · exact .inl ⟨_, rfl, rfl⟩
  · exact .inr ⟨_, rfl, rfl⟩

namespace Report

theorem records_writeSummaries (directory : Path) (found : List Group) :
    Records Event.isInquiry (writeSummaries directory found) := by
  induction found with
  | nil => exact .pure _
  | cons group rest ih =>
    unfold writeSummaries
    cases summary group with
    | ok text => exact .bind (Run.records_edit (Host.isEdit_write _ _)) fun _ => ih
    | error fault => exact .bind (.throw _) fun _ => ih

theorem records_writeInto (directory : Path) (diagnostics : List Diagnostic) :
    Records Event.isInquiry (writeInto directory diagnostics) := by
  refine .bind (Run.records_edit (Host.isEdit_makeDirectory _)) fun _ => ?_
  have hend : Records Event.isInquiry
      (Run.writeText (fileIn directory findingsName) (findingsText diagnostics)) :=
    Run.records_edit (Host.isEdit_write _ _)
  cases Group.ofDiagnostics diagnostics with
  | ok found => exact .bind (records_writeSummaries directory found) fun _ => hend
  | error fault => exact .bind (.throw _) fun _ => hend

/-- All that a report leaves in the record is that it could not be written. -/
theorem records_write (diagnostics : List Diagnostic) (parent : Option Path) :
    Records Event.isInquiry (write diagnostics parent) := by
  have hfresh : Records Event.isInquiry (freshDirectory parent) := fun _ => .of_events_eq rfl
  refine .bind hfresh fun directory => ?_
  refine .bind (records_writeInto directory diagnostics).attempt fun result => ?_
  split
  · exact .pure _
  · exact .bind (IsQuestion.note _).records fun _ => .pure _
  · exact .throw _

end Report

namespace Cli

theorem isQuestion_sayUnless (quiet : Bool) (line : String) : IsQuestion (sayUnless quiet line) :=
  .ite (.pure _) (.say _)

theorem isQuestion_scopePaths (directory : Path) (request : DiffRequest) (quiet : Bool) :
    IsQuestion (scopePaths directory request quiet) := by
  refine .ite (.pure _) (.bind (Git.isQuestion_changes? _ _) fun changes => ?_)
  cases changes with
  | none => exact .bind (isQuestion_sayUnless _ _) fun _ => .pure _
  | some changes =>
    refine .bind (isQuestion_sayUnless _ _) fun _ => .ite ?_ (.pure _)
    exact .bind (isQuestion_sayUnless _ _) fun _ => .pure _

theorem isQuestion_sayScore (result : ScanResult) (offline : Bool) :
    IsQuestion (sayScore result offline) := by
  unfold sayScore
  cases result.score with
  | some s => exact .say _
  | none => exact .say _

/-- What a report on findings prints and writes once it has an estimate, or none. -/
def reportWith (result : ScanResult) (p : Project) (options : Options) (verbose : Bool)
    (estimate : Option Estimate) : Run Unit := do
  Sections.findings result.diagnostics verbose
  let directory ← Report.write result.diagnostics none
  let link ← Sections.orFail (Report.shareLink result.diagnostics result.score p.name)
  Sections.summary result
    { noScore := noScoreText options.offline, total := totalFiles result p,
      directory := directory.map (·.text), share := some link, estimate }
  Sections.skipped result.skipped result.reasons

theorem reportFindings_eq (result : ScanResult) (p : Project) (options : Options)
    (runtime : RuntimeSettings) (verbose : Bool) :
    reportFindings result p options runtime verbose =
      (if options.offline || runtime.offline then pure none
        else Estimate.ask result.diagnostics runtime true) >>=
      reportWith result p options verbose := by
  unfold reportFindings
  split <;> rfl

theorem isIdle_reportFindings (result : ScanResult) (p : Project) (options : Options)
    (runtime : RuntimeSettings) (verbose : Bool) :
    IsIdle (reportFindings result p options runtime verbose) := by
  have hask : IsIdle (if options.offline || runtime.offline then pure none
      else Estimate.ask result.diagnostics runtime true) :=
    .ite (IsIdle.of_isQuiet (.pure _)) (IsIdle.of_isQuiet (Estimate.isQuiet_ask _ _ _))
  rw [reportFindings_eq]
  refine .bind hask fun _ => .bind (.of_isQuiet (Sections.isOfLines_isQuestion.findings _ _).quiet) fun _ => ?_
  refine .bind (.of_records (Report.records_write _ _)) fun directory => .of_isQuiet ?_
  refine .bind (Sections.isOfLines_isQuestion.orFail _).quiet fun link => ?_
  exact .bind (Sections.isOfLines_isQuestion.summary _ _).quiet fun _ =>
    (Sections.isOfLines_isQuestion.skipped _ _).quiet

theorem isIdle_report (result : ScanResult) (p : Project) (options : Options)
    (hasSettings : Bool) (runtime : RuntimeSettings) (verbose : Bool) :
    IsIdle (report result p options hasSettings runtime verbose) := by
  refine .bind (.of_isQuiet (Sections.isOfLines_isQuestion.project _ _ _).quiet) fun _ => .ite ?_ ?_
  · exact IsIdle.of_isQuiet (Sections.isOfLines_isQuestion.clean _ _ _).quiet
  · exact isIdle_reportFindings _ _ _ _ _

/-! ### The course of a run -/

/-- A run on a project from where its scan is begun. -/
def runBegun (directory : Path) (paths : List String) (options : Options)
    (settings : Option Settings) (runtime : RuntimeSettings) (checks : Checks) : Run Bool := do
  let result ← scanProject directory paths options settings runtime checks
  if !options.score then Run.sayNothing
  return (gateLevel options settings).fails result.diagnostics

theorem runProject_eq (directory : Path) (options : Options) (runtime : RuntimeSettings)
    (checks : Checks) : runProject directory options runtime checks =
      Settings.load directory >>= fun settings =>
      scopePaths directory (.resolve options.diff settings) options.score >>= fun scope =>
      match scope with
      | none => pure false
      | some paths =>
        sayUnless options.score ("[dim]Scanning " ++ directory.text ++ "...[/]\n") >>= fun _ =>
          runBegun directory paths options settings runtime checks := by
  unfold runProject
  congr
  funext settings
  congr
  funext scope
  cases scope with
  | none => rfl
  | some paths =>
    unfold sayUnless runBegun
    cases options.score <;> rfl

def runAnnounced (root : Path) (options : Options) (runtime : RuntimeSettings) (checks : Checks) :
    Run Nat := do
  match ← Run.attempt (runBelow root options runtime checks) with
  | .ok failed => return status failed
  | .error fault =>
    if fault.isReported then
      Run.say ("[red]✗ " ++ fault.wording ++ "[/]")
      return 1
    else throw fault

theorem runOptions_eq (options : Options) (checks : Checks) : runOptions options checks =
    RuntimeSettings.ofHost >>= fun runtime =>
    Run.resolve (Path.ofText options.directory) >>= fun root =>
    Run.isDirectory root >>= fun isThere =>
    if isThere then
      sayUnless options.score (programName ++ " v" ++ programVersion ++ "\n") >>= fun _ =>
        runAnnounced root options runtime checks
    else Run.say ("[red]✗ Directory not found: " ++ root.text ++ "[/]") >>= fun _ => pure 1 := by
  unfold runOptions
  congr
  funext runtime
  congr
  funext root
  congr
  funext isThere
  unfold sayUnless
  cases isThere <;> cases options.score <;> rfl

end Cli

end Checkup
