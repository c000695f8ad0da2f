import Checkup.Proofs.Console
import Checkup.Proofs.Faults
import Checkup.Proofs.Markup
import Checkup.Proofs.Requests

/-!
# Names in printed lines

The lines that announce a scan, tell what changes are compared with, offer a project and report a
fault put names into markup as they are. Such a line is printed as it is written exactly when its
names are plain, and those in front of a tag do not end in a backslash (`printed_verbatim_iff`). A
name with a tag in it loses the tag, and one that closes what was not opened stops the run, even one
that was about to report another fault.
-/

namespace Checkup

open Markup

section Asking

variable {α : Type} {step : Run α} {result : Except Fault α} {host mid after : Host}

theorem Run.IsQuestion.surface_of_eq (hstep : IsQuestion step) (hrun : step host = (result, after)) :
    after.surface = host.surface := by
  have hsurface := hstep.surface_eq host
  rwa [hrun] at hsurface

/-- A question is answered on a host as it is on another one with the same surface. -/
theorem Run.IsQuestion.exists_apply (hstep : IsQuestion step) (hsurface : mid.surface = host.surface)
    (hresult : (step host).1 = result) :
    ∃ after, step mid = (result, after) ∧ after.surface = host.surface :=
  ⟨(step mid).2, Prod.ext ((hstep.reads hsurface).trans hresult) rfl,
    (hstep.surface_eq mid).trans hsurface⟩

end Asking

/-! ### Saying a line -/

theorem Run.print_empty (host : Host) : print "" host = (.ok (), host) := by
  change (Except.ok (), { host with output := host.output ++ "" }) = _
  rw [String.append_empty]

theorem Run.print_append (first second : String) (host : Host) :
    (print first >>= fun _ => print second) host = print (first ++ second) host := by
  change (Except.ok (), { host with output := host.output ++ first ++ second }) =
    (Except.ok (), { host with output := host.output ++ (first ++ second) })
  rw [String.append_assoc]

theorem Run.say_apply_eq_iff {line text : String} {host : Host} :
    say line host = print (text ++ "\n") host ↔
      host.surroundings.console.render line = .ok text := by
  rw [say_apply]
  cases host.surroundings.console.render line with
  | error fault => exact ⟨nofun, nofun⟩
  | ok shown =>
    constructor
    · intro hprint
      have houtput : host.output ++ (shown ++ "\n") = host.output ++ (text ++ "\n") :=
        congrArg (fun done => done.2.output) hprint
      have hshown : shown = text := by
        simpa [String.append_left_inj, String.append_right_inj] using houtput
      rw [hshown]
    · rintro ⟨⟩
      rfl

theorem Run.say_conclude_iff {line text : String} {status : Nat} {host : Host} :
    (say line >>= fun _ => pure status) host = (print (text ++ "\n") >>= fun _ => pure status) host ↔
      host.surroundings.console.render line = .ok text := by
  have happly := @say_apply_eq_iff line text host
  rw [← happly, bind_apply, bind_apply]
  rcases hsay : say line host with ⟨fault | ⟨⟩, after⟩
  · exact ⟨nofun, nofun⟩
  · exact ⟨fun h => congrArg (fun done => (Except.ok (), done.2)) h, fun h => by rw [h]⟩

namespace Cli

/-! ### Lines with names in them -/

def scanHeader (directory : Path) : String :=
  "[dim]Scanning " ++ directory.text ++ "...[/]\n"

def offer (number : Nat) (name : String) (place : Path) : String :=
  "  [cyan]" ++ toString number ++ "[/] " ++ name ++ " [dim]" ++ place.text ++ "[/]"

def faultLine (reason : String) : String :=
  "[red]✗ " ++ reason ++ "[/]"

theorem isSafe_nil : IsSafe [] := IsNeutral.isSafe (by decide)

theorem isNeutral_toString (n : Nat) : IsNeutral (toString n).toList := by
  have hdigit : ∀ c ∈ (toString n).toList, c.isDigit = true := by
    intro c hc
    rw [Nat.toString_eq_repr, Nat.repr_eq_ofList_toDigits, String.toList_ofList] at hc
    exact Nat.isDigit_of_mem_toDigits (by decide) (by decide) hc
  exact ⟨fun h => absurd (hdigit _ h) (by decide), fun h => absurd (hdigit _ h) (by decide),
    fun h => absurd (hdigit _ h) (by decide)⟩

section Lines

variable {console : Console} {setup : Console.Setup} (hreads : console.ReadsMarkup setup)
include hreads

theorem render_scanHeader_iff {directory : Path}
    (hordinary : setup.IsOrdinary (scanHeader directory)) :
    console.render (scanHeader directory) = .ok ("Scanning " ++ directory.text ++ "...\n") ↔
      IsPlain directory.text.toList := by
  rw [hreads.render_eq_ok_iff hordinary []
    [("dim".toList, "Scanning ".toList ++ (directory.text.toList ++ "...".toList)),
      ("/".toList, "\n".toList)]
    (show areMatched ["dim".toList, "/".toList] = true by decide +kernel)]
  · have hend : IsPlain "\n".toList := IsNeutral.isPlain (by decide)
    simp only [IsKept, isSafe_prepend_iff (show IsNeutral "Scanning ".toList by decide),
      isSafe_append_iff (show IsNeutral "...".toList by decide) (by decide), isSafe_nil, hend,
      true_and, and_true]
  · simp [scanHeader, weave, written]
  · simp [texts]

theorem render_faultLine_iff {reason : String} (hordinary : setup.IsOrdinary (faultLine reason)) :
    console.render (faultLine reason) = .ok ("✗ " ++ reason) ↔ IsSafe reason.toList := by
  rw [hreads.render_eq_ok_iff hordinary []
    [("red".toList, "✗ ".toList ++ reason.toList), ("/".toList, [])]
    (show areMatched ["red".toList, "/".toList] = true by decide +kernel)]
  · simp only [IsKept, isSafe_prepend_iff (show IsNeutral "✗ ".toList by decide),
      isSafe_nil, isSafe_nil.toIsPlain, true_and, and_true]
  · simp [faultLine, weave, written]
  · simp [texts]

theorem render_comparison_iff {changes : Git.Changes} (hcommitted : changes.uncommitted = false)
    (hordinary : setup.IsOrdinary (comparison changes)) :
    console.render (comparison changes) = .ok ("Scanning changes on " ++
        branchText changes.current ++ " against " ++ branchText changes.base ++ ".") ↔
      IsSafe (branchText changes.current).toList ∧ IsSafe (branchText changes.base).toList := by
  rw [hreads.render_eq_ok_iff hordinary []
    [("dim".toList, "Scanning changes on ".toList),
      ("cyan".toList, (branchText changes.current).toList), ("/".toList, " against ".toList),
      ("cyan".toList, (branchText changes.base).toList), ("/".toList, ".".toList), ("/".toList, [])]
    (show areMatched ["dim".toList, "cyan".toList, "/".toList, "cyan".toList, "/".toList, "/".toList] =
      true by decide +kernel)]
  · have hon : IsSafe "Scanning changes on ".toList := IsNeutral.isSafe (by decide)
    have hagainst : IsSafe " against ".toList := IsNeutral.isSafe (by decide)
    have hend : IsSafe ".".toList := IsNeutral.isSafe (by decide)
    simp only [IsKept, hon, hagainst, hend, isSafe_nil, isSafe_nil.toIsPlain, true_and, and_true]
  · simp [comparison, hcommitted, weave, written]
  · simp [texts]

theorem render_offer_iff {number : Nat} {name : String} {place : Path}
    (hordinary : setup.IsOrdinary (offer number name place)) :
    console.render (offer number name place) =
        .ok ("  " ++ toString number ++ " " ++ name ++ " " ++ place.text) ↔
      IsPlain name.toList ∧ IsSafe place.text.toList := by
  rw [hreads.render_eq_ok_iff hordinary "  ".toList
    [("cyan".toList, (toString number).toList),
      ("/".toList, " ".toList ++ (name.toList ++ " ".toList)),
      ("dim".toList, place.text.toList), ("/".toList, [])]
    (show areMatched ["cyan".toList, "/".toList, "dim".toList, "/".toList] = true by decide +kernel)]
  · have hindent : IsSafe "  ".toList := IsNeutral.isSafe (by decide)
    have hblank : IsNeutral " ".toList := by decide
    simp only [IsKept, isSafe_prepend_iff hblank, isSafe_append_iff hblank (by decide), hindent,
      (isNeutral_toString number).isSafe, isSafe_nil.toIsPlain, true_and, and_true]
  · simp [offer, weave, written]
  · simp [texts]

end Lines

/-! ### The numbered list -/

def placeOf? (root : Path) (package : Package) : Option Path :=
  if package.directory == root then some Path.here else root.below? package.directory

theorem choiceLine_eq {root place : Path} {package : Package} (number : Nat)
    (hplace : placeOf? root package = some place) :
    choiceLine root number package = .ok (offer number package.name.display place) := by
  unfold placeOf? at hplace
  unfold choiceLine
  rw [hplace]
  rfl

/-- What the numbered list is to show, where every name in it can stand in its line. -/
inductive Lists (setup : Console.Setup) (root : Path) : Nat → List Package → String → Prop
  | nil (number : Nat) : Lists setup root number [] ""
  | cons {number : Nat} {package : Package} {place : Path} {rest : List Package} {text : String}
      (hplace : placeOf? root package = some place)
      (hordinary : setup.IsOrdinary (offer number package.name.display place))
      (hname : IsPlain package.name.display.toList) (hsafe : IsSafe place.text.toList)
      (hrest : Lists setup root (number + 1) rest text) :
      Lists setup root number (package :: rest) ("  " ++ toString number ++ " " ++
        package.name.display ++ " " ++ place.text ++ "\n" ++ text)

theorem Lists.sayChoices_eq {setup : Console.Setup} {root : Path} {number : Nat}
    {packages : List Package} {text : String} (hlists : Lists setup root number packages text)
    {host : Host} (hreads : host.surroundings.console.ReadsMarkup setup) :
    sayChoices root number packages host = Run.print text host := by
  induction hlists generalizing host with
  | nil number => exact (Run.print_empty host).symm
  | @cons number package place rest text hplace hordinary hname hsafe _ ih =>
    have hshown := (render_offer_iff hreads hordinary).2 ⟨hname, hsafe⟩
    have hsay : Run.say (offer number package.name.display place) host = Run.print (_ ++ "\n") host :=
      Run.say_apply_eq_iff.2 hshown
    unfold sayChoices
    rw [choiceLine_eq number hplace, ← Run.print_append]
    exact (Run.bind_of_ok hsay).trans (ih hreads)

/-! ### The end of a run -/

/-- A run that comes to its projects and stops there at a fault. -/
inductive StopsAt (options : Options) (checks : Checks) (host : Host) : Fault → Host → Prop
  | intro {runtime : RuntimeSettings} {root : Path} {asked resolved found begun stopped : Host}
      {fault : Fault} (hruntime : RuntimeSettings.ofHost host = (.ok runtime, asked))
      (hroot : Run.resolve (Path.ofText options.directory) asked = (.ok root, resolved))
      (hthere : Run.isDirectory root resolved = (.ok true, found))
      (hbegun : sayUnless options.score (programName ++ " v" ++ programVersion ++ "\n") found =
        (.ok (), begun))
      (hstops : runBelow root options runtime checks begun = (.error fault, stopped)) :
      StopsAt options checks host fault stopped

inductive FindsNothing (options : Options) (host : Host) : Path → Host → Prop
  | intro {runtime : RuntimeSettings} {root : Path} {asked resolved found : Host}
      (hruntime : RuntimeSettings.ofHost host = (.ok runtime, asked))
      (hroot : Run.resolve (Path.ofText options.directory) asked = (.ok root, resolved))
      (hmissing : Run.isDirectory root resolved = (.ok false, found)) :
      FindsNothing options host root found

variable {options : Options} {checks : Checks} {host stopped : Host} {fault : Fault}

theorem runOptions_of_stopsAt (hstops : StopsAt options checks host fault stopped)
    (hreported : fault.isReported = true) : runOptions options checks host =
      (Run.say (faultLine fault.wording) >>= fun _ => pure 1) stopped := by
  obtain ⟨hruntime, hroot, hthere, hbegun, hstops⟩ := hstops
  rw [runOptions_eq, Run.bind_of_ok hruntime, Run.bind_of_ok hroot, Run.bind_of_ok hthere, if_pos rfl,
    Run.bind_of_ok hbegun]
  unfold runAnnounced
  rw [Run.bind_of_ok (Run.attempt_apply _ _), hstops]
  dsimp only
  rw [if_pos hreported]
  rfl

theorem FindsNothing.surface_eq {root : Path} {found : Host}
    (hmissing : FindsNothing options host root found) :
    found.surface = host.surface := by
  obtain ⟨hruntime, hroot, hmissing⟩ := hmissing
  have hasked := RuntimeSettings.isQuestion_ofHost.surface_of_eq hruntime
  have hresolved := (Run.IsQuestion.resolve _).surface_of_eq hroot
  have hfound := (Run.IsQuestion.isDirectory _).surface_of_eq hmissing
  exact hfound.trans (hresolved.trans hasked)

/-- A run without a dialogue that cannot choose its projects stops there, and has only asked. -/
theorem exists_stopsAt_of_choice {runtime : RuntimeSettings} {root : Path} (checks : Checks)
    (hruntime : (RuntimeSettings.ofHost host).1 = .ok runtime)
    (hroot : (Run.resolve (Path.ofText options.directory) host).1 = .ok root)
    (hthere : (Run.isDirectory root host).1 = .ok true)
    (hsaid : (sayUnless options.score (programName ++ " v" ++ programVersion ++ "\n") host).1 = .ok ())
    (hdialogue : isInteractive options runtime = false)
    (hchoice : (selectProjects root options.project false host).1 = .error fault) :
    ∃ stopped, StopsAt options checks host fault stopped ∧ stopped.surface = host.surface := by
  obtain ⟨asked, hasked, hsame⟩ := RuntimeSettings.isQuestion_ofHost.exists_apply rfl hruntime
  obtain ⟨resolved, hresolved, hsame⟩ := (Run.IsQuestion.resolve _).exists_apply hsame hroot
  obtain ⟨found, hfound, hsame⟩ := (Run.IsQuestion.isDirectory _).exists_apply hsame hthere
  obtain ⟨begun, hbegun, hsame⟩ := (isQuestion_sayUnless _ _).exists_apply hsame hsaid
  obtain ⟨stopped, hstopped, hsame⟩ := (isQuestion_selectProjects _ _).exists_apply hsame hchoice
  -- only now is the run looked at: all that comes before the choice has been asked in turn
  refine ⟨stopped, .intro hasked hresolved hfound hbegun ?_, hsame⟩
  unfold runBelow
  rw [hdialogue]
  exact Run.bind_of_error hstopped

theorem runOptions_of_findsNothing {root : Path} {found : Host}
    (hmissing : FindsNothing options host root found) : runOptions options checks host =
      (Run.say (faultLine ("Directory not found: " ++ root.text)) >>= fun _ => pure 1) found := by
  obtain ⟨hruntime, hroot, hmissing⟩ := hmissing
  rw [runOptions_eq, Run.bind_of_ok hruntime, Run.bind_of_ok hroot, Run.bind_of_ok hmissing,
    if_neg (by decide)]
  simp [faultLine, String.append_assoc]
  rfl

theorem unreported_readTimeout (given : Option String) :
    Unreported (RuntimeSettings.readTimeout given) := by
  unfold RuntimeSettings.readTimeout
  split
  · exact .ok _
  · split
    · exact .ok _
    · exact .error rfl

theorem isUnreported_ofHost : Run.IsUnreported RuntimeSettings.ofHost := by
  refine .get_bind fun host => ?_
  have hvariables : Unreported (RuntimeSettings.ofVariables host.environment) :=
    .bind (unreported_readTimeout _) fun _ => .ok _
  cases hsettings : RuntimeSettings.ofVariables host.environment with
  | ok settings => exact .pure _
  | error fault => exact .throw (hvariables fault hsettings)

theorem isUnreported_runAnnounced (root : Path) (options : Options) (runtime : RuntimeSettings)
    (checks : Checks) : Run.IsUnreported (runAnnounced root options runtime checks) := by
  intro host
  unfold runAnnounced
  rw [Run.bind_of_ok (Run.attempt_apply _ _)]
  rcases runBelow root options runtime checks host with ⟨fault | failed, stopped⟩
  · dsimp only
    split
    · exact Run.IsUnreported.bind (.say _) (fun _ => .pure 1) stopped
    · rename_i hunreported
      exact Run.IsUnreported.throw (Bool.eq_false_iff.2 hunreported) stopped
  · exact .ok _

theorem isUnreported_runOptions (options : Options) (checks : Checks) :
    Run.IsUnreported (runOptions options checks) := by
  rw [runOptions_eq]
  refine .bind isUnreported_ofHost fun runtime => .bind (.resolve _) fun root =>
    .bind (.isDirectory _) fun isThere => .ite ?_ (.bind (.say _) fun _ => .pure _)
  exact .bind (isUnreported_sayUnless _ _) fun _ => isUnreported_runAnnounced _ _ _ _

theorem runProject_of_scope {directory : Path} {runtime : RuntimeSettings} {settings : Option Settings}
    {paths : List String} {loaded before : Host} (hloud : options.score = false)
    (hsettings : Settings.load directory host = (.ok settings, loaded))
    (hscope : scopePaths directory (.resolve options.diff settings) false loaded =
      (.ok (some paths), before)) :
    runProject directory options runtime checks host = (Run.say (scanHeader directory) >>= fun _ =>
      runBegun directory paths options settings runtime checks) before := by
  rw [runProject_eq, Run.bind_of_ok hsettings, hloud, Run.bind_of_ok hscope]
  rfl

/-- What is left to say of the changes that a run is limited to. -/
def scopeAfter (changes : Git.Changes) : Run (Option (List String)) :=
  if (Git.sourceFiles changes.files).isEmpty then
    Run.say "[dim]No changed source files. Nothing to scan.[/]\n" >>= fun _ => pure none
  else pure (some (Git.sourceFiles changes.files))

theorem scopePaths_of_changes {directory : Path} {request : DiffRequest} {changes : Git.Changes}
    {asked : Host} (hrequest : request ≠ .everything)
    (hchanges : Git.changes? directory request.branch? host = (.ok (some changes), asked)) :
    scopePaths directory request false host =
      (Run.say (comparison changes) >>= fun _ => scopeAfter changes) asked := by
  unfold scopePaths
  rw [if_neg (by simpa using hrequest), Run.bind_of_ok hchanges]
  rfl

/-- Which names the lines of a run show as they are, on a console that is set up so. -/
structure PrintsNames (setup : Console.Setup) (options : Options) (checks : Checks) (host : Host) :
    Prop where
  /-- the scan of a project is announced -/
  announced : ∀ directory runtime settings paths loaded before, options.score = false →
    Settings.load directory host = (.ok settings, loaded) →
    scopePaths directory (.resolve options.diff settings) false loaded = (.ok (some paths), before) →
    runProject directory options runtime checks host = (Run.say (scanHeader directory) >>=
      fun _ => runBegun directory paths options settings runtime checks) before
  header : ∀ directory : Path, setup.IsOrdinary (scanHeader directory) →
    (Run.say (scanHeader directory) host =
        Run.print ("Scanning " ++ directory.text ++ "...\n" ++ "\n") host ↔
      IsPlain directory.text.toList)
  /-- a comparison of branches is noted -/
  noted : ∀ directory request changes asked, request ≠ DiffRequest.everything →
    Git.changes? directory request.branch? host = (.ok (some changes), asked) →
    scopePaths directory request false host =
      (Run.say (comparison changes) >>= fun _ => scopeAfter changes) asked
  note : ∀ changes : Git.Changes, changes.uncommitted = false →
    setup.IsOrdinary (comparison changes) →
    (Run.say (comparison changes) host = Run.print ("Scanning changes on " ++
        branchText changes.current ++ " against " ++ branchText changes.base ++ "." ++ "\n") host ↔
      IsSafe (branchText changes.current).toList ∧ IsSafe (branchText changes.base).toList)
  /-- each project has its line in the numbered list -/
  offered : ∀ root number package place, placeOf? root package = some place →
    choiceLine root number package = .ok (offer number package.name.display place)
  line : ∀ (number : Nat) (name : String) (place : Path), setup.IsOrdinary (offer number name place) →
    (Run.say (offer number name place) host =
        Run.print ("  " ++ toString number ++ " " ++ name ++ " " ++ place.text ++ "\n") host ↔
      IsPlain name.toList ∧ IsSafe place.text.toList)
  list : ∀ root number packages text, Lists setup root number packages text →
    sayChoices root number packages host = Run.print text host
  /-- a fault of the domain ends the run with its message and with one -/
  reported : ∀ fault stopped, StopsAt options checks host fault stopped → fault.isReported = true →
    stopped.surroundings.console.ReadsMarkup setup → setup.IsOrdinary (faultLine fault.wording) →
    (runOptions options checks host =
        (Run.print ("✗ " ++ fault.wording ++ "\n") >>= fun _ => pure 1) stopped ↔
      IsSafe fault.wording.toList)
  missing : ∀ root found, FindsNothing options host root found →
    setup.IsOrdinary (faultLine ("Directory not found: " ++ root.text)) →
    (runOptions options checks host =
        (Run.print ("✗ Directory not found: " ++ root.text ++ "\n") >>= fun _ => pure 1) found ↔
      IsSafe root.text.toList)
  /-- a message that closes more than is open is not printed, and the run ends in a fault of the
  console instead -/
  broken : ∀ fault stopped, StopsAt options checks host fault stopped → fault.isReported = true →
    stopped.surroundings.console.ReadsMarkup setup →
    overcloses 0 (tags (faultLine fault.wording).toList) = true →
    ∃ cause, runOptions options checks host = (.error (.library cause), stopped)
  /-- a fault of the domain never gets out -/
  contained : ∀ fault, (runOptions options checks host).1 = .error fault → fault.isReported = false

/-- The names in the lines of a run are shown as they are exactly when they are plain, and those in
front of a tag do not end in a backslash, as long as the lines are ordinary ones. -/
theorem printed_verbatim_iff {setup : Console.Setup} (options : Options) (checks : Checks)
    (host : Host) (hreads : host.surroundings.console.ReadsMarkup setup) :
    PrintsNames setup options checks host where
  announced directory runtime settings paths loaded before := runProject_of_scope
  header directory hordinary := Run.say_apply_eq_iff.trans (render_scanHeader_iff hreads hordinary)
  noted directory request changes asked := scopePaths_of_changes
  note changes hcommitted hordinary :=
    Run.say_apply_eq_iff.trans (render_comparison_iff hreads hcommitted hordinary)
  offered root number package place := choiceLine_eq number
  line number name place hordinary :=
    Run.say_apply_eq_iff.trans (render_offer_iff hreads hordinary)
  list root number packages text hlists := hlists.sayChoices_eq hreads
  reported fault stopped hstops hreported hreads hordinary := by
    rw [runOptions_of_stopsAt hstops hreported, Run.say_conclude_iff,
      render_faultLine_iff hreads hordinary]
  missing root found hmissing hordinary := by
    have hfound : found.surroundings.console.ReadsMarkup setup :=
      Host.console_eq_of_surface_eq hmissing.surface_eq ▸ hreads
    have htext : "✗ Directory not found: " ++ root.text ++ "\n" =
        "✗ " ++ ("Directory not found: " ++ root.text) ++ "\n" := by
      rw [← String.append_assoc]
      rfl
    rw [runOptions_of_findsNothing hmissing, htext, Run.say_conclude_iff,
      render_faultLine_iff hfound hordinary, String.toList_append, isSafe_prepend_iff (by decide)]
  broken fault stopped hstops hreported hreads hcloses := by
    obtain ⟨cause, hcause⟩ := hreads.refuses hcloses
    refine ⟨cause, ?_⟩
    rw [runOptions_of_stopsAt hstops hreported]
    exact Run.bind_of_error (by rw [Run.say_apply, hcause])
  contained fault := isUnreported_runOptions options checks host fault

/-- Options that ask for a project by the name of `api`. -/
def askingForApi : Options :=
  { (default : Options) with directory := ".", project := some "api", score := true, yes := true }

/-- A console with room for eighty characters in a row, which knows one picture. -/
def usualSetup : Console.Setup := ⟨["warning"], List.length, 80⟩

/-- A run that asks for a project that is not there tells so and ends with one. -/
theorem printed_withLibrary :
    Host.withLibrary.surroundings.console.ReadsMarkup usualSetup ∧
    ∃ stopped, StopsAt askingForApi .usual Host.withLibrary (.noSuchProject "api" "@acme/web") stopped ∧
      (Fault.noSuchProject "api" "@acme/web").isReported = true ∧
      stopped.surroundings.console.ReadsMarkup usualSetup ∧
      usualSetup.IsOrdinary (faultLine (Fault.noSuchProject "api" "@acme/web").wording) ∧
      runOptions askingForApi .usual Host.withLibrary =
        (Run.print ("✗ Project \"api\" not found. Available: @acme/web\n") >>= fun _ => pure 1)
          stopped := by
  obtain ⟨runtime, hruntime⟩ := exists_eq_ok_of_isOk
    (show (RuntimeSettings.ofHost Host.withLibrary).1.isOk = true by decide +kernel)
  have hdialogue : isInteractive askingForApi runtime = false := by
    simp [isInteractive, askingForApi]
  have hroot : (Run.resolve (Path.ofText ".") Host.withLibrary).1 = .ok .root :=
    eq_ok_of_toOption (by decide +kernel)
  obtain ⟨stopped, hstops, hsurface⟩ : ∃ stopped,
      StopsAt askingForApi .usual Host.withLibrary (.noSuchProject "api" "@acme/web") stopped ∧
        stopped.surface = Host.withLibrary.surface :=
    exists_stopsAt_of_choice .usual hruntime hroot (eq_ok_of_toOption (by decide +kernel))
      (eq_ok_of_toOption (by decide +kernel)) hdialogue (eq_error_of_faultOf (by decide +kernel))
  have hreads : Host.withLibrary.surroundings.console.ReadsMarkup usualSetup :=
    Console.readsMarkup_plain usualSetup
  have hstill : stopped.surroundings.console.ReadsMarkup usualSetup := by
    rw [Host.console_eq_of_surface_eq hsurface]
    exact hreads
  have hcontrol : (faultLine (Fault.noSuchProject "api" "@acme/web").wording).toList.filter
      Text.isControl = [] := by decide +kernel
  have hordinary : usualSetup.IsOrdinary
      (faultLine (Fault.noSuchProject "api" "@acme/web").wording) :=
    ⟨by decide +kernel, fun c hc hcontrols => absurd (List.mem_filter.2 ⟨hc, hcontrols⟩)
      (hcontrol ▸ List.not_mem_nil), by decide +kernel⟩
  have hprints := printed_verbatim_iff askingForApi .usual Host.withLibrary hreads
  exact ⟨hreads, stopped, hstops, rfl, hstill, hordinary,
    (hprints.reported _ _ hstops rfl hstill hordinary).2 (IsNeutral.isSafe (by decide +kernel))⟩

/-- The scan of a route's directory is announced as one of the directory above it, and a run that asks
for a project whose name closes a tag ends in a fault of printing instead of the message that there is
no such project. -/
theorem printed_withTagInName :
    Console.plain.render (scanHeader ⟨.root, ["app", "[locale]"]⟩) = .ok "Scanning /app/...\n" ∧
    (selectProjects .root (some "[/x]") false Host.withLibrary).1 =
      .error (.noSuchProject "[/x]" "@acme/web") ∧
    (run ["--project", "[/x]", "--score"] .usual Host.withLibrary).1 =
      .error (.library Markup.unmatched) :=
  ⟨eq_ok_of_toOption (by decide +kernel), eq_error_of_faultOf (by decide +kernel),
    eq_error_of_faultOf (by decide +kernel)⟩

end Cli

end Checkup
