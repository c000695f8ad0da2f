import Checkup.Proofs.Console
import Checkup.Proofs.Isolation

/-!
# Where reported faults come from

A fault of the domain ends a run with its message (`Fault.isReported`). Nearly every step can only
end in a fault that is not of the domain: a refusal of the system, bytes that are no text, data of
the wrong shape, a library's failure. So when a project ends with a fault that is reported, it
is the fault of its scan, and the scan's fault is that of what it asks before its checks.
-/

namespace Checkup

/-- If the result is a fault, it is none that is reported. -/
def Unreported {α : Type} (result : Except Fault α) : Prop :=
  ∀ fault, result = .error fault → fault.isReported = false

namespace Unreported

variable {α β : Type}

theorem ok (a : α) : Unreported (.ok a : Except Fault α) := nofun

theorem error {fault : Fault} (hfault : fault.isReported = false) :
    Unreported (.error fault : Except Fault α) := by
  rintro _ ⟨⟩
  exact hfault

theorem bind {result : Except Fault α} {next : α → Except Fault β} (hresult : Unreported result)
    (hnext : ∀ a, Unreported (next a)) : Unreported (result >>= next) := by
  cases result with
  | error fault => exact .error (hresult fault rfl)
  | ok a => exact hnext a

theorem ite {c : Prop} [Decidable c] {yes no : Except Fault α} (hyes : Unreported yes)
    (hno : Unreported no) : Unreported (if c then yes else no) := by
  split
  · exact hyes
  · exact hno

theorem exists_of_bind {result : Except Fault α} {next : α → Except Fault β} {fault : Fault}
    (hresult : Unreported result) (hreported : fault.isReported = true)
    (hfault : (result >>= next) = .error fault) : ∃ a, result = .ok a ∧ next a = .error fault := by
  cases result with
  | error found =>
    cases hfault
    exact absurd hreported (Bool.eq_false_iff.1 (hresult fault rfl))
  | ok a => exact ⟨a, rfl, hfault⟩

end Unreported

/-- If the result is a fault, it is one that is reported. -/
def Reported {α : Type} (result : Except Fault α) : Prop :=
  ∀ fault, result = .error fault → fault.isReported = true

theorem Reported.ok {α : Type} (a : α) : Reported (.ok a : Except Fault α) := nofun

theorem Reported.error {α : Type} {fault : Fault} (hfault : fault.isReported = true) :
    Reported (.error fault : Except Fault α) := by
  rintro _ ⟨⟩
  exact hfault

namespace Run

variable {α β : Type} {step : Run α} {next : α → Run β}

/-- A step that never ends in a fault that is reported. -/
def IsUnreported (step : Run α) : Prop :=
  ∀ host, Unreported (step host).1

namespace IsUnreported

theorem pure (a : α) : IsUnreported (Pure.pure a) := fun _ => .ok a

theorem throw {fault : Fault} (hfault : fault.isReported = false) :
    IsUnreported (MonadExcept.throw fault : Run α) := fun _ => .error hfault

theorem bind (hstep : IsUnreported step) (hnext : ∀ a, IsUnreported (next a)) :
    IsUnreported (step >>= next) := by
  intro host
  have hfirst := hstep host
  rw [bind_apply]
  rcases hrun : step host with ⟨fault | a, mid⟩ <;> rw [hrun] at hfirst
  · exact .error (hfirst fault rfl)
  · exact hnext a mid

theorem ite {c : Prop} [Decidable c] {yes no : Run α} (hyes : IsUnreported yes)
    (hno : IsUnreported no) : IsUnreported (if c then yes else no) := by
  split
  · exact hyes
  · exact hno

theorem get_bind {next : Host → Run β} (hnext : ∀ host, IsUnreported (next host)) :
    IsUnreported (get >>= next) := fun host => hnext host host

theorem set (host : Host) : IsUnreported (set host : Run PUnit) := fun _ => .ok _

theorem modify (change : Host → Host) : IsUnreported (modify change : Run PUnit) := fun _ => .ok _

/-- What follows an attempt has to deal with the step's own faults only. -/
theorem bind_attempt {next : Except Fault α → Run β} (hstep : IsUnreported step)
    (hok : ∀ a, IsUnreported (next (.ok a)))
    (herror : ∀ fault, fault.isReported = false → IsUnreported (next (.error fault))) :
    IsUnreported (attempt step >>= next) := by
  intro host
  have hfirst := hstep host
  rw [bind_of_ok (attempt_apply step host)]
  rcases hrun : step host with ⟨fault | a, mid⟩ <;> rw [hrun] at hfirst
  · exact herror fault (hfirst fault rfl) mid
  · exact hok a mid

/-- A run that returns, or ends in a fault that is reported, has gone through the step. -/
theorem exists_of_bind {result : Except Fault β} {host after : Host} (hstep : IsUnreported step)
    (hresult : Reported result) (hrun : (step >>= next) host = (result, after)) :
    ∃ a mid, step host = (.ok a, mid) ∧ next a mid = (result, after) := by
  have hfirst := hstep host
  rw [bind_apply] at hrun
  rcases hbegin : step host with ⟨fault | a, mid⟩ <;> rw [hbegin] at hrun hfirst
  · cases hrun
    exact absurd (hresult fault rfl) (Bool.eq_false_iff.1 (hfirst fault rfl))
  · exact ⟨a, mid, rfl, hrun⟩

/-- If moreover the step is a question, what follows begins on the same machine. -/
theorem exists_of_bind_question {result : Except Fault β} {host after : Host}
    (hstep : IsUnreported step) (hquestion : IsQuestion step)
    (hresult : Reported result)
    (hrun : (step >>= next) host = (result, after)) :
    ∃ a mid, (step host).1 = .ok a ∧ mid.machine = host.machine ∧ next a mid = (result, after) := by
  obtain ⟨a, mid, hfirst, hnext⟩ := hstep.exists_of_bind hresult hrun
  have hquiet := hquestion.quiet host
  rw [hfirst] at hquiet
  exact ⟨a, mid, congrArg Prod.fst hfirst, hquiet, hnext⟩

/-! ### Files, git and the console -/

theorem toFault (fault : AccessFault) (p : Path) : (fault.toFault p).isReported = false := by
  cases fault <;> rfl

theorem access (p : Path) (look : Host → Except AccessFault α) : IsUnreported (access p look) := by
  refine .get_bind fun host => ?_
  cases look host with
  | ok found => exact .pure found
  | error fault => exact .throw (toFault fault p)

theorem node? (p : Path) : IsUnreported (node? p) := by
  refine .get_bind fun host => ?_
  split
  · exact .pure _
  · exact .throw rfl
  · exact .pure _

theorem isFile (p : Path) : IsUnreported (isFile p) := .bind (.node? p) fun _ => .pure _

theorem isDirectory (p : Path) : IsUnreported (isDirectory p) := .bind (.node? p) fun _ => .pure _

theorem pathExists (p : Path) : IsUnreported (pathExists p) := .bind (.node? p) fun _ => .pure _

theorem listNames (p : Path) : IsUnreported (listNames p) := by
  refine .bind (.access p _) fun found => ?_
  cases found with
  | directory entries => exact .pure _
  | file content => exact .throw (toFault .notDirectory p)

theorem readText (p : Path) : IsUnreported (readText p) := by
  refine .bind (.access p _) fun found => ?_
  cases found.text? with
  | some text => exact .pure text
  | none => exact .throw rfl

theorem edit (p : Path) (change : Host → Except AccessFault Host) :
    IsUnreported (do MonadStateOf.set (← Run.access p change) : Run Unit) :=
  .bind (.access p change) fun _ => .set _

theorem note (notice : Notice) : IsUnreported (note notice) := .modify _

theorem resolve (p : Path) : IsUnreported (resolve p) :=
  .ite (.bind (.throw rfl) fun _ => .get_bind fun _ => .pure _) (.get_bind fun _ => .pure _)

theorem received (words : List String) (answer : Answer) : Unreported (answer.received words) := by
  unfold Answer.received
  refine .ite (.error rfl) ?_
  cases answer with
  | undecodable => exact .error rfl
  | finished | unavailable => exact .ok _

theorem git (directory : Path) (arguments : List String) :
    IsUnreported (git directory arguments) := by
  intro host
  rw [git_apply]
  exact received _ _

theorem print (text : String) : IsUnreported (print text) := .modify _

theorem say (text : String) : IsUnreported (say text) := by
  refine .get_bind fun host => ?_
  cases host.surroundings.console.render text with
  | ok line => exact .print _
  | error fault => exact .throw rfl

theorem sayNothing : IsUnreported sayNothing := .print _

theorem escaped (text : String) : IsUnreported (escaped text) := .get_bind fun _ => .pure _

theorem printPanel (lines : List String) : IsUnreported (printPanel lines) :=
  .get_bind fun _ => .print _

end IsUnreported

end Run

open Run (IsUnreported)

/-! ### What is asked -/

theorem Manifest.isUnreported_isIn (directory : Path) : IsUnreported (isIn directory) := .isFile _

theorem Manifest.isUnreported_readIn (directory : Path) : IsUnreported (readIn directory) := by
  refine .bind_attempt (.readText _) (fun text => ?_) fun fault hfault => ?_
  · split
    · exact .throw rfl
    · exact .bind (.note _) fun _ => .pure _
    · split
      · exact .pure _
      · exact .bind (.note _) fun _ => .pure _
      · exact .throw rfl
  · split
    · exact .throw rfl
    · exact .bind (.note _) fun _ => .pure _
    · rename_i hok
      cases hok

namespace Settings

theorem isUnreported_valueIn (file : Path) : IsUnreported (valueIn file) := by
  refine .bind_attempt (.readText _) (fun text => ?_) fun fault hfault => ?_
  · dsimp only
    split
    · exact .pure _
    · exact .pure _
    · exact .throw rfl
  · split
    · exact .pure _
    · rename_i hfound
      cases hfound
      exact .throw hfault
    · rename_i hok
      cases hok

theorem isUnreported_ofFile (file : Path) : IsUnreported (ofFile file) := by
  refine .bind (isUnreported_valueIn file) fun value => ?_
  split
  · split
    · exact .pure _
    · exact .bind (.note _) fun _ => .pure _
  · exact .bind (.note _) fun _ => .pure _
  · exact .bind (.note _) fun _ => .pure _

theorem isUnreported_ofManifestFile (file : Path) : IsUnreported (ofManifestFile file) := by
  refine .bind (isUnreported_valueIn file) fun value => ?_
  split
  · split
    · split
      · exact .pure _
      · exact .bind (.note _) fun _ => .pure _
    · exact .pure _
  · exact .bind (.note _) fun _ => .pure _

theorem isUnreported_load (root : Path) : IsUnreported (load root) := by
  have hmanifest : IsUnreported (do
      if ← Manifest.isIn root then ofManifestFile (Manifest.file root) else return none) :=
    .bind (Manifest.isUnreported_isIn root) fun _ => .ite (isUnreported_ofManifestFile _) (.pure _)
  refine .bind (.isFile _) fun _ => .ite (.bind (isUnreported_ofFile _) fun settings => ?_) hmanifest
  cases settings with
  | some settings => exact .pure _
  | none => exact hmanifest

end Settings

namespace Git

theorem isUnreported_output? (directory : Path) (arguments : List String) :
    IsUnreported (output? directory arguments) := .bind (.git _ _) fun _ => .pure _

theorem isUnreported_lines? (directory : Path) (arguments : List String) :
    IsUnreported (lines? directory arguments) := .bind (isUnreported_output? _ _) fun _ => .pure _

theorem isUnreported_branchExists (directory : Path) (branch : String) :
    IsUnreported (branchExists directory branch) :=
  .bind (isUnreported_output? _ _) fun _ => .pure _

theorem isUnreported_firstBranch? (directory : Path) (branches : List String) :
    IsUnreported (firstBranch? directory branches) := by
  induction branches with
  | nil => exact .pure _
  | cons branch rest ih =>
    exact .bind (isUnreported_branchExists directory branch) fun _ => .ite (.pure _) ih

theorem isUnreported_uncommitted (directory : Path) : IsUnreported (uncommitted directory) := by
  refine .bind (.bind (isUnreported_lines? _ _) fun found => ?_) fun _ =>
    .bind (isUnreported_lines? _ _) fun _ => .pure _
  cases found with
  | some found => exact .pure _
  | none => exact .bind (isUnreported_lines? _ _) fun _ => .pure _

theorem isUnreported_base? (directory : Path) (requested : Option String) :
    IsUnreported (base? directory requested) := by
  cases requested with
  | none => exact isUnreported_firstBranch? directory _
  | some branch =>
    exact .bind (isUnreported_branchExists directory branch) fun _ =>
      .ite (.pure _) (.bind (.note _) fun _ => .pure _)

theorem isUnreported_changedSince? (directory : Path) (base : String) :
    IsUnreported (changedSince? directory base) := by
  refine .bind (isUnreported_output? _ _) fun output => ?_
  cases output with
  | some output => exact isUnreported_lines? _ _
  | none => exact .pure _

theorem isUnreported_changes? (directory : Path) (requested : Option String) :
    IsUnreported (changes? directory requested) := by
  refine .bind (.bind (isUnreported_output? _ _) fun _ => .pure _) fun _ => .ite (.pure _) ?_
  refine .bind (.bind (isUnreported_output? _ _) fun _ => .pure _) fun _ => ?_
  refine .bind (isUnreported_uncommitted directory) fun _ => .ite (.pure _) ?_
  refine .bind (isUnreported_base? directory _) fun base => ?_
  cases base with
  | none => exact .pure _
  | some base =>
    exact .ite (.pure _) (.bind (isUnreported_changedSince? directory base) fun _ => .pure _)

end Git

theorem ReducedMotion.isUnreported_check (root : Path) : IsUnreported (check root) := by
  refine .bind (Manifest.isUnreported_isIn root) fun _ => .ite (.pure _) ?_
  refine .bind (Manifest.isUnreported_readIn root) fun _ => .ite (.pure _) ?_
  exact .bind (.bind (.git _ _) fun _ => .pure _) fun _ => .ite (.pure _) (.pure _)

theorem Git.isUnreported_files? (directory : Path) : IsUnreported (files? directory) :=
  isUnreported_lines? _ _

namespace Workspace

theorem isUnreported_isRoot (directory : Path) : IsUnreported (isRoot directory) := by
  refine .bind (.isFile _) fun _ => .ite (.pure _) ?_
  refine .bind (.isFile _) fun _ => .ite (.pure _) ?_
  exact .bind (Manifest.isUnreported_isIn _) fun _ =>
    .ite (.bind (Manifest.isUnreported_readIn _) fun _ => .pure _) (.pure _)

theorem isUnreported_enclosingRoot? (directory : Path) :
    IsUnreported (enclosingRoot? directory) := by
  unfold enclosingRoot?
  induction directory.parents with
  | nil => exact .pure _
  | cons directory rest ih =>
    exact .bind (isUnreported_isRoot directory) fun _ => .ite (.pure _) ih

theorem isUnreported_patterns (root : Path) (manifest : Manifest) :
    IsUnreported (patterns root manifest) := by
  refine .bind (.bind (.isFile _) fun _ => .ite ?_ (.pure _)) fun _ => .pure _
  exact .bind (.bind (.access _ _) fun _ => .pure _) fun _ => .pure _

theorem isUnreported_packagesAmong (found : List Path) : IsUnreported (packagesAmong found) := by
  refine .bind ?_ fun _ => .pure _
  generalize ([] : List Path) = kept
  induction found generalizing kept with
  | nil => exact .pure kept
  | cons directory rest ih =>
    exact .bind (.bind (.isDirectory _) fun _ => .ite (Manifest.isUnreported_isIn _) (.pure _))
      fun _ => ih _

theorem isUnreported_directories (root : Path) (pattern : String) :
    IsUnreported (directories root pattern) := by
  unfold directories
  cases Pattern.ofText pattern with
  | literal path => exact isUnreported_packagesAmong _
  | wildcard base suffix =>
    exact .bind (.isDirectory _) fun _ =>
      .ite (.bind (.listNames _) fun _ => isUnreported_packagesAmong _) (.pure _)

end Workspace

namespace ReactFacts

theorem isUnreported_ofPackages (facts : ReactFacts) (directories : List Path) :
    IsUnreported (ofPackages facts directories) := by
  induction directories generalizing facts with
  | nil => exact .pure _
  | cons directory rest ih =>
    exact .bind (Manifest.isUnreported_readIn directory) fun _ => .ite (.pure _) (ih _)

theorem isUnreported_ofPatterns (root : Path) (facts : ReactFacts) (patterns : List String) :
    IsUnreported (ofPatterns root facts patterns) := by
  induction patterns generalizing facts with
  | nil => exact .pure _
  | cons pattern rest ih =>
    exact .bind (Workspace.isUnreported_directories root pattern) fun _ =>
      .bind (isUnreported_ofPackages _ _) fun _ => .ite (.pure _) (ih _)

theorem isUnreported_ofOwn (directory : Path) (manifest : Manifest) :
    IsUnreported (ofOwn directory manifest) := by
  refine .ite (.pure _) (.bind ?_ fun _ => .pure _)
  exact .bind (Workspace.isUnreported_patterns _ _) fun _ => isUnreported_ofPatterns _ _ _

theorem isUnreported_resolve (directory : Path) (manifest : Manifest) :
    IsUnreported (resolve directory manifest) := by
  refine .bind (isUnreported_ofOwn _ _) fun _ => .ite (.pure _) ?_
  refine .bind (Workspace.isUnreported_isRoot _) fun _ => .ite (.pure _) (.bind ?_ fun _ => .pure _)
  refine .bind (Workspace.isUnreported_enclosingRoot? _) fun root => ?_
  cases root with
  | none => exact .pure _
  | some root =>
    refine .bind (Manifest.isUnreported_isIn root) fun _ => .ite ?_ (.pure _)
    exact .bind (Manifest.isUnreported_readIn root) fun _ => isUnreported_ofOwn _ _

end ReactFacts

namespace Project

theorem isUnreported_countSourceFiles (directory : Path) :
    IsUnreported (countSourceFiles directory) := by
  refine .bind (Git.isUnreported_files? directory) fun files => ?_
  cases files with
  | some files => exact .pure _
  | none =>
    refine .get_bind fun host => ?_
    split
    · exact .pure _
    · exact .throw rfl
    · exact .pure _

theorem isUnreported_detectCompiler (directory : Path) (manifest : Manifest) :
    IsUnreported (detectCompiler directory manifest) := by
  have hfiles (files : List Path) : IsUnreported (anyMentionsCompiler files) := by
    induction files with
    | nil => exact .pure _
    | cons file rest ih =>
      refine .bind (.isFile file) fun _ => .ite ?_ ih
      exact .bind (.bind (.access _ _) fun _ => .pure _) fun _ => .ite (.pure _) ih
  have hparents (directories : List Path) : IsUnreported (anyDependsOnCompiler directories) := by
    induction directories with
    | nil => exact .pure _
    | cons directory rest ih =>
      refine .bind (Manifest.isUnreported_isIn directory) fun _ => .ite ?_ ih
      exact .bind (Manifest.isUnreported_readIn directory) fun _ => .ite (.pure _) ih
  exact .ite (.pure _) (.bind (hfiles _) fun _ => .ite (.pure _) (hparents _))

/-- The one fault of discovery that is reported is a missing manifest. -/
theorem discover_eq_noManifest {directory : Path} {manifestDirectory : Option Path} {host : Host}
    {fault : Fault} (hfault : (discover directory manifestDirectory host).1 = .error fault)
    (hreported : fault.isReported = true) :
    fault = .noManifest (manifestDirectory.getD directory) ∧
      (Manifest.isIn (manifestDirectory.getD directory) host).1 = .ok false := by
  have hrest : IsUnreported (do
      let manifest ← Manifest.readIn (manifestDirectory.getD directory)
      let facts ← ReactFacts.resolve (manifestDirectory.getD directory) manifest
      let typeScript ← Run.pathExists (directory / "tsconfig.json")
      let compiler ← detectCompiler directory manifest
      let sourceFiles ← countSourceFiles directory
      return ({ root := directory, name := nameOf manifest directory, react := facts.version,
                framework := facts.framework, typeScript, compiler, sourceFiles } : Project)) := by
    refine .bind (Manifest.isUnreported_readIn _) fun _ => ?_
    refine .bind (ReactFacts.isUnreported_resolve _ _) fun _ => .bind (.pathExists _) fun _ => ?_
    refine .bind (isUnreported_detectCompiler _ _) fun _ => ?_
    exact .bind (isUnreported_countSourceFiles _) fun _ => .pure _
  rcases hrun : discover directory manifestDirectory host with ⟨result, after⟩
  rw [hrun] at hfault
  cases hfault
  obtain ⟨isThere, mid, hthere, hrun⟩ :=
    (Manifest.isUnreported_isIn _).exists_of_bind (.error hreported) hrun
  cases isThere with
  | false =>
    cases hrun
    exact ⟨rfl, congrArg Prod.fst hthere⟩
  | true =>
    have hunreported := hrest mid fault (congrArg Prod.fst hrun)
    exact absurd hreported (Bool.eq_false_iff.1 hunreported)

end Project

/-! ### What is printed and written -/

theorem Sections.isOfLines_isUnreported : IsOfLines IsUnreported where
  pure := .pure
  bind := .bind
  throw _ := .throw rfl
  say := .say
  sayNothing := .sayNothing
  escaped := .escaped
  printPanel := .printPanel

theorem Estimate.unreported_ofReply (reply : Reply) : Unreported (ofReply reply) := by
  cases reply with
  | unreachable => exact .ok _
  | failed fault => exact .error rfl
  | response status body =>
    refine .ite (fun fault hfault => ?_) (.ok _)
    obtain ⟨found, -, rfl⟩ := except_mapError_eq_error.1 hfault
    rfl

theorem Estimate.isUnreported_connect (settings : RuntimeSettings) :
    IsUnreported (connect settings) := by
  refine .get_bind fun host => ?_
  cases host.surroundings.refusal settings.proxy with
  | none => exact .modify _
  | some fault => exact .throw rfl

theorem Estimate.isUnreported_ask (diagnostics : List Diagnostic) (settings : RuntimeSettings)
    (ownConnection : Bool) : IsUnreported (ask diagnostics settings ownConnection) := by
  suffices hpost : IsUnreported _ from
    .ite (.pure _) (.ite (.bind (isUnreported_connect settings) fun _ => hpost) hpost)
  refine .bind (.modify _) fun _ => .get_bind fun host => ?_
  have hreply := unreported_ofReply host.surroundings.score
  cases hgiven : ofReply host.surroundings.score with
  | ok estimate => exact .pure _
  | error fault => exact .throw (hreply fault hgiven)

namespace Report

theorem isUnreported_writeSummaries (directory : Path) (found : List Group) :
    IsUnreported (writeSummaries directory found) := by
  induction found with
  | nil => exact .pure _
  | cons group rest ih =>
    unfold writeSummaries
    cases summary group with
    | ok text => exact .bind (.edit _ _) fun _ => ih
    | error fault => exact .bind (.throw rfl) fun _ => ih

theorem isUnreported_writeInto (directory : Path) (diagnostics : List Diagnostic) :
    IsUnreported (writeInto directory diagnostics) := by
  refine .bind (.edit _ _) fun _ => ?_
  have hend : IsUnreported (Run.writeText (fileIn directory findingsName) (findingsText diagnostics)) :=
    .edit _ _
  cases Group.ofDiagnostics diagnostics with
  | ok found => exact .bind (isUnreported_writeSummaries directory found) fun _ => hend
  | error fault => exact .bind (.throw rfl) fun _ => hend

theorem isUnreported_write (diagnostics : List Diagnostic) (parent : Option Path) :
    IsUnreported (write diagnostics parent) := by
  have hfresh : IsUnreported (freshDirectory parent) :=
    .get_bind fun _ => .bind (.set _) fun _ => .pure _
  refine .bind hfresh fun directory => ?_
  refine .bind_attempt (isUnreported_writeInto directory diagnostics) (fun _ => .pure _)
    fun fault hfault => ?_
  split
  · exact .pure _
  · exact .bind (.note _) fun _ => .pure _
  · rename_i hfound
    cases hfound
    exact .throw hfault

end Report

/-! ### Scans and projects -/

/-- A fault of a scan that is reported is that of what the scan asks before its checks. -/
theorem fst_ofScan_of_reported {lint deadCode : Option (List String)} {first : Tool}
    {directory : Path} {options : ScanOptions} {runtime : Option RuntimeSettings}
    {source : SettingsSource} {host : Host} {fault : Fault}
    (hscan : (scan directory options runtime (Checks.inOrder lint deadCode first) source host).1 =
      .error fault) (hreported : fault.isReported = true) :
    (Prospect.ofScan directory options runtime source host).1 = .error fault := by
  rw [fst_scan] at hscan
  rcases hprospect : (Prospect.ofScan directory options runtime source host).1 with
    found | prospect <;> rw [hprospect] at hscan
  · cases hscan
    rfl
  · have hown : Unreported (prospect.own host).1 :=
      IsUnreported.ite (.pure _) (ReducedMotion.isUnreported_check _) host
    have hrest : Unreported (do
        let own ← (prospect.own host).1
        let found ← prospect.examination
          ((Checks.inOrder lint deadCode first).outcome prospect · host) own
        return prospect.result found host.elapsed) := by
      refine .bind hown fun own => .bind ?_ fun _ => .ok _
      unfold Prospect.examination
      cases unsuppressed prospect.settings _ with
      | ok found => exact .ok _
      | error fault => exact .error rfl
    exact absurd hreported (Bool.eq_false_iff.1 (hrest fault hscan))

theorem RuntimeSettings.isUnreported_given (runtime : Option RuntimeSettings) :
    IsUnreported (given runtime) := by
  have htimeout (value : Option String) : Unreported (readTimeout value) := by
    unfold readTimeout
    split
    · exact .ok _
    · split
      · exact .ok _
      · exact .error rfl
  have hvariables (environment : Variables) : Unreported (ofVariables environment) :=
    .bind (htimeout _) fun _ => .ok _
  cases runtime with
  | some runtime => exact .pure _
  | none =>
    refine .get_bind fun host => ?_
    cases hfound : ofVariables host.environment with
    | ok settings => exact .pure _
    | error fault => exact .throw (hvariables _ fault hfound)

theorem SettingsSource.isUnreported_settings (source : SettingsSource) (directory : Path) :
    IsUnreported (source.settings directory) := by
  cases source with
  | given settings => exact .pure _
  | disk => exact Settings.isUnreported_load directory

/-- A scan misses React exactly where the rest of what it asks is answered and discovery finds no
version that counts. -/
theorem Prospect.fst_ofScan_eq_noReact {directory : Path} {options : ScanOptions}
    {runtime : Option RuntimeSettings} {source : SettingsSource} {host : Host} :
    (ofScan directory options runtime source host).1 = .error .noReact ↔
      ∃ resolved switches settings project,
        (RuntimeSettings.given runtime host).1 = .ok switches ∧
        (Run.resolve directory host).1 = .ok resolved ∧
        (source.settings resolved host).1 = .ok settings ∧
        (Project.discover resolved options.manifest host).1 = .ok project ∧
        project.react.any (·.isTruthy) = false := by
  rw [fst_ofScan]
  constructor
  · intro hfault
    obtain ⟨switches, hswitches, hfault⟩ :=
      (RuntimeSettings.isUnreported_given runtime host).exists_of_bind rfl hfault
    obtain ⟨resolved, hresolved, hfault⟩ :=
      (IsUnreported.resolve directory host).exists_of_bind rfl hfault
    obtain ⟨settings, hsettings, hfault⟩ :=
      (source.isUnreported_settings resolved host).exists_of_bind rfl hfault
    refine ⟨resolved, switches, settings, ?_⟩
    rcases hproject : (Project.discover resolved options.manifest host).1 with fault | project <;>
      rw [hproject] at hfault
    · cases hfault
      cases (Project.discover_eq_noManifest hproject rfl).1
    · refine ⟨project, hswitches, hresolved, hsettings, rfl, Bool.eq_false_iff.2 fun hreact => ?_⟩
      dsimp only [bind, Except.bind] at hfault
      rw [if_pos hreact] at hfault
      cases hfault
  · rintro ⟨resolved, switches, settings, project, hswitches, hresolved, hsettings, hproject, hreact⟩
    rw [hswitches, hresolved]
    dsimp only [bind, Except.bind]
    rw [hsettings]
    dsimp only
    rw [hproject]
    dsimp only
    rw [if_neg (by simp [hreact])]
    rfl

namespace Cli

theorem isUnreported_sayUnless (quiet : Bool) (line : String) : IsUnreported (sayUnless quiet line) :=
  .ite (.pure _) (.say _)

theorem isUnreported_scopePaths (directory : Path) (request : DiffRequest) (quiet : Bool) :
    IsUnreported (scopePaths directory request quiet) := by
  refine .ite (.pure _) (.bind (Git.isUnreported_changes? _ _) fun changes => ?_)
  cases changes with
  | none => exact .bind (isUnreported_sayUnless _ _) fun _ => .pure _
  | some changes =>
    refine .bind (isUnreported_sayUnless _ _) fun _ => .ite ?_ (.pure _)
    exact .bind (isUnreported_sayUnless _ _) fun _ => .pure _

theorem isUnreported_sayScore (result : ScanResult) (offline : Bool) :
    IsUnreported (sayScore result offline) := by
  unfold sayScore
  cases result.score with
  | some s => exact .say _
  | none => exact .say _

theorem isUnreported_reportFindings (result : ScanResult) (p : Project) (options : Options)
    (runtime : RuntimeSettings) (verbose : Bool) :
    IsUnreported (reportFindings result p options runtime verbose) := by
  have hask : IsUnreported (if options.offline || runtime.offline then pure none
      else Estimate.ask result.diagnostics runtime true) :=
    .ite (.pure _) (Estimate.isUnreported_ask _ _ _)
  rw [reportFindings_eq]
  refine .bind hask fun _ => .bind (Sections.isOfLines_isUnreported.findings _ _) fun _ => ?_
  refine .bind (Report.isUnreported_write _ _) fun directory => ?_
  refine .bind (Sections.isOfLines_isUnreported.orFail _) fun link => ?_
  exact .bind (Sections.isOfLines_isUnreported.summary _ _) fun _ => Sections.isOfLines_isUnreported.skipped _ _

theorem isUnreported_report (result : ScanResult) (p : Project) (options : Options)
    (hasSettings : Bool) (runtime : RuntimeSettings) (verbose : Bool) :
    IsUnreported (report result p options hasSettings runtime verbose) :=
  .bind (Sections.isOfLines_isUnreported.project _ _ _) fun _ =>
    .ite (Sections.isOfLines_isUnreported.clean _ _ _) (isUnreported_reportFindings _ _ _ _ _)

end Cli

end Checkup
