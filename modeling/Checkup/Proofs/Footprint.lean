import Checkup.Proofs.Files
import Checkup.Proofs.Questions

/-!
# What a check touches

A check works with the processes of one tool. What it comes to depends on what it asks the host and
on that tool's processes, and it leaves the other tool's processes as they were. The dead-code check
changes no file; the lint check changes its configuration file and nothing else, and no other step
of a scan looks at a file of that name.
-/

namespace Checkup

open Run (Keeps Respects IsQuestion IsLocal OfMachine)

/-! ### The configuration file -/

namespace Lint

theorem toList_configurationName (processId : Nat) : (configurationName processId).toList =
    "react-doctor-oxlintrc-".toList ++ (toString processId).toList ++ ".json".toList :=
  (String.toList_append ..).trans (congrArg (· ++ ".json".toList) (String.toList_append ..))

theorem slash_notMem_configurationName (processId : Nat) :
    '/' ∉ (configurationName processId).toList := by
  have hstart : '/' ∉ "react-doctor-oxlintrc-".toList := by decide
  have hend : '/' ∉ ".json".toList := by decide
  have hdigits : '/' ∉ (toString processId).toList := by
    rw [Nat.toString_eq_repr, Nat.toList_repr]
    intro hmem
    exact absurd (Nat.isDigit_of_mem_toDigits (by decide) (by decide) hmem) (by decide)
  rw [toList_configurationName, List.mem_append, List.mem_append]
  exact fun hmem => hmem.elim (fun hmem => hmem.elim hstart hdigits) hend

theorem configurationName_ne {processId : Nat} {s : String}
    (hhead : s.toList.head? ≠ some 'r') : configurationName processId ≠ s := by
  have hletter : "react-doctor-oxlintrc-".toList.head? = some 'r' := by decide
  rintro rfl
  apply hhead
  rw [toList_configurationName, List.append_assoc, List.head?_append, hletter, Option.some_or]

theorem endsIn_configurationFile (host : Host) :
    (configurationFile host).EndsIn (configurationName host.processId) :=
  Path.endsIn_div _ (slash_notMem_configurationName _) (configurationName_ne (by decide))
    (configurationName_ne (by decide)) (configurationName_ne (by decide))

end Lint

/-! ### Hosts before and after a check -/

namespace Host

/-- The next processes of a tool are the same on both hosts. -/
structure SameTool (tool : Tool) (h h' : Host) : Prop where
  process : h.surroundings.process tool = h'.surroundings.process tool
  started : h.started tool = h'.started tool
  waited : h.waited tool = h'.waited tool

/-- The second host is the first one after work that is done with a tool: the processes of the
other one are where they were, and files differ at most in the linter's configuration. -/
structure Spares (tool : Tool) (before after : Host) : Prop where
  surroundings : after.surroundings = before.surroundings
  clock : after.clock = before.clock
  started : ∀ other ≠ tool, after.started other = before.started other
  waited : ∀ other ≠ tool, after.waited other = before.waited other
  files : SameFilesBut (Lint.configurationName before.processId) before after

variable {tool other : Tool} {h h' h'' k k' : Host}

namespace SameTool

theorem of_machine_eq (hmachine : h.machine = h'.machine) : SameTool tool h h' where
  process := congrArg (·.process tool) hmachine
  started := congrArg (·.started tool) hmachine
  waited := congrArg (·.waited tool) hmachine

theorem symm (hsame : SameTool tool h h') : SameTool tool h' h :=
  ⟨hsame.process.symm, hsame.started.symm, hsame.waited.symm⟩

theorem trans (hfirst : SameTool tool h h') (hsecond : SameTool tool h' h'') :
    SameTool tool h h'' where
  process := hfirst.process.trans hsecond.process
  started := hfirst.started.trans hsecond.started
  waited := hfirst.waited.trans hsecond.waited

end SameTool

theorem processId_eq_of_files (hsame : SameFilesBut name h h') : h.processId = h'.processId :=
  congrArg Surface.processId hsame.rest

theorem surroundings_eq_of_machine_eq (hmachine : h.machine = h'.machine) :
    h.surroundings = h'.surroundings := by
  have hsurface := surface_eq_of_machine_eq hmachine
  have hprocess : h.surroundings.process = h'.surroundings.process :=
    congrArg Machine.process hmachine
  have hscore : h.surroundings.score = h'.surroundings.score := congrArg Machine.score hmachine
  have hgit := git_eq_of_surface_eq hsurface
  have hnode := nodeVersion_eq_of_surface_eq hsurface
  have hprogram := program_eq_of_surface_eq hsurface
  have hrefusal : h.surroundings.refusal = h'.surroundings.refusal :=
    congrArg Machine.refusal hmachine
  have haccount := accountHome_eq_of_surface_eq hsurface
  have hconsole := console_eq_of_surface_eq hsurface
  cases hh : h.surroundings
  cases hh' : h'.surroundings
  simp_all

namespace Spares

theorem of_machine_eq (hmachine : h'.machine = h.machine) : Spares tool h h' where
  surroundings := surroundings_eq_of_machine_eq hmachine
  clock := congrArg Machine.clock hmachine
  started := fun other _ => congrArg (·.started other) hmachine
  waited := fun other _ => congrArg (·.waited other) hmachine
  files := .of_surface_eq (surface_eq_of_machine_eq hmachine).symm

theorem trans (hfirst : Spares tool h h') (hsecond : Spares tool h' h'') : Spares tool h h'' where
  surroundings := hsecond.surroundings.trans hfirst.surroundings
  clock := hsecond.clock.trans hfirst.clock
  started := fun other hother =>
    (hsecond.started other hother).trans (hfirst.started other hother)
  waited := fun other hother => (hsecond.waited other hother).trans (hfirst.waited other hother)
  files := hfirst.files.trans (processId_eq_of_files hfirst.files ▸ hsecond.files)

theorem sameTool (hspares : Spares tool h h') (hother : other ≠ tool) : SameTool other h h' where
  process := by rw [hspares.surroundings]
  started := (hspares.started other hother).symm
  waited := (hspares.waited other hother).symm

end Spares

end Host

/-! ### Processes -/

namespace Host

def next (host : Host) (tool : Tool) (arguments : List String) : Outcome :=
  host.surroundings.process tool (host.started tool) arguments

def afterStart (host : Host) (spawn : Spawn) : Host :=
  { host.record (.spawn spawn) with
    started := spawn.tool.countOne host.started
    waited := if (host.next spawn.tool spawn.arguments).isRefused then host.waited
      else spawn.tool.countOne host.waited }

variable {tool other : Tool} {h h' : Host}

theorem next_eq (hsame : SameTool tool h h') (arguments : List String) :
    h.next tool arguments = h'.next tool arguments := by
  rw [next, hsame.process, hsame.started, next]

theorem started_afterStart_of_ne {spawn : Spawn} (hother : other ≠ spawn.tool) :
    (h.afterStart spawn).started other = h.started other :=
  if_neg hother

theorem waited_afterStart_of_ne {spawn : Spawn} (hother : other ≠ spawn.tool) :
    (h.afterStart spawn).waited other = h.waited other := by
  unfold afterStart
  dsimp only
  split
  · rfl
  · exact if_neg hother

theorem SameTool.afterStart {spawn spawn' : Spawn} (hsame : SameTool tool h h')
    (htool : spawn.tool = tool) (htool' : spawn'.tool = tool)
    (harguments : spawn'.arguments = spawn.arguments) :
    SameTool tool (h.afterStart spawn) (h'.afterStart spawn') := by
  refine ⟨hsame.process, ?_, ?_⟩
  · simp [Host.afterStart, Tool.countOne, htool, htool', hsame.started]
  · simp only [Host.afterStart, htool, htool', harguments, next_eq hsame]
    split
    · exact hsame.waited
    · simp [Tool.countOne, hsame.waited]

theorem spares_afterStart (host : Host) (spawn : Spawn) :
    Spares spawn.tool host (host.afterStart spawn) where
  surroundings := rfl
  clock := rfl
  started := fun _ hother => started_afterStart_of_ne hother
  waited := fun _ hother => waited_afterStart_of_ne hother
  files := .of_surface_eq rfl

end Host

namespace Run

variable {α : Type} {tool : Tool} {S : Host → Host → Prop} {step : Run α}

theorem start_apply (tool : Tool) (arguments : List String) (directory : Path)
    (environment : Option Variables) (host : Host) :
    start tool arguments directory environment host = (.ok (host.next tool arguments),
      host.afterStart ⟨tool, arguments, directory, environment, host.tree⟩) := rfl

theorem spares_start (tool : Tool) (arguments : List String) (directory : Path)
    (environment : Option Variables) :
    Keeps (Host.Spares tool) (start tool arguments directory environment) :=
  fun host => host.spares_afterStart ⟨tool, arguments, directory, environment, host.tree⟩

/-- A relation between hosts that looks at their surfaces only. -/
def OfSurface (S : Host → Host → Prop) : Prop :=
  ∀ {h h' k k' : Host}, S h h' → k.surface = h.surface → k'.surface = h'.surface → S k k'

/-- Hosts with something of their surfaces in common, and the next processes of a tool. -/
abbrev Alike (S : Host → Host → Prop) (tool : Tool) (h h' : Host) : Prop :=
  S h h' ∧ h.SameTool tool h'

theorem ofMachine_alike (hsurface : OfSurface S) : OfMachine (Alike S tool) := by
  rintro h h' k k' ⟨hrelated, hsame⟩ hk hk'
  exact ⟨hsurface hrelated (Host.surface_eq_of_machine_eq hk) (Host.surface_eq_of_machine_eq hk'),
    (Host.SameTool.of_machine_eq hk).trans (hsame.trans (.of_machine_eq hk'.symm))⟩

theorem respects_start (hsurface : OfSurface S) (arguments : List String) (directory : Path)
    (environment : Option Variables) :
    Respects (Alike S tool) (start tool arguments directory environment) := by
  rintro h h' ⟨hrelated, hsame⟩
  rw [start_apply, start_apply, Host.next_eq hsame]
  exact ⟨rfl, hsurface hrelated rfl rfl, Host.SameTool.afterStart hsame rfl rfl rfl⟩

/-! ### Work with one tool -/

/-- A step that changes nothing but the processes of a tool, and comes to the same on hosts that
have these in common and are related. It sends nothing over the network. -/
structure IsWork (S : Host → Host → Prop) (tool : Tool) (step : Run α) : Prop where
  surface : Keeps (fun before after => after.surface = before.surface) step
  spares : Keeps (Host.Spares tool) step
  respects : Respects (Alike S tool) step
  isLocal : IsLocal step

namespace IsWork

variable {β : Type} {next : α → Run β}

theorem start (hsurface : OfSurface S) (arguments : List String) (directory : Path)
    (environment : Option Variables) : IsWork S tool (start tool arguments directory environment) :=
  ⟨fun _ => rfl, spares_start _ _ _ _, respects_start hsurface _ _ _,
    fun _ => ⟨[.spawn _], rfl, by simp [Event.isLocal, Event.isTraffic]⟩⟩

/-- A question is work with any tool if related hosts give the same answer. -/
theorem of_isQuestion (hsurface : OfSurface S) (hstep : IsQuestion step)
    (hreads : ∀ {h h'}, S h h' → (step h).1 = (step h').1) : IsWork S tool step :=
  ⟨hstep.surface_eq, fun host => .of_machine_eq (hstep.quiet host),
    hstep.respects_of_reads (fun hrelated => hreads hrelated.1) (ofMachine_alike hsurface),
    hstep.isLocal⟩

theorem pure (a : α) : IsWork S tool (Pure.pure a) :=
  ⟨fun _ => rfl, fun _ => .of_machine_eq rfl, .pure a, .pure a⟩

theorem throw (fault : Fault) : IsWork S tool (MonadExcept.throw fault : Run α) :=
  ⟨fun _ => rfl, fun _ => .of_machine_eq rfl, .throw fault, .throw fault⟩

theorem wait (hsurface : OfSurface S) (seconds : Number) : IsWork S tool (wait seconds) where
  surface := fun _ => rfl
  spares := fun host => .of_machine_eq (Host.machine_record rfl host)
  respects := fun h h' hrelated => ⟨rfl, ofMachine_alike hsurface hrelated
    (Host.machine_record rfl h) (Host.machine_record rfl h')⟩
  isLocal := .record rfl

theorem bind (hstep : IsWork S tool step) (hnext : ∀ a, IsWork S tool (next a)) :
    IsWork S tool (step >>= next) where
  surface := .bind (fun hfirst hsecond => hsecond.trans hfirst) hstep.surface
    fun a => (hnext a).surface
  spares := .bind .trans hstep.spares fun a => (hnext a).spares
  respects := .bind hstep.respects fun a => (hnext a).respects
  isLocal := .bind hstep.isLocal fun a => (hnext a).isLocal

theorem attempt (hstep : IsWork S tool step) : IsWork S tool (attempt step) :=
  ⟨hstep.surface, hstep.spares, hstep.respects.attempt, hstep.isLocal.attempt⟩

theorem ite {c : Prop} [Decidable c] {yes no : Run α} (hyes : IsWork S tool yes)
    (hno : IsWork S tool no) : IsWork S tool (if c then yes else no) := by
  split
  · exact hyes
  · exact hno

end IsWork

end Run

open Run (IsWork OfSurface)

/-- One more try: after a failure that is worth it there is a wait, and the other tries. -/
theorem RetryPolicy.retryFrom_succ {α : Type} (policy : RetryPolicy) (wait : Number → Run Unit)
    (step : Run α) (tried left : Nat) : policy.retryFrom wait step tried (left + 1) = (do
      match ← Run.attempt step with
      | .ok a => return a
      | .error fault =>
        if policy.retries fault then
          wait (policy.delay (tried + 1))
          policy.retryFrom wait step (tried + 1) left
        else throw fault) := by
  funext host
  simp only [retryFrom, Run.bind_apply, Run.attempt_apply]
  rcases step host with ⟨fault | a, after⟩
  · dsimp only
    split <;> simp [Run.bind_apply]
  · rfl

section Work

variable {tool : Tool} {S : Host → Host → Prop} (hsurface : OfSurface S)
include hsurface

namespace CommandResult

theorem isWork_run (tool : Tool) (arguments : List String) (directory : Path) (timeout : Number)
    (environment : Option Variables) :
    IsWork S tool (run tool arguments directory timeout environment) := by
  refine .bind (.start hsurface _ _ _) fun outcome => ?_
  cases ofOutcome arguments timeout outcome with
  | ok result => exact .pure _
  | error fault => exact .throw _

theorem isWork_runForCheck (name : String) (tool : Tool) (arguments : List String)
    (directory : Path) (environment : Option Variables) :
    IsWork S tool (runForCheck name tool arguments directory environment) := by
  refine .bind (.attempt (isWork_run hsurface _ _ _ _ _)) fun result => ?_
  split
  · exact .pure _
  · exact .throw _
  · exact .throw _
  · exact .throw _

end CommandResult

namespace Lint

theorem isWork_lintBatch (arguments : List String) (root : Path)
    (environment : Option Variables) :
    IsWork S .linter (lintBatch arguments root environment) := by
  refine .bind (CommandResult.isWork_runForCheck hsurface _ _ _ _ _) fun result => ?_
  cases reportOf result with
  | error fault => exact .throw _
  | ok report =>
    dsimp only
    cases parseReport report with
    | ok found => exact .pure _
    | error fault => exact .throw _

theorem isWork_lintBatches (base : List String) (root : Path) (environment : Option Variables)
    (batches : List (List String)) :
    IsWork S .linter (lintBatches base root environment batches) := by
  induction batches with
  | nil => exact .pure _
  | cons batch rest ih =>
    exact .bind (isWork_lintBatch hsurface _ _ _) fun _ => .bind ih fun _ => .pure _

end Lint

namespace RetryPolicy

variable {α : Type} {step : Run α}

theorem isWork_retryFrom (hstep : IsWork S tool step) (policy : RetryPolicy) (tried left : Nat) :
    IsWork S tool (policy.retryFrom Run.wait step tried left) := by
  induction left generalizing tried with
  | zero => exact hstep
  | succ left ih =>
    rw [retryFrom_succ]
    refine .bind hstep.attempt fun result => ?_
    cases result with
    | ok a => exact .pure a
    | error fault => exact .ite (.bind (.wait hsurface _) fun _ => ih _) (.throw _)

theorem isWork_retry (hstep : IsWork S tool step) (policy : RetryPolicy) :
    IsWork S tool (policy.retry Run.wait step) :=
  .ite (.throw _) (isWork_retryFrom hsurface hstep policy _ _)

end RetryPolicy

theorem DeadCode.isWork_runOnce (arguments : List String) (root : Path) :
    IsWork S .deadCode (runOnce arguments root) := by
  refine .bind (CommandResult.isWork_runForCheck hsurface _ _ _ _ _) fun result => ?_
  refine .ite (.bind (.throw _) fun _ => ?_) ?_ <;>
  · cases parseReport result.output with
    | ok found => exact .pure _
    | error fault => exact .throw _

end Work

/-! ### Looks at files of other names -/

section Files

variable {name : String}

open Host (SameFilesBut)

theorem Host.SameFilesBut.ofSurface : OfSurface (SameFilesBut name) :=
  fun hsame hk hk' => (of_surface_eq hk).trans (hsame.trans (.of_surface_eq hk'.symm))

theorem Host.SameFilesBut.ofMachine : OfMachine (SameFilesBut name) :=
  fun hsame hk hk' => ofSurface hsame (surface_eq_of_machine_eq hk) (surface_eq_of_machine_eq hk')

theorem Run.respects_isFile {p : Path} {last : String} (hends : p.EndsIn last)
    (hne : last ≠ name) : Respects (SameFilesBut name) (isFile p) :=
  (IsQuestion.isFile p).respects_of_reads (fun hsame => isFile_congr hsame hends hne) .ofMachine

theorem Manifest.read_apply (file : Path) (host : Host) :
    (read file host).1 = match host.content file with
      | .error .nulCharacter => .error (AccessFault.nulCharacter.toFault file)
      | .error _ => .ok []
      | .ok content => match content.text?.map Json.read with
        | some (.ok value) => .ok (ofJson value)
        | some (.error (.tooManyDigits count)) => .error (.shape (.tooManyDigits count))
        | _ => .ok [] := by
  unfold read Run.readText Run.content Run.access
  simp only [Run.bind_apply, Run.get_apply, Run.attempt_apply]
  rcases host.content file with fault | content
  · cases fault <;> rfl
  · dsimp only [Run.pure_apply]
    rcases content.text? with _ | text
    · rfl
    · dsimp only [Run.pure_apply, Option.map_some]
      rcases Json.read text with (_ | count) | value <;> rfl

theorem Manifest.endsIn_file (directory : Path) : (file directory).EndsIn fileName :=
  Path.endsIn_div directory (by decide) (by decide) (by decide) (by decide)

theorem Manifest.respects_readIn (directory : Path) (hne : fileName ≠ name) :
    Respects (SameFilesBut name) (readIn directory) := by
  refine (isQuestion_readIn directory).respects_of_reads (fun hsame => ?_) .ofMachine
  unfold readIn
  rw [read_apply, read_apply]
  rcases hsame.content (endsIn_file directory) hne with heq | ⟨fault, fault', ha, ha', hc, hc'⟩
  · rw [heq]
  · rw [hc, hc']
    rcases ha with rfl | rfl <;> rcases ha' with rfl | rfl <;> rfl

theorem Git.contains?_apply (directory : Path) (expression : String) (patterns : List String)
    (host : Host) :
    let arguments := ["grep", "-ql", "-E", expression, "--"] ++ patterns
    contains? directory expression patterns host =
      ((host.gitSays directory arguments).map verdict?, host.record (.git directory arguments)) := by
  unfold contains?
  rw [Run.bind_pure_apply, Run.git_apply]

theorem Git.respects_contains? (directory : Path) (expression : String) (patterns : List String) :
    Respects (SameFilesBut name) (contains? directory expression patterns) := by
  intro h h' hsame
  rw [contains?_apply, contains?_apply]
  refine ⟨?_, .ofSurface hsame rfl rfl⟩
  simp only [Host.gitSays, hsame.git]

/-- The check of reduced motion looks at the manifest and asks git. -/
theorem ReducedMotion.respects_check (root : Path) (hne : Manifest.fileName ≠ name) :
    Respects (SameFilesBut name) (check root) := by
  refine .bind (Run.respects_isFile (Manifest.endsIn_file root) hne) fun _ => ?_
  refine .ite (.pure _) (.bind (Manifest.respects_readIn root hne) fun _ => ?_)
  refine .ite (.pure _) (.bind (Git.respects_contains? _ _ _) fun _ => ?_)
  exact .ite (.pure _) (.pure _)

theorem ReducedMotion.spares_check (root : Path) (tool : Tool) :
    Keeps (Host.Spares tool) (check root) := by
  have hasked (host : Host) : host.Spares tool (Git.contains? root expression searched host).2 := by
    rw [Git.contains?_apply]
    exact ⟨rfl, rfl, fun _ _ => rfl, fun _ _ => rfl, .of_surface_eq rfl⟩
  refine .bind .trans (fun host => .of_machine_eq ((Manifest.isQuestion_isIn root).quiet host))
    fun _ => .ite (fun _ => .of_machine_eq rfl) ?_
  refine .bind .trans (fun host => .of_machine_eq ((Manifest.isQuestion_readIn root).quiet host))
    fun _ => .ite (fun _ => .of_machine_eq rfl) ?_
  exact .bind .trans hasked fun _ =>
    .ite (fun _ => .of_machine_eq rfl) fun _ => .of_machine_eq rfl

namespace DeadCode

theorem endsIn_installed (root : Path) : (installed root).EndsIn toolName :=
  Path.endsIn_div _ (by decide) (by decide) (by decide) (by decide)

theorem respects_resolveCommand (root : Path) (binary : Option String) (hne : toolName ≠ name) :
    Respects (SameFilesBut name) (resolveCommand root binary) := by
  unfold resolveCommand
  cases binary.filter (· != "") with
  | some given => exact .pure _
  | none =>
    refine .bind (Run.respects_isFile (endsIn_installed root) hne) fun _ => .ite (.pure _) ?_
    exact .get_bind (fun _ => .pure _) fun hsame => by rw [hsame.program]

theorem respects_commandFor (fixed : Option (List String)) (context : CheckContext)
    (hne : toolName ≠ name) : Respects (SameFilesBut name) (commandFor fixed context) := by
  cases fixed with
  | some words => exact .pure _
  | none => exact respects_resolveCommand _ _ hne

/-- The dead-code check works with its own tool only, and does not see files of another name. -/
theorem isWork_check (fixed : Option (List String)) (patience : Patience) (context : CheckContext)
    (hne : toolName ≠ name) :
    IsWork (SameFilesBut name) .deadCode (check fixed patience context) := by
  have hsurface : OfSurface (SameFilesBut name) := SameFilesBut.ofSurface
  have hreads {h h' : Host} (hsame : SameFilesBut name h h') :=
    (respects_commandFor fixed context hne h h' hsame).1
  refine .bind (.of_isQuestion hsurface (isQuestion_commandFor _ _) hreads) fun command => ?_
  cases command with
  | none => exact .throw _
  | some words => exact RetryPolicy.isWork_retry hsurface (isWork_runOnce hsurface _ _) _

end DeadCode

end Files

/-! ### The lint check -/

namespace Host

/-- A change of the files that depends on the surface alone. -/
def IsEdit (change : Host → Except AccessFault Host) : Prop :=
  ∀ {h h' : Host}, h.surface = h'.surface →
    (∃ fault, change h = .error fault ∧ change h' = .error fault) ∨
      ∃ tree, change h = .ok { h with tree } ∧ change h' = .ok { h' with tree }

theorem isEdit_write (p : Path) (content : Content) : IsEdit (·.write p content) := by
  intro h h' hsurface
  simp only [write, locate_eq_of_surface_eq hsurface, tree_eq_of_surface_eq hsurface]
  rcases h'.locate p with fault | target
  · exact .inl ⟨fault, rfl, rfl⟩
  · simp only [bind, Except.bind]
    split
    · exact .inl ⟨_, rfl, rfl⟩
    · exact .inr ⟨_, rfl, rfl⟩
    · split
      · exact .inr ⟨_, rfl, rfl⟩
      · exact .inl ⟨_, rfl, rfl⟩
      · exact .inl ⟨_, rfl, rfl⟩

theorem isEdit_removeFile (p : Path) : IsEdit (·.removeFile p) := by
  intro h h' hsurface
  have htree := tree_eq_of_surface_eq hsurface
  simp only [removeFile, locate_eq_of_surface_eq hsurface, htree]
  split
  · split
    · exact .inl ⟨_, rfl, rfl⟩
    · exact .inr ⟨_, rfl, rfl⟩
    · exact .inr ⟨h'.tree, by rw [← htree], rfl⟩
  · exact .inr ⟨h'.tree, by rw [← htree], rfl⟩
  · exact .inl ⟨_, rfl, rfl⟩

theorem Spares.of_tree {host : Host} {tool : Tool} {tree : Node}
    (hsame : Node.SameBut (Lint.configurationName host.processId) host.tree tree) :
    Spares tool host { host with tree } :=
  ⟨rfl, rfl, fun _ _ => rfl, fun _ _ => rfl, rfl, hsame⟩

end Host

namespace Run

variable {tool : Tool} {p : Path} {change : Host → Except AccessFault Host} {host : Host}

abbrev SameSurface (h h' : Host) : Prop :=
  h.surface = h'.surface

theorem ofSurface_sameSurface : OfSurface SameSurface :=
  fun hsame hk hk' => hk.trans (hsame.trans hk'.symm)

/-- A relation between hosts with the same surface that looks at their machines only, and that
the same change of the files keeps. -/
structure IsView (R : Host → Host → Prop) : Prop where
  surface : ∀ {h h'}, R h h' → h.surface = h'.surface
  ofMachine : OfMachine R
  tree : ∀ {h h'} (tree : Node), R h h' → R { h with tree } { h' with tree }

theorem isView_alike : IsView (Alike SameSurface tool) where
  surface := And.left
  ofMachine := ofMachine_alike ofSurface_sameSurface
  tree := fun tree ⟨hsurface, hsame⟩ =>
    ⟨congrArg ({ · with tree }) hsurface, hsame.process, hsame.started, hsame.waited⟩

theorem access_apply {α : Type} (p : Path) (look : Host → Except AccessFault α) (host : Host) :
    access p look host = ((look host).mapError (·.toFault p), host) := by
  unfold access
  rw [get_bind]
  cases look host <;> rfl

theorem respects_edit {R : Host → Host → Prop} (hview : IsView R) (hedit : Host.IsEdit change) :
    Respects R (do set (← access p change)) := by
  intro h h' hrelated
  rw [bind_apply, bind_apply, access_apply, access_apply]
  rcases hedit (hview.surface hrelated) with ⟨fault, herror, herror'⟩ | ⟨tree, hok, hok'⟩
  · rw [herror, herror']
    exact ⟨rfl, hrelated⟩
  · rw [hok, hok']
    exact ⟨rfl, hview.tree tree hrelated⟩

theorem records_edit {test : Event → Bool} (hedit : Host.IsEdit change) :
    Records test (do set (← access p change)) := by
  intro host
  rw [bind_apply, access_apply]
  rcases hedit (rfl : host.surface = host.surface) with ⟨fault, herror, -⟩ | ⟨tree, hok, -⟩
  · rw [herror]
    exact .of_events_eq rfl
  · rw [hok]
    exact .of_events_eq rfl

theorem spares_edit (hedit : ∀ {after}, change host = .ok after → ∃ tree,
      after = { host with tree } ∧
        Node.SameBut (Lint.configurationName host.processId) host.tree tree) :
    host.Spares tool ((do set (← access p change) : Run Unit) host).2 := by
  rw [bind_apply, access_apply]
  cases hchange : change host with
  | error fault => exact .of_machine_eq rfl
  | ok after =>
    obtain ⟨tree, rfl, hsame⟩ := hedit hchange
    exact .of_tree hsame

end Run

namespace Lint

theorem respects_writeConfiguration {R : Host → Host → Prop} (hview : Run.IsView R) (file : Path)
    (text : String) : Respects R (writeConfiguration file text) := by
  refine .bind (.attempt (Run.respects_edit hview (Host.isEdit_write file _))) fun result => ?_
  split
  · exact .pure _
  · exact .throw _
  · exact .throw _

theorem spares_writeConfiguration {host : Host} {file : Path} (text : String)
    (hends : file.EndsIn (configurationName host.processId)) :
    host.Spares .linter (writeConfiguration file text host).2 := by
  have hwrite : host.Spares .linter (Run.writeText file text host).2 :=
    Run.spares_edit fun hwritten =>
      let ⟨tree, hafter, hsame, _⟩ := Host.write_eq_ok hends hwritten
      ⟨tree, hafter, hsame⟩
  unfold writeConfiguration
  rw [Run.bind_apply, Run.attempt_apply]
  rcases (Run.writeText file text host).1 with fault | _
  · cases fault <;> exact hwrite
  · exact hwrite

theorem respects_lintBatches {R : Host → Host → Prop} {base : List String} {root : Path}
    {environment : Option Variables}
    (hbatch : ∀ arguments, Respects R (lintBatch arguments root environment))
    (batches : List (List String)) : Respects R (lintBatches base root environment batches) := by
  induction batches with
  | nil => exact .pure _
  | cons batch rest ih => exact .bind (hbatch _) fun _ => .bind ih fun _ => .pure _

/-- The lint check comes to the same in every view in which its batches do. -/
theorem respects_check_of_view {R : Host → Host → Prop} (hview : Run.IsView R)
    (hbatch : ∀ arguments root environment, Respects R (lintBatch arguments root environment))
    (fixed : Option (List String)) (context : CheckContext) :
    Respects R (check fixed context) := by
  refine .ite (.pure _) ?_
  refine .bind ((isQuestion_resolveCommand fixed context).respects hview.surface hview.ofMachine)
    fun command => ?_
  refine .get_bind (fun host => .withLast ?_ (Run.respects_edit hview (Host.isEdit_removeFile _))) ?_
  · exact .bind (respects_writeConfiguration hview _ _) fun _ =>
      respects_lintBatches (fun arguments => hbatch arguments _ _) _
  · intro h h' hrelated
    have hsurface := hview.surface hrelated
    have htemporary : h.temporary = h'.temporary := congrArg Surface.temporary hsurface
    have hprocess : h.processId = h'.processId := congrArg Surface.processId hsurface
    simp only [configurationFile, htemporary, hprocess,
      Host.environment_eq_of_surface_eq hsurface]

theorem respects_check (fixed : Option (List String)) (context : CheckContext) :
    Respects (Run.Alike Run.SameSurface .linter) (check fixed context) :=
  respects_check_of_view Run.isView_alike
    (fun _ _ _ => (isWork_lintBatch Run.ofSurface_sameSurface _ _ _).respects) fixed context

theorem spares_removeFile {host : Host} {file : Path}
    (hends : file.EndsIn (configurationName host.processId)) :
    host.Spares .linter (Run.removeFile file host).2 :=
  Run.spares_edit fun hremoved => Host.removeFile_eq_ok hends hremoved

theorem spares_withFile {α : Type} {host : Host} {file : Path} (text : String) {step : Run α}
    (hends : file.EndsIn (configurationName host.processId))
    (hstep : Keeps (Host.Spares .linter) step) :
    host.Spares .linter (withFile file text step host).2 := by
  have hwritten := spares_writeConfiguration text hends
  have hmid : host.Spares .linter ((do writeConfiguration file text; step : Run α) host).2 := by
    rw [Run.bind_apply]
    rcases hwrite : writeConfiguration file text host with ⟨_ | _, mid⟩ <;>
      rw [hwrite] at hwritten
    · exact hwritten
    · exact hwritten.trans (hstep mid)
  have hremoved := spares_removeFile (Host.processId_eq_of_files hmid.files ▸ hends)
  unfold withFile
  rw [Run.withLast_apply]
  split <;> exact hmid.trans hremoved

/-- The lint check works with its own tool only, and leaves no file changed but its
configuration. -/
theorem spares_check (fixed : Option (List String)) (context : CheckContext) :
    Keeps (Host.Spares .linter) (check fixed context) := by
  have hcommand := (isQuestion_resolveCommand fixed context).quiet
  refine .ite (fun _ => .of_machine_eq rfl)
    (.bind .trans (fun host => .of_machine_eq (hcommand host)) fun command host => ?_)
  rw [Run.get_bind]
  exact spares_withFile _ (endsIn_configurationFile host)
    (isWork_lintBatches Run.ofSurface_sameSurface _ _ _ _).spares

end Lint

end Checkup
