import Checkup.Proofs.Footprint

/-!
# The processes of a check

Which processes a check starts, and what it makes of the way each of them ends. The lint check
starts its batches one by one until one of them fails. The dead-code check starts the same process
again while it fails and tries are left.
-/

namespace Checkup

namespace CommandResult

/-- What a process left for a check, or why the check fails. -/
def forCheck (name : String) (arguments : List String) (outcome : Outcome) :
    Except Fault CommandResult :=
  match ofOutcome arguments defaultTimeout outcome with
  | .error (.system wording) => .error (.check ⟨name, wording, false⟩)
  | .error (.timeout wording) => .error (.check ⟨name, wording, false⟩)
  | result => result

theorem forCheck_finished (name : String) (arguments : List String) (status : Option Int)
    (output errors : Content) : forCheck name arguments (.finished status output errors) =
      .ok ⟨status.getD (-1), output.lossy, errors.lossy⟩ := by
  have htime : 0 < defaultTimeout.toFloat := by decide +kernel
  unfold forCheck ofOutcome
  simp only [if_pos htime]

theorem runForCheck_apply (name : String) (tool : Tool) (arguments : List String)
    (directory : Path) (environment : Option Variables) (host : Host) :
    runForCheck name tool arguments directory environment host =
      (forCheck name arguments (host.next tool arguments),
        host.afterStart ⟨tool, arguments, directory, environment, host.tree⟩) := by
  unfold runForCheck run forCheck
  rw [Run.bind_apply, Run.attempt_apply, Run.bind_of_ok (Run.start_apply ..)]
  rcases ofOutcome arguments defaultTimeout (host.next tool arguments) with fault | result
  · cases fault <;> rfl
  · rfl

end CommandResult

namespace Host

variable {tool : Tool} {h h' : Host}

/-- The processes that are started on a host, with how they end, when no others of the tool come
between. -/
def processes (host : Host) (tool : Tool) (started : List Spawn) : List (Spawn × Outcome) :=
  (started.zipIdx (host.started tool)).map fun (spawn, n) =>
    (spawn, host.surroundings.process tool n spawn.arguments)

theorem processes_cons (host : Host) {spawn : Spawn} (htool : spawn.tool = tool)
    (rest : List Spawn) : host.processes tool (spawn :: rest) =
      (spawn, host.next tool spawn.arguments) :: (host.afterStart spawn).processes tool rest := by
  have hstarted : (host.afterStart spawn).started tool = host.started tool + 1 := by
    simp [afterStart, Tool.countOne, htool]
  simp only [processes, List.zipIdx_cons, List.map_cons, hstarted]
  rfl

theorem processes_singleton (host : Host) {spawn : Spawn} (htool : spawn.tool = tool) :
    host.processes tool [spawn] = [(spawn, host.next tool spawn.arguments)] :=
  host.processes_cons htool []

theorem getLast?_processes_singleton (host : Host) {spawn : Spawn} (htool : spawn.tool = tool) :
    (host.processes tool [spawn]).getLast? = some (spawn, host.next tool spawn.arguments) := by
  rw [host.processes_singleton htool]
  rfl

theorem processes_congr (hsame : SameTool tool h h') (started : List Spawn) :
    h.processes tool started = h'.processes tool started := by
  rw [processes, hsame.process, hsame.started, processes]

/-- The second host is the first one after these processes, with no search between them. -/
def Spawned (before after : Host) (started : List Spawn) : Prop :=
  after.deeds = before.deeds ++ started.map .spawn

theorem spawned_afterStart (host : Host) (spawn : Spawn) :
    Spawned host (host.afterStart spawn) [spawn] := by
  simp [Spawned, deeds, afterStart, record, Event.isDeed, Event.spawn?]

namespace Spawned

variable {h'' : Host} {started more : List Spawn}

theorem of_deeds_eq (hdeeds : h'.deeds = h.deeds) : Spawned h h' [] :=
  hdeeds.trans (List.append_nil _).symm

theorem of_machine_eq (hmachine : h'.machine = h.machine) : Spawned h h' [] :=
  of_deeds_eq (congrArg Machine.deeds hmachine)

theorem trans (hfirst : Spawned h h' started) (hsecond : Spawned h' h'' more) :
    Spawned h h'' (started ++ more) := by
  unfold Spawned at *
  rw [hsecond, hfirst, List.map_append, List.append_assoc]

theorem spawns_eq (hspawned : Spawned h h' started) : h'.spawns = h.spawns ++ started := by
  have hspawns : (started.map Event.spawn).filterMap (·.spawn?) = started := by
    rw [List.filterMap_map]
    exact List.filterMap_some
  rw [spawns_eq_deeds, spawns_eq_deeds, hspawned, List.filterMap_append, hspawns]

end Spawned

end Host

/-! ### The linter -/

namespace Lint

def resultOf (process : Spawn × Outcome) : Except Fault (List Diagnostic) := do
  let result ← CommandResult.forCheck toolName process.1.arguments process.2
  let report ← reportOf result
  parseReport report

theorem resultOf_finished (spawn : Spawn) (status : Option Int) (output errors : Content) :
    resultOf (spawn, .finished status output errors) =
      (reportOf ⟨status.getD (-1), output.lossy, errors.lossy⟩).bind parseReport := by
  unfold resultOf
  dsimp only
  rw [CommandResult.forCheck_finished]
  dsimp only [bind, Except.bind]

def spawnFor (base : List String) (root : Path) (environment : Option Variables) (tree : Node)
    (batch : List String) : Spawn :=
  ⟨.linter, base ++ batch, root, environment, tree⟩

theorem lintBatch_apply (arguments : List String) (root : Path) (environment : Option Variables)
    (host : Host) :
    lintBatch arguments root environment host =
      (resultOf (⟨.linter, arguments, root, environment, host.tree⟩, host.next .linter arguments),
        host.afterStart ⟨.linter, arguments, root, environment, host.tree⟩) := by
  unfold lintBatch resultOf
  rw [Run.bind_apply, CommandResult.runForCheck_apply]
  rcases CommandResult.forCheck toolName arguments (host.next .linter arguments) with fault | result
  · rfl
  dsimp only [bind, Except.bind]
  rcases reportOf result with fault | report
  · rfl
  dsimp only
  rcases parseReport report with fault | found <;> rfl

/-- What the lint check makes of processes in turn: the findings of all of them, or the first
fault. -/
def resultsOf : List (Spawn × Outcome) → Except Fault (List Diagnostic)
  | [] => .ok []
  | process :: rest => do
    let found ← resultOf process
    return found ++ (← resultsOf rest)

theorem resultsOf_cons_of_error {process : Spawn × Outcome} {fault : Fault}
    (hresult : resultOf process = .error fault) (rest : List (Spawn × Outcome)) :
    resultsOf (process :: rest) = .error fault := by
  unfold resultsOf
  rw [hresult]
  rfl

theorem resultsOf_cons_of_ok {process : Spawn × Outcome} {found : List Diagnostic}
    (hresult : resultOf process = .ok found) (rest : List (Spawn × Outcome)) :
    resultsOf (process :: rest) = (resultsOf rest).map (found ++ ·) := by
  rw [resultsOf, hresult]
  rcases resultsOf rest <;> rfl

theorem resultsOf_eq_nil {processes : List (Spawn × Outcome)}
    (hall : ∀ process ∈ processes, resultOf process = .ok []) : resultsOf processes = .ok [] := by
  induction processes with
  | nil => rfl
  | cons process rest ih =>
    obtain ⟨hprocess, hrest⟩ := List.forall_mem_cons.1 hall
    rw [resultsOf_cons_of_ok hprocess, ih hrest]
    rfl

theorem resultsOf_append_of_error {before : List (Spawn × Outcome)} {process : Spawn × Outcome}
    {fault : Fault} (hbefore : ∀ earlier ∈ before, (resultOf earlier).isOk = true)
    (hresult : resultOf process = .error fault) (after : List (Spawn × Outcome)) :
    resultsOf (before ++ process :: after) = .error fault := by
  induction before with
  | nil => exact resultsOf_cons_of_error hresult after
  | cons earlier rest ih =>
    obtain ⟨hearlier, hrest⟩ := List.forall_mem_cons.1 hbefore
    obtain ⟨found, hfound⟩ := exists_eq_ok_of_isOk hearlier
    rw [List.cons_append, resultsOf_cons_of_ok hfound, ih hrest]
    rfl

/-- How a run over planned processes went: it stopped at the first one that failed, and came to what
the processes that it started came to. -/
structure Linted (host : Host) (planned started : List Spawn)
    (result : Except Fault (List Diagnostic)) : Prop where
  prefixed : started <+: planned
  stopped : ∀ before process after,
    host.processes .linter started = before ++ process :: after →
    (resultOf process).isOk = false → after = []
  finished : (∀ process ∈ host.processes .linter started, (resultOf process).isOk = true) →
    started = planned
  result_eq : result = resultsOf (host.processes .linter started)

namespace Linted

variable {host : Host} {planned started : List Spawn} {spawn : Spawn}
  {result : Except Fault (List Diagnostic)} {fault : Fault} {found : List Diagnostic}

theorem of_processes_eq {host' : Host} (hlinted : Linted host planned started result)
    (hsame : host'.processes .linter = host.processes .linter) :
    Linted host' planned started result where
  prefixed := hlinted.prefixed
  stopped := hsame ▸ hlinted.stopped
  finished := hsame ▸ hlinted.finished
  result_eq := hsame ▸ hlinted.result_eq

theorem nil (host : Host) : Linted host [] [] (.ok []) where
  prefixed := List.prefix_rfl
  stopped := fun before _ _ hprocesses =>
    absurd hprocesses.symm (List.append_ne_nil_of_right_ne_nil before (List.cons_ne_nil _ _))
  finished := fun _ => rfl
  result_eq := rfl

theorem cons_error (htool : spawn.tool = .linter) (planned : List Spawn)
    (hspawn : resultOf (spawn, host.next .linter spawn.arguments) = .error fault) :
    Linted host (spawn :: planned) [spawn] (.error fault) := by
  have hprocesses := host.processes_singleton htool
  refine ⟨⟨planned, rfl⟩, ?_, ?_, ?_⟩ <;> rw [hprocesses]
  · intro before process after hcut _
    rcases List.cons_eq_append_iff.1 hcut with ⟨-, hhere⟩ | ⟨more, -, hthere⟩
    · exact (List.cons.inj hhere).2
    · exact absurd hthere.symm (List.append_ne_nil_of_right_ne_nil more (List.cons_ne_nil _ _))
  · intro hall
    have hok := hall _ List.mem_cons_self
    rw [hspawn] at hok
    cases hok
  · exact (resultsOf_cons_of_error hspawn []).symm

theorem cons_ok (htool : spawn.tool = .linter)
    (hspawn : resultOf (spawn, host.next .linter spawn.arguments) = .ok found)
    (hrest : Linted (host.afterStart spawn) planned started result) :
    Linted host (spawn :: planned) (spawn :: started) (result.map (found ++ ·)) := by
  have hprocesses := host.processes_cons htool started
  refine ⟨(List.prefix_cons_inj spawn).2 hrest.prefixed, ?_, ?_, ?_⟩ <;> rw [hprocesses]
  · intro before process after hcut hfailed
    rcases List.cons_eq_append_iff.1 hcut with ⟨-, hhere⟩ | ⟨more, -, hthere⟩
    · rw [(List.cons.inj hhere).1, hspawn] at hfailed
      cases hfailed
    · exact hrest.stopped more process after hthere hfailed
  · intro hall
    rw [hrest.finished fun process hmem => hall process (List.mem_cons_of_mem _ hmem)]
  · rw [resultsOf_cons_of_ok hspawn, hrest.result_eq]

/-- Before a process that failed all others succeeded, so the run has its fault. -/
theorem failed (hlinted : Linted host planned started result) :
    ∀ process ∈ host.processes .linter started, ∀ fault,
      resultOf process = .error fault → result = .error fault := by
  intro process hmem fault hresult
  obtain ⟨before, after, hcut⟩ := List.append_of_mem hmem
  rw [hlinted.result_eq, hcut]
  refine resultsOf_append_of_error (fun earlier hearlier => ?_) hresult after
  obtain ⟨first, later, hbefore⟩ := List.append_of_mem hearlier
  rw [hbefore, List.append_assoc, List.cons_append] at hcut
  by_cases hok : (resultOf earlier).isOk = true
  · exact hok
  · have hlast := hlinted.stopped first earlier _ hcut (by simpa using hok)
    exact absurd hlast (List.append_ne_nil_of_right_ne_nil later (List.cons_ne_nil _ _))

theorem nothing (hlinted : Linted host planned started result)
    (hall : ∀ process ∈ host.processes .linter started, resultOf process = .ok []) :
    result = .ok [] := by
  rw [hlinted.result_eq, resultsOf_eq_nil hall]

end Linted

theorem linted_lintBatches (base : List String) (root : Path) (environment : Option Variables)
    (batches : List (List String)) (host : Host) : ∃ started,
      Host.Spawned host (lintBatches base root environment batches host).2 started ∧
      Linted host (batches.map (spawnFor base root environment host.tree)) started
        (lintBatches base root environment batches host).1 := by
  induction batches generalizing host with
  | nil => exact ⟨[], .of_machine_eq rfl, .nil host⟩
  | cons batch rest ih =>
    let spawn := spawnFor base root environment host.tree batch
    have htool : spawn.tool = .linter := rfl
    have hbatch : lintBatch (base ++ batch) root environment host =
        (resultOf (spawn, host.next .linter spawn.arguments), host.afterStart spawn) :=
      lintBatch_apply _ _ _ _
    unfold lintBatches
    cases hresult : resultOf (spawn, host.next .linter spawn.arguments) with
    | error fault =>
      rw [hresult] at hbatch
      rw [Run.bind_of_error hbatch]
      exact ⟨[spawn], host.spawned_afterStart spawn, Linted.cons_error htool _ hresult⟩
    | ok found =>
      rw [hresult] at hbatch
      obtain ⟨started, hmore, hlinted⟩ := ih (host.afterStart spawn)
      have hspawned := (host.spawned_afterStart spawn).trans hmore
      have hcons := hlinted.cons_ok htool hresult
      rw [Run.bind_of_ok hbatch, Run.bind_apply]
      rcases hrun : lintBatches base root environment rest (host.afterStart spawn) with
        ⟨_ | _, after⟩ <;> rw [hrun] at hspawned hcons <;>
        exact ⟨spawn :: started, hspawned, hcons⟩

theorem writeConfiguration_apply (file : Path) (text : String) (host : Host) :
    writeConfiguration file text host = match host.write file (.text text) with
      | .ok after => (.ok (), after)
      | .error .nulCharacter => (.error (AccessFault.nulCharacter.toFault file), host)
      | .error fault => (.error (failure ("could not write config: " ++ fault.wording file)), host) := by
  unfold writeConfiguration Run.writeText
  rw [Run.bind_apply, Run.attempt_apply, Run.bind_apply, Run.access_apply]
  rcases host.write file (.text text) with fault | after
  · cases fault <;> rfl
  · rfl

section WithFile

variable {α : Type} {host after done : Host} {file : Path} {text : String}

/-- With its file written and removed, a step is what it is on the host with the file. -/
theorem withFile_of_write {step : Run α} (hwrite : host.write file (.text text) = .ok after)
    (hremove : (step after).2.removeFile file = .ok done) :
    withFile file text step host = ((step after).1, done) := by
  have hwritten : writeConfiguration file text host = (.ok (), after) := by
    rw [writeConfiguration_apply, hwrite]
  have hremoved : Run.removeFile file (step after).2 = (.ok (), done) := by
    unfold Run.removeFile
    rw [Run.bind_apply, Run.access_apply, hremove]
    rfl
  unfold withFile
  rw [Run.withLast_apply, Run.bind_of_ok hwritten, hremoved]

theorem snd_withFile_of_error {fault : AccessFault}
    (hwrite : host.write file (.text text) = .error fault) (step : Run α) :
    (withFile file text step host).2 = (Run.removeFile file host).2 := by
  have hwritten : ∃ fault, writeConfiguration file text host = (.error fault, host) := by
    rw [writeConfiguration_apply, hwrite]
    cases fault <;> exact ⟨_, rfl⟩
  obtain ⟨fault, hwritten⟩ := hwritten
  unfold withFile
  rw [Run.withLast_apply, Run.bind_of_error hwritten]
  split <;> rfl

variable (base : List String) (root : Path) (environment : Option Variables)
include base root environment

/-- With its configuration written, the linter runs over the batches, and what comes of them is what
comes of the whole. -/
theorem linted_withFile (hends : file.EndsIn (configurationName host.processId))
    (hwrite : host.write file (.text text) = .ok after) (batches : List (List String)) :
    ∃ started,
      Host.Spawned host (withFile file text (lintBatches base root environment batches) host).2
        started ∧
      Linted host (batches.map (spawnFor base root environment after.tree)) started
        (withFile file text (lintBatches base root environment batches) host).1 := by
  obtain ⟨tree, hafter, -⟩ := Host.write_eq_ok hends hwrite
  obtain ⟨started, hspawned, hlinted⟩ := linted_lintBatches base root environment batches after
  have hsurface := (isWork_lintBatches Run.ofSurface_sameSurface base root environment batches).surface after
  obtain ⟨gone, hgone⟩ := Host.exists_removeFile_eq_ok hends hwrite hsurface
  rw [withFile_of_write hwrite hgone]
  refine ⟨started, ?_, hlinted.of_processes_eq ?_⟩
  · rw [hafter] at hspawned ⊢
    exact hspawned
  · rw [hafter]
    rfl

theorem withFile_of_error {fault : AccessFault}
    (hends : file.EndsIn (configurationName host.processId))
    (hwrite : host.write file (.text text) = .error fault) (batches : List (List String)) :
    (withFile file text (lintBatches base root environment batches) host).2.deeds = host.deeds := by
  rw [snd_withFile_of_error hwrite]
  unfold Run.removeFile
  rw [Run.bind_apply, Run.access_apply]
  cases hremove : host.removeFile file with
  | error fault => rfl
  | ok gone =>
    obtain ⟨tree, rfl, -⟩ := Host.removeFile_eq_ok hends hremove
    rfl

end WithFile

/-- The processes that the lint check is to start with a command. -/
def planned (command : Command) (context : CheckContext) (host : Host) (tree : Node) : List Spawn :=
  let base := baseArguments command (configurationFile host) context.project.typeScript
  (batchesOf base context.paths).map
    (spawnFor base context.root (command.environment? host.environment) tree)

section Check

variable {fixed : Option (List String)} {context : CheckContext} {host after : Host}
  {command : Command}

theorem check_of_paths_eq_nil (hpaths : context.paths = some []) (host : Host) :
    check fixed context host = (.ok [], host) := by
  unfold check
  rw [if_pos (by rw [hpaths]; rfl)]
  rfl

/-- The lint check with a command for it, on the host that it then finds. -/
def checkWith (command : Command) (context : CheckContext) (host : Host) : Run (List Diagnostic) :=
  let base := baseArguments command (configurationFile host) context.project.typeScript
  withFile (configurationFile host) (factsOf context).configuration.pretty
    (lintBatches base context.root (command.environment? host.environment)
      (batchesOf base context.paths))

theorem configurationFile_congr {host' : Host} (hsurface : host.surface = host'.surface) :
    configurationFile host = configurationFile host' := by
  have htemporary : host.temporary = host'.temporary := congrArg Surface.temporary hsurface
  have hprocess : host.processId = host'.processId := congrArg Surface.processId hsurface
  rw [configurationFile, htemporary, hprocess, configurationFile]

theorem checkWith_congr {host' : Host} (hsurface : host.surface = host'.surface) :
    checkWith command context host = checkWith command context host' := by
  unfold checkWith
  rw [configurationFile_congr hsurface, Host.environment_eq_of_surface_eq hsurface]

theorem check_apply (fixed : Option (List String)) (hpaths : context.paths ≠ some []) (host : Host) :
    ∃ mid, mid.machine = host.machine ∧
      check fixed context host = match (resolveCommand fixed context host).1 with
        | .error fault => (.error fault, mid)
        | .ok command => checkWith command context host mid := by
  have hmachine : (resolveCommand fixed context host).2.machine = host.machine :=
    (isQuestion_resolveCommand fixed context).quiet host
  have hcheck : check fixed context = (do
      let command ← resolveCommand fixed context
      checkWith command context (← get)) := by
    unfold check
    exact if_neg (by simpa using hpaths)
  refine ⟨(resolveCommand fixed context host).2, hmachine, ?_⟩
  rw [hcheck, Run.bind_apply]
  rcases hrun : resolveCommand fixed context host with ⟨fault | command, mid⟩
  · rfl
  · rw [hrun] at hmachine
    dsimp only
    rw [Run.get_bind, checkWith_congr (Host.surface_eq_of_machine_eq hmachine)]

/-- When the command is found and the configuration can be written, the check is a run over the
processes that are planned. -/
theorem linted_check_of_write (hpaths : context.paths ≠ some [])
    (hcommand : (resolveCommand fixed context host).1 = .ok command)
    (hwrite : host.write (configurationFile host)
      (.text (factsOf context).configuration.pretty) = .ok after) :
    ∃ started, Host.Spawned host (check fixed context host).2 started ∧
      Linted host (planned command context host after.tree) started
        (check fixed context host).1 := by
  obtain ⟨mid, hmachine, hcheck⟩ := check_apply fixed hpaths host
  have hsurface := Host.surface_eq_of_machine_eq hmachine
  have hprocess : mid.processId = host.processId := congrArg Surface.processId hsurface
  rw [hcommand] at hcheck
  rcases Host.isEdit_write (configurationFile host)
    (.text (factsOf context).configuration.pretty) hsurface with
    ⟨fault, -, herror⟩ | ⟨tree, hmid, hhost⟩
  · cases hwrite.symm.trans herror
  · cases hwrite.symm.trans hhost
    obtain ⟨started, hspawned, hlinted⟩ := linted_withFile
      (baseArguments command (configurationFile host) context.project.typeScript) context.root
      (command.environment? host.environment) (hprocess ▸ endsIn_configurationFile host) hmid
      (batchesOf _ context.paths)
    rw [hcheck]
    refine ⟨started, (Host.Spawned.of_machine_eq hmachine).trans hspawned, ?_⟩
    exact hlinted.of_processes_eq (funext (Host.processes_congr (.of_machine_eq hmachine.symm)))

theorem linted_check_of_sameTool {mid : Host} (hsurface : mid.surface = host.surface)
    (hsame : mid.SameTool .linter host) (hpaths : context.paths ≠ some [])
    (hcommand : (resolveCommand fixed context host).1 = .ok command)
    (hwrite : host.write (configurationFile host)
      (.text (factsOf context).configuration.pretty) = .ok after) :
    ∃ started tree, Host.Spawned mid (check fixed context mid).2 started ∧
      Linted host (planned command context host tree) started (check fixed context mid).1 := by
  have hfile := configurationFile_congr hsurface
  have hcommand' : (resolveCommand fixed context mid).1 = .ok command :=
    ((isQuestion_resolveCommand fixed context).reads hsurface).trans hcommand
  rcases Host.isEdit_write (configurationFile host)
    (.text (factsOf context).configuration.pretty) hsurface with
    ⟨fault, -, herror⟩ | ⟨tree, hmid, -⟩
  · cases hwrite.symm.trans herror
  · rw [← hfile] at hmid
    obtain ⟨started, hspawned, hlinted⟩ := linted_check_of_write hpaths hcommand' hmid
    have hplanned : planned command context mid tree = planned command context host tree := by
      unfold planned
      rw [hfile, Host.environment_eq_of_surface_eq hsurface]
    rw [hplanned] at hlinted
    exact ⟨started, tree, hspawned,
      hlinted.of_processes_eq (funext (Host.processes_congr hsame)).symm⟩

/-- The planned processes get the paths of the check, in their order. -/
theorem flatMap_drop_planned (command : Command) (context : CheckContext) (host : Host)
    (tree : Node) {paths : List String} (hpaths : context.paths = some paths) :
    let base := baseArguments command (configurationFile host) context.project.typeScript
    (∀ spawn ∈ planned command context host tree, base <+: spawn.arguments) ∧
      (planned command context host tree).flatMap (·.arguments.drop base.length) = paths := by
  intro base
  constructor
  · intro spawn hmem
    obtain ⟨batch, -, rfl⟩ := List.mem_map.1 hmem
    exact List.prefix_append base batch
  · have hdrop (batch : List String) : (base ++ batch).drop base.length = batch :=
      List.drop_left
    unfold planned
    rw [List.flatMap_map]
    simp only [spawnFor]
    change (batchesOf base context.paths).flatMap (fun batch => (base ++ batch).drop base.length) = _
    simp only [hdrop]
    rw [List.flatMap_id', hpaths]
    exact Batch.flatten_ofPaths base _ paths

theorem tool_of_mem_planned {tree : Node} {spawn : Spawn}
    (hmem : spawn ∈ planned command context host tree) : spawn.tool = .linter := by
  obtain ⟨batch, -, rfl⟩ := List.mem_map.1 hmem
  rfl

/-- The processes are the linter's and, when none of them fails, give it the paths in their
order. -/
structure Delivers (host : Host) (base paths : List String) (started : List Spawn) : Prop where
  tools : ∀ spawn ∈ started, spawn.tool = .linter
  idle : paths = [] → started = []
  complete : (∀ process ∈ host.processes .linter started, (resultOf process).isOk = true) →
    (∀ spawn ∈ started, base <+: spawn.arguments) ∧
      started.flatMap (·.arguments.drop base.length) = paths

theorem delivers_check {mid : Host} {paths : List String} (hsurface : mid.surface = host.surface)
    (hsame : mid.SameTool .linter host) (hpaths : context.paths = some paths)
    (hcommand : (resolveCommand fixed context host).1 = .ok command)
    (hwrite : host.write (configurationFile host)
      (.text (factsOf context).configuration.pretty) = .ok after) :
    ∃ started, Host.Spawned mid (check fixed context mid).2 started ∧
      Delivers host (baseArguments command (configurationFile host) context.project.typeScript)
        paths started := by
  by_cases hempty : paths = []
  · rw [check_of_paths_eq_nil (hempty ▸ hpaths)]
    refine ⟨[], .of_machine_eq rfl, List.forall_mem_nil _, fun _ => rfl, fun _ => ?_⟩
    exact ⟨List.forall_mem_nil _, hempty.symm⟩
  have hsome : context.paths ≠ some [] := by
    rw [hpaths]
    exact fun hnil => hempty (Option.some.inj hnil)
  obtain ⟨started, tree, hspawned, hlinted⟩ :=
    linted_check_of_sameTool hsurface hsame hsome hcommand hwrite
  refine ⟨started, hspawned, fun spawn hmem => ?_, fun hnil => absurd hnil hempty, fun hall => ?_⟩
  · exact tool_of_mem_planned (hlinted.prefixed.subset hmem)
  · rw [hlinted.finished hall]
    exact flatMap_drop_planned command context host tree hpaths

/-- Without a list of paths there is one process, for the whole project. -/
theorem spawned_check_of_whole {mid : Host} (hsurface : mid.surface = host.surface)
    (hsame : mid.SameTool .linter host) (hpaths : context.paths = none)
    (hcommand : (resolveCommand fixed context host).1 = .ok command)
    (hwrite : host.write (configurationFile host)
      (.text (factsOf context).configuration.pretty) = .ok after) :
    ∃ spawn, Host.Spawned mid (check fixed context mid).2 [spawn] ∧ spawn.tool = .linter ∧
      spawn.arguments =
        baseArguments command (configurationFile host) context.project.typeScript ++ ["."] := by
  have hsome : context.paths ≠ some [] := by
    rw [hpaths]
    nofun
  obtain ⟨started, tree, hspawned, hlinted⟩ :=
    linted_check_of_sameTool hsurface hsame hsome hcommand hwrite
  have hplanned : planned command context host tree =
      [spawnFor (baseArguments command (configurationFile host) context.project.typeScript)
        context.root (command.environment? host.environment) tree ["."]] := by
    unfold planned
    rw [hpaths]
    rfl
  have hwhole : started = planned command context host tree := by
    cases hstarted : started with
    | nil =>
      refine hstarted ▸ hlinted.finished ?_
      rw [hstarted]
      exact List.forall_mem_nil _
    | cons spawn rest =>
      have hprefix := hlinted.prefixed
      rw [hstarted, hplanned] at hprefix
      obtain ⟨hspawn, hrest⟩ := List.cons_prefix_cons.1 hprefix
      rw [hplanned, hspawn, List.prefix_nil.1 hrest]
  rw [hwhole, hplanned] at hspawned
  exact ⟨_, hspawned, rfl, rfl⟩

/-- The lint check starts no process, or it is a run over planned processes. -/
theorem linted_check (fixed : Option (List String)) (context : CheckContext) (host : Host) :
    ∃ started, Host.Spawned host (check fixed context host).2 started ∧
      (started = [] ∨ ∃ planned, Linted host planned started (check fixed context host).1) := by
  by_cases hpaths : context.paths = some []
  · rw [check_of_paths_eq_nil hpaths]
    exact ⟨[], .of_machine_eq rfl, .inl rfl⟩
  obtain ⟨mid, hmachine, hcheck⟩ := check_apply fixed hpaths host
  have hmid := Host.Spawned.of_machine_eq hmachine
  cases hcommand : (resolveCommand fixed context host).1 with
  | error fault =>
    rw [hcommand] at hcheck
    rw [hcheck]
    exact ⟨[], hmid, .inl rfl⟩
  | ok command =>
    cases hwrite : host.write (configurationFile host)
        (.text (factsOf context).configuration.pretty) with
    | ok after =>
      obtain ⟨started, hspawned, hlinted⟩ := linted_check_of_write hpaths hcommand hwrite
      exact ⟨started, hspawned, .inr ⟨_, hlinted⟩⟩
    | error fault =>
      have hsurface := Host.surface_eq_of_machine_eq hmachine
      have hprocess : mid.processId = host.processId := congrArg Surface.processId hsurface
      rw [hcommand] at hcheck
      rw [hcheck]
      rcases Host.isEdit_write (configurationFile host)
        (.text (factsOf context).configuration.pretty) hsurface with
        ⟨fault, herror, -⟩ | ⟨tree, -, hhost⟩
      · refine ⟨[], hmid.trans (.of_deeds_eq ?_), .inl rfl⟩
        exact withFile_of_error _ _ _ (hprocess ▸ endsIn_configurationFile host) herror _
      · cases hwrite.symm.trans hhost

end Check

end Lint

/-! ### The dead-code tool -/

namespace DeadCode

def resultOf (process : Spawn × Outcome) : Except Fault (List Diagnostic) := do
  let result ← CommandResult.forCheck toolName process.1.arguments process.2
  if Text.strip result.output == "" && result.status != 0 then
    throw (.check ⟨toolName, silentDetail result, false⟩)
  parseReport result.output

theorem runOnce_apply (arguments : List String) (root : Path) (host : Host) :
    runOnce arguments root host =
      (resultOf (⟨.deadCode, arguments, root, none, host.tree⟩, host.next .deadCode arguments),
        host.afterStart ⟨.deadCode, arguments, root, none, host.tree⟩) := by
  unfold runOnce resultOf
  rw [Run.bind_apply, CommandResult.runForCheck_apply]
  rcases CommandResult.forCheck toolName arguments (host.next .deadCode arguments) with
    fault | result
  · rfl
  dsimp only [bind, Except.bind]
  split
  · rfl
  · rcases parseReport result.output with fault | found <;> rfl

/-- Whatever the policy, what the last try came to is what all of them came to. -/
theorem retryFrom_apply (policy : RetryPolicy) (arguments : List String) (root : Path)
    (tried left : Nat) (host : Host) : ∃ started process,
      Host.Spawned host
        (policy.retryFrom Run.wait (runOnce arguments root) tried left host).2 started ∧
      (∀ spawn ∈ started, spawn.tool = .deadCode) ∧
      (host.processes .deadCode started).getLast? = some process ∧
      (policy.retryFrom Run.wait (runOnce arguments root) tried left host).1 = resultOf process := by
  induction left generalizing tried host with
  | zero =>
    let spawn : Spawn := ⟨.deadCode, arguments, root, none, host.tree⟩
    have htool : spawn.tool = .deadCode := rfl
    have hlast := host.getLast?_processes_singleton htool
    unfold RetryPolicy.retryFrom
    rw [runOnce_apply]
    exact ⟨[spawn], _, host.spawned_afterStart spawn, by simp [htool], hlast, rfl⟩
  | succ left ih =>
    let spawn : Spawn := ⟨.deadCode, arguments, root, none, host.tree⟩
    have htool : spawn.tool = .deadCode := rfl
    have hspawned := host.spawned_afterStart spawn
    have hlast := host.getLast?_processes_singleton htool
    rw [RetryPolicy.retryFrom_succ, Run.bind_apply, Run.attempt_apply, runOnce_apply]
    dsimp only
    cases hresult : resultOf (spawn, host.next .deadCode arguments) with
    | ok found => exact ⟨[spawn], _, hspawned, by simp [htool], hlast, hresult.symm⟩
    | error fault =>
      dsimp only
      split
      · let waited := (host.afterStart spawn).record (.wait (policy.delay (tried + 1)))
        have hmachine : waited.machine = (host.afterStart spawn).machine :=
          Host.machine_record rfl _
        obtain ⟨started, process, hmore, htools, hprocess, hcomes⟩ := ih (tried + 1) waited
        refine ⟨spawn :: started, process, ?_, List.forall_mem_cons.2 ⟨htool, htools⟩, ?_, hcomes⟩
        · exact (hspawned.trans (.of_machine_eq hmachine)).trans hmore
        · rw [host.processes_cons htool, ← Host.processes_congr (.of_machine_eq hmachine),
            List.getLast?_cons, hprocess]
          rfl
      · exact ⟨[spawn], _, hspawned, by simp [htool], hlast, hresult.symm⟩

/-- The dead-code check starts no process, or it comes to what the last one came to. -/
theorem check_apply (fixed : Option (List String)) (patience : Patience) (context : CheckContext)
    (host : Host) : ∃ started,
      Host.Spawned host (check fixed patience context host).2 started ∧
      (∀ spawn ∈ started, spawn.tool = .deadCode) ∧
      ∀ process ∈ (host.processes .deadCode started).getLast?,
        (check fixed patience context host).1 = resultOf process := by
  have hmachine : (commandFor fixed context host).2.machine = host.machine :=
    (isQuestion_commandFor fixed context).quiet host
  have hnone : (host.processes .deadCode []).getLast? = none := rfl
  unfold check
  rw [Run.bind_apply]
  rcases hrun : commandFor fixed context host with ⟨fault | command, mid⟩ <;>
    rw [hrun] at hmachine <;> have hmid := Host.Spawned.of_machine_eq hmachine
  · exact ⟨[], hmid, List.forall_mem_nil _, by simp [hnone]⟩
  cases command with
  | none => exact ⟨[], hmid, List.forall_mem_nil _, by simp [hnone]⟩
  | some words =>
    dsimp only [RetryPolicy.retry]
    split
    · exact ⟨[], hmid, List.forall_mem_nil _, by simp [hnone]⟩
    · obtain ⟨started, process, hmore, htools, hlast, hcomes⟩ := retryFrom_apply patience.policy
        (words ++ reportArguments) context.root 0 (patience.policy.attempts.toNat - 1) mid
      rw [Host.processes_congr (.of_machine_eq hmachine)] at hlast
      refine ⟨started, hmid.trans hmore, htools, fun other hother => ?_⟩
      rw [hlast] at hother
      exact Option.some.inj hother ▸ hcomes

end DeadCode

end Checkup
