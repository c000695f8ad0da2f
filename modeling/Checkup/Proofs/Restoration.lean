import Checkup.Proofs.Deeds
import Checkup.Proofs.EntryPoints

/-!
# What a check-up leaves behind

The one file that a scan or a diagnosis writes is the configuration of the linter. It is written
before the first process of the linter is started and removed after the last one, in whatever way
they end, so that a place that was free before is free again, and no other entry of the tree has
moved. `Restores` is the invariant: it holds of each step of a check-up and is kept by sequences of
them.
-/

namespace Checkup

open Run (Keeps)

/-! ### Files that come and go -/

/-- A value that is set and set back leaves the entries as they were. -/
theorem Named.set_set {α : Type} {name : String} {old : α} {entries : List (String × α)}
    (hold : get? name entries = some old) (value : α) :
    set name old (set name value entries) = entries := by
  induction entries with
  | nil => cases hold
  | cons entry rest ih =>
    obtain ⟨key, first⟩ := entry
    by_cases hkey : key = name
    · subst hkey
      simp_all [get?, set]
    · simp_all [get?, set]

theorem Node.remove_put {node : Node} {names : List String} (content : Content)
    (hnames : names ≠ []) (hparent : node.look names.dropLast = some none)
    (hnew : node.look names = none) : (put (file content) node names).remove names = node := by
  induction names generalizing node with
  | nil => exact absurd rfl hnames
  | cons name rest ih =>
    cases rest with
    | nil =>
      obtain ⟨entries, rfl⟩ := eq_directory_of_look_nil hparent
      rw [look_directory_cons] at hnew
      have hnone : Named.get? name entries = none := by
        cases hget : Named.get? name entries with
        | none => rfl
        | some old =>
          rw [hget] at hnew
          cases hnew
      exact congrArg directory (Named.erase_set hnone _)
    | cons second rest =>
      rw [List.dropLast_cons_of_ne_nil (by simp)] at hparent
      obtain ⟨entries, rfl⟩ := eq_directory_of_look_cons hparent
      rw [look_directory_cons] at hparent hnew
      obtain ⟨old, hold, hbelow⟩ := Option.bind_eq_some_iff.1 hparent
      rw [hold] at hnew
      have hrest := ih (by simp) hbelow hnew
      have hput : put (file content) (directory entries) (name :: second :: rest) =
          directory (Named.set name (put (file content) old (second :: rest)) entries) := by
        rw [put, hold, Option.getD_some]
      rw [hput, remove, child?_directory, Named.get?_set_self]
      · dsimp only [Node.entries]
        rw [hrest, Named.set_set hold]
      · exact List.cons_ne_nil second rest

namespace Host

variable {host after done : Host} {p : Path} {content : Content} {last : String}

theorem content_of_write (hends : p.EndsIn last) (hwrite : host.write p content = .ok after) :
    after.content p = .ok content := by
  obtain ⟨target, -, hlocate, hthere⟩ := locate_of_write hends hwrite rfl
  rw [content_eq_bind, map_content?_node hends hlocate, hthere]
  rfl

/-- Where no file was, a file can only be written where nothing was at all. -/
theorem look_eq_none_of_write {target : List String} (hends : p.EndsIn last)
    (hfree : ∀ content, host.content p ≠ .ok content) (hlocate : host.locate p = .ok target)
    (hwrite : host.write p content = .ok after) : host.tree.look target = none := by
  cases hlook : host.tree.look target with
  | none => rfl
  | some found =>
    have hseen := map_content?_node hends hlocate
    rw [hlook] at hseen
    cases found with
    | some old =>
      apply absurd _ (hfree old)
      rw [content_eq_bind, hseen]
      rfl
    | none =>
      obtain ⟨entries, hentries⟩ := Node.exists_directory_iff.2 hlook
      unfold write at hwrite
      simp only [hlocate, bind, Except.bind, hentries] at hwrite
      cases hwrite

/-- Where no file was, removing the file that was written brings the old tree back. -/
theorem removeFile_of_write (hends : p.EndsIn last)
    (hfree : ∀ content, host.content p ≠ .ok content) (hwrite : host.write p content = .ok after)
    (hsurface : done.surface = after.surface) :
    done.removeFile p = .ok { done with tree := host.tree } := by
  obtain ⟨target, hlocate, hfound, hthere⟩ := locate_of_write hends hwrite hsurface
  have hnew := look_eq_none_of_write hends hfree hlocate hwrite
  obtain ⟨parent, rfl, hparent⟩ := locate_eq_ok hends hlocate
  have htree : done.tree = Node.put (.file content) host.tree (parent ++ [last]) := by
    rw [tree_eq_of_surface_eq hsurface]
    obtain ⟨entries, hentries⟩ := Node.exists_directory_iff.2 hparent
    have hnone : host.tree.at? (parent ++ [last]) = none := Option.map_eq_none_iff.1 hnew
    unfold write at hwrite
    simp only [hlocate, bind, Except.bind, hnone, List.dropLast_concat, hentries] at hwrite
    exact congrArg Host.tree (Except.ok.inj hwrite).symm
  rw [removeFile_of_look hfound hthere, htree,
    Node.remove_put content (by simp) (by simpa using hparent) hnew]

theorem removeFile_of_free (hends : p.EndsIn last)
    (hfree : ∀ content, host.content p ≠ .ok content) (hremove : host.removeFile p = .ok after) :
    after = host := by
  unfold removeFile at hremove
  split at hremove
  · rename_i target hlocate
    split at hremove
    · cases hremove
    · rename_i old hold
      apply absurd _ (hfree old)
      rw [content_eq_bind, map_content?_node hends hlocate, Node.look, hold]
      rfl
    · exact (Except.ok.inj hremove).symm
  · exact (Except.ok.inj hremove).symm
  · cases hremove

/-! ### Steps that restore -/

/-- No file is where the linter's configuration goes. -/
def IsFree (host : Host) : Prop :=
  ∀ content, host.content (Lint.configurationFile host) ≠ .ok content

/-- A process found a text where the linter's configuration goes. -/
def Holds (host : Host) (text : String) (spawn : Spawn) : Prop :=
  { host with tree := spawn.tree }.content (Lint.configurationFile host) = .ok (.text text)

/-- If the place of the configuration is free, the second host looks like the first one, and the
processes of the linter that were started in between found the text there. -/
def Restored (text : String) (before after : Host) : Prop :=
  before.IsFree → after.surface = before.surface ∧
    ∃ started, Event.linters after.deeds = Event.linters before.deeds ++ started ∧
      ∀ spawn ∈ started, before.Holds text spawn

variable {h h' h'' : Host} {text : String}

theorem IsFree.congr (hfree : h.IsFree) (hsurface : h'.surface = h.surface) : h'.IsFree := by
  intro content
  rw [Lint.configurationFile_congr hsurface, content_eq_of_surface_eq hsurface]
  exact hfree content

theorem Holds.congr {spawn : Spawn} (hholds : h'.Holds text spawn)
    (hsurface : h'.surface = h.surface) : h.Holds text spawn := by
  have hseen : { h' with tree := spawn.tree }.surface = { h with tree := spawn.tree }.surface :=
    congrArg ({ · with tree := spawn.tree }) hsurface
  unfold Holds at *
  rw [← content_eq_of_surface_eq hseen, ← Lint.configurationFile_congr hsurface]
  exact hholds

namespace Restored

theorem of_eq (hsurface : h'.surface = h.surface)
    (hlinters : Event.linters h'.deeds = Event.linters h.deeds) : Restored text h h' := by
  intro _
  refine ⟨hsurface, [], ?_, by simp⟩
  rw [hlinters, List.append_nil]

theorem of_machine_eq (hmachine : h'.machine = h.machine) : Restored text h h' :=
  of_eq (surface_eq_of_machine_eq hmachine)
    (congrArg (fun machine => Event.linters machine.deeds) hmachine)

theorem trans (hfirst : Restored text h h') (hsecond : Restored text h' h'') :
    Restored text h h'' := by
  intro hfree
  obtain ⟨hsurface, started, hlinters, hholds⟩ := hfirst hfree
  obtain ⟨hsurface', more, hlinters', hholds'⟩ := hsecond (hfree.congr hsurface)
  refine ⟨hsurface'.trans hsurface, started ++ more, ?_, ?_⟩
  · rw [hlinters', hlinters, List.append_assoc]
  · intro spawn hmem
    rcases List.mem_append.1 hmem with hmem | hmem
    · exact hholds spawn hmem
    · exact (hholds' spawn hmem).congr hsurface

end Restored

end Host

theorem Run.IsQuiet.restored {α : Type} {step : Run α} (hstep : Run.IsQuiet step) (text : String) :
    Keeps (Host.Restored text) step :=
  fun host => .of_machine_eq (hstep host)

namespace Lint

/-- The file is there while the linter runs over its batches, and gone when they are over. -/
theorem restored_withFile (text : String) (base : List String) (root : Path)
    (environment : Option Variables) (batches : List (List String)) (host : Host) :
    Host.Restored text host (withFile (configurationFile host) text
      (lintBatches base root environment batches) host).2 := by
  intro hfree
  have hends := endsIn_configurationFile host
  rcases hwrite : host.write (configurationFile host) (.text text) with fault | after
  · rw [snd_withFile_of_error hwrite]
    unfold Run.removeFile
    rw [Run.bind_apply, Run.access_apply]
    rcases hremove : host.removeFile (configurationFile host) with fault | gone
    · exact Host.Restored.of_machine_eq rfl hfree
    · rw [Host.removeFile_of_free hends hfree hremove]
      exact Host.Restored.of_machine_eq rfl hfree
  · have hsurface := (isWork_lintBatches Run.ofSurface_sameSurface base root environment
      batches).surface after
    obtain ⟨started, hspawned, hlinted⟩ := linted_lintBatches base root environment batches after
    rw [withFile_of_write hwrite (Host.removeFile_of_write hends hfree hwrite hsurface)]
    have hcontent := Host.content_of_write hends hwrite
    obtain ⟨tree, rfl, -⟩ := Host.write_eq_ok hends hwrite
    refine ⟨?_, started.filter (·.tool == .linter), hspawned.linters_eq, ?_⟩
    · exact congrArg (fun surface : Surface => { surface with tree := host.tree }) hsurface
    · intro spawn hmem
      have hplanned := hlinted.prefixed.subset (List.mem_filter.1 hmem).1
      obtain ⟨batch, -, rfl⟩ := List.mem_map.1 hplanned
      exact hcontent

theorem restored_check (fixed : Option (List String)) (context : CheckContext) :
    Keeps (Host.Restored (factsOf context).configuration.pretty) (check fixed context) := by
  intro host
  by_cases hpaths : context.paths = some []
  · rw [check_of_paths_eq_nil hpaths]
    exact .of_machine_eq rfl
  · obtain ⟨mid, hmachine, hcheck⟩ := check_apply fixed hpaths host
    rw [hcheck]
    cases (resolveCommand fixed context host).1 with
    | error fault => exact .of_machine_eq hmachine
    | ok command =>
      dsimp only
      rw [checkWith_congr (Host.surface_eq_of_machine_eq hmachine).symm]
      exact .trans (.of_machine_eq hmachine) (restored_withFile _ _ _ _ _ mid)

end Lint

theorem ReducedMotion.surface_check (root : Path) :
    Keeps (fun before after => after.surface = before.surface) (check root) := by
  have htrans {a b c : Host} (hab : b.surface = a.surface) (hbc : c.surface = b.surface) :
      c.surface = a.surface := hbc.trans hab
  have hasked (host : Host) :
      (Git.contains? root expression searched host).2.surface = host.surface := by
    rw [Git.contains?_apply]
    rfl
  unfold check
  refine .bind htrans (Manifest.isQuestion_isIn root).surface_eq fun _ => .ite (fun _ => rfl) ?_
  refine .bind htrans (Manifest.isQuestion_readIn root).surface_eq fun _ => .ite (fun _ => rfl) ?_
  exact .bind htrans hasked fun _ => .ite (fun _ => rfl) fun _ => rfl

section Examination

variable {lint deadCode : Option (List String)} {first : Tool} {prospect : Prospect}

/-- What the linter is to be configured with for a project. -/
def Prospect.configurationText (prospect : Prospect) : String :=
  (Lint.Facts.configuration ⟨prospect.project.framework, prospect.project.compiler,
    prospect.runtime.plugin⟩).pretty

theorem Checks.restored_runOne (tool : Tool) :
    Keeps (Host.Restored prospect.configurationText)
      ((inOrder lint deadCode first).runOne prospect.plan prospect.context tool) := by
  unfold runOne CheckRun.ofWanted
  refine .ite ?_ fun _ => .of_machine_eq rfl
  intro host
  cases tool with
  | linter => exact Lint.restored_check lint prospect.context host
  | deadCode =>
    have hwork := DeadCode.isWork_check deadCode DeadCode.usualPatience prospect.context
      (toolName_deadCode_ne host.processId)
    exact .of_eq (hwork.surface host)
      (DeadCode.linters_check deadCode DeadCode.usualPatience prospect.context host)

theorem Checks.restored_run :
    Keeps (Host.Restored prospect.configurationText)
      ((inOrder lint deadCode first).run prospect.plan prospect.context) := by
  cases first with
  | linter =>
    refine .bind .trans (restored_runOne .linter) fun _ => ?_
    exact .bind .trans (restored_runOne .deadCode) fun _ _ => .of_machine_eq rfl
  | deadCode =>
    refine .bind .trans (restored_runOne .deadCode) fun _ => ?_
    exact .bind .trans (restored_runOne .linter) fun _ _ => .of_machine_eq rfl

theorem Prospect.restored_own :
    Keeps (Host.Restored prospect.configurationText) prospect.own := by
  unfold own
  refine .ite (fun _ => .of_machine_eq rfl) ?_
  intro host
  exact .of_eq (ReducedMotion.surface_check _ host) (ReducedMotion.linters_check _ host)

theorem Examination.restored_ofProspect :
    Keeps (Host.Restored prospect.configurationText)
      (ofProspect prospect (Checks.inOrder lint deadCode first)) := by
  unfold ofProspect
  refine .bind .trans Checks.restored_run fun _ => ?_
  refine .bind .trans ((Run.IsQuestion.noteAll _).quiet.restored _) fun _ => ?_
  refine .bind .trans ?_ fun _ _ => .of_machine_eq rfl
  intro host
  rw [prospect.combine_apply]
  exact prospect.restored_own host

end Examination

/-! ### A scan and a diagnosis -/

/-- What a diagnosis of a directory knows before it runs its checks. -/
def Prospect.ofDiagnosis (directory : Path) (options : DiagnosisOptions) : Run Prospect := do
  let directory ← Run.resolve directory
  let manifest ← Run.resolveGiven options.manifest
  let settings ← Settings.load directory
  let runtime ← RuntimeSettings.ofHost
  find directory
    { lint := options.lint, deadCode := options.deadCode, paths := options.paths, manifest }
    settings runtime

/-- A check-up: questions about a project, its examination, and a result of these. -/
def checkUp {β : Type} (ask : Run Prospect) (checks : Checks)
    (result : Prospect → Examination → Number → β) : Run β := do
  let started ← Run.now
  let prospect ← ask
  let found ← Examination.ofProspect prospect checks
  let elapsed ← millisecondsSince started
  return result prospect found elapsed

theorem scan_eq_checkUp (directory : Path) (options : ScanOptions)
    (runtime : Option RuntimeSettings) (checks : Checks) (source : SettingsSource) :
    scan directory options runtime checks source =
      checkUp (Prospect.ofScan directory options runtime source) checks Prospect.result := rfl

theorem diagnose_eq_checkUp (directory : Path) (options : DiagnosisOptions) (checks : Checks) :
    diagnose directory options checks =
      checkUp (Prospect.ofDiagnosis directory options) checks fun _ => Examination.diagnosis := by
  unfold diagnose checkUp Prospect.ofDiagnosis Examination.run
  simp only [bind_assoc]
  rfl

theorem Run.isQuestion_resolveGiven (given : Option Path) : Run.IsQuestion (resolveGiven given) := by
  cases given with
  | none => exact .pure _
  | some p => exact .bind (.resolve p) fun _ => .pure _

theorem Prospect.isQuestion_ofDiagnosis (directory : Path) (options : DiagnosisOptions) :
    Run.IsQuestion (ofDiagnosis directory options) := by
  refine .bind (.resolve directory) fun _ => .bind (Run.isQuestion_resolveGiven _) fun _ => ?_
  refine .bind (Settings.isQuestion_load _) fun _ => ?_
  exact .bind RuntimeSettings.isQuestion_ofHost fun _ => isQuestion_find _ _ _ _

theorem restored_millisecondsSince (text : String) (started : Number) :
    Keeps (Host.Restored text) (millisecondsSince started) := by
  intro host
  rw [millisecondsSince, Run.bind_of_ok (Run.now_apply host)]
  exact .of_eq rfl rfl

/-- What a check-up leaves behind: the files that it found. Each process of the linter that it
started found its configuration in place, written for the project that was asked about. -/
structure Host.LeftAsFound (ask : Run Prospect) (before after : Host) : Prop where
  tree : after.tree = before.tree
  linters : ∃ started, after.spawns.filter (·.tool == .linter) =
      before.spawns.filter (·.tool == .linter) ++ started ∧
    ∀ spawn ∈ started, ∃ prospect, (ask before).1 = .ok prospect ∧
      before.Holds prospect.configurationText spawn

theorem leftAsFound_checkUp {β : Type} {ask : Run Prospect} (hask : Run.IsQuestion ask)
    (lint deadCode : Option (List String)) (first : Tool)
    (result : Prospect → Examination → Number → β) {host : Host} (hfree : host.IsFree) :
    host.LeftAsFound ask (checkUp ask (Checks.inOrder lint deadCode first) result host).2 := by
  let begun : Host := { host with clock := host.clock.drop 1 }
  have hread : (ask begun).1 = (ask host).1 := hask.reads rfl
  have hquiet := hask.quiet begun
  have hnow : Run.now host = (.ok (host.clock.headD (.real 0.0)), begun) := Run.now_apply host
  unfold checkUp
  rw [Run.bind_of_ok hnow, Run.bind_apply]
  rcases hasked : ask begun with ⟨fault | prospect, mid⟩ <;> rw [hasked] at hread hquiet
  all_goals
    have hsurface : mid.surface = host.surface := congrArg Machine.surface hquiet
    have hlinters : Event.linters mid.deeds = Event.linters host.deeds :=
      congrArg (fun machine => Event.linters machine.deeds) hquiet
  · rw [Host.linters_deeds, Host.linters_deeds] at hlinters
    exact ⟨Host.tree_eq_of_surface_eq hsurface, [], by simpa using hlinters, by simp⟩
  · have hmid : Host.Restored prospect.configurationText host mid := .of_eq hsurface hlinters
    have hrest : Keeps (Host.Restored prospect.configurationText) (do
        let found ← Examination.ofProspect prospect (Checks.inOrder lint deadCode first)
        let elapsed ← millisecondsSince (host.clock.headD (.real 0.0))
        return result prospect found elapsed) := by
      refine .bind .trans Examination.restored_ofProspect fun found => ?_
      exact .bind .trans (restored_millisecondsSince _ _) fun _ _ => .of_machine_eq rfl
    obtain ⟨hsurface, started, hlinters, hholds⟩ := hmid.trans (hrest mid) hfree
    rw [Host.linters_deeds, Host.linters_deeds] at hlinters
    refine ⟨Host.tree_eq_of_surface_eq hsurface, started, hlinters, ?_⟩
    intro spawn hmem
    exact ⟨prospect, hread.symm, hholds spawn hmem⟩

/-- Where no file is in the place of the linter's configuration, a scan and a diagnosis leave all
files as they found them, however they end, and the linter always finds its configuration. -/
theorem leftAsFound_of_isFree (lint deadCode : Option (List String)) (first : Tool)
    (directory : Path) {host : Host} (hfree : host.IsFree) :
    (∀ options runtime source,
      host.LeftAsFound (Prospect.ofScan directory options runtime source)
        (scan directory options runtime (Checks.inOrder lint deadCode first) source host).2) ∧
    ∀ options, host.LeftAsFound (Prospect.ofDiagnosis directory options)
      (diagnose directory options (Checks.inOrder lint deadCode first) host).2 := by
  constructor
  · intro options runtime source
    rw [scan_eq_checkUp]
    exact leftAsFound_checkUp (Prospect.isQuestion_ofScan ..) lint deadCode first _ hfree
  · intro options
    rw [diagnose_eq_checkUp]
    exact leftAsFound_checkUp (Prospect.isQuestion_ofDiagnosis ..) lint deadCode first _ hfree

theorem Host.isFree_withFinding : Host.withFinding.IsFree := by
  have hmissing : faultOf (withFinding.content (Lint.configurationFile withFinding)) =
      some .missing := by decide +kernel
  intro content
  rw [eq_error_of_faultOf hmissing]
  exact nofun

/-- One process of the linter, which finds its configuration, and no file is left of it. -/
theorem leftAsFound_withFinding : ∃ after spawn prospect,
    (scan .here {} none (Checks.inOrder (some ["oxlint"]) (some ["knip"]) .linter) .disk
      Host.withFinding).2 = after ∧
    after.tree = Host.withFinding.tree ∧
    after.spawns.filter (·.tool == .linter) = [spawn] ∧
    (Prospect.ofScan .here {} none .disk Host.withFinding).1 = .ok prospect ∧
    Host.withFinding.Holds prospect.configurationText spawn := by
  obtain ⟨hscan, -⟩ := leftAsFound_of_isFree (some ["oxlint"]) (some ["knip"]) .linter .here
    Host.isFree_withFinding
  obtain ⟨htree, started, hlinters, hholds⟩ := hscan {} none .disk
  have hone : ((scan .here {} none (Checks.inOrder (some ["oxlint"]) (some ["knip"]) .linter) .disk
      Host.withFinding).2.spawns.filter (·.tool == .linter)).length = 1 := by decide +kernel
  obtain ⟨spawn, hspawn⟩ := List.length_eq_one_iff.1 hone
  obtain rfl : started = [spawn] := by
    rw [hspawn] at hlinters
    exact hlinters.symm
  obtain ⟨prospect, hprospect, hholds⟩ := hholds spawn (by simp)
  exact ⟨_, spawn, prospect, rfl, htree, hspawn, hprospect, hholds⟩

end Checkup
