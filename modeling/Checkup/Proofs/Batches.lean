import Checkup.Proofs.Spawns

/-!
# Batches and their reports

A list of paths that is too long for one command line goes to several linters, each with a report of
its own. A report is read entry by entry, so the findings of the reports one after the other are
those of one report with all their entries: how the paths are cut into batches shows nowhere. A
linter that leaves no report ends the run, and what the others found is not told.
-/

namespace Checkup

open Text (strip strip_strip)

namespace Lint

/-! ### Reports -/

def IsReport (output : String) (reported : List Json) : Prop :=
  ∃ value, Json.read (strip output) = .ok value ∧
    value.member? "diagnostics" = some (.array reported)

theorem IsReport.strip_ne_empty {output : String} {reported : List Json}
    (hreport : IsReport output reported) : strip output ≠ "" := by
  obtain ⟨value, hread, -⟩ := hreport
  intro hblank
  have hempty : (Json.read "").isOk = false := by decide +kernel
  rw [hblank] at hread
  rw [hread] at hempty
  cases hempty

theorem parseReport_of_isReport {output : String} {reported : List Json}
    (hreport : IsReport output reported) :
    parseReport output = (entries reported).mapError .shape := by
  obtain ⟨value, hread, hmember⟩ := id hreport
  unfold parseReport readReport
  rw [if_neg (by simpa using hreport.strip_ne_empty), hread]
  dsimp only [bind, Except.bind]
  rw [hmember]

/-- A text that is not a report is not read as one, unless there is nothing in it. -/
theorem exists_parseReport_eq_error {output : String} (hprinted : strip output ≠ "")
    (hnone : ∀ reported, ¬ IsReport output reported) :
    ∃ fault, parseReport output = .error fault := by
  unfold parseReport
  rw [if_neg (by simpa using hprinted)]
  rcases hread : readReport toolName (strip output) with fault | value
  · exact ⟨fault, rfl⟩
  dsimp only [bind, Except.bind]
  split
  · rename_i reported hmember
    refine absurd ⟨value, ?_, hmember⟩ (hnone reported)
    unfold readReport at hread
    split at hread <;> simp_all
  · exact ⟨_, rfl⟩

/-- The entries of two reports together are read one report after the other. -/
theorem entries_append (reported more : List Json) : entries (reported ++ more) = do
    let found ← entries reported
    return found ++ (← entries more) := by
  induction reported with
  | nil =>
    change entries more = _
    rcases entries more <;> rfl
  | cons entry rest ih =>
    rw [List.cons_append, entries, ih, entries]
    rcases entry? entry with fault | found
    · rfl
    rcases entries rest with fault | others
    · rfl
    rcases entries more with fault | further
    · rfl
    simp [bind, Except.bind, pure, Except.pure]

/-! ### Entries -/

/-- An entry as the linter writes it: an object whose code, file and message are texts and whose
labels are a list, the first of them with whole numbers for its line and column, all as far as they
are given. -/
structure IsEntry (entry : Json) : Prop where
  isObject : ∃ members, entry = .object members
  texts : ∀ name ∈ ["code", "filename", "message"], ∀ value,
    entry.get name = .ok value → value.isTruthy = true → ∃ s, value = .text s
  labels : ∀ value, entry.get "labels" = .ok value → value.isTruthy = true →
    ∃ labels, value = .array labels
  counts : ∀ labels label span, entry.get "labels" = .ok (.array labels) → labels.head? = some label →
    label.get "span" = .ok span → ∀ name ∈ ["line", "column"], ∀ value,
      span.get name = .ok value → ∃ n, value.asCount = .ok n

namespace IsEntry

variable {entry : Json}

theorem exists_get (hentry : IsEntry entry) (name : String) : ∃ value, entry.get name = .ok value := by
  obtain ⟨members, rfl⟩ := hentry.isObject
  exact ⟨_, rfl⟩

theorem exists_givenText (hentry : IsEntry entry) (name : String)
    (hname : name ∈ ["code", "filename", "message"]) : ∃ s, givenText entry name = .ok s := by
  obtain ⟨value, hvalue⟩ := hentry.exists_get name
  unfold givenText
  rw [hvalue]
  dsimp only [bind, Except.bind]
  split
  · rename_i hgiven
    obtain ⟨s, rfl⟩ := hentry.texts name hname value hvalue hgiven
    exact ⟨s, rfl⟩
  · exact ⟨"", rfl⟩

/-- The first place of an entry is an object with counts, even where there is none. -/
theorem exists_firstSpan (hentry : IsEntry entry) : ∃ members,
    firstSpan entry = .ok (.object members) ∧
      ∀ name ∈ ["line", "column"], ∃ n, (Json.lookup members name).asCount = .ok n := by
  have hnowhere : ∀ name ∈ ["line", "column"], ∃ n, (Json.lookup [] name).asCount = .ok n :=
    fun _ _ => ⟨0, rfl⟩
  obtain ⟨labels, hlabels⟩ := hentry.exists_get "labels"
  unfold firstSpan
  rw [hlabels]
  dsimp only [bind, Except.bind]
  by_cases hgiven : labels.isTruthy = true
  · obtain ⟨items, rfl⟩ := hentry.labels labels hlabels hgiven
    rw [if_neg (by simp [hgiven])]
    cases items with
    | nil => cases hgiven
    | cons label rest =>
      cases label with
      | object members =>
        cases hspan : Json.lookup members "span" with
        | object span =>
          have hget : (Json.object members).get "span" = .ok (.object span) :=
            congrArg Except.ok hspan
          refine ⟨span, ?_, fun name hname =>
            hentry.counts _ _ _ hlabels rfl hget name hname _ rfl⟩
          dsimp only [Json.first, List.head?_cons, Option.getD_some]
          rw [hget]
          rfl
        | _ =>
          refine ⟨[], ?_, hnowhere⟩
          dsimp only [Json.first, List.head?_cons, Option.getD_some, Json.get]
          rw [hspan]
          rfl
      | _ => exact ⟨[], rfl, hnowhere⟩
  · rw [if_pos (by simp [hgiven])]
    exact ⟨[], rfl, hnowhere⟩

theorem exists_entryDiagnostic (hentry : IsEntry entry) {code : Json}
    (hcode : entry.get "code" = .ok code) (hgiven : code.isTruthy = true) (file : String) :
    ∃ d, entryDiagnostic entry code file = .ok d := by
  obtain ⟨rule, rfl⟩ := hentry.texts "code" (by simp) code hcode hgiven
  obtain ⟨said, hsaid⟩ := hentry.exists_givenText "message" (by simp)
  obtain ⟨help, hhelp⟩ := hentry.exists_get "help"
  obtain ⟨severity, hseverity⟩ := hentry.exists_get "severity"
  obtain ⟨span, hspan, hcounts⟩ := hentry.exists_firstSpan
  obtain ⟨line, hline⟩ := hcounts "line" (by simp)
  obtain ⟨column, hcolumn⟩ := hcounts "column" (by simp)
  have hmember (name : String) : (Json.object span).get name = .ok (Json.lookup span name) := rfl
  unfold entryDiagnostic
  simp only [Json.asText, hsaid, hhelp, hseverity, hspan, hmember, hline, hcolumn, bind, Except.bind]
  exact ⟨_, rfl⟩

theorem exists_entry? (hentry : IsEntry entry) : ∃ found, entry? entry = .ok found := by
  obtain ⟨code, hcode⟩ := hentry.exists_get "code"
  obtain ⟨file, hfile⟩ := hentry.exists_get "filename"
  unfold entry?
  rw [hcode, hfile]
  dsimp only [bind, Except.bind]
  by_cases hgiven : code.isTruthy = true
  · rw [if_neg (by simp [hgiven])]
    have hread (path : String) : ∃ found, (if !SourceFile.isComponent path then pure none
        else do return some (← entryDiagnostic entry code path)) = Except.ok found := by
      obtain ⟨d, hd⟩ := hentry.exists_entryDiagnostic hcode hgiven path
      split
      · exact ⟨none, rfl⟩
      · rw [hd]
        exact ⟨some d, rfl⟩
    split
    · rename_i hnamed
      obtain ⟨path, rfl⟩ := hentry.texts "filename" (by simp) file hfile hnamed
      exact hread path
    · exact hread ""
  · rw [if_pos (by simp [hgiven])]
    exact ⟨none, rfl⟩

end IsEntry

theorem exists_entries_eq_ok {reported : List Json} (hentries : ∀ entry ∈ reported, IsEntry entry) :
    ∃ found, entries reported = .ok found := by
  induction reported with
  | nil => exact ⟨[], rfl⟩
  | cons entry rest ih =>
    obtain ⟨hentry, hrest⟩ := List.forall_mem_cons.1 hentries
    obtain ⟨found, hfound⟩ := hentry.exists_entry?
    obtain ⟨others, hothers⟩ := ih hrest
    rw [entries, hfound, hothers]
    exact ⟨_, rfl⟩

end Lint

/-! ### Processes with and without a report -/

namespace Outcome

/-- The process ended with a report of these entries. -/
def Reports (outcome : Outcome) (reported : List Json) : Prop :=
  ∃ status output errors, outcome = finished status output errors ∧
    Lint.IsReport output.lossy reported

/-- The process was not started, did not end, only complained, or printed something else. -/
inductive LeavesNoReport : Outcome → Prop
  | refused (fault : Fault) : LeavesNoReport (refused fault)
  | hangs : LeavesNoReport hangs
  | complaint (status : Option Int) {output errors : Content} (hnothing : strip output.lossy = "")
      (hcomplaint : strip errors.lossy ≠ "") : LeavesNoReport (finished status output errors)
  | misprint (status : Option Int) {output : Content} (errors : Content)
      (hprinted : strip output.lossy ≠ "")
      (hnone : ∀ reported, ¬ Lint.IsReport output.lossy reported) :
      LeavesNoReport (finished status output errors)

end Outcome

namespace Lint

variable {outcome : Outcome} {reported : List Json}

theorem parseReport_strip (output : String) : parseReport (strip output) = parseReport output := by
  unfold parseReport
  rw [strip_strip]

theorem resultOf_of_printed (spawn : Spawn) (status : Option Int) {output : Content}
    (errors : Content) (hprinted : strip output.lossy ≠ "") :
    resultOf (spawn, .finished status output errors) = parseReport output.lossy := by
  rw [resultOf_finished]
  unfold reportOf
  dsimp only
  rw [if_pos (bne_iff_ne.2 hprinted)]
  dsimp only [Except.bind]
  rw [parseReport_strip]

theorem resultOf_of_reports (hreports : outcome.Reports reported) (spawn : Spawn) :
    resultOf (spawn, outcome) = (entries reported).mapError .shape := by
  obtain ⟨status, output, errors, rfl, hreport⟩ := hreports
  rw [resultOf_of_printed spawn status errors hreport.strip_ne_empty]
  exact parseReport_of_isReport hreport

theorem exists_resultOf_eq_error (hleaves : outcome.LeavesNoReport) (spawn : Spawn) :
    ∃ fault, resultOf (spawn, outcome) = .error fault := by
  cases hleaves with
  | refused fault => cases fault <;> exact ⟨_, rfl⟩
  | hangs =>
    unfold resultOf CommandResult.forCheck CommandResult.ofOutcome CommandResult.timeoutFault
    dsimp only
    cases spawn.arguments <;> exact ⟨_, rfl⟩
  | complaint status hnothing hcomplaint =>
    rw [resultOf_finished]
    unfold reportOf
    dsimp only
    rw [hnothing, if_neg (by simp), if_pos (bne_iff_ne.2 hcomplaint)]
    exact ⟨_, rfl⟩
  | misprint status errors hprinted hnone =>
    rw [resultOf_of_printed spawn status errors hprinted]
    exact exists_parseReport_eq_error hprinted hnone

/-! ### The run over the batches -/

/-- The findings of all reports together are those of one report with the entries of all. -/
theorem resultsOf_of_reports {processes : List (Spawn × Outcome)} {given : Spawn → List Json}
    (hall : ∀ process ∈ processes, process.2.Reports (given process.1)) :
    resultsOf processes =
      (entries ((processes.map (·.1)).flatMap given)).mapError .shape := by
  induction processes with
  | nil => rfl
  | cons process rest ih =>
    obtain ⟨hprocess, hrest⟩ := List.forall_mem_cons.1 hall
    have hresult := resultOf_of_reports hprocess process.1
    rw [List.map_cons, List.flatMap_cons, entries_append]
    rcases hentries : entries (given process.1) with fault | found <;> rw [hentries] at hresult
    · rw [resultsOf_cons_of_error hresult]
      rfl
    · rw [resultsOf_cons_of_ok hresult, ih hrest]
      generalize entries ((rest.map (·.1)).flatMap given) = others
      cases others <;> rfl

theorem map_fst_processes (host : Host) (tool : Tool) (started : List Spawn) :
    (host.processes tool started).map (·.1) = started := by
  unfold Host.processes
  rw [List.map_map]
  exact List.zipIdx_map_fst _ _

theorem exists_of_mem_processes {host : Host} {tool : Tool} {started : List Spawn}
    {process : Spawn × Outcome} (hmem : process ∈ host.processes tool started) :
    process.1 ∈ started ∧
      ∃ n, process.2 = host.surroundings.process tool n process.1.arguments := by
  obtain ⟨⟨spawn, n⟩, hspawn, rfl⟩ := List.mem_map.1 hmem
  exact ⟨List.fst_mem_of_mem_zipIdx hspawn, n, rfl⟩

namespace Linted

variable {host : Host} {planned started : List Spawn} {result : Except Fault (List Diagnostic)}

theorem eq_planned (hlinted : Linted host planned started result) (hok : result.isOk = true) :
    started = planned := by
  refine hlinted.finished fun process hmem => ?_
  cases hprocess : resultOf process with
  | ok found => rfl
  | error fault =>
    rw [hlinted.failed process hmem fault hprocess] at hok
    cases hok

/-- The run comes to what a report with the entries of all planned processes comes to, also where an
entry cannot be read: it is the first such entry in both. -/
theorem result_eq_entries {given : Spawn → List Json} (hlinted : Linted host planned started result)
    (hall : ∀ process ∈ host.processes .linter started, process.2.Reports (given process.1)) :
    result = (entries (planned.flatMap given)).mapError .shape := by
  have hresult : result = (entries (started.flatMap given)).mapError .shape := by
    rw [hlinted.result_eq, resultsOf_of_reports hall, map_fst_processes]
  rcases hentries : entries (started.flatMap given) with fault | found
  · obtain ⟨more, hmore⟩ := hlinted.prefixed
    rw [hresult, ← hmore, List.flatMap_append, entries_append, hentries]
    rfl
  · have hok : result.isOk = true := by
      rw [hresult, hentries]
      rfl
    rw [← hlinted.eq_planned hok]
    exact hresult

end Linted

/-- A command that takes up the whole command line leaves every path to a process of its own. -/
theorem planned_of_limit_le {command : Command} {context : CheckContext} {paths : List String}
    (hlong : Batch.defaultLimit ≤ Batch.length command.words) (hpaths : context.paths = some paths)
    (host : Host) (tree : Node) :
    let base := baseArguments command (configurationFile host) context.project.typeScript
    planned command context host tree = paths.map fun path =>
      spawnFor base context.root (command.environment? host.environment) tree [path] := by
  intro base
  have hfull : Batch.defaultLimit ≤ Batch.length base := by
    have hbase : Batch.length command.words ≤ Batch.length base := by
      change total _ _ ≤ total _ (command.words ++ _ ++ _)
      rw [List.append_assoc, total_append]
      omega
    omega
  unfold planned
  dsimp only
  rw [hpaths]
  change (Batch.ofPaths base Batch.defaultLimit paths).map _ = _
  rw [Batch.ofPaths_of_limit_le hfull, List.map_map]
  rfl

section Check

variable {fixed : Option (List String)} {context : CheckContext} {host after : Host}
  {command : Command} {paths : List String}

/-- The lint check of a list of paths gives every path to one process and comes to what the linter's
single report on all paths would come to; a process that leaves no report is the last one and fails
the check. -/
theorem check_of_batches (hpaths : context.paths = some paths) (hsome : paths ≠ [])
    (hcommand : (resolveCommand fixed context host).1 = .ok command)
    (hwrite : host.write (configurationFile host)
      (.text (factsOf context).configuration.pretty) = .ok after) :
    let base := baseArguments command (configurationFile host) context.project.typeScript
    let batches := planned command context host after.tree
    let run := check fixed context host
    (∀ spawn ∈ batches, base <+: spawn.arguments) ∧
    batches.flatMap (·.arguments.drop base.length) = paths ∧
    ∃ started, Host.Spawned host run.2 started ∧ started <+: batches ∧
      (run.1.isOk = true → started = batches) ∧
      (∀ report : String → List Json,
        (∀ process ∈ host.processes .linter started,
          process.2.Reports ((process.1.arguments.drop base.length).flatMap report)) →
        (∀ whole, IsReport whole (paths.flatMap report) → run.1 = parseReport whole) ∧
        ((∀ path ∈ paths, ∀ entry ∈ report path, IsEntry entry) → run.1.isOk = true)) ∧
      ∀ before process later, host.processes .linter started = before ++ process :: later →
        process.2.LeavesNoReport → later = [] ∧ run.1.isOk = false := by
  intro base batches run
  have hnone : context.paths ≠ some [] := by
    rw [hpaths]
    exact fun hnil => hsome (Option.some.inj hnil)
  obtain ⟨hbase, hdealt⟩ := flatMap_drop_planned command context host after.tree hpaths
  obtain ⟨started, hspawned, hlinted⟩ := linted_check_of_write hnone hcommand hwrite
  refine ⟨hbase, hdealt, started, hspawned, hlinted.prefixed, hlinted.eq_planned, ?_, ?_⟩
  · intro report hall
    have hresult : run.1 = (entries (paths.flatMap report)).mapError .shape := by
      rw [← hdealt, List.flatMap_assoc]
      exact hlinted.result_eq_entries hall
    constructor
    · intro whole hwhole
      rw [hresult, parseReport_of_isReport hwhole]
    · intro hentries
      have hall : ∀ entry ∈ paths.flatMap report, IsEntry entry := by
        intro entry hmem
        obtain ⟨path, hpath, hentry⟩ := List.mem_flatMap.1 hmem
        exact hentries path hpath entry hentry
      obtain ⟨found, hfound⟩ := exists_entries_eq_ok hall
      rw [hresult, hfound]
      rfl
  · intro before process later hcut hleaves
    obtain ⟨fault, hfault⟩ := exists_resultOf_eq_error hleaves process.1
    have hmem : process ∈ host.processes .linter started := by simp [hcut]
    refine ⟨hlinted.stopped before process later hcut ?_, ?_⟩
    · rw [hfault]
      rfl
    · change (check fixed context host).1.isOk = false
      rw [hlinted.failed process hmem fault hfault]
      rfl

end Check

end Lint

/-- The linter's entry on a component without a key. -/
def missingKey (path : String) : Json :=
  .object [("code", .text "react(jsx-key)"), ("filename", .text path)]

def appReport : String :=
  "\x7b\"diagnostics\":[\x7b\"code\":\"react(jsx-key)\",\"filename\":\"src/App.tsx\"\x7d]\x7d"

def menuReport : String :=
  "\x7b\"diagnostics\":[\x7b\"code\":\"react(jsx-key)\",\"filename\":\"src/Menu.tsx\"\x7d]\x7d"

def wholeReport : String :=
  "\x7b\"diagnostics\":[\x7b\"code\":\"react(jsx-key)\",\"filename\":\"src/App.tsx\"\x7d," ++
    "\x7b\"code\":\"react(jsx-key)\",\"filename\":\"src/Menu.tsx\"\x7d]\x7d"

/-- A project with two components without keys, of which the linter sees the one that it gets
last. -/
def Host.withMissingKeys : Host :=
  .ofProject reactManifest (fun _ => .unavailable) fun _ _ arguments =>
    if arguments.getLast? = some "src/App.tsx" then .finished (some 1) (.text appReport) (.text "")
    else .finished (some 1) (.text menuReport) (.text "")

namespace Lint

def isMissingKey (path : String) : Json → Bool
  | .object [("code", .text code), ("filename", .text file)] =>
    code == "react(jsx-key)" && file == path
  | _ => false

theorem eq_missingKey {path : String} {entry : Json} (hkey : isMissingKey path entry = true) :
    entry = missingKey path := by
  unfold isMissingKey at hkey
  split at hkey
  · obtain ⟨hcode, hfile⟩ := Bool.and_eq_true_iff.1 hkey
    rw [eq_of_beq hcode, eq_of_beq hfile]
    rfl
  · cases hkey

/-- Whether the entries are on components without a key, one for each path. -/
def areMissingKeys : List String → List Json → Bool
  | [], [] => true
  | path :: paths, entry :: rest => isMissingKey path entry && areMissingKeys paths rest
  | _, _ => false

theorem eq_map_missingKey {paths : List String} {reported : List Json}
    (hkeys : areMissingKeys paths reported = true) : reported = paths.map missingKey := by
  induction paths generalizing reported with
  | nil =>
    cases reported with
    | nil => rfl
    | cons entry rest => cases hkeys
  | cons path paths ih =>
    cases reported with
    | nil => cases hkeys
    | cons entry rest =>
      obtain ⟨hkey, hrest⟩ := Bool.and_eq_true_iff.1 hkeys
      rw [List.map_cons, ← eq_missingKey hkey, ← ih hrest]

theorem isReport_of_any {output : String} (paths : List String)
    (hread : (Json.read (strip output)).toOption.any (fun value =>
      ((value.member? "diagnostics").bind Json.items?).any (areMissingKeys paths)) = true) :
    IsReport output (paths.map missingKey) := by
  obtain ⟨value, hvalue, hkeys⟩ := exists_eq_ok_of_any hread
  refine ⟨value, hvalue, ?_⟩
  cases hmember : value.member? "diagnostics" with
  | none =>
    rw [hmember] at hkeys
    cases hkeys
  | some found =>
    rw [hmember] at hkeys
    cases found with
    | array reported => rw [← eq_map_missingKey hkeys]
    | _ => cases hkeys

theorem isReport_appReport : IsReport appReport [missingKey "src/App.tsx"] :=
  isReport_of_any ["src/App.tsx"] (by decide +kernel)

theorem isReport_menuReport : IsReport menuReport [missingKey "src/Menu.tsx"] :=
  isReport_of_any ["src/Menu.tsx"] (by decide +kernel)

theorem isReport_wholeReport :
    IsReport wholeReport [missingKey "src/App.tsx", missingKey "src/Menu.tsx"] :=
  isReport_of_any ["src/App.tsx", "src/Menu.tsx"] (by decide +kernel)

theorem isEntry_missingKey (path : String) : IsEntry (missingKey path) where
  isObject := ⟨_, rfl⟩
  texts := by
    intro name hname value hvalue hgiven
    cases hvalue
    simp only [List.mem_cons, List.not_mem_nil, or_false] at hname
    rcases hname with rfl | rfl | rfl
    · exact ⟨_, rfl⟩
    · exact ⟨_, rfl⟩
    · cases hgiven
  labels := by
    intro value hvalue hgiven
    cases hvalue
    cases hgiven
  counts := by
    intro labels label span hlabels
    cases hlabels

def longCommand (width : Nat) : List String :=
  ["oxlint", String.ofList (List.replicate width 'x')]

theorem length_longCommand (width : Nat) : Batch.length (longCommand width) = width + 8 := by
  have hwide : (String.ofList (List.replicate width 'x')).length = width := by
    rw [String.length_ofList, List.length_replicate]
  have hoxlint : "oxlint".length = 6 := by decide
  unfold longCommand Batch.length Batch.cost
  rw [total_cons, total_cons, hwide, hoxlint, total_nil]
  omega

theorem reports_withMissingKeys {path : String} (hpath : path ∈ ["src/App.tsx", "src/Menu.tsx"])
    (base : List String) (n : Nat) :
    (Host.withMissingKeys.surroundings.process .linter n (base ++ [path])).Reports
      [missingKey path] := by
  change Outcome.Reports (if (base ++ [path]).getLast? = some "src/App.tsx" then _ else _) _
  rw [List.getLast?_concat]
  simp only [List.mem_cons, List.not_mem_nil, or_false] at hpath
  rcases hpath with rfl | rfl
  · rw [if_pos rfl]
    exact ⟨_, _, _, rfl, isReport_appReport⟩
  · rw [if_neg (by decide)]
    exact ⟨_, _, _, rfl, isReport_menuReport⟩

/-- Two linters that report on one component each come to what one report on both comes to. -/
theorem check_withMissingKeys :
    let run := check (some (longCommand 24000))
      ⟨.root, default, default, some ["src/App.tsx", "src/Menu.tsx"]⟩ Host.withMissingKeys
    ∃ started found, Host.withMissingKeys.Spawned run.2 started ∧
      started.map (·.arguments.getLast?) = [some "src/App.tsx", some "src/Menu.tsx"] ∧
      run.1 = .ok found ∧ found.map (·.rule) = ["jsx-key", "jsx-key"] := by
  intro run
  let paths := ["src/App.tsx", "src/Menu.tsx"]
  let context : CheckContext := ⟨.root, default, default, some paths⟩
  let command : Command := ⟨longCommand 24000, none⟩
  let base := baseArguments command (configurationFile Host.withMissingKeys)
    context.project.typeScript
  obtain ⟨after, hwrite⟩ := Host.exists_write_eq_ok
    (show (Host.withMissingKeys.write (configurationFile Host.withMissingKeys)
      (.text "")).isOk = true by decide +kernel) (.text (factsOf context).configuration.pretty)
  have hcommand : (resolveCommand (some (longCommand 24000)) context Host.withMissingKeys).1 =
      .ok command := rfl
  have hlong : Batch.defaultLimit ≤ Batch.length command.words := by
    change Batch.defaultLimit ≤ Batch.length (longCommand 24000)
    rw [length_longCommand]
    decide
  have hplanned := planned_of_limit_le hlong
    (show context.paths = some paths from rfl) Host.withMissingKeys after.tree
  obtain ⟨-, -, started, hspawned, hprefixed, hcomplete, hreports, -⟩ :=
    check_of_batches rfl (by simp) hcommand hwrite
  rw [hplanned] at hprefixed hcomplete
  obtain ⟨hwhole, hreturns⟩ := hreports (fun path => [missingKey path]) (by
    intro process hmem
    obtain ⟨hstarted, n, hprocess⟩ := exists_of_mem_processes hmem
    obtain ⟨path, hpath, hspawn⟩ := List.mem_map.1 (hprefixed.subset hstarted)
    have harguments : process.1.arguments = base ++ [path] := by rw [← hspawn]; rfl
    rw [hprocess, harguments, List.drop_left]
    exact reports_withMissingKeys hpath base n)
  have hok := hreturns (by
    intro path _ entry hentry
    obtain rfl := List.mem_singleton.1 hentry
    exact isEntry_missingKey path)
  obtain ⟨found, hfound, hrules⟩ := exists_eq_ok_of_any
    (show (parseReport wholeReport).toOption.any (·.map (·.rule) == ["jsx-key", "jsx-key"]) = true
      by decide +kernel)
  refine ⟨started, found, hspawned, ?_, ?_, by simpa using hrules⟩
  · rw [hcomplete hok, List.map_map]
    have hlast (path : String) : (base ++ [path]).getLast? = some path := List.getLast?_concat
    exact List.map_congr_left fun path _ => hlast path
  · rw [hwhole wholeReport isReport_wholeReport]
    exact hfound

end Lint

/-- A project without a directory for temporary files, whose linter has nothing to report. -/
def Host.withoutRoom : Host :=
  { ofProject reactManifest (fun _ => .unavailable) fun _ _ _ =>
      .finished (some 0) (.text "\x7b\"diagnostics\":[]\x7d") (.text "") with
    tree := .directory [("package.json", .file (.text reactManifest))] }

def Host.withBlankLine : Host :=
  .ofProject reactManifest (fun _ => .unavailable) fun _ _ _ =>
    .finished (some 0) (.text "\n") (.text "")

namespace Lint

/-- Where its configuration cannot be written, the linter is not asked for its report, and a blank
line passes for one. -/
theorem check_withoutRoom :
    let run := check (some ["oxlint"]) ⟨.root, default, default, some ["src/App.tsx"]⟩
    ((∀ n arguments,
        (Host.withoutRoom.surroundings.process .linter n arguments).Reports []) ∧
      IsReport "\x7b\"diagnostics\":[]\x7d" [] ∧
      parseReport "\x7b\"diagnostics\":[]\x7d" = .ok [] ∧
      (run Host.withoutRoom).1.isOk = false ∧ (run Host.withoutRoom).2.spawns = []) ∧
    (∀ n arguments, ∃ errors, Host.withBlankLine.surroundings.process .linter n arguments =
        .finished (some 0) (.text "\n") errors) ∧
      (∀ reported, ¬ IsReport "\n" reported) ∧ (run Host.withBlankLine).1.isOk = true := by
  intro run
  have hreport : IsReport "\x7b\"diagnostics\":[]\x7d" [] := isReport_of_any [] (by decide +kernel)
  refine ⟨⟨fun _ _ => ⟨_, _, _, rfl, hreport⟩, hreport, parseReport_of_isReport hreport, ?_, ?_⟩,
    fun _ _ => ⟨_, rfl⟩, fun reported hblank => hblank.strip_ne_empty ?_, ?_⟩
  · decide +kernel
  · refine List.isEmpty_iff.1 ?_
    decide +kernel
  · decide +kernel
  · decide +kernel

end Lint

end Checkup
