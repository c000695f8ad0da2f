import Checkup.Proofs.Isolation

/-!
# Checks on, off and failed

What a scan reports of one check does not change with the processes or the switches of the other
one, and a check that fails is worth as much as one that is switched off: the findings and the
score are the same, and only the reason tells them apart.
-/

namespace Checkup

/-! ### Switching a check on or off -/

/-- The options with what they say about the check of a tool replaced. -/
def ScanOptions.switch (options : ScanOptions) (on : Option Bool) : Tool → ScanOptions
  | .linter => { options with lint := on }
  | .deadCode => { options with deadCode := on }

/-- The settings with what they say about the check of a tool replaced. -/
def Settings.switch (settings : Settings) (on : Option Bool) : Tool → Settings
  | .linter => { settings with lint := on }
  | .deadCode => { settings with deadCode := on }

/-- The settings that are given, with what they say about the check of a tool replaced. -/
def SettingsSource.switch (source : SettingsSource) (on : Option Bool) (tool : Tool) :
    SettingsSource :=
  match source with
  | given settings => given (settings.map (·.switch on tool))
  | disk => disk

def Host.withProcesses (host : Host) (tool : Tool)
    (processes : Nat → List String → Outcome) : Host :=
  { host with surroundings := { host.surroundings with
      process := fun other => if other = tool then processes else host.surroundings.process other } }

theorem SettingsSource.fst_settings_id (source : SettingsSource) (directory : Path)
    (host : Host) : (source.settings directory host).1 =
      ((source.settings directory host).1).map id := by
  cases (source.settings directory host).1 <;> rfl

namespace Prospect

variable {options options' : ScanOptions} {source source' : SettingsSource} {host : Host}
  {change : Option Settings → Option Settings}

/-- What a scan knows when it is asked with other options and other settings. -/
def replan (prospect : Prospect) (options : ScanOptions) (settings : Option Settings) : Prospect :=
  { prospect with settings, plan := .ofOptions options settings }

/-- A change of the options and the settings changes what a scan knows in its plan and in its
settings only. -/
theorem fst_ofScan_replan (directory : Path) (runtime : Option RuntimeSettings)
    (hmanifest : options'.manifest = options.manifest)
    (hsource : ∀ directory, (source'.settings directory host).1 =
      ((source.settings directory host).1).map change) :
    (ofScan directory options' runtime source' host).1 =
      ((ofScan directory options runtime source host).1).map fun prospect =>
        prospect.replan options' (change prospect.settings) := by
  rw [fst_ofScan, fst_ofScan, hmanifest]
  dsimp only [bind, Except.bind]
  rcases (RuntimeSettings.given runtime host).1 with fault | runtime
  · rfl
  rcases (Run.resolve directory host).1 with fault | directory
  · rfl
  dsimp only
  rw [hsource]
  rcases (source.settings directory host).1 with fault | settings
  · rfl
  dsimp only [Except.map]
  rcases (Project.discover directory options.manifest host).1 with fault | project
  · rfl
  dsimp only
  split <;> rfl

theorem plan_eq {directory : Path} {runtime : Option RuntimeSettings} {prospect : Prospect}
    (hprospect : (ofScan directory options runtime source host).1 = .ok prospect) :
    prospect.plan = .ofOptions options prospect.settings := by
  have hsame : (ofScan directory options runtime source host).1 = _ :=
    fst_ofScan_replan directory runtime rfl fun directory => source.fst_settings_id directory host
  rw [hprospect] at hsame
  exact congrArg plan (Except.ok.inj hsame)

section Replan

variable {prospect : Prospect} (hplan : prospect.plan = .ofOptions options prospect.settings)
include hplan

theorem context_replan (on : Option Bool) (tool : Tool) (settings : Option Settings) :
    (prospect.replan (options.switch on tool) settings).context = prospect.context := by
  rw [context, context, hplan]
  cases tool <;> rfl

theorem own_replan (on : Option Bool) (tool : Tool) (settings : Option Settings) :
    (prospect.replan (options.switch on tool) settings).own = prospect.own := by
  rw [own, own, hplan]
  cases tool <;> rfl

/-- The switch of a check decides about nothing else in a result. -/
theorem result_replan (on : Option Bool) (tool : Tool) (found : List Diagnostic)
    (reasons reasons' : List (String × String)) (elapsed : Number) :
    (prospect.replan (options.switch on tool) prospect.settings).result
        ⟨prospect.project, .ofOptions (options.switch on tool) prospect.settings, found, reasons'⟩
        elapsed =
      { prospect.result ⟨prospect.project, prospect.plan, found, reasons⟩ elapsed with
        reasons := reasons' } := by
  unfold result isOffline
  rw [hplan]
  cases tool <;> rfl

end Replan

end Prospect

/-- The switches for a check in a source of settings change the settings by a function. -/
theorem SettingsSource.fst_settings_switch (source : SettingsSource) (on : Option Bool)
    (tool : Tool) : ∃ change : Option Settings → Option Settings,
      (change = id ∨ change = Option.map (·.switch on tool)) ∧
      ∀ directory host, ((source.switch on tool).settings directory host).1 =
        ((source.settings directory host).1).map change := by
  cases source with
  | given settings => exact ⟨_, .inr rfl, fun _ _ => rfl⟩
  | disk =>
    exact ⟨id, .inl rfl, fun directory host => disk.fst_settings_id directory host⟩

theorem Suppression.remaining_switch (settings : Settings) (on : Option Bool) (tool : Tool)
    (found : List Diagnostic) : remaining (settings.switch on tool) found =
      remaining settings found := by
  have hcovers (d : Diagnostic) : covers (settings.switch on tool) d = covers settings d := by
    cases tool <;> rfl
  induction found with
  | nil => rfl
  | cons d rest ih => simp only [remaining, hcovers, ih]

theorem unsuppressed_switch (settings : Option Settings) (on : Option Bool) (tool : Tool) :
    unsuppressed (settings.map (·.switch on tool)) = unsuppressed settings := by
  funext found
  cases settings with
  | none => rfl
  | some settings => exact Suppression.remaining_switch settings on tool found

theorem unsuppressed_change {change : Option Settings → Option Settings} {on : Option Bool}
    {tool : Tool} (hchange : change = id ∨ change = Option.map (·.switch on tool))
    (settings : Option Settings) : unsuppressed (change settings) = unsuppressed settings := by
  rcases hchange with rfl | rfl
  · rfl
  · exact unsuppressed_switch settings on tool

/-- What a scan knows when the switches of one check are others, and the processes of its tool. -/
theorem Prospect.fst_ofScan_switch (directory : Path) (options : ScanOptions)
    (runtime : Option RuntimeSettings) (source : SettingsSource) (host : Host) (tool : Tool)
    (on on' : Option Bool) (processes : Nat → List String → Outcome) :
    ∃ change : Option Settings → Option Settings,
      (change = id ∨ change = Option.map (·.switch on' tool)) ∧
      (ofScan directory (options.switch on tool) runtime (source.switch on' tool)
          (host.withProcesses tool processes)).1 =
        ((ofScan directory options runtime source host).1).map fun prospect =>
          prospect.replan (options.switch on tool) (change prospect.settings) := by
  obtain ⟨change, hchange, hsource⟩ := source.fst_settings_switch on' tool
  have hmanifest : (options.switch on tool).manifest = options.manifest := by cases tool <;> rfl
  have hsurface : (host.withProcesses tool processes).surface = host.surface := rfl
  refine ⟨change, hchange, ?_⟩
  rw [(isQuestion_ofScan _ _ _ _).reads hsurface]
  exact fst_ofScan_replan directory runtime hmanifest fun directory => hsource directory host

/-- The switches of one check do not decide about the other one. -/
theorem ScanPlan.wants_switch {tool other : Tool} (hne : tool ≠ other) (options : ScanOptions)
    (settings : Option Settings) (on on' : Option Bool) {change : Option Settings → Option Settings}
    (hchange : change = id ∨ change = Option.map (·.switch on' other)) :
    (ofOptions (options.switch on other) (change settings)).wants tool =
      (ofOptions options settings).wants tool := by
  rcases hchange with rfl | rfl <;> cases settings <;> cases tool <;> cases other <;>
    first | rfl | exact absurd rfl hne

namespace Checks

/-- What a scan reports of the check of a tool: the findings that the settings leave of it, and why
it failed. -/
def share (checks : Checks) (tool : Tool) (directory : Path) (options : ScanOptions)
    (runtime : Option RuntimeSettings) (source : SettingsSource) (host : Host) :
    Except Fault CheckOutcome := do
  let prospect ← (Prospect.ofScan directory options runtime source host).1
  let outcome := checks.outcome prospect tool host
  let left ← (unsuppressed prospect.settings outcome.diagnostics).mapError .shape
  return ⟨left, outcome.failure⟩

def builtinShare (directory : Path) (options : ScanOptions) (runtime : Option RuntimeSettings)
    (source : SettingsSource) (host : Host) : Except Fault (List Diagnostic) := do
  let prospect ← (Prospect.ofScan directory options runtime source host).1
  let own ← (prospect.own host).1
  (unsuppressed prospect.settings own).mapError .shape

variable {lint deadCode : Option (List String)} {first : Tool} {tool other : Tool}

/-- A check comes to the same when the other tool's processes are others. -/
theorem outcome_withProcesses (hne : tool ≠ other) (prospect : Prospect) (host : Host)
    (processes : Nat → List String → Outcome) :
    (inOrder lint deadCode first).outcome prospect tool (host.withProcesses other processes) =
      (inOrder lint deadCode first).outcome prospect tool host :=
  outcome_congr rfl ⟨if_neg hne, rfl, rfl⟩

/-- Neither the processes of the other tool nor the switches of its check change what a scan
reports of a check. -/
theorem share_switch (hne : tool ≠ other) (directory : Path) (options : ScanOptions)
    (runtime : Option RuntimeSettings) (source : SettingsSource) (host : Host)
    (on on' : Option Bool) (processes : Nat → List String → Outcome) :
    (inOrder lint deadCode first).share tool directory (options.switch on other) runtime
        (source.switch on' other) (host.withProcesses other processes) =
      (inOrder lint deadCode first).share tool directory options runtime source host := by
  obtain ⟨change, hchange, hprospect⟩ :=
    Prospect.fst_ofScan_switch directory options runtime source host other on on' processes
  unfold share
  rw [hprospect]
  cases hfound : (Prospect.ofScan directory options runtime source host).1 with
  | error fault => rfl
  | ok prospect =>
    have hplan := Prospect.plan_eq hfound
    have hwants : (prospect.replan (options.switch on other) (change prospect.settings)).plan.wants
        tool = prospect.plan.wants tool := by
      rw [hplan]
      exact ScanPlan.wants_switch hne options prospect.settings on on' hchange
    dsimp only [Except.map, bind, Except.bind]
    rw [outcome_withProcesses hne, outcome, outcome, hwants, Prospect.context_replan hplan,
      Prospect.replan, unsuppressed_change hchange]

theorem builtinShare_switch (directory : Path) (options : ScanOptions)
    (runtime : Option RuntimeSettings) (source : SettingsSource) (host : Host) (other : Tool)
    (on on' : Option Bool) (processes : Nat → List String → Outcome) :
    builtinShare directory (options.switch on other) runtime (source.switch on' other)
        (host.withProcesses other processes) =
      builtinShare directory options runtime source host := by
  obtain ⟨change, hchange, hprospect⟩ :=
    Prospect.fst_ofScan_switch directory options runtime source host other on on' processes
  unfold builtinShare
  rw [hprospect]
  cases hfound : (Prospect.ofScan directory options runtime source host).1 with
  | error fault => rfl
  | ok prospect =>
    have hown := (prospect.respects_own 0 (host.withProcesses other processes) host
      (.of_surface_eq rfl)).1
    dsimp only [Except.map, bind, Except.bind]
    rw [Prospect.own_replan (Prospect.plan_eq hfound), hown, Prospect.replan,
      unsuppressed_change hchange]

theorem diagnostics_eq_nil {checks : Checks} {prospect : Prospect} {host : Host}
    (hfailed : (checks.outcome prospect tool host).failure.isSome) :
    (checks.outcome prospect tool host).diagnostics = [] := by
  unfold outcome at *
  split at hfailed
  · rename_i hwants
    rw [if_pos hwants]
    cases hresult : (checks.of tool prospect.context host).1 with
    | ok found =>
      rw [hresult] at hfailed
      cases hfailed
    | error fault =>
      obtain ⟨why, hwhy⟩ := CheckOutcome.ofResult_error fault
      rw [hwhy]
  · cases hfailed

/-- A check that is switched off comes to nothing, and the other one to what it came to. -/
theorem outcome_switch_off (checks : Checks) {options : ScanOptions} {prospect : Prospect}
    (hplan : prospect.plan = .ofOptions options prospect.settings) (tool other : Tool)
    (host : Host) :
    checks.outcome (prospect.replan (options.switch (some false) tool) prospect.settings) other host =
      if other = tool then CheckRun.skipped.outcome else checks.outcome prospect other host := by
  split
  · rename_i heq
    subst heq
    cases other <;> rfl
  · rename_i hne
    have hwants : (prospect.replan (options.switch (some false) tool) prospect.settings).plan.wants other =
        prospect.plan.wants other := by
      rw [hplan]
      exact ScanPlan.wants_switch hne options prospect.settings (some false) none (.inl rfl)
    unfold outcome
    rw [hwants, Prospect.context_replan hplan]

end Checks

namespace Prospect

/-- Without a check that had no findings there is the same to report, but for its reason. -/
theorem examination_switch_off (checks : Checks) {options : ScanOptions} {prospect : Prospect}
    {tool : Tool} {host : Host} (hplan : prospect.plan = .ofOptions options prospect.settings)
    (hnil : (checks.outcome prospect tool host).diagnostics = []) (own : List Diagnostic) :
    (prospect.replan (options.switch (some false) tool) prospect.settings).examination
        (checks.outcome (prospect.replan (options.switch (some false) tool) prospect.settings) · host) own =
      (prospect.examination (checks.outcome prospect · host) own).map fun found =>
        { found with
          plan := .ofOptions (options.switch (some false) tool) prospect.settings
          reasons := Named.erase (Checks.label tool) found.reasons } := by
  have houtcome := funext fun other => checks.outcome_switch_off hplan tool other host
  have hdiagnostics (other : Tool) : (if other = tool then CheckRun.skipped.outcome
      else checks.outcome prospect other host).diagnostics =
        (checks.outcome prospect other host).diagnostics := by
    split
    · rename_i heq
      rw [heq, hnil]
      rfl
    · rfl
  rw [houtcome, examination, examination, ← Checks.erase_reasons, hdiagnostics, hdiagnostics]
  change Except.map _ (Except.mapError _ (unsuppressed prospect.settings _)) = _
  cases unsuppressed prospect.settings _ <;> rfl

end Prospect

/-- A scan with a failed check is the scan with that check switched off, and the reason. -/
theorem fst_scan_switch_off {lint deadCode : Option (List String)} {first : Tool} {directory : Path}
    {options : ScanOptions} {runtime : Option RuntimeSettings} {source : SettingsSource}
    {host : Host} {r : ScanResult} {tool : Tool}
    (hscan : (scan directory options runtime (Checks.inOrder lint deadCode first) source host).1 =
      .ok r) (hskipped : Checks.label tool ∈ r.skipped) :
    (scan directory (options.switch (some false) tool) runtime
      (Checks.inOrder lint deadCode first) source host).1 =
        .ok { r with reasons := Named.erase (Checks.label tool) r.reasons } := by
  obtain ⟨prospect, own, found, hprospect, hown, hfound, rfl⟩ := fst_scan_eq_ok.1 hscan
  have hplan := Prospect.plan_eq hprospect
  have hoff : (Prospect.ofScan directory (options.switch (some false) tool) runtime source host).1 =
      .ok (prospect.replan (options.switch (some false) tool) prospect.settings) := by
    have hmanifest : (options.switch (some false) tool).manifest = options.manifest := by
      cases tool <;> rfl
    rw [Prospect.fst_ofScan_replan directory runtime hmanifest
      (fun directory => source.fst_settings_id directory host), hprospect]
    rfl
  have hexamined := hfound
  obtain ⟨kept, -, rfl⟩ := except_map_eq_ok.1 hfound
  have hnil := Checks.diagnostics_eq_nil ((Checks.label_mem_skipped
    ((Checks.inOrder lint deadCode first).outcome prospect · host) tool).1 hskipped)
  have hleft := Prospect.examination_switch_off _ hplan hnil own
  rw [hexamined] at hleft
  have hown' : ((prospect.replan (options.switch (some false) tool) prospect.settings).own host).1 = .ok own := by
    rw [Prospect.own_replan hplan, hown]
  exact fst_scan_eq_ok.2 ⟨_, own, _, hoff, hown', hleft, Prospect.result_replan hplan _ _ _ _ _ _⟩

/-- What a result is made of: the findings of the checks and of the built-in one in turn, and a
reason for each check that failed. -/
structure ScanResult.IsMadeOf (r : ScanResult) (share : Tool → CheckOutcome)
    (own : List Diagnostic) : Prop where
  diagnostics : r.diagnostics =
    (share .linter).diagnostics ++ (share .deadCode).diagnostics ++ own
  reason : ∀ tool, Named.get? (Checks.label tool) r.reasons = (share tool).failure

section Scan

variable {lint deadCode : Option (List String)} {first : Tool} {directory : Path}
  {options : ScanOptions} {runtime : Option RuntimeSettings} {source : SettingsSource}
  {host : Host} {r : ScanResult}

theorem exists_isMadeOf
    (hscan : (scan directory options runtime (Checks.inOrder lint deadCode first) source host).1 =
      .ok r) :
    ∃ share own,
      (∀ tool, (Checks.inOrder lint deadCode first).share tool directory options runtime source
        host = .ok (share tool)) ∧
      Checks.builtinShare directory options runtime source host = .ok own ∧
      r.IsMadeOf share own := by
  obtain ⟨prospect, own, found, hprospect, hown, hfound, rfl⟩ := fst_scan_eq_ok.1 hscan
  obtain ⟨kept, hkept, rfl⟩ := except_map_eq_ok.1 hfound
  rw [except_mapError_eq_ok, unsuppressed_append, unsuppressed_append] at hkept
  obtain ⟨checked, hchecked, hkept⟩ := except_bind_eq_ok.1 hkept
  obtain ⟨linted, hlinted, hchecked⟩ := except_bind_eq_ok.1 hchecked
  obtain ⟨dead, hdead, hchecked⟩ := except_bind_eq_ok.1 hchecked
  obtain ⟨built, hbuilt, hkept⟩ := except_bind_eq_ok.1 hkept
  cases hchecked
  cases hkept
  refine ⟨fun tool => ⟨match tool with | .linter => linted | .deadCode => dead,
    ((Checks.inOrder lint deadCode first).outcome prospect tool host).failure⟩, built, ?_, ?_, ?_⟩
  · intro tool
    unfold Checks.share
    rw [hprospect]
    cases tool with
    | linter =>
      exact except_bind_eq_ok.2 ⟨prospect, rfl, except_bind_eq_ok.2
        ⟨linted, except_mapError_eq_ok.2 hlinted, rfl⟩⟩
    | deadCode =>
      exact except_bind_eq_ok.2 ⟨prospect, rfl, except_bind_eq_ok.2
        ⟨dead, except_mapError_eq_ok.2 hdead, rfl⟩⟩
  · unfold Checks.builtinShare
    rw [hprospect]
    exact except_bind_eq_ok.2 ⟨prospect, rfl, except_bind_eq_ok.2
      ⟨own, hown, except_mapError_eq_ok.2 hbuilt⟩⟩
  · exact ⟨rfl, Checks.get?_reasons
      ((Checks.inOrder lint deadCode first).outcome prospect · host)⟩

/-- The two checks of a scan are isolated from each other, and a failed check degrades to one that
is switched off. -/
theorem isolated_of_scan_eq_ok
    (hscan : (scan directory options runtime (Checks.inOrder lint deadCode first) source host).1 =
      .ok r) :
    -- the checks may be run in either order
    (∀ order, (scan directory options runtime (Checks.inOrder lint deadCode order) source host).1 =
      .ok r) ∧
    -- the processes of a tool and the switches of its check leave the other check's share alone
    (∃ share own,
      (∀ tool, (Checks.inOrder lint deadCode first).share tool directory options runtime source
        host = .ok (share tool)) ∧
      r.IsMadeOf share own ∧
      ∀ tool other, tool ≠ other → ∀ on on' processes r',
        (scan directory (options.switch on other) runtime (Checks.inOrder lint deadCode first)
          (source.switch on' other) (host.withProcesses other processes)).1 = .ok r' →
        ∃ share', (∀ tool, (Checks.inOrder lint deadCode first).share tool directory
            (options.switch on other) runtime (source.switch on' other)
            (host.withProcesses other processes) = .ok (share' tool)) ∧
          r'.IsMadeOf share' own ∧ share' tool = share tool) ∧
    -- a failed check is as good as one that is switched off, but for its reason
    (∀ tool, Checks.label tool ∈ r.skipped →
      (scan directory (options.switch (some false) tool) runtime
        (Checks.inOrder lint deadCode first) source host).1 =
          .ok { r with reasons := Named.erase (Checks.label tool) r.reasons }) ∧
    -- the checks that are listed are those that were run and failed
    ∃ prospect, (Prospect.ofScan directory options runtime source host).1 = .ok prospect ∧
      r.skipped = ([.linter, .deadCode].filter fun tool => prospect.plan.wants tool &&
        !((Checks.inOrder lint deadCode first).of tool prospect.context host).1.isOk).map
          Checks.label := by
  refine ⟨fun order => ?_, ?_, fun tool hskipped => fst_scan_switch_off hscan hskipped,
    skipped_eq hscan⟩
  · rw [← hscan, fst_scan, fst_scan]
    rfl
  · obtain ⟨share, own, hshare, hown, hmade⟩ := exists_isMadeOf hscan
    refine ⟨share, own, hshare, hmade, fun tool other hne on on' processes r' hscan' => ?_⟩
    obtain ⟨share', own', hshare', hown', hmade'⟩ := exists_isMadeOf hscan'
    have hsame := hshare' tool
    rw [Checks.share_switch hne, hshare] at hsame
    rw [Checks.builtinShare_switch, hown] at hown'
    cases hown'
    exact ⟨share', hshare', hmade', (Except.ok.inj hsame).symm⟩

end Scan

/-- A project whose linter complains and whose dead-code tool has nothing to say. -/
def Host.withComplaint : Host :=
  .ofProject reactManifest (fun _ => .unavailable) fun
    | .linter, _, _ => .finished (some 1) (.text "") (.text "no such rule")
    | .deadCode, _, _ => .finished (some 0) (.text "") (.text "")

/-- The failed check of a complaining linter is as good as one that is switched off. -/
theorem isolated_withComplaint : ∃ r,
    (scan .here {} none (Checks.inOrder (some ["oxlint"]) (some ["knip"]) .linter) .disk
      Host.withComplaint).1 = .ok r ∧
    r.reasons = [("lint", "Failed to run oxlint: no such rule")] ∧
    (scan .here { lint := some false } none
      (Checks.inOrder (some ["oxlint"]) (some ["knip"]) .linter) .disk Host.withComplaint).1 =
        .ok { r with reasons := [] } := by
  obtain ⟨r, hscan, hreasons⟩ := exists_eq_ok_of_any
    (show (scan .here {} none (Checks.inOrder (some ["oxlint"]) (some ["knip"]) .linter) .disk
      Host.withComplaint).1.toOption.any
        (·.reasons == [("lint", "Failed to run oxlint: no such rule")]) = true by decide +kernel)
  have hr : r.reasons = [("lint", "Failed to run oxlint: no such rule")] := eq_of_beq hreasons
  have hskipped : Checks.label .linter ∈ r.skipped := by
    simp [ScanResult.skipped, hr, Checks.label, Lint.checkLabel]
  have hoff := (isolated_of_scan_eq_ok hscan).2.2.1 .linter hskipped
  rw [hr] at hoff
  exact ⟨r, hscan, hr, hoff⟩

end Checkup
