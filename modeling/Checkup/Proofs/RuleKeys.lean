import Checkup.Proofs.Grouping

/-!
# Rules and their keys

Settings and reports know a rule by its key, the names of the plugin and of the rule with a slash
between them. Both names may hold slashes themselves, so a key can be read in more than one way:
two rules have one key when what follows a slash in the plugin of the one stands before a slash in
the name of the other. As long as no two findings overlap in this way, to ignore a rule suppresses
that rule only, and a group is of one rule.
-/

namespace Checkup

namespace Diagnostic

variable {d other : Diagnostic}

def SameRule (d other : Diagnostic) : Prop :=
  d.plugin = other.plugin ∧ d.rule = other.rule

instance : DecidableRel SameRule := fun d other =>
  inferInstanceAs (Decidable (d.plugin = other.plugin ∧ d.rule = other.rule))

/-- What follows a slash in the plugin of the first finding stands before a slash in the rule of the
other one, and the rest is alike. -/
def Overlaps (d other : Diagnostic) : Prop :=
  ∃ middle, d.plugin = other.plugin ++ "/" ++ middle ∧ other.rule = middle ++ "/" ++ d.rule

theorem SameRule.symm (hsame : d.SameRule other) : other.SameRule d :=
  ⟨hsame.1.symm, hsame.2.symm⟩

theorem SameRule.ruleKey_eq (hsame : d.SameRule other) : d.ruleKey = other.ruleKey := by
  rw [ruleKey, ruleKey, hsame.1, hsame.2]

theorem Overlaps.ruleKey_eq (hoverlaps : d.Overlaps other) : d.ruleKey = other.ruleKey := by
  obtain ⟨middle, hplugin, hrule⟩ := hoverlaps
  simp only [ruleKey, hplugin, hrule, String.append_assoc]

theorem Overlaps.not_sameRule (hoverlaps : d.Overlaps other) : ¬ d.SameRule other := by
  obtain ⟨middle, hplugin, -⟩ := hoverlaps
  rintro ⟨hsame, -⟩
  have hlength := congrArg String.length (hsame.symm.trans hplugin)
  simp only [String.length_append] at hlength
  have hslash : "/".length = 1 := rfl
  omega

theorem Overlaps.slash_mem (hoverlaps : d.Overlaps other) :
    '/' ∈ d.plugin.toList ∧ '/' ∈ other.rule.toList := by
  obtain ⟨middle, hplugin, hrule⟩ := hoverlaps
  rw [hplugin, hrule]
  simp

/-- Where the plugin of the one goes on after that of the other, it goes on with a slash. -/
theorem sameRule_or_overlaps {more : List Char}
    (hplugin : d.plugin.toList = other.plugin.toList ++ more)
    (hrule : '/' :: other.rule.toList = more ++ '/' :: d.rule.toList) :
    d.SameRule other ∨ d.Overlaps other := by
  cases more with
  | nil =>
    rw [List.append_nil] at hplugin
    exact .inl ⟨String.toList_inj.1 hplugin, (String.toList_inj.1 (List.cons.inj hrule).2).symm⟩
  | cons c middle =>
    obtain ⟨rfl, hrest⟩ := List.cons.inj hrule
    refine .inr ⟨String.ofList middle, String.toList_inj.1 ?_, String.toList_inj.1 ?_⟩
    · simpa using hplugin
    · simpa using hrest

theorem ruleKey_eq_iff : d.ruleKey = other.ruleKey ↔
    d.SameRule other ∨ d.Overlaps other ∨ other.Overlaps d := by
  constructor
  · intro hkey
    have hcharacters : d.plugin.toList ++ '/' :: d.rule.toList =
        other.plugin.toList ++ '/' :: other.rule.toList := by
      simpa [ruleKey] using congrArg String.toList hkey
    rcases List.append_eq_append_iff.1 hcharacters with
      ⟨more, hplugin, hrule⟩ | ⟨more, hplugin, hrule⟩
    · exact (sameRule_or_overlaps hplugin hrule).imp SameRule.symm .inr
    · exact (sameRule_or_overlaps hplugin hrule).imp_right .inl
  · rintro (hsame | hoverlaps | hoverlaps)
    · exact hsame.ruleKey_eq
    · exact hoverlaps.ruleKey_eq
    · exact hoverlaps.ruleKey_eq.symm

end Diagnostic

def AreApart (found : List Diagnostic) : Prop :=
  ∀ d ∈ found, ∀ other ∈ found, ¬ d.Overlaps other

variable {found : List Diagnostic}

theorem AreApart.sameRule (hapart : AreApart found) {d other : Diagnostic} (hd : d ∈ found)
    (hother : other ∈ found) (hkey : d.ruleKey = other.ruleKey) : d.SameRule other := by
  rcases Diagnostic.ruleKey_eq_iff.1 hkey with hsame | hoverlaps | hoverlaps
  · exact hsame
  · exact absurd hoverlaps (hapart d hd other hother)
  · exact absurd hoverlaps (hapart other hother d hd)

/-- Findings are apart exactly when one key never stands for two rules among them. -/
theorem areApart_iff_sameRule : AreApart found ↔
    ∀ d ∈ found, ∀ other ∈ found, d.ruleKey = other.ruleKey → d.SameRule other :=
  ⟨fun hapart _ hd _ hother => hapart.sameRule hd hother,
    fun hsame _ hd _ hother hoverlaps =>
      hoverlaps.not_sameRule (hsame _ hd _ hother hoverlaps.ruleKey_eq)⟩

theorem areApart_of_slash (hslash : (∀ d ∈ found, '/' ∉ d.plugin.toList) ∨
    ∀ d ∈ found, '/' ∉ d.rule.toList) : AreApart found := by
  intro d hd other hother hoverlaps
  rcases hslash with hplugin | hrule
  · exact hplugin d hd hoverlaps.slash_mem.1
  · exact hrule other hother hoverlaps.slash_mem.2

/-! ### Suppression -/

namespace Suppression

/-- The settings suppress, besides what the file patterns cover, the findings of the ignored rules
and no others. -/
def IgnoresOnly (found ignored : List Diagnostic) (settings : Settings) : Prop :=
  ∃ left, remaining settings found = .ok left ∧ ∀ d, d ∈ left ↔
    d ∈ found ∧ (∀ other ∈ ignored, ¬ d.SameRule other) ∧
      coversPath settings.ignoredFiles d.path = false

theorem suppresses_eq {d : Diagnostic} (hd : d.HasTextFile) (settings : Settings) :
    suppresses (some settings) d =
      (settings.ignoredRules.contains d.ruleKey || coversPath settings.ignoredFiles d.path) := by
  unfold suppresses
  rw [hd.file_eq]
  rfl

theorem mem_kept_iff (hfiles : ∀ d ∈ found, d.HasTextFile) (settings : Settings) {d : Diagnostic} :
    d ∈ kept (some settings) found ↔ d ∈ found ∧ d.ruleKey ∉ settings.ignoredRules ∧
      coversPath settings.ignoredFiles d.path = false := by
  rw [kept, List.mem_filter]
  refine and_congr_right fun hd => ?_
  rw [suppresses_eq (hfiles d hd)]
  simp

/-- Findings are apart exactly when the keys of some of them suppress the rules of these only. -/
theorem areApart_iff_ignoresOnly (hfiles : ∀ d ∈ found, d.HasTextFile) :
    AreApart found ↔ ∀ settings : Settings, ∀ ignored ⊆ found,
      settings.ignoredRules = ignored.map (·.ruleKey) → IgnoresOnly found ignored settings := by
  constructor
  · intro hapart settings ignored hignored hrules
    refine ⟨_, remaining_eq_kept hfiles settings, fun d => ?_⟩
    rw [mem_kept_iff hfiles, hrules]
    refine and_congr_right fun hd => and_congr_left fun _ => ?_
    rw [List.mem_map, not_exists]
    refine forall_congr' fun other => ?_
    rw [not_and]
    refine forall_congr' fun hother => not_congr ⟨fun hkey => ?_, fun hsame => ?_⟩
    · exact hapart.sameRule hd (hignored hother) hkey.symm
    · exact hsame.ruleKey_eq.symm
  · intro honly d hd other hother hoverlaps
    let settings : Settings := { ignoredRules := [other.ruleKey] }
    obtain ⟨left, hleft, hmem⟩ := honly settings [other] (by simpa using hother) rfl
    obtain rfl := Except.ok.inj ((remaining_eq_kept hfiles settings).symm.trans hleft)
    have hstays : d ∈ kept (some settings) found :=
      (hmem d).2 ⟨hd, List.forall_mem_singleton.2 hoverlaps.not_sameRule, rfl⟩
    exact ((mem_kept_iff hfiles settings).1 hstays).2.1
      (List.mem_singleton.2 hoverlaps.ruleKey_eq)

end Suppression

/-! ### Groups -/

namespace Report.Group

def IsOfOneRule (group : Group) : Prop :=
  ∀ d ∈ group.members, ∀ other ∈ group.members, d.SameRule other

/-- Findings are apart exactly when each of their groups is of one rule. -/
theorem areApart_iff_isOfOneRule {groups : List Group} (hgrouping : IsGrouping found groups) :
    AreApart found ↔ ∀ group ∈ groups, group.IsOfOneRule := by
  constructor
  · intro hapart group hgroup d hd other hother
    obtain ⟨hd, hkey⟩ := (hgrouping.mem_members_iff hgroup).1 hd
    obtain ⟨hother, hkey'⟩ := (hgrouping.mem_members_iff hgroup).1 hother
    exact hapart.sameRule hd hother (hkey.trans hkey'.symm)
  · intro hone d hd other hother hoverlaps
    obtain ⟨group, hgroup, hmember⟩ := hgrouping.exists_mem_members hd
    have hkey := ((hgrouping.mem_members_iff hgroup).1 hmember).2
    have hother' := (hgrouping.mem_members_iff hgroup).2
      ⟨hother, hoverlaps.ruleKey_eq.symm.trans hkey⟩
    exact hoverlaps.not_sameRule (hone group hgroup d hmember other hother')

end Report.Group

/-! ### Findings of the linter -/

namespace Lint

def IsReported (d : Diagnostic) : Prop :=
  ∃ output reported, parseReport output = .ok reported ∧ d ∈ reported

theorem IsReported.isOfEntry {d : Diagnostic} : IsReported d → IsOfEntry d := by
  rintro ⟨output, reported, hreported, hd⟩
  exact gives_parseReport output reported hreported d hd

end Lint

/-- One key stands for two rules among findings of the linter exactly when two of them overlap, and
then a rule is suppressed for the sake of another one, and two rules share a group. None overlap
where no plugin, or no rule, has a slash in its name. -/
theorem areApart_iff (hreported : ∀ d ∈ found, Lint.IsReported d) :
    (AreApart found ↔
      ∀ d ∈ found, ∀ other ∈ found, d.ruleKey = other.ruleKey → d.SameRule other) ∧
    (AreApart found ↔ ∀ settings : Settings, ∀ ignored ⊆ found,
      settings.ignoredRules = ignored.map (·.ruleKey) →
        Suppression.IgnoresOnly found ignored settings) ∧
    (∃ groups, Report.Group.ofDiagnostics found = .ok groups ∧
      Report.Group.IsGrouping found groups ∧
      (AreApart found ↔ ∀ group ∈ groups, group.IsOfOneRule)) ∧
    ((∀ d ∈ found, '/' ∉ d.plugin.toList) ∨ (∀ d ∈ found, '/' ∉ d.rule.toList) →
      AreApart found) := by
  have hfiles : ∀ d ∈ found, d.HasTextFile := fun d hd => (hreported d hd).isOfEntry.hasTextFile
  have hcounted : ∀ d ∈ found, d.IsCounted :=
    fun d hd => (hreported d hd).isOfEntry.isWellFormed.severity
  have hgrouping := Report.Group.isGrouping_errorsFirst found
  exact ⟨areApart_iff_sameRule, Suppression.areApart_iff_ignoresOnly hfiles,
    ⟨_, Report.Group.ofDiagnostics_eq_ok hcounted, hgrouping,
      Report.Group.areApart_iff_isOfOneRule hgrouping⟩, areApart_of_slash⟩

namespace Lint

def codesReport (codes : List String) : String :=
  "\x7b\"diagnostics\":[" ++ String.intercalate "," (codes.map fun code =>
    "\x7b\"code\":\"" ++ code ++ "\",\"filename\":\"App.tsx\"\x7d") ++ "]\x7d"

end Lint

/-- Two rules of one name in two plugins are apart, and to ignore one of them leaves the other. -/
theorem areApart_withTwoPlugins : ∃ found,
    Lint.parseReport (Lint.codesReport ["react(no-danger)", "solid(no-danger)"]) = .ok found ∧
    AreApart found ∧ found.map (·.ruleKey) = ["react/no-danger", "solid/no-danger"] ∧
    Suppression.IgnoresOnly found (found.take 1) { ignoredRules := ["react/no-danger"] } := by
  obtain ⟨found, hfound, htest⟩ := exists_eq_ok_of_any
    (show (Lint.parseReport
        (Lint.codesReport ["react(no-danger)", "solid(no-danger)"])).toOption.any (fun found =>
        found.map (·.ruleKey) == ["react/no-danger", "solid/no-danger"] &&
          found.all fun d => !d.rule.toList.contains '/') = true by decide +kernel)
  simp only [Bool.and_eq_true, beq_iff_eq, List.all_eq_true, Bool.not_eq_true',
    List.contains_eq_mem, decide_eq_false_iff_not] at htest
  obtain ⟨hkeys, hslash⟩ := htest
  obtain ⟨-, hignores, -, hapart⟩ := areApart_iff fun d hd => ⟨_, found, hfound, hd⟩
  have hfoundApart := hapart (.inr hslash)
  refine ⟨found, hfound, hfoundApart, hkeys, ?_⟩
  refine hignores.1 hfoundApart _ _ (List.take_subset ..) ?_
  rw [List.map_take, hkeys]
  rfl

/-- The indentation rule of one plugin, and a rule of another one that has the name of the first
one's plugin before its own. They have one key and share a group, and to ignore the one ignores the
other. -/
theorem ruleKey_withSlashes : ∃ d other groups,
    Lint.parseReport (Lint.codesReport ["@stylistic/ts(indent)", "@stylistic(ts/indent)"]) =
      .ok [d, other] ∧
    d.ruleKey = other.ruleKey ∧ ¬ d.SameRule other ∧
    Suppression.remaining { ignoredRules := [d.ruleKey] } [d, other] = .ok [] ∧
    Report.Group.ofDiagnostics [d, other] = .ok groups ∧ groups.map (·.size) = [2] := by
  obtain ⟨found, hfound, htest⟩ := exists_eq_ok_of_any
    (show (Lint.parseReport (Lint.codesReport
        ["@stylistic/ts(indent)", "@stylistic(ts/indent)"])).toOption.any (fun found =>
      found.map (·.ruleKey) == ["@stylistic/ts/indent", "@stylistic/ts/indent"] &&
        found.map (·.rule) == ["indent", "ts/indent"] &&
        (Suppression.remaining { ignoredRules := ["@stylistic/ts/indent"] } found).toOption.any
          List.isEmpty &&
        (Report.Group.ofDiagnostics found).toOption.any (·.map (·.size) == [2])) = true by
      decide +kernel)
  simp only [Bool.and_eq_true, beq_iff_eq] at htest
  obtain ⟨⟨⟨hkeys, hrules⟩, hleft⟩, hgroups⟩ := htest
  obtain ⟨left, hleft, hnone⟩ := exists_eq_ok_of_any hleft
  obtain rfl := List.isEmpty_iff.1 hnone
  obtain ⟨groups, hgroups, hsizes⟩ := exists_eq_ok_of_any hgroups
  obtain ⟨d, found, rfl, hkey, hkeys⟩ := List.map_eq_cons_iff.1 hkeys
  obtain ⟨other, found, rfl, hkey', hkeys⟩ := List.map_eq_cons_iff.1 hkeys
  obtain rfl := List.map_eq_nil_iff.1 hkeys
  obtain ⟨hrule, hrules⟩ := List.cons.inj hrules
  have hrule' := (List.cons.inj hrules).1
  refine ⟨d, other, groups, hfound, hkey.trans hkey'.symm, ?_, by rwa [hkey], hgroups,
    by simpa using hsizes⟩
  rintro ⟨-, hsame⟩
  exact absurd (hrule.symm.trans (hsame.trans hrule')) (by decide)

end Checkup
