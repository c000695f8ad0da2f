import Mathlib.Data.List.Chain
import Mathlib.Data.List.Nodup
import Mathlib.Data.List.Perm.Subperm
import Checkup.Proofs.Console
import Checkup.Proofs.Directories
import Checkup.Proofs.Grouping

/-!
# Summaries of rules

A report gives every rule a file, named after the key of the rule with two hyphens for each slash.
The files are written one after the other, and nothing looks whether a name was taken before. So
every rule keeps its summary as long as the names are as many as the keys; where two keys come to
one name, the directory has a file less, and the summary that was written last is in it.
-/

namespace Checkup

theorem length_eraseDups_eq_iff {texts : List String} :
    texts.eraseDups.length = texts.length ↔ texts.Nodup := by
  have hnodup := nodup_eraseDups texts
  constructor
  · intro hlength
    have hsub : texts.eraseDups.Subperm texts :=
      hnodup.subperm fun text htext => List.mem_eraseDups.1 htext
    exact (hsub.perm_of_length_le (Nat.le_of_eq hlength.symm)).nodup_iff.1 hnodup
  · intro htexts
    exact ((List.perm_ext_iff_of_nodup hnodup htexts).2 fun _ => List.mem_eraseDups).length_eq

/-! ### Values set one after the other -/

namespace Named

variable {ι α : Type} (name : ι → String) (value : ι → α)

/-- The entries with the value of each item set under its name, one item after the other. -/
def setEach (items : List ι) (entries : List (String × α)) : List (String × α) :=
  items.foldl (fun entries item => set (name item) (value item) entries) entries

theorem map_fst_set (key : String) (new : α) (entries : List (String × α)) :
    (set key new entries).map (·.1) =
      if key ∈ entries.map (·.1) then entries.map (·.1) else entries.map (·.1) ++ [key] := by
  induction entries with
  | nil => rfl
  | cons entry rest ih =>
    by_cases hkey : entry.1 = key
    · simp [set, hkey]
    · by_cases hrest : key ∈ rest.map (·.1) <;> simp_all [set, Ne.symm hkey]

variable {name value}

theorem map_fst_setEach (items : List ι) :
    (setEach name value items []).map (·.1) = (items.map name).eraseDups := by
  induction items using List.reverseRecOn with
  | nil => rfl
  | append_singleton items item ih =>
    have hmem : name item ∈ (setEach name value items []).map (·.1) ↔
        name item ∈ items.map name := by
      rw [ih, List.mem_eraseDups]
    rw [List.map_append, List.map_singleton, eraseDups_concat, ← ih]
    simp only [← hmem]
    rw [setEach, List.foldl_append]
    exact map_fst_set _ _ _

theorem get?_setEach {item : ι} {before after : List ι}
    (hlast : ∀ other ∈ after, name other ≠ name item) (entries : List (String × α)) :
    get? (name item) (setEach name value (before ++ item :: after) entries) =
      some (value item) := by
  have hafter (more : List (String × α)) :
      get? (name item) (setEach name value after more) = get? (name item) more := by
    induction after generalizing more with
    | nil => rfl
    | cons other after ih =>
      obtain ⟨hother, hrest⟩ := List.forall_mem_cons.1 hlast
      exact (ih hrest _).trans (get?_set_of_ne (Ne.symm hother) _ _)
  rw [setEach, List.foldl_append, List.foldl_cons]
  exact (hafter _).trans (get?_set_self ..)

end Named

namespace Report

/-! ### Names of summaries -/

def IsTextName (name : String) : Prop :=
  ".txt".toList <:+ name.toList

instance : DecidablePred IsTextName := fun name =>
  inferInstanceAs (Decidable (".txt".toList <:+ name.toList))

/-- No hyphen of the text stands right before another hyphen or a slash. -/
def IsPlain (cs : List Char) : Prop :=
  cs.IsChain fun c d => c = '-' → d ≠ '-' ∧ d ≠ '/'

instance : DecidablePred IsPlain := fun cs =>
  inferInstanceAs (Decidable (cs.IsChain fun c d => c = '-' → d ≠ '-' ∧ d ≠ '/'))

/-- Two hyphens in a row, read from the left, as a slash. -/
def unflatten : List Char → List Char
  | '-' :: '-' :: rest => '/' :: unflatten rest
  | c :: rest => c :: unflatten rest
  | [] => []

theorem flatten_cons (c : Char) (cs : List Char) :
    flatten (c :: cs) = (if c == '/' then ['-', '-'] else [c]) ++ flatten cs :=
  rfl

theorem unflatten_flatten {cs : List Char} (hplain : IsPlain cs) : unflatten (flatten cs) = cs := by
  induction cs with
  | nil => rfl
  | cons c cs ih =>
    have hrest := ih hplain.tail
    rw [flatten_cons]
    by_cases hslash : c = '/'
    · subst hslash
      exact congrArg ('/' :: ·) hrest
    rw [if_neg (by simpa using hslash), List.singleton_append, unflatten.eq_2, hrest]
    -- A hyphen would be read together with a second one, which does not follow it.
    rintro rest rfl hnext
    cases cs with
    | nil => cases hnext
    | cons d cs =>
      obtain ⟨hhyphen, hslash⟩ := (List.isChain_cons_cons.1 hplain).1 rfl
      rw [flatten_cons, if_neg (by simpa using hslash)] at hnext
      exact hhyphen (List.cons.inj hnext).1

theorem slash_notMem_flatten (cs : List Char) : '/' ∉ flatten cs := by
  unfold flatten
  rw [List.mem_flatMap]
  rintro ⟨c, -, hc⟩
  split at hc
  · exact absurd hc (by decide)
  · rename_i hne
    rw [List.mem_singleton] at hc
    exact hne (beq_iff_eq.2 hc.symm)

theorem nul_notMem_flatten {cs : List Char} (hnul : '\x00' ∉ cs) : '\x00' ∉ flatten cs := by
  unfold flatten
  rw [List.mem_flatMap]
  rintro ⟨c, hmem, hc⟩
  split at hc
  · exact absurd hc (by decide)
  · exact hnul (List.mem_singleton.1 hc ▸ hmem)

theorem toList_summaryName (key : String) :
    (summaryName key).toList = flatten key.toList ++ ".txt".toList := by
  rw [summaryName, String.toList_append, String.toList_ofList]

theorem isTextName_summaryName (key : String) : IsTextName (summaryName key) :=
  ⟨_, (toList_summaryName key).symm⟩

theorem summaryName_injOn {key other : String} (hkey : IsPlain key.toList)
    (hother : IsPlain other.toList) (hname : summaryName key = summaryName other) :
    key = other := by
  have hcharacters := congrArg String.toList hname
  rw [toList_summaryName, toList_summaryName] at hcharacters
  have hflat := congrArg unflatten (List.append_cancel_right hcharacters)
  rw [unflatten_flatten hkey, unflatten_flatten hother] at hflat
  exact String.toList_inj.1 hflat

theorem isFileName_summaryName {key : String} (hnul : '\x00' ∉ key.toList)
    (hsize : Text.Utf8.size (summaryName key) ≤ Node.nameLimit) :
    Path.IsFileName (summaryName key) := by
  have hne (short : String) (hlength : short.toList.length < 4) : summaryName key ≠ short := by
    rintro rfl
    rw [toList_summaryName, List.length_append] at hlength
    exact absurd hlength (Nat.not_lt.2 (Nat.le_add_left ..))
  constructor
  · rw [toList_summaryName, List.mem_append, not_or]
    exact ⟨slash_notMem_flatten _, by decide⟩
  · rw [toList_summaryName, List.mem_append, not_or]
    exact ⟨nul_notMem_flatten hnul, by decide⟩
  · exact hne "" (by decide)
  · exact hne "." (by decide)
  · exact hne ".." (by decide)
  · exact hsize

theorem isFileName_findingsName : Path.IsFileName findingsName := by
  constructor <;> decide

/-! ### The rules of a report -/

namespace Group.IsGrouping

variable {diagnostics : List Diagnostic} {groups : List Group}

theorem first (hgrouping : IsGrouping diagnostics groups) {group : Group}
    (hgroup : group ∈ groups) :
    group.first ∈ diagnostics ∧ group.first.ruleKey = group.key :=
  (hgrouping.mem_members_iff hgroup).1 List.mem_cons_self

theorem mem_map_key_iff (hgrouping : IsGrouping diagnostics groups) {key : String} :
    key ∈ groups.map (·.key) ↔ ∃ d ∈ diagnostics, d.ruleKey = key := by
  rw [List.mem_map]
  constructor
  · rintro ⟨group, hgroup, rfl⟩
    exact ⟨group.first, hgrouping.first hgroup⟩
  · rintro ⟨d, hd, rfl⟩
    obtain ⟨group, hgroup, hmember⟩ := hgrouping.exists_mem_members hd
    exact ⟨group, hgroup, ((hgrouping.mem_members_iff hgroup).1 hmember).2.symm⟩

theorem length_eq (hgrouping : IsGrouping diagnostics groups) :
    groups.length = (diagnostics.map (·.ruleKey)).eraseDups.length := by
  have hnodup := nodup_eraseDups (diagnostics.map (·.ruleKey))
  have hperm : (groups.map (·.key)).Perm (diagnostics.map (·.ruleKey)).eraseDups := by
    refine (List.perm_ext_iff_of_nodup hgrouping.distinct hnodup).2 fun key => ?_
    rw [hgrouping.mem_map_key_iff, List.mem_eraseDups, List.mem_map]
  rw [← hperm.length_eq, List.length_map]

end Group.IsGrouping

/-- Rules with different keys have summaries with different names. -/
def HaveOwnNames (diagnostics : List Diagnostic) : Prop :=
  ∀ d ∈ diagnostics, ∀ other ∈ diagnostics,
    summaryName d.ruleKey = summaryName other.ruleKey → d.ruleKey = other.ruleKey

theorem haveOwnNames_of_isPlain {diagnostics : List Diagnostic}
    (hplain : ∀ d ∈ diagnostics, IsPlain d.ruleKey.toList) : HaveOwnNames diagnostics :=
  fun d hd other hother => summaryName_injOn (hplain d hd) (hplain other hother)

theorem nodup_summaryNames_iff {diagnostics : List Diagnostic} {groups : List Group}
    (hgrouping : Group.IsGrouping diagnostics groups) :
    (groups.map fun group => summaryName group.key).Nodup ↔ HaveOwnNames diagnostics := by
  have hnames : groups.map (fun group => summaryName group.key) =
      (groups.map (·.key)).map summaryName := by
    rw [List.map_map]
    rfl
  rw [hnames, List.nodup_map_iff_inj_on hgrouping.distinct]
  constructor
  · intro hkeys d hd other hother
    exact hkeys _ (hgrouping.mem_map_key_iff.2 ⟨d, hd, rfl⟩) _
      (hgrouping.mem_map_key_iff.2 ⟨other, hother, rfl⟩)
  · intro hown key hkey other hother
    obtain ⟨d, hd, rfl⟩ := hgrouping.mem_map_key_iff.1 hkey
    obtain ⟨e, he, rfl⟩ := hgrouping.mem_map_key_iff.1 hother
    exact hown d hd e he

/-! ### The files of a report -/

def summaryText (group : Group) : String :=
  (summary group).toOption.getD ""

theorem summary_of_isGrouping {diagnostics : List Diagnostic} {groups : List Group}
    (hgrouping : Group.IsGrouping diagnostics groups)
    (hfiles : ∀ d ∈ diagnostics, d.HasTextFile) :
    ∀ group ∈ groups, summary group = .ok (summaryText group) := by
  intro group hgroup
  have htexts : ∀ d ∈ group.members, d.HasTextFile :=
    fun d hd => hfiles d ((hgrouping.mem_members_iff hgroup).1 hd).1
  unfold summaryText summary
  rw [FileLines.ofDiagnostics_eq_places htexts]
  rfl

/-- The files of a report: the summaries, one after the other, and all findings. -/
def files (diagnostics : List Diagnostic) (groups : List Group) : List (String × String) :=
  Named.set findingsName (findingsText diagnostics)
    (Named.setEach (fun group => summaryName group.key) summaryText groups [])

def place (parent : Option Path) (host : Host) : Path :=
  (parent.getD host.temporary) / directoryName (host.reports + 1)

/-- The directory can be made, and the summaries have names that the system allows in it. -/
structure CanHold (host : Host) (directory : Path) (diagnostics : List Diagnostic) : Prop where
  made : ∃ made, host.makeDirectory directory = .ok made
  room : Text.Utf8.size directory.text + 1 + Node.nameLimit ≤ Host.pathLimit
  nul : ∀ d ∈ diagnostics, '\x00' ∉ d.plugin.toList ∧ '\x00' ∉ d.rule.toList
  size : ∀ d ∈ diagnostics, Text.Utf8.size (summaryName d.ruleKey) ≤ Node.nameLimit

section Write

variable {host : Host} {directory : Path} {diagnostics : List Diagnostic}

theorem writeText_fileIn {held : List (String × String)} {name : String}
    (hroom : Text.Utf8.size directory.text + 1 + Node.nameLimit ≤ Host.pathLimit)
    (hheld : host.HoldsFiles directory held) (hname : Path.IsFileName name) (text : String) :
    ∃ tree, Run.writeText (fileIn directory name) text host = (.ok (), { host with tree }) ∧
      Host.HoldsFiles { host with tree } directory (Named.set name text held) := by
  have hpath : Text.Utf8.size (directory / name).text ≤ Host.pathLimit := by
    have htext := hname.size_text_div_le directory
    have hsize := hname.size
    omega
  obtain ⟨tree, hwrite, hholds⟩ := Host.write_of_holdsFiles hheld hname hpath text
  exact ⟨tree, Run.writeText_of_eq_ok hwrite, hholds⟩

theorem writeSummaries_apply {held : List (String × String)} {groups : List Group}
    (hroom : Text.Utf8.size directory.text + 1 + Node.nameLimit ≤ Host.pathLimit)
    (hheld : host.HoldsFiles directory held)
    (hnames : ∀ group ∈ groups, Path.IsFileName (summaryName group.key))
    (htexts : ∀ group ∈ groups, summary group = .ok (summaryText group)) :
    ∃ tree, writeSummaries directory groups host = (.ok (), { host with tree }) ∧
      Host.HoldsFiles { host with tree } directory
        (Named.setEach (fun group => summaryName group.key) summaryText groups held) := by
  induction groups generalizing host held with
  | nil => exact ⟨host.tree, rfl, hheld⟩
  | cons group rest ih =>
    obtain ⟨hname, hrestNames⟩ := List.forall_mem_cons.1 hnames
    obtain ⟨htext, hrestTexts⟩ := List.forall_mem_cons.1 htexts
    obtain ⟨tree, hwrite, hholds⟩ := writeText_fileIn hroom hheld hname (summaryText group)
    obtain ⟨done, hrest, hdone⟩ := ih hholds hrestNames hrestTexts
    refine ⟨done, ?_, hdone⟩
    rw [writeSummaries, htext]
    exact (Run.bind_of_ok hwrite).trans hrest

theorem isFileName_of_canHold {groups : List Group} (hholds : CanHold host directory diagnostics)
    (hgrouping : Group.IsGrouping diagnostics groups) :
    ∀ group ∈ groups, Path.IsFileName (summaryName group.key) := by
  intro group hgroup
  obtain ⟨hmem, hkey⟩ := hgrouping.first hgroup
  obtain ⟨hplugin, hrule⟩ := hholds.nul _ hmem
  rw [← hkey]
  refine isFileName_summaryName ?_ (hholds.size _ hmem)
  simp [Diagnostic.ruleKey, hplugin, hrule]

/-- A report is written into a directory that can be made, and the directory holds its files. -/
theorem write_eq_ok {groups : List Group} {parent : Option Path}
    (hgroups : Group.ofDiagnostics diagnostics = .ok groups)
    (hgrouping : Group.IsGrouping diagnostics groups)
    (htexts : ∀ group ∈ groups, summary group = .ok (summaryText group))
    (hholds : CanHold host (place parent host) diagnostics) :
    ∃ after, write diagnostics parent host = (.ok (some (place parent host)), after) ∧
      after.HoldsFiles (place parent host) (files diagnostics groups) := by
  obtain ⟨made, hmade⟩ := hholds.made
  -- To count the report is no change that the file tree shows.
  let counted : Host := { host with reports := host.reports + 1 }
  have hsurface : host.surface = counted.surface := rfl
  obtain ⟨fault, herror, -⟩ | ⟨tree, hmake, hmakeCounted⟩ :=
    Host.isEdit_makeDirectory (place parent host) hsurface
  · cases hmade.symm.trans herror
  obtain ⟨-, -, -, hempty⟩ := Host.makeDirectory_eq_ok hmakeCounted
  obtain ⟨full, hsummaries, hfull⟩ := writeSummaries_apply hholds.room hempty
    (isFileName_of_canHold hholds hgrouping) htexts
  obtain ⟨done, hfindings, hdone⟩ :=
    writeText_fileIn hholds.room hfull isFileName_findingsName (findingsText diagnostics)
  refine ⟨_, ?_, hdone⟩
  have hinto : writeInto (place parent host) diagnostics counted =
      (.ok (), { counted with tree := done }) := by
    unfold writeInto
    rw [Run.bind_of_ok (Run.makeDirectory_of_eq_ok hmakeCounted), hgroups]
    exact (Run.bind_of_ok hsummaries).trans hfindings
  have hfresh : freshDirectory parent host = (.ok (place parent host), counted) := rfl
  unfold write
  rw [Run.bind_of_ok hfresh, Run.bind_of_ok (Run.attempt_apply _ _), hinto]
  rfl

end Write

/-! ### What the directory holds -/

section Files

variable {diagnostics : List Diagnostic} {groups : List Group}

def summaryNames (groups : List Group) : List String :=
  (groups.map fun group => summaryName group.key).eraseDups

theorem isTextName_of_mem {name : String} (hname : name ∈ summaryNames groups) :
    IsTextName name := by
  obtain ⟨group, -, rfl⟩ := List.mem_map.1 (List.mem_eraseDups.1 hname)
  exact isTextName_summaryName group.key

theorem findingsName_notMem (groups : List Group) : findingsName ∉ summaryNames groups :=
  fun hname => absurd (isTextName_of_mem hname) (by decide)

theorem map_fst_files (diagnostics : List Diagnostic) (groups : List Group) :
    (files diagnostics groups).map (·.1) = summaryNames groups ++ [findingsName] := by
  rw [files, Named.map_fst_set, Named.map_fst_setEach, ← summaryNames,
    if_neg (findingsName_notMem groups)]

theorem nodup_map_fst_files (diagnostics : List Diagnostic) (groups : List Group) :
    ((files diagnostics groups).map (·.1)).Nodup := by
  rw [map_fst_files, ← List.concat_eq_append]
  exact (nodup_eraseDups _).concat (findingsName_notMem groups)

theorem eq_or_isTextName_of_mem_files {entry : String × String}
    (hentry : entry ∈ files diagnostics groups) : entry.1 = findingsName ∨ IsTextName entry.1 := by
  have hname : entry.1 ∈ (files diagnostics groups).map (·.1) := List.mem_map_of_mem hentry
  rw [map_fst_files, List.mem_append, List.mem_singleton] at hname
  exact hname.symm.imp_right isTextName_of_mem

theorem countP_isTextName_files (diagnostics : List Diagnostic) (groups : List Group) :
    (files diagnostics groups).countP (fun entry => IsTextName entry.1) =
      (summaryNames groups).length := by
  have hcount : (files diagnostics groups).countP (fun entry => IsTextName entry.1) =
      ((files diagnostics groups).map (·.1)).countP (fun name => IsTextName name) := by
    rw [List.countP_map]
    rfl
  have hall : ∀ name ∈ summaryNames groups, decide (IsTextName name) = true :=
    fun name hname => decide_eq_true (isTextName_of_mem hname)
  have hfindings : [findingsName].countP (fun name => IsTextName name) = 0 := by decide
  rw [hcount, map_fst_files, List.countP_append, List.countP_eq_length.2 hall, hfindings,
    Nat.add_zero]

theorem findings_mem_files (diagnostics : List Diagnostic) (groups : List Group) :
    (findingsName, findingsText diagnostics) ∈ files diagnostics groups :=
  Named.mem_of_get?_eq_some (Named.get?_set_self ..)

theorem summary_mem_files {group : Group} {before after : List Group}
    (hlast : ∀ other ∈ after, summaryName other.key ≠ summaryName group.key) :
    (summaryName group.key, summaryText group) ∈ files diagnostics (before ++ group :: after) := by
  have hne : summaryName group.key ≠ findingsName := fun hname =>
    absurd (hname ▸ isTextName_summaryName group.key) (by decide)
  refine Named.mem_of_get?_eq_some ?_
  rw [files, Named.get?_set_of_ne hne]
  exact Named.get?_setEach hlast []

end Files

/-- The files have one text file for each rule, and each group has its summary in one of them. -/
structure HasSummaries (diagnostics : List Diagnostic) (groups : List Group)
    (held : List (String × String)) : Prop where
  count : held.countP (fun entry => IsTextName entry.1) =
    (diagnostics.map (·.ruleKey)).eraseDups.length
  summaries : ∀ group ∈ groups, ∃ name text, summary group = .ok text ∧ IsTextName name ∧
    (name, text) ∈ held

theorem haveOwnNames_iff {diagnostics : List Diagnostic} {groups : List Group}
    (hgrouping : Group.IsGrouping diagnostics groups)
    (htexts : ∀ group ∈ groups, summary group = .ok (summaryText group)) :
    HaveOwnNames diagnostics ↔ HasSummaries diagnostics groups (files diagnostics groups) := by
  have hcount : (files diagnostics groups).countP (fun entry => IsTextName entry.1) =
      (diagnostics.map (·.ruleKey)).eraseDups.length ↔ HaveOwnNames diagnostics := by
    rw [countP_isTextName_files, summaryNames, ← hgrouping.length_eq,
      ← nodup_summaryNames_iff hgrouping, ← length_eraseDups_eq_iff, List.length_map]
  constructor
  · intro hown
    refine ⟨hcount.2 hown, fun group hgroup => ⟨_, _, htexts group hgroup,
      isTextName_summaryName group.key, ?_⟩⟩
    obtain ⟨before, after, rfl⟩ := List.append_of_mem hgroup
    refine summary_mem_files fun other hother hname => ?_
    have hnodup := (nodup_summaryNames_iff hgrouping).2 hown
    rw [List.map_append, List.map_cons] at hnodup
    have hgroup := (List.nodup_cons.1 (List.nodup_append.1 hnodup).2.1).1
    exact hgroup (List.mem_map.2 ⟨other, hother, hname⟩)
  · exact fun hsummaries => hcount.1 hsummaries.count

/-- A report of counted findings in files, written where a directory for it can be made, holds all
findings and summaries, and nothing else: of each group the summary, unless a later one has the
same name. So it has one summary for each rule exactly when rules with different keys have
different names there, as they do when no hyphen in a key stands right before another hyphen or a
slash. -/
theorem exists_write_eq {diagnostics : List Diagnostic} {parent : Option Path} {host : Host}
    (hcounted : ∀ d ∈ diagnostics, d.IsCounted) (hfiles : ∀ d ∈ diagnostics, d.HasTextFile)
    (hholds : CanHold host (place parent host) diagnostics) :
    ∃ groups held after, Group.ofDiagnostics diagnostics = .ok groups ∧
      Group.IsGrouping diagnostics groups ∧
      write diagnostics parent host = (.ok (some (place parent host)), after) ∧
      after.HoldsFiles (place parent host) held ∧
      (held.map (·.1)).Nodup ∧ (findingsName, findingsText diagnostics) ∈ held ∧
      (∀ entry ∈ held, entry.1 = findingsName ∨ IsTextName entry.1) ∧
      (∀ before group later, groups = before ++ group :: later →
        (∀ other ∈ later, summaryName other.key ≠ summaryName group.key) →
        ∃ text, summary group = .ok text ∧ (summaryName group.key, text) ∈ held) ∧
      (HaveOwnNames diagnostics ↔ HasSummaries diagnostics groups held) ∧
      ((∀ d ∈ diagnostics, IsPlain d.ruleKey.toList) → HaveOwnNames diagnostics) := by
  have hgrouping := Group.isGrouping_errorsFirst diagnostics
  have hgroups := Group.ofDiagnostics_eq_ok hcounted
  generalize (Group.collect diagnostics).filter (·.first.isError) ++
    (Group.collect diagnostics).filter (!·.first.isError) = groups at hgrouping hgroups
  have htexts := summary_of_isGrouping hgrouping hfiles
  obtain ⟨after, hwrite, hheld⟩ := write_eq_ok hgroups hgrouping htexts hholds
  refine ⟨groups, files diagnostics groups, after, hgroups, hgrouping, hwrite, hheld,
    nodup_map_fst_files _ _, findings_mem_files _ _, fun _ => eq_or_isTextName_of_mem_files, ?_,
    haveOwnNames_iff hgrouping htexts, haveOwnNames_of_isPlain⟩
  rintro before group later rfl hlast
  exact ⟨_, htexts group (by simp), summary_mem_files hlast⟩

/-- Findings of the rule on indentation in several plugins. -/
def ofPlugins (plugins : List String) : List Diagnostic :=
  plugins.map fun plugin =>
    { (default : Diagnostic) with
      plugin, rule := "indent", severity := .warning, file := .text "src/App.tsx" }

theorem isCounted_ofPlugins (plugins : List String) :
    ∀ d ∈ ofPlugins plugins, d.IsCounted ∧ d.HasTextFile := by
  intro d hd
  obtain ⟨plugin, -, rfl⟩ := List.mem_map.1 hd
  exact ⟨.inr rfl, _, rfl⟩

theorem canHold_ofPlugins (plugins : List String)
    (hnul : ∀ plugin ∈ plugins, '\x00' ∉ plugin.toList)
    (hsize : ∀ d ∈ ofPlugins plugins, Text.Utf8.size (summaryName d.ruleKey) ≤ Node.nameLimit) :
    CanHold Host.withNumberedFile (place none Host.withNumberedFile) (ofPlugins plugins) where
  made := exists_eq_ok_of_isOk (by decide +kernel)
  room := by decide +kernel
  nul := by
    intro d hd
    obtain ⟨plugin, hplugin, rfl⟩ := List.mem_map.1 hd
    exact ⟨hnul plugin hplugin, (by decide : '\x00' ∉ "indent".toList)⟩
  size := hsize

/-- The rules of two plugins have a summary each, also where one of them has a slash in its name. -/
theorem exists_write_withTwoPlugins : ∃ groups held after,
    (∀ d ∈ ofPlugins ["@stylistic/ts", "vue"], d.IsCounted ∧ d.HasTextFile) ∧
    CanHold Host.withNumberedFile (place none Host.withNumberedFile)
      (ofPlugins ["@stylistic/ts", "vue"]) ∧
    Group.ofDiagnostics (ofPlugins ["@stylistic/ts", "vue"]) = .ok groups ∧
    write (ofPlugins ["@stylistic/ts", "vue"]) none Host.withNumberedFile =
      (.ok (some (place none Host.withNumberedFile)), after) ∧
    after.HoldsFiles (place none Host.withNumberedFile) held ∧
    HasSummaries (ofPlugins ["@stylistic/ts", "vue"]) groups held := by
  have hformed := isCounted_ofPlugins ["@stylistic/ts", "vue"]
  have hholds := canHold_ofPlugins ["@stylistic/ts", "vue"] (by decide) (by decide +kernel)
  obtain ⟨groups, held, after, hgroups, -, hwrite, hheld, -, -, -, -, hown, hplain⟩ :=
    exists_write_eq (fun d hd => (hformed d hd).1) (fun d hd => (hformed d hd).2) hholds
  exact ⟨groups, held, after, hformed, hholds, hgroups, hwrite, hheld,
    hown.1 (hplain (by decide +kernel))⟩

/-- A plugin with a slash in its name and one with two hyphens in the same place: of their two rules
one summary is left. -/
theorem write_withSlashAndHyphens : ∃ groups held after,
    (∀ d ∈ ofPlugins ["@stylistic/ts", "@stylistic--ts"], d.IsCounted ∧ d.HasTextFile) ∧
    CanHold Host.withNumberedFile (place none Host.withNumberedFile)
      (ofPlugins ["@stylistic/ts", "@stylistic--ts"]) ∧
    Group.ofDiagnostics (ofPlugins ["@stylistic/ts", "@stylistic--ts"]) = .ok groups ∧
    groups.map (·.key) = ["@stylistic/ts/indent", "@stylistic--ts/indent"] ∧
    write (ofPlugins ["@stylistic/ts", "@stylistic--ts"]) none Host.withNumberedFile =
      (.ok (some (place none Host.withNumberedFile)), after) ∧
    after.HoldsFiles (place none Host.withNumberedFile) held ∧
    held.map (·.1) = ["@stylistic--ts--indent.txt", "diagnostics.json"] := by
  have hformed := isCounted_ofPlugins ["@stylistic/ts", "@stylistic--ts"]
  have hholds := canHold_ofPlugins ["@stylistic/ts", "@stylistic--ts"] (by decide)
    (by decide +kernel)
  have hgroups := Group.ofDiagnostics_eq_ok fun d hd => (hformed d hd).1
  have hgrouping := Group.isGrouping_errorsFirst (ofPlugins ["@stylistic/ts", "@stylistic--ts"])
  obtain ⟨after, hwrite, hheld⟩ := write_eq_ok hgroups hgrouping
    (summary_of_isGrouping hgrouping fun d hd => (hformed d hd).2) hholds
  refine ⟨_, _, after, hformed, hholds, hgroups, by decide +kernel, hwrite, hheld, ?_⟩
  rw [map_fst_files]
  decide +kernel

end Report

end Checkup
