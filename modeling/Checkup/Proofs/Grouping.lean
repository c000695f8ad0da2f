import Mathlib.Data.List.Basic
import Mathlib.Data.List.Induction
import Checkup.Proofs.Tallies

/-!
# Groups and places

The groups of a report and the places in a group are collected in one way: each item adds what it
has under its name, after what is there, and a new name goes last. So under each name stands what
the items of that name have, in their order, and the names stand in the order in which they are
first met. A report then moves the groups that begin with an error to the front and changes no other
order. Nothing is lost on the way, and nothing is there twice.
-/

namespace Checkup

/-! ### Names in the order in which they are first met -/

section Distinct

variable {texts : List String}

theorem eraseDups_concat (texts : List String) (text : String) :
    (texts ++ [text]).eraseDups =
      if text ∈ texts then texts.eraseDups else texts.eraseDups ++ [text] := by
  rw [List.eraseDups_append]
  by_cases hmem : text ∈ texts <;> simp [List.removeAll, hmem, List.eraseDups_cons]

theorem pairwise_idxOf_eraseDups (texts : List String) :
    texts.eraseDups.Pairwise fun a b => texts.idxOf a < texts.idxOf b := by
  induction texts using List.reverseRecOn with
  | nil => exact .nil
  | append_singleton texts text ih =>
    have hold : texts.eraseDups.Pairwise fun a b =>
        (texts ++ [text]).idxOf a < (texts ++ [text]).idxOf b := by
      refine ih.imp_of_mem fun {a b} ha hb hlt => ?_
      rwa [List.idxOf_append_of_mem (List.mem_eraseDups.1 ha),
        List.idxOf_append_of_mem (List.mem_eraseDups.1 hb)]
    rw [eraseDups_concat]
    split
    · exact hold
    · rename_i hnew
      refine List.pairwise_append.2 ⟨hold, List.pairwise_singleton .., fun a ha b hb => ?_⟩
      have hmem := List.mem_eraseDups.1 ha
      rw [List.mem_singleton.1 hb, List.idxOf_append_of_mem hmem,
        List.idxOf_append_of_notMem hnew]
      have hlt := List.idxOf_lt_length_of_mem hmem
      omega

theorem nodup_eraseDups (texts : List String) : texts.eraseDups.Nodup := by
  refine (pairwise_idxOf_eraseDups texts).imp fun {a b} hlt heq => ?_
  rw [heq] at hlt
  exact Nat.lt_irrefl _ hlt

end Distinct

/-! ### Lists under names -/

namespace Named

variable {ι α : Type}

/-- The lists with more under a name, after what the name has or in a new list at the end. -/
def extend (name : String) (more : List α) : List (String × List α) → List (String × List α)
  | [] => [(name, more)]
  | (key, old) :: rest =>
    if key == name then (key, old ++ more) :: rest else (key, old) :: extend name more rest

def collect (name : ι → String) (values : ι → List α) (items : List ι) :
    List (String × List α) :=
  items.foldl (fun found item => extend (name item) (values item) found) []

theorem collect_concat (name : ι → String) (values : ι → List α) (items : List ι) (item : ι) :
    collect name values (items ++ [item]) =
      extend (name item) (values item) (collect name values items) := by
  unfold collect
  rw [List.foldl_append]
  rfl

theorem extend_map_of_mem {keys : List String} {name : String} (hnodup : keys.Nodup)
    (hname : name ∈ keys) (listed : String → List α) (more : List α) :
    extend name more (keys.map fun key => (key, listed key)) =
      keys.map fun key => (key, listed key ++ if name = key then more else []) := by
  induction keys with
  | nil => cases hname
  | cons key rest ih =>
    obtain ⟨hnew, hrest⟩ := List.nodup_cons.1 hnodup
    rw [List.map_cons, extend, List.map_cons]
    by_cases hkey : key = name
    · subst hkey
      have hsame : ∀ other ∈ rest,
          (other, listed other) = (other, listed other ++ if key = other then more else []) := by
        intro other hother
        have hne : key ≠ other := ne_of_mem_of_not_mem hother hnew |>.symm
        rw [if_neg hne, List.append_nil]
      simp [List.map_congr_left hsame]
    · have hmem : name ∈ rest := (List.mem_cons.1 hname).resolve_left (Ne.symm hkey)
      simp [hkey, Ne.symm hkey, ih hrest hmem]

theorem extend_map_of_notMem {keys : List String} {name : String} (hname : name ∉ keys)
    (listed : String → List α) (more : List α) :
    extend name more (keys.map fun key => (key, listed key)) =
      (keys.map fun key => (key, listed key)) ++ [(name, more)] := by
  induction keys with
  | nil => rfl
  | cons key rest ih =>
    rw [List.mem_cons, not_or] at hname
    simp [extend, Ne.symm hname.1, ih hname.2]

/-- Under each name stands what the items of that name have, and the names stand in the order in
which they are first met. -/
theorem collect_eq_map (name : ι → String) (values : ι → List α) (items : List ι) :
    collect name values items = (items.map name).eraseDups.map fun key =>
      (key, (items.filter (name · == key)).flatMap values) := by
  induction items using List.reverseRecOn with
  | nil => rfl
  | append_singleton items item ih =>
    have hvalues (key : String) : ((items ++ [item]).filter (name · == key)).flatMap values =
        (items.filter (name · == key)).flatMap values ++
          if name item = key then values item else [] := by
      rw [List.filter_append, List.flatMap_append]
      by_cases hkey : name item = key <;> simp [hkey]
    rw [collect_concat, ih, List.map_append, List.map_cons, List.map_nil, eraseDups_concat]
    simp only [hvalues]
    split
    · rename_i hold
      exact extend_map_of_mem (nodup_eraseDups _)
        (List.mem_eraseDups.2 hold) _ _
    · rename_i hnew
      have hfirst : items.filter (name · == name item) = [] := by
        refine List.filter_eq_nil_iff.2 fun other hother hsame => hnew ?_
        exact List.mem_map.2 ⟨other, hother, by simpa using hsame⟩
      have hothers : ∀ key ∈ (items.map name).eraseDups,
          (key, (items.filter (name · == key)).flatMap values ++
            if name item = key then values item else []) =
          (key, (items.filter (name · == key)).flatMap values) := by
        intro key hkey
        have hne : name item ≠ key :=
          (ne_of_mem_of_not_mem (List.mem_eraseDups.1 hkey) hnew).symm
        rw [if_neg hne, List.append_nil]
      rw [extend_map_of_notMem (mt List.mem_eraseDups.1 hnew), List.map_append,
        List.map_congr_left hothers]
      simp [hfirst]

theorem flatMap_extend_perm (name : String) (more : List α) (found : List (String × List α)) :
    ((extend name more found).flatMap (·.2)).Perm (found.flatMap (·.2) ++ more) := by
  induction found with
  | nil => simp [extend]
  | cons entry rest ih =>
    unfold extend
    split
    · simp only [List.flatMap_cons, List.append_assoc]
      exact List.perm_append_comm.append_left entry.2
    · simp only [List.flatMap_cons, List.append_assoc]
      exact ih.append_left entry.2

/-- Nothing that an item has is lost, and nothing is there twice. -/
theorem flatMap_collect_perm (name : ι → String) (values : ι → List α) (items : List ι) :
    ((collect name values items).flatMap (·.2)).Perm (items.flatMap values) := by
  induction items using List.reverseRecOn with
  | nil => exact .nil
  | append_singleton items item ih =>
    rw [collect_concat, List.flatMap_append, List.flatMap_cons, List.flatMap_nil, List.append_nil]
    exact (flatMap_extend_perm _ _ _).trans (ih.append_right _)

end Named

namespace Report

variable {diagnostics : List Diagnostic}

/-! ### Groups -/

namespace Group

def entry (group : Group) : String × List Diagnostic :=
  (group.key, group.members)

theorem map_entry_add (d : Diagnostic) (groups : List Group) :
    (add d groups).map entry = Named.extend d.ruleKey [d] (groups.map entry) := by
  induction groups with
  | nil => rfl
  | cons group rest ih =>
    by_cases hkey : group.key = d.ruleKey
    · simp [add, entry, Named.extend, hkey, members]
    · have hrest : (add d rest).map entry = Named.extend d.ruleKey [d] (rest.map entry) := ih
      simp [add, entry, Named.extend, hkey]
      exact hrest

theorem map_entry_collect (diagnostics : List Diagnostic) :
    (collect diagnostics).map entry = Named.collect (·.ruleKey) (fun d => [d]) diagnostics :=
  (List.foldl_hom _ fun groups d => (map_entry_add d groups).symm).symm

theorem map_entry_collect_eq (diagnostics : List Diagnostic) : (collect diagnostics).map entry =
    (diagnostics.map (·.ruleKey)).eraseDups.map fun key =>
      (key, diagnostics.filter (·.ruleKey == key)) := by
  rw [map_entry_collect, Named.collect_eq_map]
  simp

theorem map_key_collect (diagnostics : List Diagnostic) :
    (collect diagnostics).map (·.key) = (diagnostics.map (·.ruleKey)).eraseDups := by
  have hentries := congrArg (List.map Prod.fst) (map_entry_collect_eq diagnostics)
  simpa [entry, Function.comp_def] using hentries

theorem members_of_mem_collect {group : Group} (hgroup : group ∈ collect diagnostics) :
    group.members = diagnostics.filter (·.ruleKey == group.key) := by
  have hentry : entry group ∈ (collect diagnostics).map entry := List.mem_map_of_mem hgroup
  rw [map_entry_collect_eq] at hentry
  obtain ⟨key, -, heq⟩ := List.mem_map.1 hentry
  obtain ⟨rfl, hmembers⟩ := Prod.mk.inj heq
  exact hmembers.symm

theorem flatMap_members_collect_perm (diagnostics : List Diagnostic) :
    ((collect diagnostics).flatMap (·.members)).Perm diagnostics := by
  have hperm := Named.flatMap_collect_perm (·.ruleKey) (fun d => [d]) diagnostics
  rw [← map_entry_collect, List.flatMap_map, List.flatMap_singleton'] at hperm
  exact hperm

/-- The place of a rule among the rules of the findings, as they are met. -/
def firstMet (diagnostics : List Diagnostic) (group : Group) : Nat :=
  (diagnostics.map (·.ruleKey)).idxOf group.key

/-- The first group stands before the second one: it begins with an error and the other does not,
or neither has that over the other and its rule is met first. -/
def Precedes (diagnostics : List Diagnostic) (group other : Group) : Prop :=
  (group.first.isError = true ∧ other.first.isError = false) ∨
    (group.first.isError = other.first.isError ∧
      firstMet diagnostics group < firstMet diagnostics other)

/-- The groups are the findings by their rules: no rule has two groups, a group has all findings of
its rule in their order, all groups together have each finding as often as it was made, and the
groups stand in the order of a report. -/
structure IsGrouping (diagnostics : List Diagnostic) (groups : List Group) : Prop where
  distinct : (groups.map (·.key)).Nodup
  nonempty : ∀ group ∈ groups, group.members ≠ []
  members : ∀ group ∈ groups, group.members = diagnostics.filter (·.ruleKey == group.key)
  perm : (groups.flatMap (·.members)).Perm diagnostics
  ordered : groups.Pairwise (Precedes diagnostics)

namespace IsGrouping

variable {groups : List Group} (hgrouping : IsGrouping diagnostics groups)

include hgrouping

theorem mem_members_iff {group : Group} (hgroup : group ∈ groups) {d : Diagnostic} :
    d ∈ group.members ↔ d ∈ diagnostics ∧ d.ruleKey = group.key := by
  rw [hgrouping.members group hgroup, List.mem_filter, beq_iff_eq]

theorem exists_mem_members {d : Diagnostic} (hd : d ∈ diagnostics) :
    ∃ group ∈ groups, d ∈ group.members :=
  List.mem_flatMap.1 (hgrouping.perm.mem_iff.2 hd)

end IsGrouping

theorem pairwise_firstMet_collect (diagnostics : List Diagnostic) :
    (collect diagnostics).Pairwise fun group other =>
      firstMet diagnostics group < firstMet diagnostics other := by
  have hkeys := pairwise_idxOf_eraseDups (diagnostics.map (·.ruleKey))
  rw [← map_key_collect, List.pairwise_map] at hkeys
  exact hkeys

theorem isGrouping_errorsFirst (diagnostics : List Diagnostic) :
    IsGrouping diagnostics ((collect diagnostics).filter (·.first.isError) ++
      (collect diagnostics).filter (!·.first.isError)) := by
  have hperm : ((collect diagnostics).filter (·.first.isError) ++
      (collect diagnostics).filter (!·.first.isError)).Perm (collect diagnostics) :=
    List.filter_append_perm _ _
  have hmet := pairwise_firstMet_collect diagnostics
  refine ⟨?_, fun group _ => List.cons_ne_nil _ _,
    fun group hgroup => members_of_mem_collect (hperm.mem_iff.1 hgroup),
    (hperm.flatMap_right _).trans (flatMap_members_collect_perm diagnostics),
    List.pairwise_append.2 ⟨?_, ?_, fun group hgroup other hother => .inl ?_⟩⟩
  · rw [(hperm.map _).nodup_iff, map_key_collect]
    exact nodup_eraseDups _
  · refine (hmet.filter _).imp_of_mem fun {group other} hgroup hother hlt => .inr ⟨?_, hlt⟩
    rw [(List.mem_filter.1 hgroup).2, (List.mem_filter.1 hother).2]
  · refine (hmet.filter _).imp_of_mem fun {group other} hgroup hother hlt => .inr ⟨?_, hlt⟩
    exact Bool.not_inj ((List.mem_filter.1 hgroup).2.trans (List.mem_filter.1 hother).2.symm)
  · exact ⟨(List.mem_filter.1 hgroup).2, by simpa using (List.mem_filter.1 hother).2⟩

end Group

/-! ### Places -/

end Report

def Diagnostic.path (d : Diagnostic) : String :=
  d.file.text?.getD ""

theorem Diagnostic.HasTextFile.file_eq {d : Diagnostic} (hd : d.HasTextFile) :
    d.file = .text d.path := by
  obtain ⟨path, hpath⟩ := hd
  unfold Diagnostic.path
  rw [hpath]
  rfl

namespace Report

variable {diagnostics : List Diagnostic}

namespace FileLines

def ofNamed (named : String × List Int) : FileLines :=
  ⟨.text named.1, named.2⟩

theorem add_map_ofNamed {d : Diagnostic} (hd : d.HasTextFile)
    (named : List (String × List Int)) :
    add d (named.map ofNamed) = (Named.extend d.path (lineOf d) named).map ofNamed := by
  have hkey (path : String) : Json.sameKey (.text path) (.text d.path) = (path == d.path) := rfl
  induction named with
  | nil => rw [List.map_nil, add, hd.file_eq, Named.extend, List.map_singleton, ofNamed]
  | cons entry rest ih =>
    rw [List.map_cons, add, Named.extend, hd.file_eq, ofNamed, hkey]
    split
    · rfl
    · rw [ih, List.map_cons, ofNamed]

theorem foldlM_add_eq_ok (hfiles : ∀ d ∈ diagnostics, d.HasTextFile)
    (named : List (String × List Int)) :
    diagnostics.foldlM (fun entries d => do
        discard d.file.asKey
        return add d entries) (named.map ofNamed) =
      .ok ((diagnostics.foldl (fun found d => Named.extend d.path (lineOf d) found) named).map
        ofNamed) := by
  induction diagnostics generalizing named with
  | nil => rfl
  | cons d rest ih =>
    obtain ⟨hd, hrest⟩ := List.forall_mem_cons.1 hfiles
    have hadd : (do
        discard d.file.asKey
        return add d (named.map ofNamed)) =
          (.ok ((Named.extend d.path (lineOf d) named).map ofNamed) : Except ShapeFault _) := by
      rw [add_map_ofNamed hd, hd.file_eq]
      rfl
    rw [List.foldlM_cons, hadd]
    exact ih hrest _

theorem flatMap_lineOf (found : List Diagnostic) :
    found.flatMap lineOf = (found.map (·.line)).filter (0 < ·) := by
  induction found with
  | nil => rfl
  | cons d rest ih =>
    rw [List.flatMap_cons, ih, List.map_cons, List.filter_cons, lineOf]
    split <;> simp_all

/-- The files with the lines of the findings in them that have one, each file once and where it is
first met. -/
def places (found : List Diagnostic) : List FileLines :=
  (found.map (·.path)).eraseDups.map fun path =>
    ⟨.text path, ((found.filter (·.path == path)).map (·.line)).filter (0 < ·)⟩

theorem ofDiagnostics_eq_places (hfiles : ∀ d ∈ diagnostics, d.HasTextFile) :
    FileLines.ofDiagnostics diagnostics = .ok (places diagnostics) := by
  have hfound : FileLines.ofDiagnostics diagnostics =
      .ok ((Named.collect (·.path) lineOf diagnostics).map ofNamed) :=
    foldlM_add_eq_ok hfiles []
  rw [hfound, Named.collect_eq_map, List.map_map, places]
  congr 2
  funext path
  rw [Function.comp_apply, ofNamed, flatMap_lineOf]

theorem nodup_map_file_places (found : List Diagnostic) : ((places found).map (·.file)).Nodup := by
  have hpaths := nodup_eraseDups (found.map (·.path))
  rw [places, List.map_map]
  exact List.pairwise_map.2 (hpaths.imp (mt Json.text.inj))

theorem mem_map_file_places {found : List Diagnostic} (hfiles : ∀ d ∈ found, d.HasTextFile)
    {file : Json} : file ∈ (places found).map (·.file) ↔ ∃ d ∈ found, d.file = file := by
  simp only [places, List.map_map, List.mem_map, List.mem_eraseDups, Function.comp_apply]
  constructor
  · rintro ⟨path, ⟨d, hd, rfl⟩, rfl⟩
    exact ⟨d, hd, (hfiles d hd).file_eq⟩
  · rintro ⟨d, hd, rfl⟩
    exact ⟨d.path, ⟨d, hd, rfl⟩, (hfiles d hd).file_eq.symm⟩

end FileLines

theorem affectedFiles_eq_ok (hfiles : ∀ d ∈ diagnostics, d.HasTextFile) :
    affectedFiles diagnostics = .ok ((FileLines.places diagnostics).map (·.file)) := by
  unfold affectedFiles
  rw [FileLines.ofDiagnostics_eq_places hfiles]
  rfl

/-- Findings that are counted are put in groups by their rules: none is lost, none is there twice,
and none has lost its turn. Where the files are texts, the places of a group are its files with
their lines, and the files of all groups are the files of all findings. -/
theorem exists_isGrouping (hcounted : ∀ d ∈ diagnostics, d.IsCounted) :
    ∃ groups, Group.ofDiagnostics diagnostics = .ok groups ∧
      Group.IsGrouping diagnostics groups ∧
      ((∀ d ∈ diagnostics, d.HasTextFile) →
        (∀ group ∈ groups, FileLines.ofDiagnostics group.members =
          .ok ((group.members.map (·.path)).eraseDups.map fun path =>
            ⟨.text path, ((group.members.filter (·.path == path)).map (·.line)).filter (0 < ·)⟩)) ∧
        ∃ affected, affectedFiles diagnostics = .ok affected ∧ affected.Nodup ∧
          (∀ file, file ∈ affected ↔ ∃ d ∈ diagnostics, d.file = file) ∧
          ∀ file, file ∈ affected ↔ ∃ group ∈ groups, ∃ entries,
            FileLines.ofDiagnostics group.members = .ok entries ∧
              file ∈ entries.map (·.file)) := by
  obtain ⟨groups, hgroups, hgrouping⟩ : ∃ groups, Group.ofDiagnostics diagnostics = .ok groups ∧
      Group.IsGrouping diagnostics groups :=
    ⟨_, Group.ofDiagnostics_eq_ok hcounted, Group.isGrouping_errorsFirst diagnostics⟩
  refine ⟨groups, hgroups, hgrouping, fun hfiles => ?_⟩
  have htexts : ∀ group ∈ groups, ∀ d ∈ group.members, d.HasTextFile :=
    fun group hgroup d hd => hfiles d ((hgrouping.mem_members_iff hgroup).1 hd).1
  have hplaces : ∀ group ∈ groups,
      FileLines.ofDiagnostics group.members = .ok (FileLines.places group.members) :=
    fun group hgroup => FileLines.ofDiagnostics_eq_places (htexts group hgroup)
  refine ⟨hplaces, _, affectedFiles_eq_ok hfiles, FileLines.nodup_map_file_places diagnostics,
    fun file => FileLines.mem_map_file_places hfiles, fun file => ?_⟩
  rw [FileLines.mem_map_file_places hfiles]
  constructor
  · rintro ⟨d, hd, hfile⟩
    obtain ⟨group, hgroup, hmember⟩ := hgrouping.exists_mem_members hd
    exact ⟨group, hgroup, _, hplaces group hgroup,
      (FileLines.mem_map_file_places (htexts group hgroup)).2 ⟨d, hmember, hfile⟩⟩
  · rintro ⟨group, hgroup, entries, hentries, hfile⟩
    obtain rfl := Except.ok.inj ((hplaces group hgroup).symm.trans hentries)
    obtain ⟨d, hmember, hd⟩ := (FileLines.mem_map_file_places (htexts group hgroup)).1 hfile
    exact ⟨d, ((hgrouping.mem_members_iff hgroup).1 hmember).1, hd⟩

end Report

/-- Two rules in turn, of which the second one is met as an error and the first one is not, in two
files in turn. -/
def Diagnostic.interleaved : List Diagnostic :=
  [("knip", "exports", Severity.warning, "src/App.tsx", 3),
    ("react", "jsx-key", .error, "src/App.tsx", 7),
    ("knip", "exports", .error, "src/Menu.tsx", 0),
    ("react", "jsx-key", .warning, "src/Menu.tsx", 2),
    ("knip", "exports", .warning, "src/App.tsx", 9)].map fun (plugin, rule, severity, path, line) =>
      { (default : Diagnostic) with plugin, rule, severity, file := .text path, line }

/-- The rule that was met second stands first, and the file without a line is among the places. -/
theorem exists_isGrouping_interleaved : ∃ groups affected,
    (∀ d ∈ Diagnostic.interleaved, d.IsCounted ∧ d.HasTextFile) ∧
    Report.Group.ofDiagnostics Diagnostic.interleaved = .ok groups ∧
    Report.Group.IsGrouping Diagnostic.interleaved groups ∧
    groups.map (·.key) = ["react/jsx-key", "knip/exports"] ∧
    Report.affectedFiles Diagnostic.interleaved = .ok affected ∧
    .text "src/Menu.tsx" ∈ affected := by
  have hcounted : ∀ d ∈ Diagnostic.interleaved, d.IsCounted := by decide
  have htexts : ∀ d ∈ Diagnostic.interleaved, d.HasTextFile := by
    intro d hd
    obtain ⟨finding, -, rfl⟩ := List.mem_map.1 hd
    exact ⟨_, rfl⟩
  obtain ⟨groups, hgroups, hgrouping, hplaces⟩ := Report.exists_isGrouping hcounted
  obtain ⟨-, affected, haffected, -, hmem, -⟩ := hplaces htexts
  obtain ⟨found, hfound, hkeys⟩ := exists_eq_ok_of_any
    (show (Report.Group.ofDiagnostics Diagnostic.interleaved).toOption.any (fun groups =>
      groups.map (·.key) == ["react/jsx-key", "knip/exports"]) = true by decide +kernel)
  obtain rfl := Except.ok.inj (hgroups.symm.trans hfound)
  refine ⟨groups, affected, fun d hd => ⟨hcounted d hd, htexts d hd⟩, hgroups, hgrouping,
    by simpa using hkeys, haffected, (hmem _).2 ?_⟩
  exact ⟨_, List.mem_map_of_mem (.tail _ (.tail _ (.head _))), rfl⟩

end Checkup
