import Mathlib.Data.List.Forall2
import Mathlib.Data.List.Infix
import Checkup.Total
import Checkup.Proofs.Grouping
import Checkup.Proofs.Readings

/-!
# What a dead-code report lists

A well-formed report is an inventory: unused files, and for each file its unused exports, its unused
types and its groups of names for one thing. Every item becomes one finding, in the order of the
report. Only unused files may be listed twice, by themselves and with their issues; the places where
they are listed come to one finding together, at the first of them.
-/

namespace Checkup

namespace DeadCode

open List (Forall₂)

/-- A name that is not used, or not the only one, and where it is. -/
structure Symbol where
  name : String
  line : Int
  column : Int

/-- The names for one thing, of which there is at least one. -/
structure Group where
  first : Symbol
  others : List Symbol

/-- What is listed for a file, and whether the file itself is. -/
structure FileIssue where
  file : String
  isListed : Bool
  exports : List Symbol
  types : List Symbol
  groups : List Group
  named : file ≠ ""

structure Inventory where
  files : List String
  issues : List FileIssue

/-! ### Its form in a report -/

/-- The value is the whole number; one that is not given is zero. -/
def IsWhole (value : Json) (n : Int) : Prop :=
  value = .int n ∨ value.isTruthy = false ∧ n = 0

/-- The value is the list; one that is not given is empty. -/
def IsList (value : Json) (items : List Json) : Prop :=
  value = .array items ∨ value.isTruthy = false ∧ items = []

structure Symbol.IsGivenBy (s : Symbol) (members : List (String × Json)) : Prop where
  name : Json.lookup? members "name" = some (.text s.name)
  line : IsWhole (Json.lookup members "line") s.line
  column : IsWhole (Json.lookup members "col") s.column

def Symbol.IsItem (item : Json) (s : Symbol) : Prop :=
  ∃ members, item = .object members ∧ s.IsGivenBy members

def Group.IsItem (item : Json) (g : Group) : Prop :=
  ∃ first others, item = .array (first :: others) ∧ g.first.IsItem first ∧
    Forall₂ Symbol.IsItem others g.others

/-- The member lists the items, each as it is written. -/
def Lists {α : Type} (members : List (String × Json)) (name : String)
    (isItem : Json → α → Prop) (items : List α) : Prop :=
  ∃ written, IsList (Json.lookup members name) written ∧ Forall₂ isItem written items

structure FileIssue.IsGivenBy (issue : FileIssue) (members : List (String × Json)) : Prop where
  file : Json.lookup members "file" = .text issue.file
  isListed : (Json.lookup members "files").isTruthy = issue.isListed
  exports : Lists members "exports" Symbol.IsItem issue.exports
  types : Lists members "types" Symbol.IsItem issue.types
  groups : Lists members "duplicates" Group.IsItem issue.groups

def FileIssue.IsItem (item : Json) (issue : FileIssue) : Prop :=
  ∃ members, item = .object members ∧ issue.IsGivenBy members

structure Inventory.IsGivenBy (inventory : Inventory) (members : List (String × Json)) : Prop where
  files : Lists members "files" (fun item file => item = .text file) inventory.files
  issues : Lists members "issues" FileIssue.IsItem inventory.issues

/-! ### Its findings -/

def Symbol.finding (s : Symbol) (issue : Issue) (file : String) : Diagnostic :=
  issue.diagnostic (.text file) s.name s.line s.column

/-- A group is found where its first name is, under all of its names. -/
def Group.finding (g : Group) (file : String) : Diagnostic :=
  Issue.duplicate.diagnostic (.text file)
    (String.intercalate ", " ((g.first :: g.others).map (·.name))) g.first.line g.first.column

namespace FileIssue

/-- The findings of what is listed besides the file. -/
def entries (issue : FileIssue) : List Diagnostic :=
  issue.exports.map (·.finding .unusedExport issue.file) ++
    issue.types.map (·.finding .unusedType issue.file) ++ issue.groups.map (·.finding issue.file)

/-- The findings of an issue, after files that are reported already. -/
def findings (issue : FileIssue) (reported : List String) : List Diagnostic :=
  (if issue.isListed = true ∧ issue.file ∉ reported then [unusedFile (.text issue.file)] else []) ++
    issue.entries

end FileIssue

def listedWith (issues : List FileIssue) : List String :=
  (issues.filter (·.isListed)).map (·.file)

/-- The findings of issues in their order, each after the files of the issues before it. -/
def findingsAfter (reported : List String) (issues : List FileIssue) : List Diagnostic :=
  (issues.inits.zip issues).flatMap fun (earlier, issue) =>
    issue.findings (reported ++ listedWith earlier)

def Inventory.findings (inventory : Inventory) : List Diagnostic :=
  inventory.files.eraseDups.map (fun file => unusedFile (.text file)) ++
    findingsAfter inventory.files inventory.issues

def unusedAmong (found : List Diagnostic) : List Json :=
  (found.filter (·.rule == Issue.unusedFile.rule)).map (·.file)

/-! ### Reading -/

theorem IsWhole.asCount {value : Json} {n : Int} (hwhole : IsWhole value n) :
    value.asCount = .ok n := by
  rcases hwhole with rfl | ⟨hnone, rfl⟩
  · by_cases hzero : n = 0
    · subst hzero
      rfl
    · have hgiven : (Json.int n).isTruthy = true := by
        simpa [Json.int, Json.isTruthy, Number.isTruthy]
      unfold Json.asCount
      rw [if_pos hgiven]
      rfl
  · unfold Json.asCount
    rw [if_neg (by simp [hnone])]

theorem IsList.eachGiven {value : Json} {items : List Json} (hlist : IsList value items) :
    value.eachGiven = .ok items := by
  unfold Json.eachGiven
  rcases hlist with rfl | ⟨hnone, rfl⟩
  · cases items <;> rfl
  · rw [if_neg (by simp [hnone])]

theorem Symbol.IsGivenBy.position {s : Symbol} {members : List (String × Json)}
    (hgiven : s.IsGivenBy members) : position members = .ok (s.line, s.column) := by
  unfold DeadCode.position
  rw [hgiven.line.asCount, hgiven.column.asCount]
  rfl

theorem symbols_of_items (issue : Issue) (file : String) {items : List Json} {found : List Symbol}
    (hitems : Forall₂ Symbol.IsItem items found) :
    symbols issue (.text file) items = .ok (found.map (·.finding issue file)) := by
  induction hitems with
  | nil => rfl
  | cons hitem _ ih =>
    obtain ⟨members, rfl, hgiven⟩ := hitem
    unfold symbols
    rw [hgiven.position, ih]
    simp only [nameIn, hgiven.name, Option.getD_some, Json.display_text]
    rfl

theorem joinedNames_of_items (place : Nat) {items : List Json} {found : List Symbol}
    (hitems : Forall₂ Symbol.IsItem items found) :
    joinedNames place items = .ok (found.map (·.name)) := by
  induction hitems generalizing place with
  | nil => rfl
  | cons hitem _ ih =>
    obtain ⟨members, rfl, hgiven⟩ := hitem
    unfold joinedNames
    simp only [nameIn, hgiven.name, Option.getD_some]
    rw [ih]
    rfl

theorem duplicates_of_items (file : String) {items : List Json} {found : List Group}
    (hitems : Forall₂ Group.IsItem items found) :
    duplicates (.text file) items = .ok (found.map (·.finding file)) := by
  induction hitems with
  | nil => rfl
  | @cons item g rest groups hitem _ ih =>
    obtain ⟨first, others, rfl, hfirst, hothers⟩ := hitem
    have hnames : joinedNames 0 (first :: others) = .ok ((g.first :: g.others).map (·.name)) :=
      joinedNames_of_items 0 (.cons hfirst hothers)
    obtain ⟨members, rfl, hgiven⟩ := hfirst
    have hfound : duplicate (.text file) (.object members :: others) = .ok (g.finding file) := by
      unfold duplicate
      rw [hnames]
      dsimp only [bind, Except.bind, List.head?_cons, Option.bind, Json.members?, Option.getD_some]
      rw [hgiven.position]
      rfl
    unfold duplicates
    rw [hfound, ih]
    rfl

theorem FileIssue.IsGivenBy.issueEntries {issue : FileIssue} {members : List (String × Json)}
    (hgiven : issue.IsGivenBy members) :
    issueEntries (.object members) (.text issue.file) = .ok issue.entries := by
  obtain ⟨exports, hexports, hexported⟩ := hgiven.exports
  obtain ⟨types, htypes, htyped⟩ := hgiven.types
  obtain ⟨groups, hgroups, hgrouped⟩ := hgiven.groups
  unfold DeadCode.issueEntries
  simp only [Json.get_object, bind, Except.bind, hexports.eachGiven, htypes.eachGiven,
    hgroups.eachGiven, symbols_of_items _ _ hexported, symbols_of_items _ _ htyped,
    duplicates_of_items _ hgrouped]
  rfl

/-! ### Files that are reported already -/

theorem removeAll_concat (files reported : List String) (file : String) :
    files.removeAll (reported ++ [file]) = (files.removeAll reported).filter (!· == file) := by
  simp only [List.removeAll, List.filter_filter]
  refine List.filter_congr fun other _ => ?_
  by_cases hsame : other = file <;> simp [hsame]

/-- The keys are the files, in any order and as often as may be. -/
def Holds (seen : List Json) (reported : List String) : Prop :=
  ∀ file, seen.any (Json.sameKey (.text file)) = true ↔ file ∈ reported

theorem Holds.nil : Holds [] [] := fun _ => by simp

theorem Holds.cons {seen : List Json} {reported : List String} (hholds : Holds seen reported)
    (file : String) : Holds (.text file :: seen) (reported ++ [file]) := by
  intro other
  have hkey : Json.sameKey (.text other) (.text file) = (other == file) := rfl
  rw [List.any_cons, Bool.or_eq_true, hkey, beq_iff_eq, hholds other, List.mem_append,
    List.mem_singleton, or_comm]

theorem Holds.map_text (files : List String) : Holds (files.map .text) files := by
  intro file
  have hkey (other : String) : Json.sameKey (.text file) (.text other) = (file == other) := rfl
  simp [List.any_map, Function.comp_def, hkey]

theorem Holds.congr {seen : List Json} {reported others : List String}
    (hholds : Holds seen reported) (hsame : ∀ file, file ∈ others ↔ file ∈ reported) :
    Holds seen others := fun file => (hholds file).trans (hsame file).symm

theorem listedFiles_of_items {seen : List Json} {reported : List String}
    (hholds : Holds seen reported) (files : List String) :
    listedFiles seen (files.map .text) = ((files.removeAll reported).eraseDups).map .text := by
  -- Each file that is listed joins those that are reported, so both are generalised.
  induction files generalizing seen reported with
  | nil => rfl
  | cons file rest ih =>
    rw [List.map_cons, listedFiles]
    by_cases hseen : file ∈ reported
    · have hcons : (file :: rest).removeAll reported = rest.removeAll reported := by
        simp [List.removeAll, hseen]
      rw [if_pos ((hholds file).2 hseen), ih hholds, hcons]
    · have hcons : (file :: rest).removeAll reported = file :: rest.removeAll reported := by
        simp [List.removeAll, hseen]
      rw [if_neg (mt (hholds file).1 hseen), ih (hholds.cons file), hcons, List.eraseDups_cons,
        removeAll_concat]
      rfl

/-! ### Issues -/

theorem listedWith_cons (issue : FileIssue) (rest : List FileIssue) :
    listedWith (issue :: rest) = listedWith [issue] ++ listedWith rest := by
  unfold listedWith
  rw [← List.map_append, ← List.filter_append, List.singleton_append]

theorem findingsAfter_cons (reported : List String) (issue : FileIssue) (rest : List FileIssue) :
    findingsAfter reported (issue :: rest) =
      issue.findings reported ++ findingsAfter (reported ++ listedWith [issue]) rest := by
  have hrest (earlier : List FileIssue) : reported ++ listedWith (issue :: earlier) =
      reported ++ listedWith [issue] ++ listedWith earlier := by
    rw [listedWith_cons, List.append_assoc]
  have hfirst : reported ++ listedWith [] = reported := List.append_nil _
  unfold findingsAfter
  rw [List.inits_cons, List.zip_cons_cons, List.flatMap_cons, List.zip_map_left, List.flatMap_map]
  dsimp only [Prod.map, id]
  rw [hfirst]
  exact congrArg (_ ++ List.flatMap · _)
    (funext fun (earlier, other) => congrArg other.findings (hrest earlier))

theorem FileIssue.IsGivenBy.issueFile {issue : FileIssue} {members : List (String × Json)}
    (hgiven : issue.IsGivenBy members) {seen : List Json} {reported : List String}
    (hholds : Holds seen reported) :
    ∃ unused, issueFile seen (.object members) (.text issue.file) = .ok unused ∧
      unused.map unusedFile ++ issue.entries = issue.findings reported ∧
      Holds (unused ++ seen) (reported ++ listedWith [issue]) := by
  unfold DeadCode.issueFile FileIssue.findings listedWith
  rw [Json.get_object]
  dsimp only [bind, Except.bind]
  rw [hgiven.isListed]
  cases hlisted : issue.isListed with
  | false => exact ⟨[], rfl, by simp, by simpa [hlisted] using hholds⟩
  | true =>
    have hfiles : ([issue].filter (·.isListed)).map (·.file) = [issue.file] := by simp [hlisted]
    rw [hfiles, if_pos rfl]
    dsimp only [Json.asKey]
    by_cases hseen : issue.file ∈ reported
    · refine ⟨[], ?_, by simp [hseen], hholds.congr fun file => ?_⟩
      · rw [if_pos ((hholds issue.file).2 hseen)]
        rfl
      · rw [List.mem_append, List.mem_singleton]
        exact ⟨fun hmem => hmem.elim id fun heq => heq ▸ hseen, .inl⟩
    · refine ⟨[.text issue.file], ?_, by simp [hseen], hholds.cons issue.file⟩
      rw [if_neg (mt (hholds issue.file).1 hseen)]
      rfl

theorem issues_of_items {seen : List Json} {reported : List String} (hholds : Holds seen reported)
    {items : List Json} {found : List FileIssue} (hitems : Forall₂ FileIssue.IsItem items found) :
    issues seen items = .ok (findingsAfter reported found) := by
  -- `Holds` is what goes from one issue to the next.
  induction hitems generalizing seen reported with
  | nil => rfl
  | @cons item issue rest found hitem _ ih =>
    obtain ⟨members, rfl, hgiven⟩ := hitem
    obtain ⟨unused, hunused, hfindings, hafter⟩ := hgiven.issueFile hholds
    have hnamed : (Json.text issue.file).isTruthy = true := by
      simpa [Json.isTruthy] using issue.named
    unfold issues
    rw [Json.get_object, hgiven.file]
    dsimp only [bind, Except.bind]
    rw [if_neg (by simp [hnamed]), hunused]
    dsimp only
    rw [hgiven.issueEntries]
    dsimp only
    rw [ih hafter, findingsAfter_cons, ← hfindings]
    rfl

theorem eq_map_text {items : List Json} {files : List String}
    (hfiles : Forall₂ (fun item file => item = .text file) items files) :
    items = files.map .text := by
  induction hfiles with
  | nil => rfl
  | cons hitem _ ih => rw [hitem, ih, List.map_cons]

theorem Inventory.IsGivenBy.ofReport {inventory : Inventory} {members : List (String × Json)}
    (hgiven : inventory.IsGivenBy members) : ofReport members = .ok inventory.findings := by
  obtain ⟨written, hlist, hfiles⟩ := hgiven.files
  obtain ⟨items, hitems, hissues⟩ := hgiven.issues
  have hlisted : listedFiles [] (inventory.files.map .text) =
      inventory.files.eraseDups.map .text := by
    rw [listedFiles_of_items .nil]
    simp [List.removeAll]
  have hholds : Holds (inventory.files.eraseDups.map .text) inventory.files :=
    (Holds.map_text _).congr fun _ => List.mem_eraseDups.symm
  unfold DeadCode.ofReport Inventory.findings
  rw [hlist.eachGiven, hitems.eachGiven, eq_map_text hfiles]
  dsimp only [bind, Except.bind]
  rw [hlisted, issues_of_items hholds hissues, List.map_map]
  rfl

/-! ### Counts -/

/-- How many items of this kind are listed besides the file. -/
def FileIssue.count (issue : FileIssue) : Issue → Nat
  | .unusedFile => 0
  | .unusedExport => issue.exports.length
  | .unusedType => issue.types.length
  | .duplicate => issue.groups.length

theorem rule_beq_rule (issue kind : Issue) : (issue.rule == kind.rule) = decide (issue = kind) := by
  cases issue <;> cases kind <;> decide

theorem countP_map_of_rule {α : Type} {finding : α → Diagnostic} (issue kind : Issue)
    (hrule : ∀ a, (finding a).rule = issue.rule) (items : List α) :
    (items.map finding).countP (·.rule == kind.rule) =
      if issue = kind then items.length else 0 := by
  rw [List.countP_map]
  simp only [Function.comp_def, hrule, rule_beq_rule]
  split <;> simp [*]

theorem countP_entries (issue : FileIssue) (kind : Issue) :
    issue.entries.countP (·.rule == kind.rule) = issue.count kind := by
  unfold FileIssue.entries
  rw [List.countP_append, List.countP_append, countP_map_of_rule .unusedExport kind fun _ => rfl,
    countP_map_of_rule .unusedType kind fun _ => rfl,
    countP_map_of_rule .duplicate kind fun _ => rfl]
  cases kind <;> simp [FileIssue.count]

theorem countP_unusedFile {kind : Issue} (hkind : kind ≠ .unusedFile) (files : List String) :
    (files.map fun file => unusedFile (.text file)).countP (·.rule == kind.rule) = 0 := by
  rw [countP_map_of_rule .unusedFile kind fun _ => rfl, if_neg hkind.symm]

/-! ### Unused files -/

theorem unusedAmong_append (found more : List Diagnostic) :
    unusedAmong (found ++ more) = unusedAmong found ++ unusedAmong more := by
  unfold unusedAmong
  rw [List.filter_append, List.map_append]

theorem unusedAmong_map_unusedFile (files : List String) :
    unusedAmong (files.map fun file => unusedFile (.text file)) = files.map .text := by
  have hall : ∀ found ∈ files.map fun file => unusedFile (.text file),
      (found.rule == Issue.unusedFile.rule) = true := by
    simp [unusedFile, Issue.diagnostic]
  unfold unusedAmong
  rw [List.filter_eq_self.2 hall, List.map_map]
  rfl

theorem unusedAmong_entries (issue : FileIssue) : unusedAmong issue.entries = [] := by
  have hnone := countP_entries issue .unusedFile
  rw [List.countP_eq_length_filter] at hnone
  unfold unusedAmong
  rw [List.length_eq_zero_iff.1 hnone, List.map_nil]

theorem removeAll_listedWith_singleton (issue : FileIssue) (reported : List String) :
    (listedWith [issue]).removeAll reported =
      if issue.isListed = true ∧ issue.file ∉ reported then [issue.file] else [] := by
  by_cases hlisted : issue.isListed = true <;> by_cases hseen : issue.file ∈ reported <;>
    simp [listedWith, List.removeAll, hlisted, hseen]

theorem findings_eq (issue : FileIssue) (reported : List String) : issue.findings reported =
    ((listedWith [issue]).removeAll reported).map (fun file => unusedFile (.text file)) ++
      issue.entries := by
  rw [removeAll_listedWith_singleton, FileIssue.findings]
  split <;> rfl

theorem removeAll_removeAll (files more reported : List String) :
    (files.removeAll reported).removeAll (more.removeAll reported) =
      files.removeAll (reported ++ more) := by
  simp only [List.removeAll, List.filter_filter]
  refine List.filter_congr fun file _ => ?_
  by_cases hseen : file ∈ reported <;> simp [hseen]

/-- A file is reported with the first of the issues that list it, if it is not reported already. -/
theorem unusedAmong_findingsAfter (reported : List String) (issues : List FileIssue) :
    unusedAmong (findingsAfter reported issues) =
      (((listedWith issues).removeAll reported).eraseDups).map .text := by
  induction issues generalizing reported with
  | nil => rfl
  | cons issue rest ih =>
    have hsplit : (listedWith (issue :: rest)).removeAll reported =
        (listedWith [issue]).removeAll reported ++ (listedWith rest).removeAll reported := by
      rw [listedWith_cons]
      exact List.filter_append ..
    have honce : ((listedWith [issue]).removeAll reported).eraseDups =
        (listedWith [issue]).removeAll reported := by
      rw [removeAll_listedWith_singleton]
      split <;> simp [List.eraseDups_cons]
    rw [findingsAfter_cons, unusedAmong_append, findings_eq, unusedAmong_append,
      unusedAmong_map_unusedFile, unusedAmong_entries, List.append_nil, ih, hsplit,
      List.eraseDups_append, honce, removeAll_removeAll, List.map_append]

theorem countP_findingsAfter {kind : Issue} (hkind : kind ≠ .unusedFile) (reported : List String)
    (issues : List FileIssue) : (findingsAfter reported issues).countP (·.rule == kind.rule) =
      total (·.count kind) issues := by
  induction issues generalizing reported with
  | nil => rfl
  | cons issue rest ih =>
    rw [findingsAfter_cons, List.countP_append, ih, findings_eq, List.countP_append,
      countP_unusedFile hkind, countP_entries, Nat.zero_add, total_cons]

theorem unusedAmong_inventory (inventory : Inventory) : unusedAmong inventory.findings =
    ((inventory.files ++ listedWith inventory.issues).eraseDups).map .text := by
  unfold Inventory.findings
  rw [unusedAmong_append, unusedAmong_map_unusedFile, unusedAmong_findingsAfter,
    List.eraseDups_append, List.map_append]

/-- A well-formed report comes to the findings of what it lists, one for each item, in its order. A
file is reported as unused once, wherever and however often it is listed. Names are texts of
characters, without surrogates that stand alone. -/
theorem parseReport_of_inventory {output : String} {members : List (String × Json)}
    {inventory : Inventory} (hreport : IsReport output members)
    (hgiven : inventory.IsGivenBy members) :
    parseReport output = .ok inventory.findings ∧
      unusedAmong inventory.findings =
        ((inventory.files ++ listedWith inventory.issues).eraseDups).map .text ∧
      (unusedAmong inventory.findings).Nodup ∧
      (∀ file, .text file ∈ unusedAmong inventory.findings ↔
        file ∈ inventory.files ∨
          ∃ issue ∈ inventory.issues, issue.isListed = true ∧ issue.file = file) ∧
      ∀ kind, kind ≠ .unusedFile → inventory.findings.countP (·.rule == kind.rule) =
        total (·.count kind) inventory.issues := by
  have hfiles := unusedAmong_inventory inventory
  refine ⟨?_, hfiles, ?_, fun file => ?_, fun kind hkind => ?_⟩
  · have hprinted : Text.strip output ≠ "" := by
      intro hblank
      rw [IsReport, hblank, read_blank] at hreport
      cases hreport
    rw [parseReport_eq hprinted, hreport]
    dsimp only
    rw [hgiven.ofReport]
    rfl
  · rw [hfiles]
    exact List.pairwise_map.2 ((nodup_eraseDups _).imp (mt Json.text.inj))
  · rw [hfiles]
    simp [listedWith, List.mem_eraseDups, and_assoc]
  · unfold Inventory.findings
    rw [List.countP_append, countP_unusedFile hkind, countP_findingsAfter hkind, Nat.zero_add]

end DeadCode

/-! ### A report -/

namespace Json

mutual

/-- Whether two values are the same, which is not said of real numbers. -/
def same : Json → Json → Bool
  | .null, .null => true
  | .bool b, .bool c => b == c
  | .number (.whole m), .number (.whole n) => m == n
  | .text s, .text t => s == t
  | .array found, .array others => sameItems found others
  | .object found, .object others => sameMembers found others
  | _, _ => false

def sameItems : List Json → List Json → Bool
  | [], [] => true
  | item :: rest, other :: others => same item other && sameItems rest others
  | _, _ => false

def sameMembers : List (String × Json) → List (String × Json) → Bool
  | [], [] => true
  | (name, item) :: rest, (name', other) :: others =>
    name == name' && same item other && sameMembers rest others
  | _, _ => false

end

mutual

theorem eq_of_same : ∀ {value other : Json}, same value other = true → value = other
  | .null, .null, _ => rfl
  | .bool _, .bool _, hsame => congrArg _ (eq_of_beq hsame)
  | .number (.whole _), .number (.whole _), hsame =>
    congrArg (number ∘ Number.whole) (eq_of_beq hsame)
  | .text _, .text _, hsame => congrArg _ (eq_of_beq hsame)
  | .array _, .array _, hsame => congrArg _ (eq_of_sameItems hsame)
  | .object _, .object _, hsame => congrArg _ (eq_of_sameMembers hsame)

theorem eq_of_sameItems : ∀ {found others : List Json}, sameItems found others = true →
    found = others
  | [], [], _ => rfl
  | item :: rest, other :: others, hsame => by
    obtain ⟨hitem, hrest⟩ := Bool.and_eq_true_iff.1 hsame
    rw [eq_of_same hitem, eq_of_sameItems hrest]

theorem eq_of_sameMembers : ∀ {found others : List (String × Json)},
    sameMembers found others = true → found = others
  | [], [], _ => rfl
  | (name, item) :: rest, (name', other) :: others, hsame => by
    obtain ⟨hfirst, hrest⟩ := Bool.and_eq_true_iff.1 hsame
    obtain ⟨hname, hitem⟩ := Bool.and_eq_true_iff.1 hfirst
    rw [eq_of_beq hname, eq_of_same hitem, eq_of_sameMembers hrest]

end

end Json

namespace DeadCode

/-- The text is given by its characters, from which it is read directly. -/
theorem isReport_of_same {output : String} {cs : List Char} {members : List (String × Json)}
    (hchars : output = String.ofList cs)
    (hread : (Json.Reader.document (Text.trim cs)).toOption.any (Json.same (.object members)) =
      true) : IsReport output members := by
  obtain ⟨value, hvalue, hsame⟩ := exists_eq_ok_of_any hread
  unfold IsReport Json.read Text.strip
  rw [hchars, String.toList_ofList, String.toList_ofList, hvalue, Json.eq_of_same hsame]

/-- The inventory of a project with a file that is listed twice by itself and once more with its
issue, and with a file that is listed only with its issue. -/
def menuInventory : Inventory where
  files := ["Old.tsx", "Old.tsx"]
  issues := [
    { file := "Old.tsx", isListed := true, exports := [⟨"open", 3, 0⟩], types := [], groups := [],
      named := by decide },
    { file := "New.tsx", isListed := true, exports := [], types := [],
      groups := [⟨⟨"a", 0, 0⟩, [⟨"b", 0, 0⟩]⟩], named := by decide }]

def menuMembers : List (String × Json) :=
  [("files", .array [.text "Old.tsx", .text "Old.tsx"]),
    ("issues", .array [
      .object [("file", .text "Old.tsx"), ("files", .array [.int 1]),
        ("exports", .array [.object [("name", .text "open"), ("line", .int 3)]])],
      .object [("file", .text "New.tsx"), ("files", .array [.int 1]),
        ("duplicates", .array [
          .array [.object [("name", .text "a")], .object [("name", .text "b")]]])]])]

def menuReport : String :=
  String.ofList ([
    "\x7b\"files\":[\"Old.tsx\",\"Old.tsx\"],\"issues\":[",
    "\x7b\"file\":\"Old.tsx\",\"files\":[1],",
    "\"exports\":[\x7b\"name\":\"open\",\"line\":3\x7d]\x7d,",
    "\x7b\"file\":\"New.tsx\",\"files\":[1],\"duplicates\":[",
    "[\x7b\"name\":\"a\"\x7d,\x7b\"name\":\"b\"\x7d]]\x7d]\x7d"].flatMap String.toList)

theorem isReport_menuReport : IsReport menuReport menuMembers :=
  isReport_of_same rfl (by decide +kernel)

theorem isGivenBy_menuMembers : menuInventory.IsGivenBy menuMembers := by
  have hnothing {α : Type} {members : List (String × Json)} {name : String}
      {isItem : Json → α → Prop} (hnone : (Json.lookup members name).isTruthy = false) :
      Lists members name isItem [] := ⟨[], .inr ⟨hnone, rfl⟩, .nil⟩
  have hzero : IsWhole .null 0 := .inr ⟨rfl, rfl⟩
  refine ⟨⟨_, .inl rfl, .cons rfl (.cons rfl .nil)⟩, _, .inl rfl,
    .cons ⟨_, rfl, rfl, rfl, ?_, hnothing rfl, hnothing rfl⟩
      (.cons ⟨_, rfl, rfl, rfl, hnothing rfl, hnothing rfl, ?_⟩ .nil)⟩
  · exact ⟨_, .inl rfl, .cons ⟨_, rfl, rfl, .inl rfl, hzero⟩ .nil⟩
  · exact ⟨_, .inl rfl, .cons ⟨_, _, rfl, ⟨_, rfl, rfl, hzero, hzero⟩,
      .cons ⟨_, rfl, rfl, hzero, hzero⟩ .nil⟩ .nil⟩

/-- Four places where files are listed come to two findings, beside an export and a group. -/
theorem parseReport_menuReport :
    parseReport menuReport = .ok menuInventory.findings ∧
      unusedAmong menuInventory.findings = [.text "Old.tsx", .text "New.tsx"] ∧
      menuInventory.findings.countP (·.rule == "exports") = 1 ∧
      menuInventory.findings.length = 4 := by
  obtain ⟨hparsed, hfiles, -, -, hcounts⟩ :=
    parseReport_of_inventory isReport_menuReport isGivenBy_menuMembers
  have hdistinct : (menuInventory.files ++ listedWith menuInventory.issues).eraseDups =
      ["Old.tsx", "New.tsx"] := by decide +kernel
  refine ⟨hparsed, ?_, hcounts .unusedExport nofun, by decide +kernel⟩
  rw [hfiles, hdistinct]
  rfl

end DeadCode

end Checkup
