import Mathlib.Data.List.Nodup
import Checkup.Proofs.ChangeScope
import Checkup.Proofs.Directories
import Checkup.Proofs.Repeats

/-!
# Which files a walk counts

Where git does not list the files, the source files are counted by a walk through the tree. It
decides at every directory whether to enter it, so what it counts is settled level by level. The
files of a tree can also be listed without any such decision (`Node.filesAmong`), each by the names
of the directories above it and its own name, and the walk is a count on that list: whether it
counts a file depends on these names alone (`Project.countEntries_eq`). A directory that the system
refuses because its path is too long is passed over without a word, and so is everything in it.
-/

namespace Checkup

/-! ### Source files by name -/

namespace SourceFile

/-- The name ends as that of a source file does; a line feed may follow. -/
def HasSourceEnding (name : String) : Prop :=
  ∃ stem, ∃ ending ∈ [".ts", ".js", ".tsx", ".jsx"],
    name = stem ++ ending ∨ name = stem ++ ending ++ "\n"

theorem isSuffix_toList_iff {e : String} {cs : List Char} :
    e.toList <:+ cs ↔ ∃ stem : String, String.ofList cs = stem ++ e := by
  constructor
  · rintro ⟨stem, rfl⟩
    exact ⟨String.ofList stem, by rw [String.ofList_append, String.ofList_toList]⟩
  · rintro ⟨stem, hcs⟩
    exact ⟨stem.toList, by rw [← String.toList_append, ← hcs, String.toList_ofList]⟩

theorem beginsReversed_iff {extensions : List String} {cs : List Char} :
    beginsReversed extensions cs.reverse = true ↔
      ∃ stem, ∃ e ∈ extensions, String.ofList cs = stem ++ e := by
  have hbegins :
      beginsReversed extensions cs.reverse = true ↔ ∃ e ∈ extensions, e.toList <:+ cs := by
    simp only [beginsReversed, List.any_eq_true, List.isPrefixOf_iff_prefix, List.reverse_prefix]
  rw [hbegins]
  constructor
  · rintro ⟨e, he, hsuffix⟩
    obtain ⟨stem, hstem⟩ := isSuffix_toList_iff.1 hsuffix
    exact ⟨stem, e, he, hstem⟩
  · rintro ⟨stem, e, he, hstem⟩
    exact ⟨e, he, isSuffix_toList_iff.2 ⟨stem, hstem⟩⟩

theorem endsWithAny_iff {extensions : List String} {path : String} :
    endsWithAny extensions path = true ↔
      ∃ stem, ∃ e ∈ extensions, path = stem ++ e ∨ path = stem ++ e ++ "\n" := by
  have hends : beginsReversed extensions path.toList.reverse = true ↔
      ∃ stem, ∃ e ∈ extensions, path = stem ++ e := by
    rw [beginsReversed_iff, String.ofList_toList]
  unfold endsWithAny
  split
  case h_1 reversed hreversed =>
    have hpath : path = String.ofList reversed.reverse ++ "\n" := by
      apply String.toList_inj.1
      rw [← List.reverse_reverse path.toList, hreversed]
      simp
    have hrest : beginsReversed extensions reversed = true ↔
        ∃ stem, ∃ e ∈ extensions, path = stem ++ e ++ "\n" := by
      rw [← List.reverse_reverse reversed, beginsReversed_iff]
      simp only [hpath, String.append_left_inj]
    rw [Bool.or_eq_true, ← hreversed, hends, hrest]
    simp only [and_or_left, exists_or]
  case h_2 hplain =>
    rw [hends]
    constructor
    · rintro ⟨stem, e, he, hstem⟩
      exact ⟨stem, e, he, .inl hstem⟩
    · rintro ⟨stem, e, he, hstem | hstem⟩
      · exact ⟨stem, e, he, hstem⟩
      · exact absurd (by rw [hstem]; simp) (hplain (stem ++ e).toList.reverse)

theorem isSource_iff {name : String} : isSource name = true ↔ HasSourceEnding name :=
  endsWithAny_iff

end SourceFile

/-! ### The files of a tree -/

theorem Named.get?_eq_some_iff {α : Type} {entries : List (String × α)}
    (hnames : (entries.map (·.1)).Nodup) {name : String} {value : α} :
    get? name entries = some value ↔ (name, value) ∈ entries := by
  refine ⟨mem_of_get?_eq_some, fun hmem => ?_⟩
  induction entries with
  | nil => cases hmem
  | cons entry rest ih =>
    obtain ⟨hfirst, hrest⟩ := List.nodup_cons.1 hnames
    rcases List.mem_cons.1 hmem with rfl | hmem
    · simp [get?]
    · have hne : entry.1 ≠ name := by
        rintro rfl
        exact hfirst (List.mem_map.2 ⟨_, hmem, rfl⟩)
      simp [get?, hne, ih hrest hmem]

namespace Node

mutual

/-- The files at an entry and below it, each by the names of the directories above it and its own
name. -/
def filesAt (name : String) : Node → List (List String × String)
  | file _ => [([], name)]
  | directory entries => (filesAmong entries).map fun f => (name :: f.1, f.2)

/-- The files among the entries of a directory and below. -/
def filesAmong : List (String × Node) → List (List String × String)
  | [] => []
  | (name, node) :: rest => filesAt name node ++ filesAmong rest

end

theorem filesAmong_eq_flatMap (entries : List (String × Node)) :
    filesAmong entries = entries.flatMap fun entry => filesAt entry.1 entry.2 := by
  induction entries with
  | nil => simp [filesAmong]
  | cons entry rest ih => simp [filesAmong, ih]

/-- What is listed at an entry is what its name leads to, if this holds below the entry. -/
theorem mem_filesAt {node : Node} {name last : String}
    (hbelow : ∀ above, (above, last) ∈ filesAmong node.entries ↔
      ∃ content, node.at? (above ++ [last]) = some (file content)) {above : List String} :
    (above, last) ∈ filesAt name node ↔
      ∃ below content, above ++ [last] = name :: below ∧ node.at? below = some (file content) := by
  cases node with
  | file content =>
    simp only [filesAt, List.mem_singleton, Prod.mk.injEq]
    constructor
    · rintro ⟨rfl, rfl⟩
      exact ⟨[], content, rfl, rfl⟩
    · rintro ⟨below, other, hnames, hfound⟩
      cases below with
      | nil => simpa [List.append_eq_singleton_iff] using hnames
      | cons first rest => cases hfound
  | directory entries =>
    simp only [filesAt, List.mem_map, Prod.exists, Prod.mk.injEq]
    constructor
    · rintro ⟨rest, name', hmem, rfl, rfl⟩
      obtain ⟨content, hfound⟩ := (hbelow rest).1 hmem
      exact ⟨rest ++ [name'], content, rfl, hfound⟩
    · rintro ⟨below, content, hnames, hfound⟩
      cases above with
      | nil =>
        obtain ⟨rfl, rfl⟩ := List.cons.inj hnames
        cases hfound
      | cons first rest =>
        obtain ⟨rfl, rfl⟩ := List.cons.inj hnames
        exact ⟨rest, last, (hbelow rest).2 ⟨content, hfound⟩, rfl, rfl⟩

theorem IsProper.mem_filesAmong {node : Node} (hproper : node.IsProper) (above : List String)
    (last : String) : (above, last) ∈ filesAmong node.entries ↔
      ∃ content, node.at? (above ++ [last]) = some (.file content) := by
  induction hproper generalizing above with
  | file content => cases above <;> simp [entries, filesAmong, Node.at?, child?]
  | @directory entries hnames hentries ih =>
    obtain ⟨first, below, hcut⟩ := List.exists_cons_of_ne_nil (List.concat_ne_nil last above)
    change (above, last) ∈ filesAmong entries ↔ _
    rw [filesAmong_eq_flatMap, List.mem_flatMap, hcut]
    constructor
    · rintro ⟨entry, hentry, hmem⟩
      obtain ⟨rest, content, hnames', hfound⟩ := (mem_filesAt (ih entry hentry)).1 hmem
      obtain ⟨rfl, rfl⟩ := List.cons.inj (hcut.symm.trans hnames')
      exact ⟨content, Option.bind_eq_some_iff.2
        ⟨entry.2, (Named.get?_eq_some_iff hnames).2 hentry, hfound⟩⟩
    · rintro ⟨content, hfound⟩
      obtain ⟨child, hchild, hfound⟩ := Option.bind_eq_some_iff.1 hfound
      have hentry := (Named.get?_eq_some_iff hnames).1 hchild
      exact ⟨_, hentry, (mem_filesAt (ih _ hentry)).2 ⟨below, content, hcut, hfound⟩⟩

theorem nodup_filesAt {node : Node} (hbelow : (filesAmong node.entries).Nodup) (name : String) :
    (filesAt name node).Nodup := by
  cases node with
  | file content => simp [filesAt]
  | directory entries =>
    rw [filesAt]
    exact hbelow.map fun f g hfg => by simp_all [Prod.ext_iff]

theorem head?_of_mem_filesAt {node : Node} {name : String} {f : List String × String}
    (hmem : f ∈ filesAt name node) : (f.1 ++ [f.2]).head? = some name := by
  cases node with
  | file content =>
    rw [filesAt] at hmem
    rw [List.mem_singleton.1 hmem]
    rfl
  | directory entries =>
    rw [filesAt] at hmem
    obtain ⟨below, -, rfl⟩ := List.mem_map.1 hmem
    rfl

theorem IsProper.nodup_filesAmong {node : Node} (hproper : node.IsProper) :
    (filesAmong node.entries).Nodup := by
  induction hproper with
  | file content => simp [entries, filesAmong]
  | @directory entries hnames hentries ih =>
    change (filesAmong entries).Nodup
    rw [filesAmong_eq_flatMap, List.nodup_flatMap]
    refine ⟨fun entry hentry => nodup_filesAt (ih entry hentry) entry.1, ?_⟩
    refine (List.pairwise_map.1 hnames).imp fun hne f hf hf' => hne ?_
    exact Option.some.inj ((head?_of_mem_filesAt hf).symm.trans (head?_of_mem_filesAt hf'))

end Node

/-! ### The walk -/

namespace Project

variable {directory name : String} {above : List String}

/-- The name of a directory that a walk enters, being neither hidden nor one of installed or built
things. -/
structure IsEntered (name : String) : Prop where
  dot : ∀ rest, name ≠ "." ++ rest
  skipped : name ∉ ["node_modules", "dist", "build", "coverage"]

theorem isVisible_iff : isVisible name = true ↔ IsEntered name := by
  have hdot : name.toList.head? = some '.' ↔ ∃ rest, name = "." ++ rest := by
    rw [List.head?_eq_some_iff]
    constructor
    · rintro ⟨rest, hrest⟩
      exact ⟨String.ofList rest, String.toList_inj.1 (by simp [hrest])⟩
    · rintro ⟨rest, rfl⟩
      exact ⟨rest.toList, by simp⟩
  rw [isVisible, Bool.and_eq_true, bne_iff_ne, Bool.not_eq_true', List.contains_eq_mem,
    decide_eq_false_iff_not]
  constructor
  · rintro ⟨hhead, hskipped⟩
    exact ⟨fun rest hrest => hhead (hdot.2 ⟨rest, hrest⟩), hskipped⟩
  · rintro ⟨hrest, hskipped⟩
    exact ⟨fun hhead => (hdot.1 hhead).elim hrest, hskipped⟩

/-- There is a source file at the names, and a walk enters every directory above it. -/
structure HasVisibleSource (node : Node) (above : List String) (name : String) : Prop where
  found : ∃ content, node.at? (above ++ [name]) = some (.file content)
  ending : SourceFile.HasSourceEnding name
  entered : ∀ a ∈ above, IsEntered a

/-- The path of the directory that the names lead to, as a walk writes it. -/
def walkedText (directory : String) (above : List String) : String :=
  above.foldl entryText directory

theorem size_le_size_entryText (directory name : String) :
    Text.Utf8.size directory + Text.Utf8.size name ≤ Text.Utf8.size (entryText directory name) := by
  unfold entryText
  split <;> simp only [Text.Utf8.size_append] <;> omega

theorem size_le_size_walkedText (directory : String) (above : List String) :
    Text.Utf8.size directory ≤ Text.Utf8.size (walkedText directory above) := by
  induction above generalizing directory with
  | nil => exact Nat.le_refl _
  | cons first rest ih =>
    have hentry := size_le_size_entryText directory first
    have hrest := ih (entryText directory first)
    rw [walkedText, List.foldl_cons]
    exact Nat.le_trans (by omega) hrest

/-- Whether a walk counts a file of these names. The path of the directory that holds it is the
longest on the way, so no other one has to be looked at. -/
def counts (directory : String) (f : List String × String) : Bool :=
  SourceFile.isSource f.2 && f.1.all isVisible &&
    Text.Utf8.size (walkedText directory f.1) ≤ Host.pathLimit

theorem counts_iff : counts directory (above, name) = true ↔
    SourceFile.isSource name = true ∧ (∀ a ∈ above, isVisible a = true) ∧
      Text.Utf8.size (walkedText directory above) ≤ Host.pathLimit := by
  simp [counts, and_assoc]

theorem counts_eq_false (hlong : ¬ Text.Utf8.size directory ≤ Host.pathLimit)
    (f : List String × String) : counts directory f = false := by
  rw [← Bool.not_eq_true, counts_iff]
  rintro ⟨-, -, hfits⟩
  exact hlong (Nat.le_trans (size_le_size_walkedText directory f.1) hfits)

/-- A file below an entry is counted where the entry is visible and the file is counted there. -/
theorem counts_cons (f : List String × String) : counts directory (name :: f.1, f.2) =
    (isVisible name && counts (entryText directory name) f) := by
  have hall : (name :: f.1).all isVisible = (isVisible name && f.1.all isVisible) := List.all_cons
  rw [counts, counts, hall, Bool.and_left_comm, Bool.and_assoc]
  rfl

mutual

theorem countNode_eq {directory : String} (hfits : Text.Utf8.size directory ≤ Host.pathLimit)
    (name : String) (node : Node) :
    countNode directory name node = (node.filesAt name).countP (counts directory) := by
  cases node with
  | file content =>
    -- the directory was entered, so nothing but the name decides
    have hcounts : counts directory ([], name) = SourceFile.isSource name := by
      simp [counts, walkedText, hfits]
    simp [countNode, Node.filesAt, List.countP_singleton, hcounts]
  | directory entries =>
    rw [countNode, Node.filesAt, List.countP_map]
    have hcomp : (counts directory ∘ fun f : List String × String => (name :: f.1, f.2)) =
        fun f => isVisible name && counts (entryText directory name) f := funext counts_cons
    rw [hcomp]
    by_cases hentry : Text.Utf8.size (entryText directory name) ≤ Host.pathLimit
    · have hbelow := countEntries_eq hentry entries
      cases isVisible name <;> simp [hentry, hbelow]
    · simp [hentry, counts_eq_false hentry]

/-- The walk is a count on the list of all files below, by their names alone. -/
theorem countEntries_eq {directory : String} (hfits : Text.Utf8.size directory ≤ Host.pathLimit)
    (entries : List (String × Node)) :
    countEntries directory entries = (Node.filesAmong entries).countP (counts directory) := by
  cases entries with
  | nil => simp [countEntries, Node.filesAmong]
  | cons entry rest =>
    rw [countEntries, Node.filesAmong, List.countP_append, countNode_eq hfits entry.1 entry.2,
      countEntries_eq hfits rest]

end

end Project

/-! ### Counting without git -/

/-- Git does not list the files of the directory, by its failure or because it is not there. -/
def Git.CannotList (host : Host) (directory : Path) : Prop :=
  (∀ output, host.surroundings.git directory listing ≠ .finished 0 output) ∧
    host.surroundings.git directory listing ≠ .undecodable

theorem Git.cannotList_of_unavailable {host : Host} {directory : Path}
    (hgit : host.surroundings.git = fun _ _ => .unavailable) : CannotList host directory := by
  rw [CannotList, hgit]
  exact ⟨nofun, nofun⟩

theorem Git.fst_files?_of_cannotList {host : Host} {directory : Path}
    (hgit : CannotList host directory) (hnul : directory.hasNul = false) :
    (files? directory host).1 = .ok none := by
  have hwords : (directory.names ++ listing).any (·.toList.contains '\x00') = false := by
    rw [List.any_append, ← Path.hasNul, hnul, Bool.false_or]
    decide
  obtain ⟨answer, hsays⟩ := exists_eq_ok_of_isOk (Answer.isOk_received.2 ⟨hwords, hgit.2⟩)
  have hanswer := Answer.eq_of_received hsays
  have houtput : answer.output? = none := by
    unfold Answer.output?
    split
    case h_1 output => exact absurd hanswer (hgit.1 output)
    case h_2 => rfl
  have hlisting : host.gitSays directory listing = .ok answer := hsays
  rw [files?, lines?, Run.bind_pure_apply, output?_apply, hlisting]
  exact congrArg (fun output => Except.ok (Option.map _ output)) houtput

/-- The path leads to the node, whether or not the system finds the path too long. -/
structure Host.LeadsTo (host : Host) (p : Path) (node : Node) : Prop where
  hasNul : p.hasNul = false
  place : ∃ target, host.tree.walk [] (host.workingDirectory.join p).names = .ok target ∧
    host.tree.at? target = some node

namespace Host.LeadsTo

variable {host : Host} {p : Path} {node : Node}

theorem isProper (hleads : host.LeadsTo p node) (hproper : host.tree.IsProper) : node.IsProper := by
  obtain ⟨target, -, hat⟩ := hleads.place
  exact hproper.at? hat

theorem node_eq_ok (hleads : host.LeadsTo p node) (hfits : ¬ p.IsTooLong) :
    host.node p = .ok node := by
  obtain ⟨target, hwalk, hat⟩ := hleads.place
  have hlocate : host.locate p = .ok target := by
    rw [locate, hleads.hasNul, if_neg Bool.false_ne_true]
    exact (if_neg hfits).trans hwalk
  exact node_of_at? hlocate hat

theorem node_eq_error (hleads : host.LeadsTo p node) (hlong : p.IsTooLong) :
    host.node p = .error .nameTooLong := by
  apply Host.node_eq_error
  rw [locate, hleads.hasNul, if_neg Bool.false_ne_true]
  exact if_pos hlong

end Host.LeadsTo

namespace Project

variable {host : Host} {directory : Path} {node : Node}

theorem fst_countInTree (hleads : host.LeadsTo directory node) : (countInTree directory host).1 =
    .ok ((Node.filesAmong node.entries).countP (counts directory.text)) := by
  rw [countInTree, Run.get_bind]
  by_cases hlong : directory.IsTooLong
  · have hnone : (Node.filesAmong node.entries).countP (counts directory.text) = 0 := by
      rw [List.countP_eq_zero]
      intro f _
      rw [counts_eq_false (Nat.not_le.2 hlong) f]
      exact Bool.false_ne_true
    rw [hleads.node_eq_error hlong, hnone]
    rfl
  · rw [hleads.node_eq_ok hlong, ← countEntries_eq (Nat.not_lt.1 hlong)]
    rfl

theorem fst_countSourceFiles (hgit : Git.CannotList host directory)
    (hleads : host.LeadsTo directory node) : (countSourceFiles directory host).1 =
      .ok ((Node.filesAmong node.entries).countP (counts directory.text)) := by
  refine ((Git.isQuestion_files? directory).fst_bind (fun files => ?_) host).trans ?_
  · cases files with
    | some files => exact .pure _
    | none => exact isQuestion_countInTree directory
  · rw [Git.fst_files?_of_cannotList hgit hleads.hasNul]
    exact fst_countInTree hleads

/-- Without an answer of git the number of source files is that of the visible ones in directories
whose paths the system does not find too long: these can be listed, each of them once, and the list
is of that length. -/
theorem countSourceFiles_of_cannotList (hgit : Git.CannotList host directory)
    (hproper : host.tree.IsProper) (hleads : host.LeadsTo directory node) :
    ∃ files : List (List String × String), files.Nodup ∧
      (∀ above name, (above, name) ∈ files ↔ HasVisibleSource node above name ∧
        Text.Utf8.size (walkedText directory.text above) ≤ Host.pathLimit) ∧
      (countSourceFiles directory host).1 = .ok files.length := by
  have hnode : node.IsProper := hleads.isProper hproper
  refine ⟨(Node.filesAmong node.entries).filter (counts directory.text),
    hnode.nodup_filesAmong.filter _, fun above name => ?_, ?_⟩
  · rw [List.mem_filter, hnode.mem_filesAmong, counts_iff, SourceFile.isSource_iff]
    simp only [isVisible_iff]
    constructor
    · rintro ⟨hfound, hending, hentered, hfits⟩
      exact ⟨⟨hfound, hending, hentered⟩, hfits⟩
    · rintro ⟨⟨hfound, hending, hentered⟩, hfits⟩
      exact ⟨hfound, hending, hentered, hfits⟩
  · rw [fst_countSourceFiles hgit hleads, List.countP_eq_length_filter]

end Project

/-! ### A directory named like one that is passed over -/

/-- A project in a directory that holds built things by its name, with files of all kinds in it. -/
def Host.withBuild : Host :=
  { ofProject "" (fun _ => .unavailable) fun _ _ _ => .hangs with
    tree := .directory [("build", .directory [
      (".eslintrc.js", .file (.text "")), ("README.md", .file (.text "")),
      ("src", .directory [("App.tsx", .file (.text "")), ("dist", .directory [
        ("App.js", .file (.text ""))])]),
      (".cache", .directory [("App.js", .file (.text ""))])])] }

theorem Host.isProper_withBuild : Host.withBuild.tree.IsProper := by
  have hfile : (Node.file (.text "")).IsProper := .file _
  have hone (name : String) : (Node.directory [(name, .file (.text ""))]).IsProper :=
    .directory (by simp) (List.forall_mem_singleton.2 hfile)
  refine .directory (by simp) (List.forall_mem_singleton.2 (.directory (by decide) ?_))
  simp only [List.forall_mem_cons]
  refine ⟨hfile, hfile, .directory (by decide) ?_, hone _, nofun⟩
  simp only [List.forall_mem_cons]
  exact ⟨hfile, hone _, nofun⟩

/-- Two source files are counted there, a hidden one among them. -/
theorem Project.countSourceFiles_withBuild :
    Git.CannotList Host.withBuild ⟨.root, ["build"]⟩ ∧ Host.withBuild.tree.IsProper ∧
    ∃ node, Host.withBuild.LeadsTo ⟨.root, ["build"]⟩ node ∧
    ∃ files : List (List String × String), files.Nodup ∧
      (∀ above name, (above, name) ∈ files ↔ HasVisibleSource node above name ∧
        Text.Utf8.size (walkedText "/build" above) ≤ Host.pathLimit) ∧
      files.length = 2 ∧ (countSourceFiles ⟨.root, ["build"]⟩ Host.withBuild).1 = .ok 2 := by
  have hgit : Git.CannotList Host.withBuild ⟨.root, ["build"]⟩ :=
    Git.cannotList_of_unavailable rfl
  have hleads : Host.withBuild.LeadsTo ⟨.root, ["build"]⟩ _ := ⟨rfl, _, rfl, rfl⟩
  have hcount : (countSourceFiles ⟨.root, ["build"]⟩ Host.withBuild).1 = .ok 2 :=
    eq_ok_of_toOption (by decide +kernel)
  obtain ⟨files, hnodup, hmem, hlength⟩ :=
    countSourceFiles_of_cannotList hgit Host.isProper_withBuild hleads
  have htwo : files.length = 2 := Except.ok.inj (hlength.symm.trans hcount)
  exact ⟨hgit, Host.isProper_withBuild, _, hleads, files, hnodup, hmem, htwo, hcount⟩

/-! ### A path that grows too long on the way -/

/-- A path that goes into a directory and out again so many times. -/
def Path.detour (count : Nat) : Path :=
  ⟨.relative, (List.replicate count ["a", ".."]).flatten⟩

/-- A source file, and an empty directory to go into and out of. -/
def Host.withDetour : Host :=
  { ofProject "" (fun _ => .unavailable) fun _ _ _ => .hangs with
    tree := .directory [("a", .directory []),
      ("components", .directory [("App.tsx", .file (.text ""))])] }

theorem Host.isProper_withDetour : Host.withDetour.tree.IsProper := by
  refine .directory (by decide) ?_
  simp only [List.forall_mem_cons]
  exact ⟨.directory .nil nofun,
    .directory (by simp) (List.forall_mem_singleton.2 (.file _)), nofun⟩

namespace Path

theorem names_detour (count : Nat) :
    (detour (count + 1)).names = "a" :: ".." :: (detour count).names := by
  simp [detour, List.replicate_succ]

theorem hasNul_detour (count : Nat) : (detour count).hasNul = false := by
  induction count with
  | zero => rfl
  | succ count ih =>
    unfold hasNul at ih ⊢
    rw [names_detour, List.any_cons, List.any_cons, ih]
    decide

theorem size_intercalate_detour (count : Nat) :
    Text.Utf8.size (String.intercalate "/" (detour (count + 1)).names) = 5 * count + 4 := by
  have hsizes : Text.Utf8.size "a" = 1 ∧ Text.Utf8.size ".." = 2 ∧ Text.Utf8.size "/" = 1 := by
    decide
  induction count with
  | zero => decide +kernel
  | succ count ih =>
    have hstep : String.intercalate "/" (detour (count + 2)).names =
        "a" ++ "/" ++ (".." ++ "/" ++ String.intercalate "/" (detour (count + 1)).names) := by
      rw [names_detour (count + 1), names_detour count, String.intercalate_cons_cons,
        String.intercalate_cons_cons]
    rw [hstep]
    simp only [Text.Utf8.size_append]
    omega

theorem size_text_detour (count : Nat) :
    Text.Utf8.size (detour (count + 1)).text = 5 * count + 4 := by
  rw [text, if_neg (by simp [names_detour]), Text.Utf8.size_append, size_intercalate_detour]
  exact Nat.zero_add _

end Path

theorem Host.leadsTo_detour (count : Nat) :
    Host.withDetour.LeadsTo (.detour count) Host.withDetour.tree := by
  have hwalk : Host.withDetour.tree.walk [] (Path.detour count).names = .ok [] := by
    induction count with
    | zero => rfl
    | succ count ih =>
      -- into the directory and out of it again is two steps of the walk
      rw [Path.names_detour]
      exact ih
  exact ⟨Path.hasNul_detour count, [], hwalk, rfl⟩

/-- From a path of so many detours the directory of the source file is out of reach, so the file is
not counted, though its directory has a name that a walk enters. -/
theorem Project.countSourceFiles_detour :
    Git.CannotList Host.withDetour (.detour 818) ∧ Host.withDetour.tree.IsProper ∧
    Host.withDetour.LeadsTo (.detour 818) Host.withDetour.tree ∧
    ¬ ∃ files : List (List String × String), files.Nodup ∧
      (∀ above name, (above, name) ∈ files ↔ HasVisibleSource Host.withDetour.tree above name) ∧
      (countSourceFiles (.detour 818) Host.withDetour).1 = .ok files.length := by
  have hgit : Git.CannotList Host.withDetour (.detour 818) := Git.cannotList_of_unavailable rfl
  have hleads := Host.leadsTo_detour 818
  refine ⟨hgit, Host.isProper_withDetour, hleads, ?_⟩
  rintro ⟨files, -, hmem, hcount⟩
  have hsource : HasVisibleSource Host.withDetour.tree ["components"] "App.tsx" :=
    ⟨⟨_, rfl⟩, ⟨"App", ".tsx", by decide, .inl (by decide)⟩,
      List.forall_mem_singleton.2 (isVisible_iff.1 (by decide))⟩
  have hlisted : Node.filesAmong Host.withDetour.tree.entries = [(["components"], "App.tsx")] := rfl
  have hlong : counts (Path.detour 818).text (["components"], "App.tsx") = false := by
    have hsize : Text.Utf8.size (Path.detour 818).text = 4089 := Path.size_text_detour 817
    have hname : Text.Utf8.size "components" = 10 := by decide
    have hentry := size_le_size_entryText (Path.detour 818).text "components"
    have hlimit : Host.pathLimit = 4095 := rfl
    rw [counts_cons ([], "App.tsx"), counts_eq_false (by omega), Bool.and_false]
  rw [fst_countSourceFiles hgit hleads, hlisted, List.countP_singleton, hlong] at hcount
  have hnone : files = [] := List.length_eq_zero_iff.1 (Except.ok.inj hcount).symm
  exact List.not_mem_nil (hnone ▸ (hmem _ _).2 hsource)

end Checkup
