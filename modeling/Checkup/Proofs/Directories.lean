import Checkup.Proofs.Places

/-!
# Directories that are made and filled

To make a directory adds what is missing on the way and takes nothing away, and the directory is
empty then. To write a file into a directory that is there sets the entry of its name and no other.
So a directory that is made and then filled file by file holds under each name the text that was
written last.
-/

namespace Checkup

namespace Named

variable {α β : Type}

theorem get?_map (f : α → β) (name : String) (entries : List (String × α)) :
    get? name (entries.map fun entry => (entry.1, f entry.2)) = (get? name entries).map f := by
  induction entries with
  | nil => rfl
  | cons entry rest ih => by_cases hkey : entry.1 = name <;> simp [get?, hkey, ih]

theorem set_map (f : α → β) (name : String) (value : α) (entries : List (String × α)) :
    set name (f value) (entries.map fun entry => (entry.1, f entry.2)) =
      (set name value entries).map fun entry => (entry.1, f entry.2) := by
  induction entries with
  | nil => rfl
  | cons entry rest ih => by_cases hkey : entry.1 = name <;> simp [set, hkey, ih]

end Named

namespace Node

/-! ### Trees that grow -/

def ofText (text : String) : Node :=
  file (.text text)

def ofFiles (files : List (String × String)) : Node :=
  directory (files.map fun entry => (entry.1, ofText entry.2))

/-- What stands in the first tree stands in the second one, in the same place. -/
def Extends (tree after : Node) : Prop :=
  ∀ names found, tree.look names = some found → after.look names = some found

variable {tree after : Node}

theorem Extends.trans {made : Node} (hfirst : Extends tree made) (hsecond : Extends made after) :
    Extends tree after :=
  fun names found hlook => hsecond names found (hfirst names found hlook)

theorem at?_append (node : Node) (names more : List String) :
    node.at? (names ++ more) = (node.at? names).bind (·.at? more) := by
  induction names generalizing node with
  | nil => rfl
  | cons name rest ih =>
    rw [List.cons_append, at?, at?]
    cases node.child? name with
    | none => rfl
    | some child => exact ih child

theorem look_dropLast {node : Node} {names : List String} (hlook : node.look names = some none) :
    node.look names.dropLast = some none := by
  induction names generalizing node with
  | nil => exact hlook
  | cons name rest ih =>
    obtain ⟨entries, rfl⟩ := eq_directory_of_look_cons hlook
    cases rest with
    | nil => rfl
    | cons second rest =>
      rw [look_directory_cons] at hlook
      obtain ⟨child, hchild, hbelow⟩ := Option.bind_eq_some_iff.1 hlook
      rw [List.dropLast_cons_of_ne_nil (by simp), look_directory_cons, hchild]
      exact ih hbelow

variable {target : List String} {entries : List (String × Node)}

theorem at?_concat (hat : tree.at? target = some (directory entries)) (name : String) :
    tree.at? (target ++ [name]) = Named.get? name entries := by
  rw [at?_append, hat]
  exact Option.bind_fun_some _

/-- A node that is put into a directory becomes one of its entries. -/
theorem at?_put_concat (hat : tree.at? target = some (directory entries)) (new : Node)
    (name : String) : (put new tree (target ++ [name])).at? target =
      some (directory (Named.set name new entries)) := by
  induction target generalizing tree with
  | nil =>
    cases hat
    rfl
  | cons first rest ih =>
    cases tree with
    | file content => cases hat
    | directory others =>
      obtain ⟨child, hchild, hbelow⟩ := Option.bind_eq_some_iff.1 hat
      rw [child?_directory] at hchild
      rw [List.cons_append, put, at?, child?_directory, Named.get?_set_self, hchild]
      exact ih hbelow

theorem extends_put_concat (hat : tree.at? target = some (directory entries)) {name : String}
    (hnew : Named.get? name entries = none) (new : Node) :
    Extends tree (put new tree (target ++ [name])) := by
  induction target generalizing tree with
  | nil =>
    cases hat
    intro names found hlook
    cases names with
    | nil => exact hlook
    | cons first more =>
      rw [look_directory_cons] at hlook
      have hne : first ≠ name := by
        rintro rfl
        rw [hnew] at hlook
        cases hlook
      rwa [List.nil_append, put, look_directory_cons, Named.get?_set_of_ne hne]
  | cons second rest ih =>
    cases tree with
    | file content => cases hat
    | directory others =>
      obtain ⟨child, hchild, hbelow⟩ := Option.bind_eq_some_iff.1 hat
      rw [child?_directory] at hchild
      intro names found hlook
      cases names with
      | nil => exact hlook
      | cons first more =>
        rw [look_directory_cons] at hlook
        rw [List.cons_append, put, look_directory_cons]
        by_cases hfirst : first = second
        · subst hfirst
          rw [hchild] at hlook
          rw [Named.get?_set_self, hchild]
          exact ih hbelow more found hlook
        · rwa [Named.get?_set_of_ne hfirst]

end Node

namespace Host

/-! ### Directories -/

/-- The directory is there and holds these files and nothing else. -/
def HoldsFiles (host : Host) (directory : Path) (files : List (String × String)) : Prop :=
  host.node directory = .ok (Node.ofFiles files)

theorem node_eq_ok {host : Host} {p : Path} {found : Node} (hnode : host.node p = .ok found) :
    ∃ target, host.locate p = .ok target ∧ host.tree.at? target = some found := by
  unfold node at hnode
  obtain ⟨target, hlocate, hnode⟩ := except_bind_eq_ok.1 hnode
  refine ⟨target, hlocate, ?_⟩
  split at hnode
  · rename_i there hat
    rw [hat, Except.ok.inj hnode]
  · split at hnode <;> cases hnode

theorem node_of_at? {host : Host} {p : Path} {target : List String} {found : Node}
    (hlocate : host.locate p = .ok target) (hat : host.tree.at? target = some found) :
    host.node p = .ok found := by
  unfold node
  rw [hlocate]
  dsimp only [bind, Except.bind]
  rw [hat]

theorem build_of_file {tree : Node} {reached names : List String} {content : Content}
    (hat : tree.at? reached = some (.file content)) (after : Node) :
    makeDirectory.build tree reached names ≠ .ok after := by
  cases names with
  | nil => exact nofun
  | cons name rest =>
    rw [makeDirectory.build, hat]
    exact nofun

/-- A directory that is made is empty, and everything else is where it was. -/
theorem build_eq_ok {tree after : Node} {reached names : List String}
    (hreached : tree.look reached = some none)
    (hbuild : makeDirectory.build tree reached names = .ok after) :
    Node.Extends tree after ∧ ∃ target, after.walk reached names = .ok target ∧
      after.at? target = some (Node.ofFiles []) := by
  induction names generalizing tree reached with
  | nil => cases hbuild
  | cons name rest ih =>
    obtain ⟨entries, hentries⟩ := Node.exists_directory_iff.2 hreached
    have hchild := Node.at?_concat hentries name
    rw [makeDirectory.build, hentries] at hbuild
    dsimp only at hbuild
    by_cases hdots : name == ".."
    · rw [if_pos hdots] at hbuild
      obtain ⟨hextends, target, hwalk, hempty⟩ := ih (Node.look_dropLast hreached) hbuild
      refine ⟨hextends, target, ?_, hempty⟩
      rw [Node.walk_cons, hextends _ _ hreached]
      exact (if_pos hdots).trans hwalk
    by_cases hsize : Node.nameLimit < Text.Utf8.size name
    · rw [if_neg hdots, if_pos hsize] at hbuild
      cases hbuild
    rw [if_neg hdots, if_neg hsize] at hbuild
    have hstep (hextends : Node.Extends tree after) : after.walk reached (name :: rest) =
        after.walk (reached ++ [name]) rest := by
      rw [Node.walk_cons, hextends _ _ hreached]
      exact (if_neg hdots).trans (if_neg hsize)
    cases hthere : Named.get? name entries with
    | some there =>
      rw [hchild, hthere] at hbuild
      cases there with
      | file content => exact absurd hbuild (build_of_file (hchild.trans hthere) after)
      | directory below =>
        obtain ⟨hextends, target, hwalk, hempty⟩ :=
          ih (Node.exists_directory_iff.1 ⟨below, hchild.trans hthere⟩) hbuild
        exact ⟨hextends, target, (hstep hextends).trans hwalk, hempty⟩
    | none =>
      rw [hchild, hthere] at hbuild
      dsimp only at hbuild
      have hmade : (Node.put (.directory []) tree (reached ++ [name])).at? (reached ++ [name]) =
          some (Node.ofFiles []) :=
        (Node.at?_concat (Node.at?_put_concat hentries _ name) name).trans (Named.get?_set_self ..)
      have hgrows := Node.extends_put_concat hentries hthere (.directory [])
      by_cases hlast : rest.isEmpty
      · rw [if_pos hlast] at hbuild
        obtain rfl := Except.ok.inj hbuild
        rw [List.isEmpty_iff.1 hlast] at hstep ⊢
        exact ⟨hgrows, _, hstep hgrows, hmade⟩
      · rw [if_neg hlast] at hbuild
        obtain ⟨hextends, target, hwalk, hempty⟩ :=
          ih (Node.exists_directory_iff.1 ⟨_, hmade⟩) hbuild
        have hboth := hgrows.trans hextends
        exact ⟨hboth, target, (hstep hboth).trans hwalk, hempty⟩

theorem makeDirectory_eq_ok {host after : Host} {p : Path}
    (hmake : host.makeDirectory p = .ok after) :
    ∃ tree, after = { host with tree } ∧ Node.Extends host.tree tree ∧ after.HoldsFiles p [] := by
  unfold makeDirectory at hmake
  by_cases hnul : p.hasNul = true
  · rw [if_pos hnul] at hmake
    cases hmake
  by_cases hsize : pathLimit < Text.Utf8.size p.text
  · rw [if_neg hnul, if_pos hsize] at hmake
    cases hmake
  rw [if_neg hnul, if_neg hsize] at hmake
  obtain ⟨tree, hbuild, hafter⟩ := except_bind_eq_ok.1 hmake
  obtain rfl := Except.ok.inj hafter
  have hroot : host.tree.look [] = some none := by
    cases hat : host.tree with
    | directory entries => rfl
    | file content =>
      have hfile : host.tree.at? [] = some (.file content) := by rw [hat, Node.at?_nil]
      exact absurd hbuild (build_of_file hfile tree)
  obtain ⟨hextends, target, hwalk, hempty⟩ := build_eq_ok hroot hbuild
  refine ⟨tree, rfl, hextends, node_of_at? ?_ hempty⟩
  unfold locate
  rw [if_neg hnul, if_neg hsize]
  exact hwalk

end Host

/-! ### Files in a directory -/

theorem Text.Utf8.size_append (s t : String) : size (s ++ t) = size s + size t := by
  rw [size, String.toList_append, encode, List.flatMap_append, List.length_append]
  rfl

theorem Text.Utf8.size_intercalate_concat_le (names : List String) (name : String) :
    size (String.intercalate "/" (names ++ [name])) ≤
      size (String.intercalate "/" names) + 1 + size name := by
  have hslash : size "/" = 1 := by decide
  induction names with
  | nil =>
    rw [List.nil_append, String.intercalate_singleton]
    omega
  | cons first rest ih =>
    cases rest with
    | nil =>
      rw [List.singleton_append, String.intercalate_cons_cons, String.intercalate_singleton,
        String.intercalate_singleton, size_append, size_append]
      omega
    | cons second rest =>
      rw [List.cons_append] at ih
      rw [List.cons_append, List.cons_append, String.intercalate_cons_cons,
        String.intercalate_cons_cons, size_append, size_append, size_append, size_append]
      omega

namespace Path

structure IsFileName (name : String) : Prop where
  slash : '/' ∉ name.toList
  nul : '\x00' ∉ name.toList
  ne_empty : name ≠ ""
  ne_dot : name ≠ "."
  ne_dots : name ≠ ".."
  size : Text.Utf8.size name ≤ Node.nameLimit

variable {name : String}

theorem IsFileName.ofText_eq (hname : IsFileName name) : ofText name = ⟨.relative, [name]⟩ := by
  have hanchor : anchorOf name.toList = .relative := by
    unfold anchorOf
    cases hcs : name.toList with
    | nil => rfl
    | cons c cs =>
      have hc : c ≠ '/' := fun heq => hname.slash (by simp [hcs, heq])
      rw [List.takeWhile_cons_of_neg (by simpa using hc)]
      rfl
  have hnames : namesOf name = [name] := by
    simp [namesOf, Text.cutText, Text.cut_of_notMem hname.slash, hname.ne_empty, hname.ne_dot]
  rw [ofText, hanchor, hnames]

theorem IsFileName.div_eq (hname : IsFileName name) (directory : Path) :
    directory / name = ⟨directory.anchor, directory.names ++ [name]⟩ := by
  change directory.join (ofText name) = _
  rw [hname.ofText_eq]
  exact join_of_relative rfl

theorem IsFileName.size_text_div_le (hname : IsFileName name) (directory : Path) :
    Text.Utf8.size (directory / name).text ≤
      Text.Utf8.size directory.text + 1 + Text.Utf8.size name := by
  have hnames := Text.Utf8.size_intercalate_concat_le directory.names name
  have htext : (directory / name).text =
      anchorText directory.anchor ++ String.intercalate "/" (directory.names ++ [name]) := by
    rw [hname.div_eq, text, if_neg (by simp)]
  rw [htext, Text.Utf8.size_append]
  unfold text
  split
  · rename_i hhere
    obtain ⟨hanchor, hempty⟩ := Bool.and_eq_true_iff.1 hhere
    rw [eq_of_beq hanchor]
    rw [List.isEmpty_iff.1 hempty] at hnames ⊢
    have hanchorSize : Text.Utf8.size (anchorText .relative) = 0 := by decide
    have hnone : Text.Utf8.size (String.intercalate "/" []) = 0 := by decide
    omega
  · rw [Text.Utf8.size_append]
    omega

end Path

namespace Host

variable {host : Host} {directory : Path} {name : String} {target : List String}

theorem locate_div (hname : Path.IsFileName name)
    (hpath : Text.Utf8.size (directory / name).text ≤ pathLimit)
    (hlocate : host.locate directory = .ok target) (htarget : host.tree.look target = some none) :
    host.locate (directory / name) = .ok (target ++ [name]) := by
  unfold locate at hlocate
  split at hlocate
  · cases hlocate
  rename_i hnul
  split at hlocate
  · cases hlocate
  have hrelative : (Path.ofText name).isAbsolute = false := by
    rw [hname.ofText_eq]
    rfl
  have hnul' : (directory / name).hasNul = false := by
    refine (Path.hasNul_join hrelative).trans ?_
    rw [hname.ofText_eq]
    exact Bool.or_eq_false_iff.2 ⟨Bool.eq_false_iff.2 hnul, by simp [Path.hasNul, hname.nul]⟩
  have hjoin : (host.workingDirectory.join (directory / name)).names =
      (host.workingDirectory.join directory).names ++ [name] := by
    refine (Path.names_join_join _ _ hrelative).trans ?_
    rw [hname.ofText_eq]
  unfold locate
  rw [if_neg (by simp [hnul']), if_neg (Nat.not_lt.2 hpath), hjoin, Node.walk_append, hlocate]
  change host.tree.walk target [name] = _
  rw [Node.walk_cons, htarget]
  exact (if_neg (by simpa using hname.ne_dots)).trans (if_neg (Nat.not_lt.2 hname.size))

/-- A file can be written into a directory of files, where it takes the place of one of its name. -/
theorem write_of_holdsFiles {files : List (String × String)}
    (hholds : host.HoldsFiles directory files)
    (hname : Path.IsFileName name) (hpath : Text.Utf8.size (directory / name).text ≤ pathLimit)
    (text : String) :
    ∃ tree, host.write (directory / name) (.text text) = .ok { host with tree } ∧
      HoldsFiles { host with tree } directory (Named.set name text files) := by
  obtain ⟨target, hlocate, hat⟩ := node_eq_ok hholds
  have hparent := Node.exists_directory_iff.1 ⟨_, hat⟩
  have hplace := locate_div hname hpath hlocate hparent
  have hchild : host.tree.at? (target ++ [name]) =
      (Named.get? name files).map Node.ofText :=
    (Node.at?_concat hat name).trans (Named.get?_map Node.ofText name files)
  have htarget : host.tree.look (target ++ [name]) ≠ some none := by
    rw [Node.look, hchild]
    cases Named.get? name files <;> simp [Node.ofText, Node.content?]
  refine ⟨Node.put (.ofText text) host.tree (target ++ [name]), ?_, ?_⟩
  · unfold write
    rw [hplace]
    dsimp only [bind, Except.bind]
    rw [hchild, List.dropLast_concat, hat]
    cases Named.get? name files <;> rfl
  · have hsame : Node.SameBut name host.tree
        (Node.put (.ofText text) host.tree (target ++ [name])) :=
      .of_put _ (by simp) (by simpa using hparent) htarget
    have hfiles : SameFilesBut name host
        { host with tree := Node.put (.ofText text) host.tree (target ++ [name]) } :=
      ⟨rfl, hsame⟩
    rcases hfiles.locate directory with heq | ⟨fault, -, -, -, herror, -⟩
    · refine node_of_at? (heq.symm.trans hlocate) ?_
      rw [Node.at?_put_concat hat, Node.ofFiles, ← Named.set_map]
    · rw [hlocate] at herror
      cases herror

end Host

namespace Run

variable {host after : Host} {p : Path}

theorem makeDirectory_of_eq_ok (hmake : host.makeDirectory p = .ok after) :
    makeDirectory p host = (.ok (), after) := by
  unfold makeDirectory
  rw [bind_apply, access_apply, hmake]
  rfl

theorem writeText_of_eq_ok {text : String} (hwrite : host.write p (.text text) = .ok after) :
    writeText p text host = (.ok (), after) := by
  unfold writeText
  rw [bind_apply, access_apply, hwrite]
  rfl

end Run

end Checkup
