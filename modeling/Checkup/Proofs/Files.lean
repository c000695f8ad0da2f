import Checkup.Proofs.Run

/-!
# What a file write can be seen by

A file that is written or removed under a name changes what is found under that name and nothing
else. `Node.SameBut name` says that two trees differ in files of that name at most; writing and
removing such a file keep it, and every look at a path that ends in another name gives the same on
both trees.
-/

namespace Checkup

namespace Named

variable {α : Type}

theorem get?_erase_self (name : String) (entries : List (String × α)) :
    get? name (erase name entries) = none := by
  induction entries with
  | nil => rfl
  | cons entry rest ih => by_cases hkey : entry.1 = name <;> simp_all [erase, get?]

theorem get?_erase_of_ne {name other : String} (hne : other ≠ name)
    (entries : List (String × α)) : get? other (erase name entries) = get? other entries := by
  induction entries with
  | nil => rfl
  | cons entry rest ih =>
    by_cases hkey : entry.1 = name <;> by_cases hother : entry.1 = other <;>
      simp_all [erase, get?]

end Named

namespace Node

/-- What a node is, the entries of a directory aside. -/
def content? : Node → Option Content
  | file content => some content
  | directory _ => none

/-- What stands at the names: nothing, a file with its content, or a directory. -/
def look (node : Node) (names : List String) : Option (Option Content) :=
  (node.at? names).map content?

@[simp] theorem look_nil (node : Node) : node.look [] = some node.content? := rfl

theorem look_cons (node : Node) (name : String) (rest : List String) :
    node.look (name :: rest) = (node.child? name).bind (·.look rest) := by
  simp only [look, at?]
  cases node.child? name <;> rfl

@[simp] theorem look_file_cons (content : Content) (name : String) (rest : List String) :
    (file content).look (name :: rest) = none := rfl

@[simp] theorem child?_directory (entries : List (String × Node)) (name : String) :
    (directory entries).child? name = Named.get? name entries := rfl

theorem eq_directory_of_look_nil {node : Node} (hlook : node.look [] = some none) :
    ∃ entries, node = directory entries := by
  cases node with
  | file content => simp [content?] at hlook
  | directory entries => exact ⟨entries, rfl⟩

theorem eq_directory_of_look_cons {node : Node} {name : String} {rest : List String}
    {found : Option Content} (hlook : node.look (name :: rest) = some found) :
    ∃ entries, node = directory entries := by
  cases node with
  | file content => simp at hlook
  | directory entries => exact ⟨entries, rfl⟩

theorem look_cons_eq_none {node : Node} (hfile : node.look [] ≠ some none) (name : String)
    (rest : List String) : node.look (name :: rest) = none := by
  cases node with
  | file content => rfl
  | directory entries => simp [content?] at hfile

theorem look_directory_cons (entries : List (String × Node)) (name : String)
    (rest : List String) : (directory entries).look (name :: rest) =
      (Named.get? name entries).bind (·.look rest) :=
  look_cons _ _ _

/-- A file that is written in a directory shows at its own names only. -/
theorem look_put_of_ne {node : Node} {names other : List String} (content : Content)
    (hnames : names ≠ []) (hparent : node.look names.dropLast = some none)
    (htarget : node.look names ≠ some none) (hne : other ≠ names) :
    (put (file content) node names).look other = node.look other := by
  induction names generalizing node other with
  | nil => exact absurd rfl hnames
  | cons name rest ih =>
    cases rest with
    | nil =>
      obtain ⟨entries, rfl⟩ := eq_directory_of_look_nil hparent
      cases other with
      | nil => rfl
      | cons first more =>
        simp only [put, look_directory_cons]
        by_cases hfirst : first = name
        · subst hfirst
          have hmore : more ≠ [] := fun hnil => hne (by rw [hnil])
          obtain ⟨second, more, rfl⟩ := List.exists_cons_of_ne_nil hmore
          rw [look_directory_cons] at htarget
          rw [Named.get?_set_self]
          cases hold : Named.get? first entries with
          | none => rfl
          | some old =>
            rw [hold] at htarget
            exact (look_cons_eq_none htarget second more).symm
        · rw [Named.get?_set_of_ne hfirst]
    | cons second rest =>
      rw [List.dropLast_cons_of_ne_nil (by simp)] at hparent
      obtain ⟨entries, rfl⟩ := eq_directory_of_look_cons hparent
      rw [look_directory_cons] at hparent htarget
      obtain ⟨old, hold, hbelow⟩ := Option.bind_eq_some_iff.1 hparent
      rw [hold] at htarget
      cases other with
      | nil => rfl
      | cons first more =>
        simp only [put, look_directory_cons]
        by_cases hfirst : first = name
        · subst hfirst
          have hmore : more ≠ second :: rest := fun heq => hne (by rw [heq])
          rw [Named.get?_set_self, hold]
          exact ih (by simp) hbelow htarget hmore
        · rw [Named.get?_set_of_ne hfirst]

theorem look_put_self {node : Node} {names : List String} (content : Content) (hnames : names ≠ [])
    (hparent : node.look names.dropLast = some none) :
    (put (file content) node names).look names = some (some content) := by
  induction names generalizing node with
  | nil => exact absurd rfl hnames
  | cons name rest ih =>
    cases rest with
    | nil =>
      obtain ⟨entries, rfl⟩ := eq_directory_of_look_nil hparent
      simp only [put, look_directory_cons, Named.get?_set_self, Option.bind_some]
      rfl
    | cons second rest =>
      rw [List.dropLast_cons_of_ne_nil (by simp)] at hparent
      obtain ⟨entries, rfl⟩ := eq_directory_of_look_cons hparent
      rw [look_directory_cons] at hparent
      obtain ⟨old, hold, hbelow⟩ := Option.bind_eq_some_iff.1 hparent
      simp only [put, look_directory_cons, Named.get?_set_self, Option.bind_some]
      rw [hold]
      exact ih (by simp) hbelow

theorem look_remove_of_ne {node : Node} {names other : List String} {content : Content}
    (htarget : node.look names = some (some content)) (hne : other ≠ names) :
    (node.remove names).look other = node.look other := by
  induction names generalizing node other with
  | nil => rfl
  | cons name rest ih =>
    obtain ⟨entries, rfl⟩ := eq_directory_of_look_cons htarget
    rw [look_directory_cons] at htarget
    obtain ⟨old, hold, hbelow⟩ := Option.bind_eq_some_iff.1 htarget
    cases other with
    | nil => cases rest <;> simp [remove, hold, content?]
    | cons first more =>
      by_cases hfirst : first = name
      · subst hfirst
        have hmore : more ≠ rest := fun heq => hne (by rw [heq])
        cases rest with
        | nil =>
          simp only [remove, look_directory_cons, Named.get?_erase_self, hold]
          obtain ⟨second, more, rfl⟩ := List.exists_cons_of_ne_nil hmore
          exact (look_cons_eq_none (by simp_all) second more).symm
        | cons second rest =>
          simp only [remove, child?_directory, hold, Node.entries, look_directory_cons,
            Named.get?_set_self, Option.bind_some]
          exact ih hbelow hmore
      · cases rest with
        | nil => simp only [remove, look_directory_cons, Named.get?_erase_of_ne hfirst]
        | cons second rest =>
          simp only [remove, child?_directory, hold, Node.entries, look_directory_cons,
            Named.get?_set_of_ne hfirst]

theorem look_remove_self {node : Node} {names : List String} {content : Content}
    (hnames : names ≠ []) (htarget : node.look names = some (some content)) :
    (node.remove names).look names = none := by
  induction names generalizing node with
  | nil => exact absurd rfl hnames
  | cons name rest ih =>
    obtain ⟨entries, rfl⟩ := eq_directory_of_look_cons htarget
    rw [look_directory_cons] at htarget
    obtain ⟨old, hold, hbelow⟩ := Option.bind_eq_some_iff.1 htarget
    cases rest with
    | nil => simp only [remove, look_directory_cons, Named.get?_erase_self, Option.bind_none]
    | cons second rest =>
      simp only [remove, child?_directory, hold, Node.entries, look_directory_cons,
        Named.get?_set_self, Option.bind_some]
      exact ih (by simp) hbelow

/-! ### Trees that differ in files of one name -/

/-- The trees differ at most in what files of this name they hold. -/
def SameBut (name : String) (tree tree' : Node) : Prop :=
  ∀ names, tree.look names = tree'.look names ∨
    (names.getLast? = some name ∧ tree.look names ≠ some none ∧ tree'.look names ≠ some none)

namespace SameBut

variable {name : String} {tree tree' tree'' : Node}

theorem refl (tree : Node) : SameBut name tree tree := fun _ => .inl rfl

theorem trans (hfirst : SameBut name tree tree') (hsecond : SameBut name tree' tree'') :
    SameBut name tree tree'' := by
  intro names
  rcases hfirst names with heq | ⟨hlast, hfile, hfile'⟩
  · rw [heq]
    exact hsecond names
  · rcases hsecond names with heq | ⟨_, _, hfile''⟩
    · exact .inr ⟨hlast, hfile, heq ▸ hfile'⟩
    · exact .inr ⟨hlast, hfile, hfile''⟩

theorem look_eq (hsame : SameBut name tree tree') {names : List String}
    (hlast : names.getLast? ≠ some name) : tree.look names = tree'.look names :=
  (hsame names).resolve_right fun h => hlast h.1

theorem look_eq_directory_iff (hsame : SameBut name tree tree') (names : List String) :
    tree.look names = some none ↔ tree'.look names = some none := by
  rcases hsame names with heq | ⟨_, hfile, hfile'⟩
  · rw [heq]
  · exact ⟨fun h => absurd h hfile, fun h => absurd h hfile'⟩

theorem of_put {names : List String} (content : Content) (hlast : names.getLast? = some name)
    (hparent : tree.look names.dropLast = some none) (htarget : tree.look names ≠ some none) :
    SameBut name tree (put (file content) tree names) := by
  have hnames : names ≠ [] := by
    rintro rfl
    simp at hlast
  intro other
  by_cases hne : other = names
  · subst hne
    refine .inr ⟨hlast, htarget, ?_⟩
    rw [look_put_self content hnames hparent]
    simp
  · exact .inl (look_put_of_ne content hnames hparent htarget hne).symm

theorem of_remove {names : List String} {content : Content} (hlast : names.getLast? = some name)
    (htarget : tree.look names = some (some content)) : SameBut name tree (tree.remove names) := by
  have hnames : names ≠ [] := by
    rintro rfl
    simp at hlast
  intro other
  by_cases hne : other = names
  · subst hne
    refine .inr ⟨hlast, by simp [htarget], ?_⟩
    simp [look_remove_self hnames htarget]
  · exact .inl (look_remove_of_ne htarget hne).symm

end SameBut

/-! ### Walks -/

theorem exists_directory_iff {node : Node} {names : List String} :
    (∃ entries, node.at? names = some (directory entries)) ↔ node.look names = some none := by
  simp only [look, Option.map_eq_some_iff]
  constructor
  · rintro ⟨entries, hat⟩
    exact ⟨_, hat, rfl⟩
  · rintro ⟨found, hat, hfound⟩
    cases found with
    | file content => simp [content?] at hfound
    | directory entries => exact ⟨entries, hat⟩

theorem walk_cons (root : Node) (reached : List String) (name : String) (rest : List String) :
    root.walk reached (name :: rest) = match root.look reached with
      | none => .error .missing
      | some (some _) => .error .notDirectory
      | some none =>
        if name == ".." then root.walk reached.dropLast rest
        else if nameLimit < Text.Utf8.size name then .error .nameTooLong
        else root.walk (reached ++ [name]) rest := by
  rw [walk, look]
  rcases root.at? reached with _ | _ | _ <;> rfl

/-- A walk whose last step is a name ends at that name in a directory. -/
theorem walk_concat_eq_ok {root : Node} {reached names target : List String} {last : String}
    (hdots : last ≠ "..") (hwalk : root.walk reached (names ++ [last]) = .ok target) :
    ∃ parent, target = parent ++ [last] ∧ root.look parent = some none := by
  induction names generalizing reached with
  | nil =>
    rw [List.nil_append, walk_cons] at hwalk
    split at hwalk
    · cases hwalk
    · cases hwalk
    · rename_i hdirectory
      rw [if_neg (by simpa using hdots)] at hwalk
      split at hwalk
      · cases hwalk
      · exact ⟨reached, (Except.ok.inj hwalk).symm, hdirectory⟩
  | cons name rest ih =>
    rw [List.cons_append, walk_cons] at hwalk
    split at hwalk
    · cases hwalk
    · cases hwalk
    · split at hwalk
      · exact ih hwalk
      · split at hwalk
        · cases hwalk
        · exact ih hwalk

end Node

/-- Whether a path was not reached because something on the way was missing or no directory. -/
def AccessFault.IsAbsence (fault : AccessFault) : Prop :=
  fault = .missing ∨ fault = .notDirectory

/-- The same result, or both times something on the way is missing or no directory. -/
def AccessFault.SameAccess {α : Type} (result result' : Except AccessFault α) : Prop :=
  result = result' ∨ ∃ fault fault' : AccessFault, fault.IsAbsence ∧ fault'.IsAbsence ∧
    result = .error fault ∧ result' = .error fault'

namespace Node

open AccessFault (SameAccess)

/-- A walk on from a place that is no directory fails for that reason. -/
theorem walk_cons_of_not_directory {root : Node} {reached : List String}
    (hfile : root.look reached ≠ some none) (name : String) (rest : List String) :
    ∃ fault : AccessFault, fault.IsAbsence ∧ root.walk reached (name :: rest) = .error fault := by
  rw [walk_cons]
  rcases hlook : root.look reached with _ | _ | content
  · exact ⟨.missing, .inl rfl, rfl⟩
  · exact absurd hlook hfile
  · exact ⟨.notDirectory, .inr rfl, rfl⟩

theorem SameBut.walk {name : String} {tree tree' : Node} (hsame : SameBut name tree tree')
    (reached names : List String) :
    SameAccess (tree.walk reached names) (tree'.walk reached names) := by
  induction names generalizing reached with
  | nil => exact .inl rfl
  | cons first rest ih =>
    by_cases hdirectory : tree.look reached = some none
    · have hdirectory' := (hsame.look_eq_directory_iff reached).1 hdirectory
      rw [walk_cons, walk_cons, hdirectory, hdirectory']
      dsimp only
      split
      · exact ih _
      · split
        · exact .inl rfl
        · exact ih _
    · have hdirectory' := mt (hsame.look_eq_directory_iff reached).2 hdirectory
      obtain ⟨fault, habsence, hwalk⟩ := walk_cons_of_not_directory hdirectory first rest
      obtain ⟨fault', habsence', hwalk'⟩ := walk_cons_of_not_directory hdirectory' first rest
      exact .inr ⟨fault, fault', habsence, habsence', hwalk, hwalk'⟩

end Node

/-! ### Paths -/

theorem Text.cut_of_notMem {separator : Char} {cs : List Char} (hnot : separator ∉ cs) :
    Text.cut separator cs = [cs] := by
  induction cs with
  | nil => rfl
  | cons c cs ih =>
    simp only [List.mem_cons, not_or] at hnot
    simp [Text.cut, ih hnot.2, Ne.symm hnot.1]

namespace Path

/-- Whether the last name of a path is this one, which is no double dot. -/
def EndsIn (p : Path) (last : String) : Prop :=
  last ≠ ".." ∧ p.names.getLast? = some last

theorem endsIn_ofText {s : String} (hslash : '/' ∉ s.toList) (hempty : s ≠ "") (hdot : s ≠ ".")
    (hdots : s ≠ "..") : (ofText s).EndsIn s := by
  refine ⟨hdots, ?_⟩
  simp [ofText, namesOf, Text.cutText, Text.cut_of_notMem hslash, hempty, hdot]

theorem EndsIn.join {p : Path} {last : String} (hends : p.EndsIn last) (directory : Path) :
    (directory.join p).EndsIn last := by
  refine ⟨hends.1, ?_⟩
  unfold Path.join
  split
  · exact hends.2
  · rw [List.getLast?_append, hends.2]
    rfl

theorem endsIn_div (directory : Path) {s : String} (hslash : '/' ∉ s.toList) (hempty : s ≠ "")
    (hdot : s ≠ ".") (hdots : s ≠ "..") : (directory / s).EndsIn s :=
  (endsIn_ofText hslash hempty hdot hdots).join directory

end Path

/-! ### Hosts -/

namespace Host

open AccessFault (SameAccess)

/-- The hosts show the same surface, but for files of a name. -/
structure SameFilesBut (name : String) (h h' : Host) : Prop where
  rest : { h.surface with tree := h'.tree } = h'.surface
  tree : Node.SameBut name h.tree h'.tree

namespace SameFilesBut

variable {name last : String} {h h' h'' : Host} {p : Path}

theorem of_surface_eq (hsurface : h.surface = h'.surface) : SameFilesBut name h h' :=
  ⟨by rw [hsurface]; rfl, tree_eq_of_surface_eq hsurface ▸ .refl _⟩

theorem trans (hfirst : SameFilesBut name h h') (hsecond : SameFilesBut name h' h'') :
    SameFilesBut name h h'' :=
  ⟨by rw [← hsecond.rest, ← hfirst.rest], hfirst.tree.trans hsecond.tree⟩

theorem workingDirectory (hsame : SameFilesBut name h h') :
    h.workingDirectory = h'.workingDirectory :=
  congrArg Surface.workingDirectory hsame.rest

theorem git (hsame : SameFilesBut name h h') : h.surroundings.git = h'.surroundings.git :=
  congrArg Surface.git hsame.rest

theorem program (hsame : SameFilesBut name h h') :
    h.surroundings.program = h'.surroundings.program :=
  congrArg Surface.program hsame.rest

theorem locate (hsame : SameFilesBut name h h') (p : Path) :
    SameAccess (h.locate p) (h'.locate p) := by
  simp only [Host.locate, hsame.workingDirectory]
  split
  · exact .inl rfl
  · split
    · exact .inl rfl
    · exact hsame.tree.walk _ _

end SameFilesBut

/-- The place of a path that ends in a name is that name in a directory. -/
theorem locate_eq_ok {host : Host} {p : Path} {last : String} {target : List String}
    (hends : p.EndsIn last) (hlocate : host.locate p = .ok target) :
    ∃ parent, target = parent ++ [last] ∧ host.tree.look parent = some none := by
  unfold Host.locate at hlocate
  split at hlocate
  · cases hlocate
  · split at hlocate
    · cases hlocate
    · obtain ⟨hdots, hlast⟩ := hends.join host.workingDirectory
      obtain ⟨names, hnames⟩ := List.getLast?_eq_some_iff.1 hlast
      rw [hnames] at hlocate
      exact Node.walk_concat_eq_ok hdots hlocate

/-- Writing a file changes the tree, and files of that name only; what was written is there. -/
theorem write_eq_ok {host after : Host} {p : Path} {content : Content} {last : String}
    (hends : p.EndsIn last) (hwrite : host.write p content = .ok after) :
    ∃ tree, after = { host with tree } ∧ Node.SameBut last host.tree tree ∧
      ∃ target, host.locate p = .ok target ∧ tree.look target = some (some content) := by
  unfold write at hwrite
  cases hlocate : host.locate p with
  | error fault =>
    rw [hlocate] at hwrite
    cases hwrite
  | ok target =>
    obtain ⟨parent, rfl, hparent⟩ := locate_eq_ok hends hlocate
    obtain ⟨entries, hentries⟩ := Node.exists_directory_iff.2 hparent
    have hthere : (Node.put (.file content) host.tree (parent ++ [last])).look (parent ++ [last]) =
        some (some content) :=
      Node.look_put_self content (by simp) (by simpa using hparent)
    have hsame (htarget : host.tree.look (parent ++ [last]) ≠ some none) :
        Node.SameBut last host.tree (Node.put (.file content) host.tree (parent ++ [last])) :=
      .of_put content (by simp) (by simpa using hparent) htarget
    simp only [hlocate, bind, Except.bind, List.dropLast_concat, hentries] at hwrite
    cases hat : host.tree.at? (parent ++ [last]) with
    | none =>
      rw [hat] at hwrite
      exact ⟨_, (Except.ok.inj hwrite).symm, hsame (by simp [Node.look, hat]), _, rfl, hthere⟩
    | some node =>
      rw [hat] at hwrite
      cases node with
      | directory entries => cases hwrite
      | file old =>
        exact ⟨_, (Except.ok.inj hwrite).symm, hsame (by simp [Node.look, hat, Node.content?]), _,
          rfl, hthere⟩

theorem exists_write_eq_ok {host : Host} {p : Path} {content : Content}
    (hwrite : (host.write p content).isOk = true) (other : Content) :
    ∃ after, host.write p other = .ok after := by
  unfold write at *
  cases hlocate : host.locate p with
  | error fault =>
    rw [hlocate] at hwrite
    cases hwrite
  | ok names =>
    rw [hlocate] at hwrite
    dsimp only [bind, Except.bind] at hwrite ⊢
    split at hwrite
    · cases hwrite
    · exact ⟨_, rfl⟩
    · split at hwrite
      · exact ⟨_, rfl⟩
      · cases hwrite
      · cases hwrite

/-- Removing a file changes the tree, and files of that name only. -/
theorem removeFile_eq_ok {host after : Host} {p : Path} {last : String} (hends : p.EndsIn last)
    (hremove : host.removeFile p = .ok after) :
    ∃ tree, after = { host with tree } ∧ Node.SameBut last host.tree tree := by
  unfold removeFile at hremove
  split at hremove
  · rename_i target hlocate
    obtain ⟨parent, rfl, _⟩ := locate_eq_ok hends hlocate
    split at hremove
    · cases hremove
    · rename_i content hat
      have hfile : host.tree.look (parent ++ [last]) = some (some content) := by
        simp [Node.look, hat, Node.content?]
      exact ⟨_, (Except.ok.inj hremove).symm, .of_remove (by simp) hfile⟩
    · exact ⟨host.tree, (Except.ok.inj hremove).symm, .refl _⟩
  · exact ⟨host.tree, (Except.ok.inj hremove).symm, .refl _⟩
  · cases hremove

/-- A file that was written is found where it was written, wherever the surface is the same. -/
theorem locate_of_write {host after done : Host} {p : Path} {content : Content} {last : String}
    (hends : p.EndsIn last) (hwrite : host.write p content = .ok after)
    (hsurface : done.surface = after.surface) : ∃ target, host.locate p = .ok target ∧
      done.locate p = .ok target ∧ done.tree.look target = some (some content) := by
  obtain ⟨tree, rfl, hsame, target, hlocate, hthere⟩ := write_eq_ok hends hwrite
  have hfiles : SameFilesBut last host { host with tree } := ⟨rfl, hsame⟩
  refine ⟨target, hlocate, ?_, ?_⟩
  · rw [locate_eq_of_surface_eq hsurface]
    rcases hfiles.locate p with heq | ⟨fault, _, _, _, herror, _⟩
    · rw [← heq, hlocate]
    · rw [hlocate] at herror
      cases herror
  · rw [tree_eq_of_surface_eq hsurface]
    exact hthere

theorem removeFile_of_look {host : Host} {p : Path} {content : Content} {target : List String}
    (hlocate : host.locate p = .ok target) (hthere : host.tree.look target = some (some content)) :
    host.removeFile p = .ok { host with tree := host.tree.remove target } := by
  obtain ⟨node, hnode, hcontent⟩ := Option.map_eq_some_iff.1 hthere
  unfold removeFile
  rw [hlocate]
  dsimp only
  rw [hnode]
  cases node with
  | directory entries => cases hcontent
  | file old => rfl

/-- A file that was written can be removed, wherever the surface is the same. -/
theorem exists_removeFile_eq_ok {host after done : Host} {p : Path} {content : Content}
    {last : String} (hends : p.EndsIn last) (hwrite : host.write p content = .ok after)
    (hsurface : done.surface = after.surface) : ∃ tree, done.removeFile p = .ok { done with tree } := by
  obtain ⟨target, -, hlocate, hthere⟩ := locate_of_write hends hwrite hsurface
  exact ⟨_, removeFile_of_look hlocate hthere⟩

/-- What is seen of a path that leads somewhere is what stands there. -/
theorem map_content?_node {host : Host} {p : Path} {last : String} {target : List String}
    (hends : p.EndsIn last) (hlocate : host.locate p = .ok target) :
    (host.node p).map Node.content? = match host.tree.look target with
      | some found => .ok found
      | none => .error .missing := by
  obtain ⟨parent, rfl, hparent⟩ := locate_eq_ok hends hlocate
  obtain ⟨entries, hentries⟩ := Node.exists_directory_iff.2 hparent
  unfold Host.node Node.look
  rw [hlocate]
  dsimp only [bind, Except.bind]
  rw [List.dropLast_concat, hentries]
  cases host.tree.at? (parent ++ [last]) <;> rfl

theorem node_eq_error {host : Host} {p : Path} {fault : AccessFault}
    (hlocate : host.locate p = .error fault) : host.node p = .error fault := by
  unfold Host.node
  rw [hlocate]
  rfl

theorem content_eq_bind (host : Host) (p : Path) :
    host.content p = ((host.node p).map Node.content?).bind fun
      | some content => .ok content
      | none => .error .isDirectory := by
  unfold Host.content
  rcases host.node p with fault | _ | _ <;> rfl

namespace SameFilesBut

variable {name last : String} {h h' : Host} {p : Path}

theorem node (hsame : SameFilesBut name h h') (hends : p.EndsIn last) (hne : last ≠ name) :
    SameAccess ((h.node p).map Node.content?) ((h'.node p).map Node.content?) := by
  rcases hsame.locate p with hlocate | ⟨fault, fault', habsence, habsence', hlocate, hlocate'⟩
  · refine .inl ?_
    cases htarget : h'.locate p with
    | error fault =>
      rw [node_eq_error (hlocate.trans htarget), node_eq_error htarget]
    | ok target =>
      obtain ⟨parent, hparent, _⟩ := locate_eq_ok hends htarget
      have hlast : target.getLast? ≠ some name := by simpa [hparent] using hne
      rw [map_content?_node hends (hlocate.trans htarget), map_content?_node hends htarget,
        hsame.tree.look_eq hlast]
  · rw [node_eq_error hlocate, node_eq_error hlocate']
    exact .inr ⟨fault, fault', habsence, habsence', rfl, rfl⟩

theorem content (hsame : SameFilesBut name h h') (hends : p.EndsIn last) (hne : last ≠ name) :
    SameAccess (h.content p) (h'.content p) := by
  rw [content_eq_bind, content_eq_bind]
  rcases hsame.node hends hne with heq | ⟨fault, fault', habsence, habsence', hnode, hnode'⟩
  · rw [heq]
    exact .inl rfl
  · rw [hnode, hnode']
    exact .inr ⟨fault, fault', habsence, habsence', rfl, rfl⟩

end SameFilesBut

/-! ### Directories and files -/

variable {host : Host} {p : Path}

def HasDirectory (host : Host) (p : Path) : Prop :=
  ∃ entries, host.node p = .ok (.directory entries)

def HasFile (host : Host) (p : Path) : Prop :=
  ∃ content, host.content p = .ok content

theorem isDirectory_iff : (host.node p).toOption.any Node.isDirectory = true ↔ host.HasDirectory p := by
  unfold HasDirectory
  rcases host.node p with fault | _ | entries
  · exact ⟨nofun, nofun⟩
  · exact ⟨nofun, nofun⟩
  · exact ⟨fun _ => ⟨entries, rfl⟩, fun _ => rfl⟩

theorem isFile_iff : (host.content p).isOk = true ↔ host.HasFile p := by
  refine ⟨exists_eq_ok_of_isOk, ?_⟩
  rintro ⟨content, hcontent⟩
  rw [hcontent]
  rfl

instance (host : Host) (p : Path) : Decidable (host.HasDirectory p) :=
  decidable_of_iff _ isDirectory_iff

instance (host : Host) (p : Path) : Decidable (host.HasFile p) :=
  decidable_of_iff _ isFile_iff

end Host

namespace Run

variable {name last : String} {h h' : Host} {p : Path}

theorem isFile_apply (p : Path) (host : Host) :
    (isFile p host).1 = match (host.node p).map Node.content? with
      | .ok found => .ok found.isSome
      | .error .nameTooLong => .error (AccessFault.nameTooLong.toFault p)
      | .error _ => .ok false := by
  unfold isFile node?
  simp only [bind_apply, get_apply]
  rcases host.node p with _ | _ | _
  · rename_i fault
    cases fault <;> rfl
  all_goals rfl

theorem fst_isFile (p : Path) (host : Host) :
    (isFile p host).1 = match host.content p with
      | .ok _ => .ok true
      | .error .nameTooLong => .error (AccessFault.nameTooLong.toFault p)
      | .error _ => .ok false := by
  rw [isFile_apply, Host.content_eq_bind]
  rcases (host.node p).map Node.content? with fault | _ | content
  · cases fault <;> rfl
  · rfl
  · rfl

theorem isFile_congr (hsame : Host.SameFilesBut name h h') (hends : p.EndsIn last)
    (hne : last ≠ name) : (isFile p h).1 = (isFile p h').1 := by
  rw [isFile_apply, isFile_apply]
  rcases hsame.node hends hne with heq | ⟨fault, fault', habsence, habsence', hnode, hnode'⟩
  · rw [heq]
  · rw [hnode, hnode']
    rcases habsence with rfl | rfl <;> rcases habsence' with rfl | rfl <;> rfl

/-- A look for a directory meets a path that is refused, or finds out whether there is one. -/
theorem fst_isDirectory_cases (p : Path) (host : Host) :
    host.node p = .error .nameTooLong ∧
      (isDirectory p host).1 = .error (AccessFault.nameTooLong.toFault p) ∨
    host.node p ≠ .error .nameTooLong ∧ (isDirectory p host).1 = .ok (decide (host.HasDirectory p)) := by
  have hthere : decide (host.HasDirectory p) = (host.node p).toOption.any Node.isDirectory := by
    rw [Bool.eq_iff_iff, decide_eq_true_iff, Host.isDirectory_iff]
  rw [hthere]
  unfold isDirectory node?
  simp only [bind_apply, get_apply]
  rcases host.node p with fault | _ | _
  · cases fault with
    | nameTooLong => exact .inl ⟨rfl, rfl⟩
    | _ => exact .inr ⟨nofun, rfl⟩
  · exact .inr ⟨nofun, rfl⟩
  · exact .inr ⟨nofun, rfl⟩

/-- A look for a file meets a path that is refused, or finds out whether there is one. -/
theorem fst_isFile_cases (p : Path) (host : Host) :
    host.node p = .error .nameTooLong ∧
      (isFile p host).1 = .error (AccessFault.nameTooLong.toFault p) ∨
    host.node p ≠ .error .nameTooLong ∧ (isFile p host).1 = .ok (decide (host.HasFile p)) := by
  have hthere : decide (host.HasFile p) = (host.content p).isOk := by
    rw [Bool.eq_iff_iff, decide_eq_true_iff, Host.isFile_iff]
  rw [hthere, isFile_apply]
  unfold Host.content
  rcases host.node p with fault | _ | _
  · cases fault <;> simp [Except.map, bind, Except.bind, Except.isOk, Except.toBool]
  · simp [Except.map, bind, Except.bind, Except.isOk, Except.toBool, Node.content?]
  · simp [Except.map, bind, Except.bind, Except.isOk, Except.toBool, Node.content?]

end Run

end Checkup
