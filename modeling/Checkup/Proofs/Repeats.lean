import Mathlib.Data.List.Nodup
import Checkup.Proofs.Offers

/-!
# Projects that are chosen twice

Without a dialogue a run takes the packages as they are offered, or as they are named, and drops none
that it has taken before. Each single pattern of a workspace root offers a directory at most once, and
so do the root and its directories, because no directory has two entries of one name. A project can
therefore be chosen twice in two ways only: two patterns offer it, or two names mean it.
-/

namespace Checkup

open Run (IsQuestion)

/-! ### Names in a directory -/

/-- No directory in the node has two entries of one name. -/
inductive Node.IsProper : Node → Prop
  | file (content : Content) : IsProper (.file content)
  | directory {entries : List (String × Node)} (hnames : (entries.map (·.1)).Nodup)
      (hentries : ∀ entry ∈ entries, IsProper entry.2) : IsProper (.directory entries)

namespace Node.IsProper

theorem at? {node found : Node} {names : List String} (hproper : node.IsProper)
    (hfound : node.at? names = some found) : found.IsProper := by
  induction names generalizing node with
  | nil =>
    cases hfound
    exact hproper
  | cons name rest ih =>
    obtain ⟨child, hchild, hrest⟩ := Option.bind_eq_some_iff.1 hfound
    apply ih _ hrest
    cases hproper with
    | file content => cases hchild
    | directory _ hentries => exact hentries _ (Named.mem_of_get?_eq_some hchild)

theorem nodup_listing {entries : List (String × Node)}
    (hproper : (Node.directory entries).IsProper) :
    ((Node.directory entries).listing.map (·.1)).Nodup := by
  cases hproper with
  | directory hnames _ => exact ((List.mergeSort_perm _ _).map _).nodup_iff.2 hnames

end Node.IsProper

theorem Host.isProper_node {host : Host} {p : Path} {node : Node} (hproper : host.tree.IsProper)
    (hnode : host.node p = .ok node) : node.IsProper := by
  obtain ⟨names, -, hnode⟩ := except_bind_eq_ok.1 hnode
  cases hfound : host.tree.at? names with
  | some found =>
    rw [hfound] at hnode
    cases hnode
    exact hproper.at? hfound
  | none =>
    rw [hfound] at hnode
    dsimp only at hnode
    split at hnode <;> cases hnode

theorem Run.gives_listNames {host : Host} (hproper : host.tree.IsProper) (p : Path) :
    Gives List.Nodup (Run.listNames p host).1 := by
  have haccess : IsQuestion (Run.access p (·.node p)) :=
    .access p fun hsurface => Host.node_eq_of_surface_eq hsurface p
  refine haccess.gives_bind (fun found => ?_) fun node hnode => ?_
  · cases found with
    | directory entries => exact .pure _
    | file content => exact .throw _
  · rw [Run.access_apply] at hnode
    have hproper := Host.isProper_node hproper (except_mapError_eq_ok.1 hnode)
    cases node with
    | directory entries => exact .pure hproper.nodup_listing
    | file content => exact .error _

/-! ### Patterns -/

namespace Workspace

variable {host : Host}

theorem isAbsolute_suffix {pattern base suffix : String}
    (hpattern : Pattern.ofText pattern = .wildcard base suffix) :
    (Path.ofText suffix).isAbsolute = false := by
  unfold Pattern.ofText at hpattern
  dsimp only at hpattern
  split at hpattern
  · rename_i rest _
    cases hpattern
    have hnone : (rest.dropWhile (· == '/')).takeWhile (· == '/') = [] := by
      have hhead := List.head?_dropWhile_not (· == '/') rest
      cases hrest : rest.dropWhile (· == '/') with
      | nil => rfl
      | cons c more =>
        rw [hrest] at hhead
        exact List.takeWhile_cons_of_neg (by simpa using hhead)
    simp [Path.ofText, Path.anchorOf, Path.isAbsolute, hnone]
  · cases hpattern

theorem gives_directories_nodup (hproper : host.tree.IsProper) (root : Path) (pattern : String) :
    Gives List.Nodup (directories root pattern host).1 := by
  have hamong (found : List Path) : IsQuestion (packagesAmong found) := .filterM isQuestion_isPackage _
  have hkeep {found : List Path} (hfound : found.Nodup) :
      Gives List.Nodup (packagesAmong found host).1 := fun packages hpackages =>
    (gives_filterM isQuestion_isPackage found host packages hpackages).1.nodup hfound
  unfold directories
  cases hpattern : Pattern.ofText pattern with
  | literal path => exact hkeep (List.nodup_singleton _)
  | wildcard base suffix =>
    refine (IsQuestion.isDirectory _).gives_bind
      (fun _ => .ite (.bind (.listNames _) fun _ => hamong _) (.pure _)) fun isDirectory _ => ?_
    cases isDirectory with
    | false => exact .pure List.nodup_nil
    | true =>
      refine (IsQuestion.listNames _).gives_bind (fun _ => hamong _) fun names hnames => ?_
      apply hkeep
      refine List.Nodup.map (fun name other heq => ?_) (Run.gives_listNames hproper _ names hnames)
      split at heq
      · simpa using heq
      · have hbelow (p : Path) : p / suffix = ⟨p.anchor, p.names ++ (Path.ofText suffix).names⟩ :=
          Path.join_of_relative (isAbsolute_suffix hpattern)
        rw [hbelow, hbelow] at heq
        simpa using heq

end Workspace

/-! ### Packages -/

namespace Package

variable {host : Host} {root : Path}

theorem gives_reactAmong_sublist (directories : List Path) (host : Host) :
    Gives (fun found => (found.map (·.directory)).Sublist directories)
      (reactAmong directories host).1 := by
  induction directories with
  | nil => exact .pure (.refl _)
  | cons directory rest ih =>
    refine (Manifest.isQuestion_readIn directory).gives_bind (fun _ =>
      .bind (isQuestion_reactAmong rest) fun _ => .ite (.pure _) (.pure _)) fun manifest _ => ?_
    refine (isQuestion_reactAmong rest).gives_bind (fun _ => .ite (.pure _) (.pure _))
      fun others hothers => ?_
    split
    · exact .pure ((ih others hothers).cons_cons directory)
    · exact .pure ((ih others hothers).cons directory)

/-- The packages of one pattern that depend on React. -/
def reactInPattern (root : Path) (pattern : String) : Run (List Package) := do
  reactAmong (← Workspace.directories root pattern)

theorem isQuestion_reactInPattern (root : Path) (pattern : String) :
    IsQuestion (reactInPattern root pattern) :=
  .bind (Workspace.isQuestion_directories root pattern) fun _ => isQuestion_reactAmong _

theorem gives_reactInPattern_nodup (hproper : host.tree.IsProper) (root : Path) (pattern : String) :
    Gives (fun found => (found.map (·.directory)).Nodup) (reactInPattern root pattern host).1 := by
  refine (Workspace.isQuestion_directories root pattern).gives_bind
    (fun _ => isQuestion_reactAmong _) fun directories hdirectories found hfound => ?_
  exact (gives_reactAmong_sublist directories host found hfound).nodup
    (Workspace.gives_directories_nodup hproper root pattern directories hdirectories)

def IsOfferedBy (root : Path) (host : Host) (pattern : String) (directory : Path) : Prop :=
  ∃ found, (reactInPattern root pattern host).1 = .ok found ∧ directory ∈ found.map (·.directory)

theorem isOfferedBy_iff {pattern : String} {found : List Package} {directory : Path}
    (hfound : (reactInPattern root pattern host).1 = .ok found) :
    IsOfferedBy root host pattern directory ↔ directory ∈ found.map (·.directory) := by
  constructor
  · rintro ⟨other, hother, hmem⟩
    cases hfound.symm.trans hother
    exact hmem
  · exact fun hmem => ⟨found, hfound, hmem⟩

theorem reactInPatterns_cons_eq_ok {pattern : String} {rest : List String} {found : List Package}
    (hfound : (reactInPatterns root (pattern :: rest) host).1 = .ok found) :
    ∃ group others, (reactInPattern root pattern host).1 = .ok group ∧
      (reactInPatterns root rest host).1 = .ok others ∧ found = group ++ others := by
  have hrest (group : List Package) : IsQuestion (do
      return group ++ (← reactInPatterns root rest)) :=
    .bind (isQuestion_reactInPatterns root rest) fun _ => .pure _
  have heq : reactInPatterns root (pattern :: rest) = reactInPattern root pattern >>= fun group => do
      return group ++ (← reactInPatterns root rest) := by
    unfold reactInPattern
    rw [bind_assoc]
    rfl
  rw [heq] at hfound
  obtain ⟨group, hgroup, hfound⟩ := ((isQuestion_reactInPattern root pattern).fst_bind_eq_ok hrest).1
    hfound
  obtain ⟨others, hothers, hfound⟩ := ((isQuestion_reactInPatterns root rest).fst_bind_eq_ok
    fun _ => .pure _).1 hfound
  cases hfound
  exact ⟨group, others, hgroup, hothers, rfl⟩

theorem mem_reactInPatterns_iff {patterns : List String} {found : List Package} {directory : Path}
    (hfound : (reactInPatterns root patterns host).1 = .ok found) :
    directory ∈ found.map (·.directory) ↔
      ∃ pattern ∈ patterns, IsOfferedBy root host pattern directory := by
  induction patterns generalizing found with
  | nil =>
    cases hfound
    simp
  | cons pattern rest ih =>
    obtain ⟨group, others, hgroup, hothers, rfl⟩ := reactInPatterns_cons_eq_ok hfound
    rw [List.map_append, List.mem_append, ih hothers, ← isOfferedBy_iff hgroup, List.exists_mem_cons_iff]

/-- The packages of the patterns lie in different directories exactly when no two patterns offer the
same one. -/
theorem nodup_reactInPatterns_iff (hproper : host.tree.IsProper) {patterns : List String}
    {found : List Package} (hfound : (reactInPatterns root patterns host).1 = .ok found) :
    (found.map (·.directory)).Nodup ↔ patterns.Pairwise fun first second =>
      ∀ directory, IsOfferedBy root host first directory → ¬ IsOfferedBy root host second directory := by
  induction patterns generalizing found with
  | nil =>
    cases hfound
    simp
  | cons pattern rest ih =>
    obtain ⟨group, others, hgroup, hothers, rfl⟩ := reactInPatterns_cons_eq_ok hfound
    have hnodup := gives_reactInPattern_nodup hproper root pattern group hgroup
    rw [List.map_append, List.nodup_append, List.pairwise_cons, ih hothers]
    constructor
    · rintro ⟨-, hrest, happear⟩
      refine ⟨fun second hsecond directory hfirst hagain => ?_, hrest⟩
      exact happear directory ((isOfferedBy_iff hgroup).1 hfirst) directory
        ((mem_reactInPatterns_iff hothers).2 ⟨second, hsecond, hagain⟩) rfl
    · rintro ⟨hfirst, hrest⟩
      refine ⟨hnodup, hrest, ?_⟩
      rintro directory hmem _ hagain rfl
      obtain ⟨second, hsecond, hoffered⟩ := (mem_reactInPatterns_iff hothers).1 hagain
      exact hfirst second hsecond directory ((isOfferedBy_iff hgroup).2 hmem) hoffered

/-- No two of the patterns that a root declares offer the same directory. -/
def PatternsApart (root : Path) (host : Host) : Prop :=
  ∀ manifest patterns, (Manifest.isIn root host).1 = .ok true →
    (Manifest.readIn root host).1 = .ok manifest →
    (Workspace.patterns root manifest host).1 = .ok patterns →
    patterns.Pairwise fun first second => ∀ directory,
      IsOfferedBy root host first directory → ¬ IsOfferedBy root host second directory

theorem nodup_inWorkspaces_iff (hproper : host.tree.IsProper) {found : List Package}
    (hfound : (inWorkspaces root none host).1 = .ok found) :
    (found.map (·.directory)).Nodup ↔ PatternsApart root host := by
  have hpatterns (manifest : Manifest) : IsQuestion (do
      reactInPatterns root (← Workspace.patterns root manifest)) :=
    .bind (Workspace.isQuestion_patterns _ _) fun _ => isQuestion_reactInPatterns _ _
  obtain ⟨isThere, hthere, hfound⟩ := ((Manifest.isQuestion_isIn root).fst_bind_eq_ok
    fun _ => .ite (.pure _) (.bind (Manifest.isQuestion_readIn _) hpatterns)).1 hfound
  cases isThere with
  | false =>
    cases hfound
    simp [PatternsApart, hthere]
  | true =>
    obtain ⟨manifest, hmanifest, hfound⟩ := ((Manifest.isQuestion_readIn root).fst_bind_eq_ok
      hpatterns).1 hfound
    obtain ⟨patterns, hpatterns, hfound⟩ := ((Workspace.isQuestion_patterns _ _).fst_bind_eq_ok
      fun _ => isQuestion_reactInPatterns _ _).1 hfound
    rw [nodup_reactInPatterns_iff hproper hfound]
    constructor
    · intro happart manifest' patterns' _ hmanifest' hpatterns'
      cases hmanifest.symm.trans hmanifest'
      cases hpatterns.symm.trans hpatterns'
      exact happart
    · exact fun happart => happart manifest patterns hthere hmanifest hpatterns

theorem gives_reactIn?_directory (directory : Path) (host : Host) :
    Gives (fun found => (found.toList.map (·.directory)).Sublist [directory])
      (reactIn? directory host).1 := by
  have hread : IsQuestion (do
      let manifest ← Manifest.readIn directory
      if (Dependencies.ofManifest manifest).hasReact then
        return some (ofManifest manifest directory)
      return none) :=
    .bind (Manifest.isQuestion_readIn _) fun _ => .ite (.pure _) (.pure _)
  refine (Manifest.isQuestion_isIn _).gives_bind (fun _ => .ite hread (.pure _)) fun isThere _ => ?_
  cases isThere with
  | false => exact .pure (List.nil_sublist _)
  | true =>
    refine (Manifest.isQuestion_readIn _).gives_bind (fun _ => .ite (.pure _) (.pure _))
      fun manifest _ => ?_
    split
    · exact .pure (.refl _)
    · exact .pure (List.nil_sublist _)

def entryIn (directory : Path) (name : String) : Path :=
  ⟨directory.anchor, directory.names ++ [name]⟩

theorem gives_reactInEntries_sublist (directory : Path) (names : List String) (host : Host) :
    Gives (fun found => (found.map (·.directory)).Sublist (names.map (entryIn directory)))
      (reactInEntries directory names host).1 := by
  induction names with
  | nil => exact .pure (.refl _)
  | cons name rest ih =>
    have hrest (found : Option Package) : IsQuestion (do
        return found.toList ++ (← reactInEntries directory rest)) :=
      .bind (isQuestion_reactInEntries _ _) fun _ => .pure _
    refine (IsQuestion.isDirectory _).gives_bind (fun _ =>
      .ite (isQuestion_reactInEntries _ _) (.bind (isQuestion_reactIn? _) hrest))
        fun isDirectory _ => ?_
    split
    · exact fun found hfound => (ih found hfound).cons _
    · refine (isQuestion_reactIn? _).gives_bind hrest fun found hfound => ?_
      refine (isQuestion_reactInEntries _ _).gives_bind (fun _ => .pure _) fun others hothers => ?_
      refine .pure ?_
      rw [List.map_append]
      exact (gives_reactIn?_directory _ host found hfound).append (ih others hothers)

theorem gives_inSubdirectories_nodup (hproper : host.tree.IsProper) (root : Path) :
    Gives (fun found => (found.map (·.directory)).Nodup) (inSubdirectories root none host).1 := by
  have hentries (own : Option Package) : IsQuestion (do
      return own.toList ++ (← reactInEntries root (← Run.listNames root))) :=
    .bind (.listNames _) fun _ => .bind (isQuestion_reactInEntries _ _) fun _ => .pure _
  refine (IsQuestion.isDirectory _).gives_bind
    (fun _ => .ite (.pure _) (.bind (isQuestion_reactIn? _) hentries)) fun isDirectory _ => ?_
  cases isDirectory with
  | false => exact .pure List.nodup_nil
  | true =>
    refine (isQuestion_reactIn? root).gives_bind hentries fun own hown => ?_
    refine (IsQuestion.listNames _).gives_bind
      (fun _ => .bind (isQuestion_reactInEntries _ _) fun _ => .pure _) fun names hnames => ?_
    refine (isQuestion_reactInEntries _ _).gives_bind (fun _ => .pure _) fun others hothers => ?_
    have hall : ([root] ++ names.map (entryIn root)).Nodup := by
      rw [List.singleton_append, List.nodup_cons]
      constructor
      · intro hroot
        obtain ⟨name, -, hname⟩ := List.mem_map.1 hroot
        simpa [entryIn] using congrArg (fun p : Path => p.names.length) hname
      · apply List.Nodup.map _ (Run.gives_listNames hproper root names hnames)
        intro name other heq
        simpa [entryIn] using heq
    refine .pure ?_
    rw [List.map_append]
    exact ((gives_reactIn?_directory root host own hown).append
      (gives_reactInEntries_sublist root names host others hothers)).nodup hall

end Package

/-! ### Choices -/

namespace Cli

variable {root : Path} {list : Option String} {host : Host} {packages : List Package}
  {directories : List Path}

/-- The packages that a run chooses from lie in different directories exactly when no two workspace
patterns offer the same one. -/
theorem nodup_candidates_iff (hproper : host.tree.IsProper)
    (hcandidates : (candidates root host).1 = .ok packages) :
    (packages.map (·.directory)).Nodup ↔ Package.PatternsApart root host := by
  obtain ⟨workspaces, hworkspaces, hcandidates⟩ :=
    ((Package.isQuestion_inWorkspaces root none).fst_bind_eq_ok fun _ =>
      .ite (Package.isQuestion_inSubdirectories _ _) (.pure _)).1 hcandidates
  rw [← Package.nodup_inWorkspaces_iff hproper hworkspaces]
  split at hcandidates
  · rename_i hnone
    obtain rfl := List.isEmpty_iff.1 hnone
    exact iff_of_true
      (Package.gives_inSubdirectories_nodup hproper root packages hcandidates) List.nodup_nil
  · cases hcandidates
    rfl

theorem nodup_requested_iff {names : String} (hrequested : requested names packages = .ok directories) :
    directories.Nodup ↔
      (namesIn names).Pairwise fun a b => directoryOf packages a ≠ directoryOf packages b := by
  have hinjective : Function.Injective (Except.ok : Path → Except Fault Path) :=
    fun _ _ => Except.ok.inj
  rw [← List.nodup_map_iff hinjective, ← except_mapM_eq_ok.1 hrequested, List.Nodup,
    List.pairwise_map]

/-- When a run without a dialogue takes a project twice: without names, when two workspace patterns
offer it, and else when two of the names mean it. -/
theorem nodup_selectProjects_iff (hproper : host.tree.IsProper)
    (hcandidates : (candidates root host).1 = .ok packages)
    (hselect : (selectProjects root list false host).1 = .ok directories) :
    directories.Nodup ↔ packages = [] ∨ match list.filter (· != "") with
      | none => Package.PatternsApart root host
      | some names =>
        (namesIn names).Pairwise fun a b => directoryOf packages a ≠ directoryOf packages b := by
  rcases hrun : selectProjects root list false host with ⟨result, after⟩
  rw [hrun] at hselect
  cases hselect
  obtain ⟨found, mid, hfound, -, hrun⟩ := (isQuestion_candidates root).exists_of_bind_eq_ok hrun
  cases hcandidates.symm.trans hfound
  cases packages with
  | nil =>
    cases hrun
    simp
  | cons package rest =>
    dsimp only [List.isEmpty_cons] at hrun
    rw [if_neg (by simp)] at hrun
    simp only [reduceCtorEq, false_or]
    cases hnames : list.filter (· != "") with
    | none =>
      rw [hnames] at hrun
      dsimp only at hrun
      rw [if_pos (by simp)] at hrun
      cases hrun
      exact nodup_candidates_iff hproper hcandidates
    | some names =>
      rw [hnames] at hrun
      dsimp only at hrun
      cases hrequested : requested names (package :: rest) with
      | ok chosen =>
        rw [hrequested] at hrun
        cases hrun
        exact nodup_requested_iff hrequested
      | error fault =>
        rw [hrequested] at hrun
        cases hrun

/-! ### Dialogues -/

theorem nodup_distinctNumbers (numbers : List Int) : (distinctNumbers numbers).Nodup := by
  induction numbers with
  | nil => exact List.nodup_nil
  | cons n rest ih =>
    unfold distinctNumbers
    exact List.nodup_cons.2 ⟨by simp, ih.filter _⟩

theorem nodup_picked? {answer : String} (hnodup : (packages.map (·.directory)).Nodup)
    (hpicked : picked? packages answer = some directories) : directories.Nodup := by
  unfold picked? at hpicked
  split at hpicked
  · cases hpicked
    exact hnodup
  dsimp only at hpicked
  split at hpicked
  · cases hpicked
  have hmap := option_mapM_eq_some.1 hpicked
  have hinjective : Function.Injective (some : Path → Option Path) := fun _ _ => Option.some.inj
  rw [← List.nodup_map_iff hinjective, ← hmap]
  refine List.Nodup.map_on (fun m hm n hn heq => ?_) (nodup_distinctNumbers _)
  -- both numbers are places of the list, and different places have different directories
  have hplace {k : Int} (hk : k ∈ distinctNumbers (numbersIn answer)) :
      1 ≤ k ∧ k.toNat - 1 < (packages.map (·.directory)).length := by
    have hmem : (if 1 ≤ k then packages[k.toNat - 1]?.map (·.directory) else none) ∈
        directories.map some := by
      rw [← hmap]
      exact List.mem_map_of_mem hk
    obtain ⟨directory, -, hdirectory⟩ := List.mem_map.1 hmem
    split at hdirectory
    · rename_i hpositive
      rw [← List.getElem?_map] at hdirectory
      exact ⟨hpositive, (List.getElem?_eq_some_iff.1 hdirectory.symm).1⟩
    · cases hdirectory
  obtain ⟨hm, hmlt⟩ := hplace hm
  obtain ⟨hn, -⟩ := hplace hn
  rw [if_pos hm, if_pos hn, ← List.getElem?_map, ← List.getElem?_map] at heq
  have hsame := (List.getElem?_inj hmlt hnodup).1 heq
  omega

theorem yields_askUntilPicked_nodup (hnodup : (packages.map (·.directory)).Nodup) (fuel : Nat) :
    Run.Yields List.Nodup (askUntilPicked packages fuel) := by
  induction fuel with
  | zero => exact .throw _
  | succ fuel ih =>
    refine .bind_right fun answer => ?_
    cases hpicked : picked? packages answer with
    | some directories => exact .pure (nodup_picked? hnodup hpicked)
    | none => exact .bind_right fun _ => ih

end Cli

/-- A workspace root with two patterns that offer its one package. -/
def Host.withOverlap : Host :=
  { ofProject "" (fun _ => .unavailable) fun _ _ _ => .hangs with
    tree := .directory [
      ("package.json", .file (.text "\x7b\"workspaces\":[\"packages/*\",\"packages/web\"]\x7d")),
      ("packages", .directory [("web", .directory [("package.json", .file (.text
        "\x7b\"name\":\"@acme/web\",\"dependencies\":\x7b\"react\":\"19\"\x7d\x7d"))])])] }

theorem Host.isProper_withOverlap : Host.withOverlap.tree.IsProper := by
  have hpackage (content : Content) :
      (Node.directory [("web", .directory [("package.json", .file content)])]).IsProper := by
    refine .directory (by simp) (List.forall_mem_singleton.2 ?_)
    exact .directory (by simp) (List.forall_mem_singleton.2 (.file content))
  refine .directory (by decide) (List.forall_mem_cons.2 ⟨.file _, ?_⟩)
  exact List.forall_mem_singleton.2 (hpackage _)

namespace Cli

/-- The package is taken twice, once for each pattern, and also when it is asked for by its name and
by that of its directory. -/
theorem selectProjects_withOverlap :
    (selectProjects .root none false Host.withOverlap).1 =
      .ok [⟨.root, ["packages", "web"]⟩, ⟨.root, ["packages", "web"]⟩] ∧
    (selectProjects .root (some "@acme/web,web") false Host.withOverlap).1 =
      .ok [⟨.root, ["packages", "web"]⟩, ⟨.root, ["packages", "web"]⟩] ∧
    ¬ ([⟨.root, ["packages", "web"]⟩, ⟨.root, ["packages", "web"]⟩] : List Path).Nodup :=
  ⟨eq_ok_of_toOption (by decide +kernel), eq_ok_of_toOption (by decide +kernel), by decide⟩

/-- The two patterns are what makes the package be taken twice; asked for by one name, it is taken
once. -/
theorem nodup_withOverlap : ¬ Package.PatternsApart .root Host.withOverlap ∧
    ∃ directories, (selectProjects .root (some "web") false Host.withOverlap).1 = .ok directories ∧
      directories.Nodup := by
  obtain ⟨packages, hcandidates⟩ := exists_eq_ok_of_isOk
    (show (candidates .root Host.withOverlap).1.isOk = true by decide +kernel)
  have htwice : (selectProjects .root none false Host.withOverlap).1 =
      .ok [⟨.root, ["packages", "web"]⟩, ⟨.root, ["packages", "web"]⟩] :=
    eq_ok_of_toOption (by decide +kernel)
  have honce : (selectProjects .root (some "web") false Host.withOverlap).1 =
      .ok [⟨.root, ["packages", "web"]⟩] := eq_ok_of_toOption (by decide +kernel)
  have hone : namesIn "web" = ["web"] := by decide +kernel
  constructor
  · intro happart
    have hnodup := (nodup_selectProjects_iff Host.isProper_withOverlap hcandidates htwice).2
      (.inr happart)
    revert hnodup
    decide
  · refine ⟨_, honce, (nodup_selectProjects_iff Host.isProper_withOverlap hcandidates honce).2
      (.inr ?_)⟩
    have hnames : (some "web").filter (· != "") = some "web" := by decide
    rw [hnames]
    dsimp only
    rw [hone]
    exact List.pairwise_singleton _ _

end Cli

end Checkup
