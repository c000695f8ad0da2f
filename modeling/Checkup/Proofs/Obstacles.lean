import Mathlib.Data.List.TakeDrop
import Checkup.Proofs.Mending
import Checkup.Proofs.Offers
import Checkup.Proofs.SearchOrder

/-!
# What discovery cannot get over

Discovery takes a manifest that cannot be read for an empty one (`Host.mended`), and goes on without
what is missing. Besides a missing manifest of the project there are four things that end it
(`Project.Obstructed`): a name or a path that is too long for the system, a number of too many digits
in a manifest, a NUL in the directory to count source files in, and a list of them from git that is
no text. Manifests are read to any depth, and without surrogates that stand alone.
-/

namespace Checkup

open Run (IsQuestion)

/-! ### Obstacles -/

/-- The files that discovery looks at in a directory. -/
def Project.askedFiles : List String :=
  [Manifest.fileName, Workspace.listFile, Workspace.rootMarker, "tsconfig.json"] ++ compilerFiles

/-- What about a directory can end a search there: a path that is too long, of the directory or of a
file in it that is asked for, or a number of too many digits in its manifest. -/
inductive Host.Obstructs (host : Host) (place : Path) : Fault → Prop
  | directory (hnode : host.node place = .error .nameTooLong) :
      Obstructs host place (AccessFault.nameTooLong.toFault place)
  | file {name : String} (hname : name ∈ Project.askedFiles)
      (hnode : host.node (place / name) = .error .nameTooLong) :
      Obstructs host place (AccessFault.nameTooLong.toFault (place / name))
  | digits {content : Content} {text : String} {count : Nat}
      (hcontent : host.content (Manifest.file place) = .ok content)
      (htext : content.text? = some text) (hread : Json.read text = .error (.tooManyDigits count)) :
      Obstructs host place (.shape (.tooManyDigits count))

/-- All that can end a search in the directory is of the given kind. -/
def Host.ObstructsOnly (host : Host) (P : Fault → Prop) (place : Path) : Prop :=
  ∀ fault, host.Obstructs place fault → P fault

namespace Workspace

/-- The paths that a pattern leads to from a root: itself, or the directory of the wildcard and what
is reached from the names in it. -/
inductive LeadsTo (root : Path) (host : Host) : Pattern → Path → Prop
  | literal (path : String) : LeadsTo root host (.literal path) (root / path)
  | base (base suffix : String) : LeadsTo root host (.wildcard base suffix) (root / base)
  | entry {base suffix name : String} {names : List String}
      (hnames : (Run.listNames (root / base) host).1 = .ok names) (hname : name ∈ names) :
      LeadsTo root host (.wildcard base suffix)
        (let entry : Path := ⟨(root / base).anchor, (root / base).names ++ [name]⟩
         if suffix == "" then entry else entry / suffix)

/-- A pattern that is declared in a root, by its workspace file or its manifest. -/
def Declares (root : Path) (host : Host) (pattern : String) : Prop :=
  ∃ manifest patterns, (Manifest.readIn root host).1 = .ok manifest ∧
    (Workspace.patterns root manifest host).1 = .ok patterns ∧ pattern ∈ patterns

end Workspace

namespace Project

/-- The directories that discovery consults: that of the manifest and those above it, what the patterns
declared there lead to, the scanned one and those above it. -/
inductive Consults (directory manifestIn : Path) (host : Host) : Path → Prop
  | own : Consults directory manifestIn host manifestIn
  | around {place : Path} (habove : place.IsAbove manifestIn) :
      Consults directory manifestIn host place
  | member {root place : Path} {pattern : String} (hroot : root = manifestIn ∨ root.IsAbove manifestIn)
      (hpattern : Workspace.Declares root host pattern)
      (hleads : Workspace.LeadsTo root host (.ofText pattern) place) :
      Consults directory manifestIn host place
  | scanned : Consults directory manifestIn host directory
  | above {place : Path} (habove : place.IsAbove directory) : Consults directory manifestIn host place

inductive Obstructed (directory manifestIn : Path) (host : Host) : Fault → Prop
  | place {place : Path} {fault : Fault} (hplace : Consults directory manifestIn host place)
      (hobstructs : host.Obstructs place fault) : Obstructed directory manifestIn host fault
  | nul (hnul : directory.hasNul = true) :
      Obstructed directory manifestIn host (AccessFault.nulCharacter.toFault directory)
  | listing (hgit : host.surroundings.git directory Git.listing = .undecodable) :
      Obstructed directory manifestIn host .undecodable

end Project

theorem Node.walk_ne_nulCharacter (root : Node) (reached names : List String) :
    root.walk reached names ≠ .error .nulCharacter := by
  induction names generalizing reached with
  | nil => simp [walk]
  | cons name rest ih =>
    unfold walk
    rcases root.at? reached with _ | _ | _
    · simp
    · simp
    · dsimp only
      split
      · exact ih _
      · split
        · simp
        · exact ih _

theorem Host.hasNul_of_node {host : Host} {p : Path} (hnode : host.node p = .error .nulCharacter) :
    p.hasNul = true := by
  unfold node at hnode
  cases hlocate : host.locate p with
  | error fault =>
    rw [hlocate] at hnode
    cases hnode
    unfold locate at hlocate
    split at hlocate
    · assumption
    · split at hlocate
      · cases hlocate
      · exact absurd hlocate (Node.walk_ne_nulCharacter _ _ _)
  | ok target =>
    rw [hlocate] at hnode
    dsimp only [bind, Except.bind] at hnode
    split at hnode
    · cases hnode
    · split at hnode <;> cases hnode

/-! ### Steps that cope -/

namespace Run

variable {α β : Type} {host : Host} {P : Fault → Prop} {step : Run α} {next : α → Run β} {p : Path}

theorem exists_content_of_isFile (hfile : (isFile p host).1 = .ok true) :
    ∃ content, host.content p = .ok content := by
  rw [fst_isFile] at hfile
  cases hcontent : host.content p with
  | ok content => exact ⟨content, rfl⟩
  | error fault =>
    rw [hcontent] at hfile
    cases fault <;> cases hfile

theorem exists_directory_of_isDirectory (hdirectory : (isDirectory p host).1 = .ok true) :
    ∃ entries, host.node p = .ok (.directory entries) := by
  unfold isDirectory Run.node? at hdirectory
  simp only [bind_apply, get_apply] at hdirectory
  rcases hnode : host.node p with fault | _ | entries <;> rw [hnode] at hdirectory
  · cases fault <;> cases hdirectory
  · cases hdirectory
  · exact ⟨entries, rfl⟩

/-- The step asks questions, finds the same with every manifest mended, and faults for reasons of the
given kind only. -/
structure Copes (host : Host) (P : Fault → Prop) (step : Run α) : Prop where
  isQuestion : IsQuestion step
  mended : (step host.mended).1 = (step host).1
  blames : ∀ fault, (step host).1 = .error fault → P fault

namespace Copes

theorem pure (a : α) : Copes host P (Pure.pure a) := ⟨.pure a, rfl, nofun⟩

theorem throw {fault : Fault} (hfault : P fault) : Copes host P (MonadExcept.throw fault : Run α) where
  isQuestion := .throw fault
  mended := rfl
  blames := by
    rintro _ ⟨⟩
    exact hfault

theorem mono {Q : Fault → Prop} (hstep : Copes host P step) (himp : ∀ fault, P fault → Q fault) :
    Copes host Q step :=
  ⟨hstep.isQuestion, hstep.mended, fun fault hfault => himp fault (hstep.blames fault hfault)⟩

theorem bind (hstep : Copes host P step) (hquestion : ∀ a, IsQuestion (next a))
    (hnext : ∀ a, (step host).1 = .ok a → Copes host P (next a)) : Copes host P (step >>= next) where
  isQuestion := hstep.isQuestion.bind hquestion
  mended := by
    rw [hstep.isQuestion.fst_bind hquestion, hstep.isQuestion.fst_bind hquestion, hstep.mended]
    cases hfirst : (step host).1 with
    | error fault => rfl
    | ok a => exact (hnext a hfirst).mended
  blames := by
    intro fault hfault
    rw [hstep.isQuestion.fst_bind hquestion] at hfault
    rcases except_bind_eq_error.1 hfault with hfirst | ⟨a, hfirst, hfault⟩
    · exact hstep.blames fault hfirst
    · exact (hnext a hfirst).blames fault hfault

theorem bind_all (hstep : Copes host P step) (hnext : ∀ a, Copes host P (next a)) :
    Copes host P (step >>= next) :=
  hstep.bind (fun a => (hnext a).isQuestion) fun a _ => hnext a

theorem ite {c : Prop} [Decidable c] {yes no : Run α} (hyes : Copes host P yes)
    (hno : Copes host P no) : Copes host P (if c then yes else no) := by
  split
  · exact hyes
  · exact hno

/-- What is done only where a test holds has to cope only there. -/
theorem guarded {test : Run Bool} {yes no : Run α} (htest : Copes host P test)
    (hquestion : IsQuestion yes) (hyes : (test host).1 = .ok true → Copes host P yes)
    (hno : Copes host P no) : Copes host P (do if ← test then yes else no) := by
  refine htest.bind (fun _ => .ite hquestion hno.isQuestion) fun holds hholds => ?_
  cases holds with
  | false => exact hno
  | true => exact hyes hholds

/-- A look that sees no more of a node than whether it is there and a directory. -/
theorem node? (f : Option Node → β) (hf : ∀ node name, f (some (Node.mended name node)) = f (some node))
    (hlong : host.node p = .error .nameTooLong → P (AccessFault.nameTooLong.toFault p)) :
    Copes host P (do return f (← Run.node? p)) where
  isQuestion := .bind (.node? p) fun _ => .pure _
  mended := by
    obtain ⟨name, hmended⟩ := host.exists_node_mended p
    unfold Run.node?
    simp only [bind_apply, get_apply, hmended]
    rcases host.node p with fault | node
    · cases fault <;> rfl
    · exact congrArg Except.ok (hf node name)
  blames := by
    intro fault hfault
    unfold Run.node? at hfault
    simp only [bind_apply, get_apply] at hfault
    rcases hnode : host.node p with found | node <;> rw [hnode] at hfault
    · cases found with
      | nameTooLong =>
        cases hfault
        exact hlong hnode
      | missing | notDirectory | isDirectory | occupied | nulCharacter => cases hfault
    · cases hfault

theorem isFile (hlong : host.node p = .error .nameTooLong → P (AccessFault.nameTooLong.toFault p)) :
    Copes host P (Run.isFile p) :=
  node? _ (fun node _ => by cases node <;> simp [Node.mended]) hlong

theorem isDirectory
    (hlong : host.node p = .error .nameTooLong → P (AccessFault.nameTooLong.toFault p)) :
    Copes host P (Run.isDirectory p) :=
  node? _ (fun node _ => by cases node <;> simp [Node.mended]) hlong

theorem pathExists
    (hlong : host.node p = .error .nameTooLong → P (AccessFault.nameTooLong.toFault p)) :
    Copes host P (Run.pathExists p) :=
  node? _ (fun _ _ => rfl) hlong

theorem listNames (hdirectory : (Run.isDirectory p host).1 = .ok true) :
    Copes host P (Run.listNames p) := by
  obtain ⟨entries, hnode⟩ := exists_directory_of_isDirectory hdirectory
  obtain ⟨name, hmended⟩ := host.exists_node_mended p
  rw [hnode] at hmended
  dsimp only [Except.map] at hmended
  rw [Node.mended_directory] at hmended
  have hnames (h : Host) (entries : List (String × Node)) (h' : h.node p = .ok (.directory entries)) :
      (Run.listNames p h).1 = .ok ((Node.directory entries).listing.map (·.1)) := by
    unfold Run.listNames
    rw [bind_apply, access_apply, h']
    rfl
  have hfirst := hnames host entries hnode
  refine ⟨.listNames p, ?_, fun fault hfault => by cases hfirst.symm.trans hfault⟩
  rw [hfirst, hnames host.mended _ hmended, ← Node.mended_directory name,
    Node.map_fst_listing_mended]

/-- A file that is no manifest can be read, whatever its bytes are. -/
theorem readLossy {last : String} (hfile : (Run.isFile p host).1 = .ok true) (hends : p.EndsIn last)
    (hne : last ≠ Manifest.fileName) : Copes host P (Run.readLossy p) := by
  obtain ⟨content, hcontent⟩ := exists_content_of_isFile hfile
  have hmended : host.mended.content p = .ok content := by
    rw [Host.content_mended hends, hcontent]
    dsimp only [Except.map]
    rw [if_neg hne]
  have hread (h : Host) (h' : h.content p = .ok content) :
      (Run.readLossy p h).1 = .ok content.lossy := by
    unfold Run.readLossy Run.content
    rw [bind_apply, access_apply, h']
    rfl
  have hfirst := hread host hcontent
  exact ⟨.readLossy p, (hread _ hmended).trans hfirst.symm,
    fun fault hfault => by cases hfirst.symm.trans hfault⟩

theorem filterM {test : α → Run Bool} {items : List α} (htest : ∀ a ∈ items, Copes host P (test a))
    (hquestion : ∀ a, IsQuestion (test a)) : Copes host P (items.filterM test) := by
  have haux (items kept : List α) : IsQuestion (List.filterAuxM test items kept) := by
    induction items generalizing kept with
    | nil => exact .pure kept
    | cons item rest ih => exact .bind (hquestion item) fun _ => ih _
  refine .bind_all ?_ fun _ => .pure _
  generalize ([] : List α) = kept
  induction items generalizing kept with
  | nil => exact .pure kept
  | cons item rest ih =>
    obtain ⟨hitem, hrest⟩ := List.forall_mem_cons.1 htest
    exact .bind_all hitem fun _ => ih hrest _

end Copes

end Run

/-! ### Searches -/

section Searches

open Run (Copes)

variable {host : Host} {P : Fault → Prop} {place root : Path}

theorem Run.Copes.isFileIn {name : String} (hname : name ∈ Project.askedFiles)
    (hplace : host.ObstructsOnly P place) :
    Copes host P (Run.isFile (place / name)) :=
  .isFile fun hnode => hplace _ (.file hname hnode)

namespace Manifest

theorem copes_isIn (hplace : host.ObstructsOnly P place) :
    Copes host P (isIn place) :=
  .isFileIn (by decide) hplace

/-- A manifest that is there can be read, unless it holds a number of too many digits. -/
theorem copes_readIn (hplace : host.ObstructsOnly P place)
    (hthere : (isIn place host).1 = .ok true) : Copes host P (readIn place) := by
  obtain ⟨content, hcontent⟩ := Run.exists_content_of_isFile hthere
  have hmended : host.mended.content (file place) = .ok content.mended := by
    rw [Host.content_mended (endsIn_file place), hcontent]
    dsimp only [Except.map]
    rw [if_pos rfl]
  refine ⟨isQuestion_readIn place, ?_, fun fault hfault => ?_⟩
  · exact (fst_read hmended).trans (content.manifest_mended.trans (fst_read hcontent).symm)
  · obtain ⟨text, count, htext, hread, rfl⟩ :=
      Content.manifest_eq_error ((fst_read hcontent).symm.trans hfault)
    exact hplace _ (.digits hcontent htext hread)

theorem copes_ifIsIn {α : Type} {next : Manifest → Run α} {no : Run α}
    (hplace : host.ObstructsOnly P place)
    (hquestion : ∀ manifest, IsQuestion (next manifest))
    (hnext : ∀ manifest, (readIn place host).1 = .ok manifest → Copes host P (next manifest))
    (hno : Copes host P no) :
    Copes host P (do if ← isIn place then next (← readIn place) else no) :=
  .guarded (copes_isIn hplace) (.bind (isQuestion_readIn place) hquestion)
    (fun hthere => .bind (copes_readIn hplace hthere) hquestion hnext) hno

end Manifest

namespace Workspace

theorem copes_isRoot (hplace : host.ObstructsOnly P place) :
    Copes host P (isRoot place) := by
  refine .bind_all (.isFileIn (by decide) hplace) fun _ => .ite (.pure _) ?_
  refine .bind_all (.isFileIn (by decide) hplace) fun _ => .ite (.pure _) ?_
  exact Manifest.copes_ifIsIn hplace (fun _ => .pure _) (fun _ _ => .pure _) (.pure _)

theorem copes_firstRoot? {places : List Path}
    (hplaces : ∀ place ∈ places, host.ObstructsOnly P place) :
    Copes host P (firstRoot? places) := by
  induction places with
  | nil => exact .pure _
  | cons place rest ih =>
    obtain ⟨hplace, hrest⟩ := List.forall_mem_cons.1 hplaces
    exact .bind_all (copes_isRoot hplace) fun _ => .ite (.pure _) (ih hrest)

theorem copes_patterns (hroot : host.ObstructsOnly P root) (manifest : Manifest) :
    Copes host P (patterns root manifest) := by
  refine .bind_all (.guarded (.isFileIn (by decide) hroot) (.bind (.readLossy _) fun _ => .pure _)
    (fun hthere => ?_) (.pure _)) fun _ => .pure _
  refine .bind_all (.readLossy hthere (Path.endsIn_div root ?_ ?_ ?_ ?_) ?_) fun _ => .pure _ <;>
    decide

theorem copes_isPackage (hplace : host.ObstructsOnly P place) :
    Copes host P (isPackage place) :=
  .bind_all (.isDirectory fun hnode => hplace _ (.directory hnode)) fun _ =>
    .ite (Manifest.copes_isIn hplace) (.pure _)

theorem copes_packagesAmong {places : List Path}
    (hplaces : ∀ place ∈ places, host.ObstructsOnly P place) :
    Copes host P (packagesAmong places) :=
  .filterM (fun place hplace => copes_isPackage (hplaces place hplace)) isQuestion_isPackage

theorem copes_directories {pattern : String} (hplaces : ∀ place,
      LeadsTo root host (.ofText pattern) place → host.ObstructsOnly P place) :
    Copes host P (directories root pattern) := by
  unfold directories
  cases hpattern : Pattern.ofText pattern with
  | literal path =>
    rw [hpattern] at hplaces
    exact copes_packagesAmong (List.forall_mem_singleton.2 (hplaces _ (.literal path)))
  | wildcard base suffix =>
    rw [hpattern] at hplaces
    have hbase := hplaces _ (.base base suffix)
    refine .guarded (.isDirectory fun hnode => hbase _ (.directory hnode))
      (.bind (.listNames _) fun _ => .filterM isQuestion_isPackage _) (fun hdirectory => ?_) (.pure _)
    refine .bind (.listNames hdirectory) (fun _ => .filterM isQuestion_isPackage _)
      fun names hnames => copes_packagesAmong fun place hmem => ?_
    obtain ⟨name, hname, rfl⟩ := List.mem_map.1 hmem
    exact hplaces _ (.entry hnames hname)

end Workspace

theorem Workspace.gives_enclosingRoot? (directory : Path) (host : Host) :
    Gives (fun found => ∀ root ∈ found, root.IsAbove directory)
      (Workspace.enclosingRoot? directory host).1 := by
  have hfirst (places : List Path) : Gives (fun found => ∀ root ∈ found, root ∈ places)
      (Workspace.firstRoot? places host).1 := by
    induction places with
    | nil => exact .pure nofun
    | cons place rest ih =>
      refine (isQuestion_isRoot place).gives_bind
        (fun _ => .ite (.pure _) (isQuestion_firstRoot? _)) fun isRoot _ => ?_
      cases isRoot with
      | true => exact .pure fun root hroot => by cases hroot; exact List.mem_cons_self
      | false => exact fun found hfound root hroot =>
          List.mem_cons_of_mem _ (ih found hfound root hroot)
  exact fun found hfound root hroot =>
    Path.isAbove_of_mem_parents (hfirst directory.parents found hfound root hroot)

theorem Workspace.gives_directories_leadsTo (root : Path) (pattern : String) (host : Host) :
    Gives (fun found => ∀ place ∈ found, LeadsTo root host (.ofText pattern) place)
      (Workspace.directories root pattern host).1 := by
  have hamong (places found : List Path) (hfound : (packagesAmong places host).1 = .ok found) :
      found.Sublist places := (gives_filterM isQuestion_isPackage places host found hfound).1
  have hquestion (places : List Path) : IsQuestion (packagesAmong places) :=
    .filterM isQuestion_isPackage _
  unfold Workspace.directories
  cases Pattern.ofText pattern with
  | literal path =>
    intro found hfound place hmem
    obtain rfl := List.mem_singleton.1 ((hamong _ found hfound).subset hmem)
    exact .literal path
  | wildcard base suffix =>
    refine (IsQuestion.isDirectory _).gives_bind
      (fun _ => .ite (.bind (.listNames _) fun _ => hquestion _) (.pure _)) fun isDirectory _ => ?_
    cases isDirectory with
    | false => exact .pure nofun
    | true =>
      refine (IsQuestion.listNames _).gives_bind (fun _ => hquestion _) fun names hnames => ?_
      intro found hfound place hmem
      obtain ⟨name, hname, rfl⟩ := List.mem_map.1 ((hamong _ found hfound).subset hmem)
      exact .entry hnames hname

namespace ReactFacts

theorem copes_ofPackages (facts : ReactFacts) {directories : List Path}
    (hplaces : ∀ place ∈ directories, host.ObstructsOnly P place)
    (hthere : ∀ place ∈ directories, (Manifest.isIn place host).1 = .ok true) :
    Copes host P (ofPackages facts directories) := by
  induction directories generalizing facts with
  | nil => exact .pure _
  | cons directory rest ih =>
    obtain ⟨hplace, hplaces⟩ := List.forall_mem_cons.1 hplaces
    obtain ⟨hisThere, hthere⟩ := List.forall_mem_cons.1 hthere
    exact .bind_all (Manifest.copes_readIn hplace hisThere) fun _ =>
      .ite (.pure _) (ih _ hplaces hthere)

theorem copes_ofPatterns (facts : ReactFacts) {patterns : List String}
    (hplaces : ∀ pattern ∈ patterns, ∀ place, Workspace.LeadsTo root host (.ofText pattern) place →
      host.ObstructsOnly P place) :
    Copes host P (ofPatterns root facts patterns) := by
  induction patterns generalizing facts with
  | nil => exact .pure _
  | cons pattern rest ih =>
    obtain ⟨hpattern, hrest⟩ := List.forall_mem_cons.1 hplaces
    refine .bind (Workspace.copes_directories hpattern) (fun _ => ?_) fun directories hdirectories => ?_
    · exact .bind (isQuestion_ofPackages _ _) fun _ => .ite (.pure _) (isQuestion_ofPatterns _ _ _)
    · refine .bind (copes_ofPackages facts (fun place hmem => ?_) fun place hmem => ?_) (fun _ => ?_)
        fun _ _ => .ite (.pure _) (ih _ hrest)
      · exact hpattern place
          (Workspace.gives_directories_leadsTo root pattern host _ hdirectories _ hmem)
      · exact Workspace.gives_directories root pattern host _ hdirectories _ hmem
      · exact .ite (.pure _) (isQuestion_ofPatterns _ _ _)

theorem copes_ofOwn {manifest : Manifest} (hmanifest : (Manifest.readIn root host).1 = .ok manifest)
    (hroot : host.ObstructsOnly P root)
    (hmembers : ∀ pattern, Workspace.Declares root host pattern → ∀ place,
      Workspace.LeadsTo root host (.ofText pattern) place → host.ObstructsOnly P place) :
    Copes host P (ofOwn root manifest) := by
  refine .ite (.pure _) (.bind_all (.bind (Workspace.copes_patterns hroot manifest) (fun _ => ?_)
    fun patterns hpatterns => ?_) fun _ => .pure _)
  · exact isQuestion_ofPatterns _ _ _
  · exact copes_ofPatterns _ fun pattern hmem =>
      hmembers pattern ⟨manifest, patterns, hmanifest, hpatterns, hmem⟩

variable {directory : Path}

theorem copes_ofEnclosingRoot
    (habove : ∀ root : Path, root.IsAbove directory → host.ObstructsOnly P root)
    (hmembers : ∀ root : Path, root.IsAbove directory → ∀ pattern,
      Workspace.Declares root host pattern → ∀ place,
      Workspace.LeadsTo root host (.ofText pattern) place → host.ObstructsOnly P place) :
    Copes host P (ofEnclosingRoot directory) := by
  have hquestion (root : Path) : IsQuestion (do
      if ← Manifest.isIn root then ofOwn root (← Manifest.readIn root) else return empty) :=
    .bind (Manifest.isQuestion_isIn root) fun _ => .ite
      (.bind (Manifest.isQuestion_readIn root) fun _ => isQuestion_ofOwn _ _) (.pure _)
  refine .bind (Workspace.copes_firstRoot? fun root hmem =>
    habove root (Path.isAbove_of_mem_parents hmem)) (fun found => ?_) fun found hfound => ?_
  · cases found with
    | none => exact .pure _
    | some root => exact hquestion root
  · cases found with
    | none => exact .pure _
    | some root =>
      have hroot := Workspace.gives_enclosingRoot? directory host _ hfound root rfl
      exact Manifest.copes_ifIsIn (habove root hroot) (fun _ => isQuestion_ofOwn _ _)
        (fun manifest hmanifest => copes_ofOwn hmanifest (habove root hroot) (hmembers root hroot))
        (.pure _)

theorem copes_resolve {manifest : Manifest} {manifestIn : Path}
    (hmanifest : (Manifest.readIn manifestIn host).1 = .ok manifest) :
    Copes host (Project.Obstructed directory manifestIn host) (resolve manifestIn manifest) := by
  have hown : host.ObstructsOnly (Project.Obstructed directory manifestIn host) manifestIn :=
    fun fault => .place .own
  have habove (root : Path) (hroot : root.IsAbove manifestIn) :
      host.ObstructsOnly (Project.Obstructed directory manifestIn host) root :=
    fun fault => .place (.around hroot)
  refine .bind_all (copes_ofOwn hmanifest hown fun pattern hpattern place hleads fault =>
    .place (.member (.inl rfl) hpattern hleads)) fun _ => .ite (.pure _) ?_
  refine .bind_all (Workspace.copes_isRoot hown) fun _ => .ite (.pure _) ?_
  exact .bind_all (copes_ofEnclosingRoot habove fun root hroot pattern hpattern place hleads fault =>
    .place (.member (.inr hroot) hpattern hleads)) fun _ => .pure _

end ReactFacts

namespace Project

variable {directory manifestIn : Path}

theorem copes_anyMentionsCompiler {files : List String} (hfiles : files ⊆ compilerFiles)
    (hplace : host.ObstructsOnly P place) :
    Copes host P (anyMentionsCompiler (files.map (place / ·))) := by
  have hnames : ∀ name ∈ compilerFiles, name ∈ askedFiles ∧ name ≠ Manifest.fileName ∧
      '/' ∉ name.toList ∧ name ≠ "" ∧ name ≠ "." ∧ name ≠ ".." := by decide
  induction files with
  | nil => exact .pure _
  | cons name rest ih =>
    obtain ⟨hname, hrest⟩ := List.cons_subset.1 hfiles
    obtain ⟨hasked, hne, hslash, hempty, hdot, hdots⟩ := hnames name hname
    rw [List.map_cons]
    refine .guarded (.isFileIn hasked hplace)
      (.bind (.readLossy _) fun _ => .ite (.pure _) (isQuestion_anyMentionsCompiler _))
      (fun hthere => ?_) (ih hrest)
    exact .bind_all (.readLossy hthere (Path.endsIn_div place hslash hempty hdot hdots) hne)
      fun _ => .ite (.pure _) (ih hrest)

theorem copes_anyDependsOnCompiler {places : List Path}
    (hplaces : ∀ place ∈ places, host.ObstructsOnly P place) :
    Copes host P (anyDependsOnCompiler places) := by
  induction places with
  | nil => exact .pure _
  | cons place rest ih =>
    obtain ⟨hplace, hrest⟩ := List.forall_mem_cons.1 hplaces
    exact Manifest.copes_ifIsIn hplace
      (fun _ => .ite (.pure _) (isQuestion_anyDependsOnCompiler _))
      (fun _ _ => .ite (.pure _) (ih hrest)) (ih hrest)

theorem copes_detectCompiler (manifest : Manifest) :
    Copes host (Obstructed directory manifestIn host) (detectCompiler directory manifest) := by
  refine .ite (.pure _) (.bind_all (copes_anyMentionsCompiler (List.Subset.refl _) fun fault =>
    .place .scanned) fun _ => .ite (.pure _) ?_)
  exact copes_anyDependsOnCompiler fun place hmem fault =>
    .place (.above (Path.isAbove_of_mem_parents hmem))

theorem copes_countInTree :
    Copes host (Obstructed directory manifestIn host) (countInTree directory) := by
  refine ⟨isQuestion_countInTree directory, ?_, fun fault hfault => ?_⟩
  · obtain ⟨name, hmended⟩ := host.exists_node_mended directory
    unfold countInTree
    simp only [Run.bind_apply, Run.get_apply, hmended]
    rcases host.node directory with fault | node
    · cases fault <;> rfl
    · cases node with
      | file content => simp [Except.map, Node.mended, Node.entries]
      | directory entries => simp [Except.map, Node.entries, countEntries_mended]
  · unfold countInTree at hfault
    simp only [Run.bind_apply, Run.get_apply] at hfault
    rcases hnode : host.node directory with found | node <;> rw [hnode] at hfault
    · cases found with
      | nulCharacter =>
        cases hfault
        exact .nul (Host.hasNul_of_node hnode)
      | missing | notDirectory | isDirectory | occupied | nameTooLong => cases hfault
    · cases hfault

theorem copes_files? (directory manifestIn : Path) (host : Host) :
    Copes host (Obstructed directory manifestIn host) (Git.files? directory) := by
  have hasked (h : Host) : (Git.files? directory h).1 =
      ((h.gitSays directory Git.listing).map (·.output?)).map
        (·.map fun output => (Text.lines output).filter (· != "")) := by
    unfold Git.files? Git.lines? Git.output?
    rw [Run.bind_pure_apply, Run.bind_pure_apply, Run.git_apply]
  refine ⟨Git.isQuestion_files? directory, ?_, fun fault hfault => ?_⟩
  · rw [hasked, hasked]
    rfl
  · rw [hasked, except_map_eq_error, except_map_eq_error] at hfault
    rcases Answer.received_eq_error hfault with ⟨hnul, rfl⟩ | ⟨hgit, rfl⟩
    · have hlisting : Git.listing.any (·.toList.contains '\x00') = false := by decide
      rw [List.any_append, hlisting, Bool.or_false] at hnul
      exact .nul hnul
    · exact .listing hgit

theorem copes_countSourceFiles (directory manifestIn : Path) (host : Host) :
    Copes host (Obstructed directory manifestIn host) (countSourceFiles directory) := by
  refine .bind_all (copes_files? directory manifestIn host) fun files => ?_
  cases files with
  | some files => exact .pure _
  | none => exact copes_countInTree

/-- Discovery ends for want of a manifest or at an obstacle, and what it finds does not depend on what
manifests say that cannot be read. -/
theorem copes_discover (directory : Path) (manifestDirectory : Option Path) (host : Host) :
    Copes host (fun fault =>
      (fault = .noManifest (manifestDirectory.getD directory) ∧
        (Manifest.isIn (manifestDirectory.getD directory) host).1 = .ok false) ∨
      Obstructed directory (manifestDirectory.getD directory) host fault)
      (discover directory manifestDirectory) := by
  have hafter (manifest : Manifest) : IsQuestion (do
      let facts ← ReactFacts.resolve (manifestDirectory.getD directory) manifest
      let typeScript ← Run.pathExists (directory / "tsconfig.json")
      let compiler ← detectCompiler directory manifest
      let sourceFiles ← countSourceFiles directory
      return ({ root := directory, name := nameOf manifest directory, react := facts.version,
                framework := facts.framework, typeScript, compiler, sourceFiles } : Project)) := by
    refine .bind (ReactFacts.isQuestion_resolve _ _) fun _ => .bind (.pathExists _) fun _ => ?_
    exact .bind (isQuestion_detectCompiler _ _) fun _ =>
      .bind (isQuestion_countSourceFiles _) fun _ => .pure _
  have hquestion := (Manifest.isQuestion_readIn (manifestDirectory.getD directory)).bind hafter
  have hown : host.ObstructsOnly (Obstructed directory (manifestDirectory.getD directory) host)
      (manifestDirectory.getD directory) := fun fault => .place .own
  refine .bind ((Manifest.copes_isIn hown).mono fun _ => .inr) (fun _ => ?_) fun isThere hthere => ?_
  · exact .ite (.bind (.throw _) fun _ => hquestion) hquestion
  cases isThere with
  | false => exact .bind (.throw (.inl ⟨rfl, hthere⟩)) (fun _ => hquestion) nofun
  | true =>
    refine .mono ?_ fun _ => .inr
    refine .bind (Manifest.copes_readIn hown hthere) hafter fun manifest hmanifest => ?_
    refine .bind_all (ReactFacts.copes_resolve hmanifest) fun facts => ?_
    refine .bind_all (.pathExists fun hnode => .place .scanned (.file (by decide) hnode)) fun _ => ?_
    refine .bind_all (copes_detectCompiler manifest) fun compiler => ?_
    exact .bind_all (copes_countSourceFiles directory _ host) fun _ => .pure _

theorem isIn_eq_false_iff : (Manifest.isIn manifestIn host).1 = .ok false ↔
    ∃ fault ≠ .nameTooLong, host.content (Manifest.file manifestIn) = .error fault := by
  unfold Manifest.isIn
  rw [Run.fst_isFile]
  cases host.content (Manifest.file manifestIn) with
  | ok content => simp
  | error fault => cases fault <;> simp

theorem discover_of_manifest_error {content : Content} {fault : Fault}
    {manifestDirectory : Option Path}
    (hcontent : host.content (Manifest.file (manifestDirectory.getD directory)) = .ok content)
    (hfault : content.manifest = .error fault) :
    (discover directory manifestDirectory host).1 = .error fault := by
  have hthere : (Manifest.isIn (manifestDirectory.getD directory) host).1 = .ok true := by
    unfold Manifest.isIn
    rw [Run.fst_isFile, hcontent]
  have hread : (Manifest.readIn (manifestDirectory.getD directory) host).1 = .error fault :=
    (Manifest.fst_read hcontent).trans hfault
  rw [fst_discover, hthere, hread]
  rfl

/-- A missing manifest is the one thing that is reported as one; every other end is at an obstacle, as
a number of too many digits in the project's own manifest always is; and a manifest that cannot be read
counts for as much as an empty one, wherever it lies. Manifests are read to any depth, and without
surrogates that stand alone. -/
theorem discover_degrades (directory : Path) (manifestDirectory : Option Path) (host : Host) :
    (∀ place, (discover directory manifestDirectory host).1 = .error (.noManifest place) ↔
      place = manifestDirectory.getD directory ∧ ∃ fault ≠ .nameTooLong,
        host.content (Manifest.file (manifestDirectory.getD directory)) = .error fault) ∧
    (∀ fault, (discover directory manifestDirectory host).1 = .error fault →
      fault = .noManifest (manifestDirectory.getD directory) ∨
      Obstructed directory (manifestDirectory.getD directory) host fault) ∧
    (∀ content text count,
      host.content (Manifest.file (manifestDirectory.getD directory)) = .ok content →
      content.text? = some text → Json.read text = .error (.tooManyDigits count) →
      (discover directory manifestDirectory host).1 = .error (.shape (.tooManyDigits count))) ∧
    (discover directory manifestDirectory host.mended).1 =
      (discover directory manifestDirectory host).1 := by
  have hcopes := copes_discover directory manifestDirectory host
  refine ⟨fun place => ?_, fun fault hfault => ?_, fun content text count hcontent htext hread => ?_,
    hcopes.mended⟩
  · rw [← isIn_eq_false_iff]
    constructor
    · intro hfault
      obtain ⟨hplace, hmissing⟩ := discover_eq_noManifest hfault rfl
      exact ⟨Fault.noManifest.inj hplace, hmissing⟩
    · rintro ⟨rfl, hmissing⟩
      rw [fst_discover, hmissing]
      rfl
  · exact (hcopes.blames fault hfault).imp And.left id
  · exact discover_of_manifest_error hcontent (Content.manifest_of_tooManyDigits htext hread)

end Project

end Searches

/-! ### A number of too many digits -/

namespace Json.Reader

theorem number_nines {n : Nat} (hlong : Decimal.digitLimit < n) (negative : Bool) :
    number negative (List.replicate n '9' ++ ['}']) = .error (.tooManyDigits n) := by
  have hdigits : ∀ c ∈ List.replicate n '9', isDigit c = true := fun c hmem => by
    rw [List.eq_of_mem_replicate hmem]
    decide
  have hspan : (List.replicate n '9' ++ ['}']).span isDigit = (List.replicate n '9', ['}']) := by
    rw [List.span_eq_takeWhile_dropWhile, List.takeWhile_append_of_pos hdigits,
      List.dropWhile_append_of_pos hdigits]
    simp [show isDigit '}' = false by decide]
  have hwhole : wholePart (List.replicate n '9' ++ ['}']) = (List.replicate n '9', ['}']) := by
    rw [← hspan]
    obtain ⟨m, rfl⟩ : ∃ m, n = m + 1 := ⟨n - 1, by omega⟩
    rfl
  unfold number
  rw [hwhole]
  have hsome : n ≠ 0 := Nat.ne_zero_of_lt hlong
  have hexponent : exponentPart ['}'] = (none, ['}']) := by rfl
  simp [hsome, fractionPart, hexponent, hlong]

theorem value_nines {n : Nat} (hlong : Decimal.digitLimit < n) (fuel : Nat) :
    value (fuel + 1) (List.replicate n '9' ++ ['}']) = .error (.tooManyDigits n) := by
  have hnumber := number_nines hlong false
  obtain ⟨m, rfl⟩ : ∃ m, n = m + 1 := ⟨n - 1, by omega⟩
  rw [List.replicate_succ, List.cons_append] at hnumber ⊢
  rw [value]
  · have hscalar : scalar ('9' :: (List.replicate m '9' ++ ['}'])) =
        number false ('9' :: (List.replicate m '9' ++ ['}'])) := by
      rfl
    rw [hscalar]
    exact hnumber
  all_goals simp

def nines (n : Nat) : String :=
  String.ofList ('{' :: '"' :: 'n' :: '"' :: ':' :: (List.replicate n '9' ++ ['}']))

theorem read_nines {n : Nat} (hlong : Decimal.digitLimit < n) :
    read (nines n) = .error (.tooManyDigits n) := by
  have hmembers (fuel : Nat) :
      members (fuel + 2) ('"' :: 'n' :: '"' :: ':' :: (List.replicate n '9' ++ ['}'])) =
        .error (.tooManyDigits n) := by
    have hskip : skip (List.replicate n '9' ++ ['}']) = List.replicate n '9' ++ ['}'] := by
      obtain ⟨m, rfl⟩ : ∃ m, n = m + 1 := ⟨n - 1, by omega⟩
      rfl
    have hstring (cs : List Char) : string ('n' :: '"' :: cs) = .ok ("n", cs) := by
      rfl
    rw [members, hstring]
    change (value (fuel + 1) (skip (List.replicate n '9' ++ ['}'])) >>= _) = _
    rw [hskip, value_nines hlong]
    rfl
  unfold read document nines
  rw [String.toList_ofList]
  have hvalue (fuel : Nat) : value (fuel + 3)
      ('{' :: '"' :: 'n' :: '"' :: ':' :: (List.replicate n '9' ++ ['}'])) =
        .error (.tooManyDigits n) := by
    have hskip (cs : List Char) : skip ('"' :: cs) = '"' :: cs := by rfl
    rw [value, hskip]
    change (members (fuel + 2) _ >>= _) = _
    rw [hmembers]
    rfl
  have hskip (cs : List Char) : skip ('{' :: cs) = '{' :: cs := by rfl
  rw [hskip, List.length_cons]
  exact congrArg (· >>= _) (hvalue _)

end Json.Reader

theorem Host.content_ofProject (manifest : String) (git : List String → Answer)
    (process : Tool → Nat → List String → Outcome) :
    (ofProject manifest git process).content (Manifest.file .root) = .ok (.text manifest) := by
  rfl

/-- A host with a manifest that has a number of one digit too many. -/
def Host.withLongNumber : Host :=
  ofProject (Json.Reader.nines (Decimal.digitLimit + 1)) (fun _ => .unavailable) fun _ _ _ => .hangs

/-- The manifest is there and says no more than a number, and discovery ends. -/
theorem Project.discover_withLongNumber :
    Host.withLongNumber.content (Manifest.file .root) =
      .ok (.text (Json.Reader.nines (Decimal.digitLimit + 1))) ∧
    (discover .root none Host.withLongNumber).1 =
      .error (.shape (.tooManyDigits (Decimal.digitLimit + 1))) := by
  have hcontent : Host.withLongNumber.content (Manifest.file .root) =
      .ok (.text (Json.Reader.nines (Decimal.digitLimit + 1))) := Host.content_ofProject _ _ _
  have hread := Json.Reader.read_nines (Nat.lt_add_one Decimal.digitLimit)
  exact ⟨hcontent, discover_of_manifest_error hcontent (Content.manifest_of_tooManyDigits rfl hread)⟩

end Checkup
