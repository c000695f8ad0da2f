import Mathlib.Data.List.Forall2
import Mathlib.Data.List.Induction
import Checkup.Proofs.ReactSearch

/-!
# The order of the search

The version of React and the framework are looked for along one sequence of manifests: the own one,
those of the own workspaces, and those of the workspace root around with its workspaces. `Searched`
is that sequence, read to its end. What the search with its early exits finds is the first version
and the first framework on it, each for itself, since merging facts left first is a fold over the
sequence (`ReactFacts.gathered`) that complete facts no longer change.
-/

namespace Checkup

open Run (IsQuestion)
open List (Forall₂)

/-! ### The sequence -/

namespace Path

/-- The first path is a proper ancestor of the second one, by their names. -/
def IsAbove (p q : Path) : Prop :=
  p.anchor = q.anchor ∧ ∃ more ≠ [], q.names = p.names ++ more

end Path

/-- The manifests of the workspaces in turn: pattern by pattern, and for each pattern directory by
directory. -/
inductive WorkspaceManifests (host : Host) (root : Path) : List String → List Manifest → Prop
  | nil : WorkspaceManifests host root [] []
  | cons {pattern : String} {rest : List String} {directories : List Path}
      {manifests others : List Manifest}
      (hdirectories : (Workspace.directories root pattern host).1 = .ok directories)
      (hmanifests : Forall₂ (fun directory manifest =>
        (Manifest.readIn directory host).1 = .ok manifest) directories manifests)
      (hrest : WorkspaceManifests host root rest others) :
      WorkspaceManifests host root (pattern :: rest) (manifests ++ others)

/-- The manifest in a directory, and then those of the workspaces that it has there. -/
inductive OwnManifests (host : Host) (directory : Path) : List Manifest → Prop
  | intro {manifest : Manifest} {patterns : List String} {others : List Manifest}
      (hmanifest : (Manifest.readIn directory host).1 = .ok manifest)
      (hpatterns : (Workspace.patterns directory manifest host).1 = .ok patterns)
      (hothers : WorkspaceManifests host directory patterns others) :
      OwnManifests host directory (manifest :: others)

/-- The nearest proper ancestor that is a workspace root. -/
structure IsNearestRoot (host : Host) (directory root : Path) : Prop where
  above : root.IsAbove directory
  isRoot : (Workspace.isRoot root host).1 = .ok true
  nearest : ∀ other, root.IsAbove other → other.IsAbove directory →
    (Workspace.isRoot other host).1 = .ok false

/-- The manifests that the workspace root around a directory adds: none if there is no such root or
it has no manifest. -/
inductive ManifestsAround (host : Host) (directory : Path) : List Manifest → Prop
  | rootless (hnone : ∀ other : Path, other.IsAbove directory →
      (Workspace.isRoot other host).1 = .ok false) : ManifestsAround host directory []
  | bare {root : Path} (hroot : IsNearestRoot host directory root)
      (hmissing : (Manifest.isIn root host).1 = .ok false) : ManifestsAround host directory []
  | within {root : Path} {manifests : List Manifest} (hroot : IsNearestRoot host directory root)
      (hthere : (Manifest.isIn root host).1 = .ok true)
      (hmanifests : OwnManifests host root manifests) : ManifestsAround host directory manifests

/-- All manifests that can tell about React in a directory, in the order in which they count. -/
inductive Searched (host : Host) (directory : Path) : List Manifest → Prop
  | root {own : List Manifest} (hisRoot : (Workspace.isRoot directory host).1 = .ok true)
      (hown : OwnManifests host directory own) : Searched host directory own
  | member {own around : List Manifest} (hisRoot : (Workspace.isRoot directory host).1 = .ok false)
      (hown : OwnManifests host directory own) (haround : ManifestsAround host directory around) :
      Searched host directory (own ++ around)

/-- The first version of React that counts in a sequence of manifests. -/
def firstVersion (manifests : List Manifest) : Option Json :=
  (manifests.map fun manifest =>
    Json.lookup (Dependencies.ofManifest manifest) "react").find? (·.isTruthy)

/-- The first framework that is known in a sequence of manifests. -/
def firstFramework (manifests : List Manifest) : Framework :=
  ((manifests.map fun manifest =>
    (Dependencies.ofManifest manifest).framework).find? (· != .unknown)).getD .unknown

/-! ### The fold -/

namespace ReactFacts

def gathered (facts : ReactFacts) (manifests : List Manifest) : ReactFacts :=
  manifests.foldl (fun facts manifest => facts.fillFrom (ofManifest manifest)) facts

variable {facts : ReactFacts}

@[simp] theorem gathered_nil : facts.gathered [] = facts := rfl

@[simp] theorem gathered_cons (manifest : Manifest) (rest : List Manifest) :
    facts.gathered (manifest :: rest) = (facts.fillFrom (ofManifest manifest)).gathered rest := rfl

theorem gathered_append (manifests others : List Manifest) :
    facts.gathered (manifests ++ others) = (facts.gathered manifests).gathered others :=
  List.foldl_append ..

theorem gathered_of_isComplete (hcomplete : facts.isComplete = true) (manifests : List Manifest) :
    facts.gathered manifests = facts := by
  induction manifests with
  | nil => rfl
  | cons manifest rest ih => rw [gathered_cons, fillFrom_of_isComplete hcomplete, ih]

theorem fillFrom_gathered (other : ReactFacts) (manifests : List Manifest) :
    facts.fillFrom (other.gathered manifests) = (facts.fillFrom other).gathered manifests := by
  induction manifests generalizing other with
  | nil => rfl
  | cons manifest rest ih => rw [gathered_cons, gathered_cons, ih, fillFrom_assoc]

theorem fillFrom_empty_gathered (manifests : List Manifest) :
    facts.fillFrom (empty.gathered manifests) = facts.gathered manifests := by
  rw [fillFrom_gathered]
  congr 1
  cases hframework : facts.framework <;> cases facts <;> simp_all [fillFrom, empty]

theorem version_gathered (manifests : List Manifest) :
    (facts.gathered manifests).version = facts.version.or (firstVersion manifests) := by
  induction manifests generalizing facts with
  | nil => simp [firstVersion]
  | cons manifest rest ih =>
    rw [gathered_cons, ih]
    change (facts.version.or (Json.given? _)).or _ = _
    unfold firstVersion
    rw [Option.or_assoc, List.map_cons, List.find?_cons]
    unfold Json.given?
    split <;> simp_all

theorem framework_gathered (manifests : List Manifest) :
    (facts.gathered manifests).framework =
      if facts.framework == .unknown then firstFramework manifests else facts.framework := by
  induction manifests generalizing facts with
  | nil => simp [firstFramework]
  | cons manifest rest ih =>
    rw [gathered_cons, ih]
    unfold firstFramework fillFrom ofManifest
    rw [List.map_cons, List.find?_cons]
    by_cases hfacts : facts.framework = .unknown
    · by_cases hmanifest : (Dependencies.ofManifest manifest).framework = .unknown
      · simp [hfacts, hmanifest]
      · simp [hfacts, hmanifest, bne_iff_ne.2 hmanifest]
    · simp [hfacts]

/-! ### The search is the fold -/

variable {host : Host} {directory root : Path}

theorem ofPackages_of_forall₂ {directories : List Path} {manifests : List Manifest}
    (hmanifests : Forall₂ (fun directory manifest =>
      (Manifest.readIn directory host).1 = .ok manifest) directories manifests) :
    (ofPackages facts directories host).1 = .ok (facts.gathered manifests) := by
  induction hmanifests generalizing facts with
  | nil => rfl
  | @cons directory manifest directories manifests hmanifest _ ih =>
    apply ((Manifest.isQuestion_readIn directory).fst_bind_eq_ok
      fun _ => .ite (.pure _) (isQuestion_ofPackages _ _)).2
    refine ⟨manifest, hmanifest, ?_⟩
    rw [gathered_cons]
    split
    · rename_i hcomplete
      rw [gathered_of_isComplete hcomplete]
      rfl
    · exact ih

theorem ofPatterns_of_workspaceManifests {patterns : List String} {manifests : List Manifest}
    (hmanifests : WorkspaceManifests host root patterns manifests) :
    (ofPatterns root facts patterns host).1 = .ok (facts.gathered manifests) := by
  induction hmanifests generalizing facts with
  | nil => rfl
  | @cons pattern rest directories manifests others hdirectories hmanifests _ ih =>
    have hrest (facts : ReactFacts) : IsQuestion (do
        if facts.isComplete then return facts
        ofPatterns root facts rest) := .ite (.pure _) (isQuestion_ofPatterns _ _ _)
    apply ((Workspace.isQuestion_directories root pattern).fst_bind_eq_ok
      fun _ => .bind (isQuestion_ofPackages _ _) hrest).2
    refine ⟨directories, hdirectories, ?_⟩
    apply ((isQuestion_ofPackages facts directories).fst_bind_eq_ok hrest).2
    refine ⟨facts.gathered manifests, ofPackages_of_forall₂ hmanifests, ?_⟩
    rw [gathered_append]
    split
    · rename_i hcomplete
      rw [gathered_of_isComplete hcomplete]
      rfl
    · exact ih

theorem ofOwn_of_ownManifests {manifest : Manifest} {manifests : List Manifest}
    (hmanifest : (Manifest.readIn directory host).1 = .ok manifest)
    (hmanifests : OwnManifests host directory manifests) :
    (ofOwn directory manifest host).1 = .ok (empty.gathered manifests) := by
  obtain ⟨hread, hpatterns, hothers⟩ := hmanifests
  obtain rfl := Except.ok.inj (hmanifest.symm.trans hread)
  rw [gathered_cons, empty_fillFrom]
  unfold ofOwn
  split
  · rename_i hcomplete
    rw [gathered_of_isComplete hcomplete]
    rfl
  · have hworkspaces : IsQuestion (ofWorkspaces directory manifest) :=
      .bind (Workspace.isQuestion_patterns _ _) fun _ => isQuestion_ofPatterns _ _ _
    apply (hworkspaces.fst_bind_eq_ok fun _ => .pure _).2
    refine ⟨_, ((Workspace.isQuestion_patterns _ _).fst_bind_eq_ok
      fun _ => isQuestion_ofPatterns _ _ _).2
        ⟨_, hpatterns, ofPatterns_of_workspaceManifests hothers⟩, ?_⟩
    exact congrArg Except.ok (fillFrom_empty_gathered _)

end ReactFacts

/-! ### The root around a directory -/

namespace Path

theorem beginnings_concat {α : Type} (items : List α) (last : α) :
    beginnings (items ++ [last]) = items :: beginnings items := by
  induction items with
  | nil => rfl
  | cons first rest ih => simp [beginnings, ih]

theorem parents_concat (anchor : Anchor) (names : List String) (last : String) :
    parents ⟨anchor, names ++ [last]⟩ = ⟨anchor, names⟩ :: parents ⟨anchor, names⟩ := by
  simp [parents, beginnings_concat]

theorem isAbove_concat (anchor : Anchor) (names : List String) (last : String) :
    IsAbove ⟨anchor, names⟩ ⟨anchor, names ++ [last]⟩ :=
  ⟨rfl, [last], by simp, rfl⟩

theorem IsAbove.trans {p q r : Path} (hpq : p.IsAbove q) (hqr : q.IsAbove r) : p.IsAbove r := by
  obtain ⟨hanchor, more, hmore, hnames⟩ := hpq
  obtain ⟨hanchor', more', -, hnames'⟩ := hqr
  refine ⟨hanchor.trans hanchor', more ++ more', by simp [hmore], ?_⟩
  rw [hnames', hnames, List.append_assoc]

/-- Between a path and one of its proper ancestors there are only ancestors of the first that the
second is an ancestor of. -/
theorem IsAbove.exists_parents_eq {root p : Path} (habove : root.IsAbove p) : ∃ between,
    p.parents = between ++ root :: root.parents ∧
      ∀ other ∈ between, root.IsAbove other ∧ other.IsAbove p := by
  obtain ⟨anchor, names⟩ := p
  obtain ⟨rootAnchor, rootNames⟩ := root
  obtain ⟨rfl, more, hmore, rfl⟩ := habove
  -- the nearest ancestor comes first, so the names are taken away from the end
  induction more using List.reverseRecOn with
  | nil => exact absurd rfl hmore
  | append_singleton init last ih =>
    dsimp only
    rw [← List.append_assoc, parents_concat]
    by_cases hinit : init = []
    · subst hinit
      exact ⟨[], by simp, by simp⟩
    · obtain ⟨between, hparents, hbetween⟩ := ih hinit
      dsimp only at hparents
      refine ⟨⟨rootAnchor, rootNames ++ init⟩ :: between, by rw [hparents]; rfl, ?_⟩
      intro other hother
      rcases List.mem_cons.1 hother with rfl | hother
      · exact ⟨⟨rfl, init, hinit, rfl⟩, isAbove_concat ..⟩
      · obtain ⟨hroot, habove⟩ := hbetween other hother
        exact ⟨hroot, habove.trans (isAbove_concat ..)⟩

theorem isAbove_of_mem_parents {p other : Path} (hmem : other ∈ p.parents) : other.IsAbove p := by
  obtain ⟨anchor, names⟩ := p
  induction names using List.reverseRecOn with
  | nil => cases hmem
  | append_singleton init last ih =>
    rw [parents_concat] at hmem
    rcases List.mem_cons.1 hmem with rfl | hmem
    · exact isAbove_concat ..
    · exact (ih hmem).trans (isAbove_concat ..)

end Path

namespace Workspace

variable {host : Host} {directory root : Path}

theorem firstRoot?_append {before : List Path}
    (hbefore : ∀ other ∈ before, (isRoot other host).1 = .ok false) (rest : List Path) :
    (firstRoot? (before ++ rest) host).1 = (firstRoot? rest host).1 := by
  induction before with
  | nil => rfl
  | cons first others ih =>
    obtain ⟨hfirst, hothers⟩ := List.forall_mem_cons.1 hbefore
    rw [List.cons_append, firstRoot?, (isQuestion_isRoot first).fst_bind
      fun _ => .ite (.pure _) (isQuestion_firstRoot? _), hfirst]
    exact ih hothers

theorem enclosingRoot?_of_isNearestRoot (hroot : IsNearestRoot host directory root) :
    (enclosingRoot? directory host).1 = .ok (some root) := by
  obtain ⟨between, hparents, hbetween⟩ := hroot.above.exists_parents_eq
  unfold enclosingRoot?
  rw [hparents, firstRoot?_append, firstRoot?, (isQuestion_isRoot root).fst_bind
    fun _ => .ite (.pure _) (isQuestion_firstRoot? _), hroot.isRoot]
  · rfl
  · intro other hother
    obtain ⟨habove, hbelow⟩ := hbetween other hother
    exact hroot.nearest other habove hbelow

theorem enclosingRoot?_of_rootless
    (hnone : ∀ other : Path, other.IsAbove directory → (isRoot other host).1 = .ok false) :
    (enclosingRoot? directory host).1 = .ok none := by
  unfold enclosingRoot?
  rw [← List.append_nil directory.parents, firstRoot?_append]
  · rfl
  · intro other hother
    exact hnone other (Path.isAbove_of_mem_parents hother)

end Workspace

namespace ReactFacts

variable {host : Host} {directory : Path}

theorem ofEnclosingRoot_of_manifestsAround {manifests : List Manifest}
    (haround : ManifestsAround host directory manifests) :
    (ofEnclosingRoot directory host).1 = .ok (empty.gathered manifests) := by
  have hin (root : Path) : IsQuestion (do
      if ← Manifest.isIn root then ofOwn root (← Manifest.readIn root) else return empty) :=
    .bind (Manifest.isQuestion_isIn root) fun _ => .ite
      (.bind (Manifest.isQuestion_readIn root) fun _ => isQuestion_ofOwn _ _) (.pure _)
  refine ((Workspace.isQuestion_firstRoot? directory.parents).fst_bind_eq_ok fun root? => by
    cases root? with
    | none => exact .pure _
    | some root => exact hin root).2 ?_
  cases haround with
  | rootless hnone => exact ⟨none, Workspace.enclosingRoot?_of_rootless hnone, rfl⟩
  | @bare root hroot hmissing =>
    refine ⟨some root, Workspace.enclosingRoot?_of_isNearestRoot hroot, ?_⟩
    apply ((Manifest.isQuestion_isIn root).fst_bind_eq_ok fun _ => .ite
      (.bind (Manifest.isQuestion_readIn root) fun _ => isQuestion_ofOwn _ _) (.pure _)).2
    exact ⟨false, hmissing, rfl⟩
  | @within root _ hroot hthere hmanifests =>
    refine ⟨some root, Workspace.enclosingRoot?_of_isNearestRoot hroot, ?_⟩
    apply ((Manifest.isQuestion_isIn root).fst_bind_eq_ok fun _ => .ite
      (.bind (Manifest.isQuestion_readIn root) fun _ => isQuestion_ofOwn _ _) (.pure _)).2
    refine ⟨true, hthere, ?_⟩
    obtain ⟨manifest, hmanifest⟩ : ∃ manifest, (Manifest.readIn root host).1 = .ok manifest := by
      obtain ⟨hread, -, -⟩ := hmanifests
      exact ⟨_, hread⟩
    exact ((Manifest.isQuestion_readIn root).fst_bind_eq_ok fun _ => isQuestion_ofOwn _ _).2
      ⟨manifest, hmanifest, ofOwn_of_ownManifests hmanifest hmanifests⟩

/-- The search with its early exits finds what all manifests of the sequence have. -/
theorem resolve_of_searched {manifest : Manifest} {manifests : List Manifest}
    (hmanifest : (Manifest.readIn directory host).1 = .ok manifest)
    (hsearched : Searched host directory manifests) :
    (resolve directory manifest host).1 = .ok (empty.gathered manifests) := by
  have hrest (facts : ReactFacts) : IsQuestion (do
      return facts.fillFrom (← ofEnclosingRoot directory)) :=
    .bind (isQuestion_ofEnclosingRoot directory) fun _ => .pure _
  have hbeyond (facts : ReactFacts) : IsQuestion (do
      if ← Workspace.isRoot directory then return facts
      return facts.fillFrom (← ofEnclosingRoot directory)) :=
    .bind (Workspace.isQuestion_isRoot directory) fun _ => .ite (.pure _) (hrest facts)
  apply ((isQuestion_ofOwn directory manifest).fst_bind_eq_ok
    fun facts => .ite (.pure _) (hbeyond facts)).2
  cases hsearched with
  | root hisRoot hown =>
    refine ⟨_, ofOwn_of_ownManifests hmanifest hown, ?_⟩
    split
    · rfl
    · exact ((Workspace.isQuestion_isRoot directory).fst_bind_eq_ok
        fun _ => .ite (.pure _) (hrest _)).2 ⟨true, hisRoot, rfl⟩
  | @member own around hisRoot hown haround =>
    refine ⟨_, ofOwn_of_ownManifests hmanifest hown, ?_⟩
    rw [gathered_append]
    split
    · rename_i hcomplete
      rw [gathered_of_isComplete hcomplete]
      rfl
    · apply ((Workspace.isQuestion_isRoot directory).fst_bind_eq_ok
        fun _ => .ite (.pure _) (hrest _)).2
      refine ⟨false, hisRoot, ?_⟩
      apply ((isQuestion_ofEnclosingRoot directory).fst_bind_eq_ok fun _ => .pure _).2
      refine ⟨_, ofEnclosingRoot_of_manifestsAround haround, ?_⟩
      exact congrArg Except.ok (fillFrom_empty_gathered _)

end ReactFacts

section Discovery

variable {directory : Path} {manifestDirectory : Option Path} {host : Host} {manifest : Manifest}
  {manifests : List Manifest} {typeScript compiler : Bool} {sourceFiles : Nat}

/-- Where all manifests of the sequence can be read, discovery is answered from them. -/
theorem Project.fst_discover_of_searched
    (hthere : (Manifest.isIn (manifestDirectory.getD directory) host).1 = .ok true)
    (hmanifest : (Manifest.readIn (manifestDirectory.getD directory) host).1 = .ok manifest)
    (hsearched : Searched host (manifestDirectory.getD directory) manifests)
    (htypeScript : (Run.pathExists (directory / "tsconfig.json") host).1 = .ok typeScript)
    (hcompiler : (detectCompiler directory manifest host).1 = .ok compiler)
    (hsourceFiles : (countSourceFiles directory host).1 = .ok sourceFiles) :
    (discover directory manifestDirectory host).1 = .ok ⟨directory, nameOf manifest directory,
      firstVersion manifests, firstFramework manifests, typeScript, compiler, sourceFiles⟩ := by
  have hfacts := ReactFacts.resolve_of_searched hmanifest hsearched
  rw [fst_discover, hthere, htypeScript, hsourceFiles]
  refine except_bind_eq_ok.2 ⟨true, rfl, ?_⟩
  rw [if_pos rfl, hmanifest]
  refine except_bind_eq_ok.2 ⟨manifest, rfl, ?_⟩
  rw [hfacts, hcompiler]
  refine congrArg Except.ok ?_
  rw [ReactFacts.version_gathered, ReactFacts.framework_gathered]
  rfl

end Discovery

/-- Where all manifests of the sequence can be read, discovery finds the first version of React and
the first framework on it, each for itself. -/
theorem Project.discover_of_searched {directory : Path} {manifestDirectory : Option Path}
    {host : Host} {manifest : Manifest} {manifests : List Manifest} {typeScript compiler : Bool}
    {sourceFiles : Nat}
    (hthere : (Manifest.isIn (manifestDirectory.getD directory) host).1 = .ok true)
    (hmanifest : (Manifest.readIn (manifestDirectory.getD directory) host).1 = .ok manifest)
    (hsearched : Searched host (manifestDirectory.getD directory) manifests)
    (htypeScript : (Run.pathExists (directory / "tsconfig.json") host).1 = .ok typeScript)
    (hcompiler : (detectCompiler directory manifest host).1 = .ok compiler)
    (hsourceFiles : (countSourceFiles directory host).1 = .ok sourceFiles) :
    ∃ project, (discover directory manifestDirectory host).1 = .ok project ∧
      project.react = firstVersion manifests ∧ project.framework = firstFramework manifests :=
  ⟨_, fst_discover_of_searched hthere hmanifest hsearched htypeScript hcompiler hsourceFiles,
    rfl, rfl⟩

/-- A workspace root that claims React, a workspace with an older React and a framework, and another
workspace that claims nothing. -/
def Host.withClaims : Host :=
  { ofProject "" (fun _ => .unavailable) fun _ _ _ => .hangs with
    tree := .directory [
      ("package.json", .file (.text
        "\x7b\"workspaces\":[\"site\",\"ui\"],\"dependencies\":\x7b\"react\":\"19\"\x7d\x7d")),
      ("site", .directory [("package.json", .file (.text
        "\x7b\"dependencies\":\x7b\"react\":\"18\",\"next\":\"14\"\x7d\x7d"))]),
      ("ui", .directory [("package.json", .file (.text "\x7b\"name\":\"ui\"\x7d"))])] }

theorem WorkspaceManifests.cons_singleton {host : Host} {root directory : Path} {pattern : String}
    {rest : List String} {manifest : Manifest} {others : List Manifest}
    (hdirectories : (Workspace.directories root pattern host).1 = .ok [directory])
    (hmanifest : (Manifest.readIn directory host).1 = .ok manifest)
    (hrest : WorkspaceManifests host root rest others) :
    WorkspaceManifests host root (pattern :: rest) (manifest :: others) :=
  .cons hdirectories (.cons hmanifest .nil) hrest

theorem ownManifests_of_patterns {host : Host} {directory : Path} {patterns : List String}
    {others : List Manifest}
    (hpatterns : ((do
      Workspace.patterns directory (← Manifest.readIn directory)) host).1 = .ok patterns)
    (hothers : WorkspaceManifests host directory patterns others) : ∃ manifest,
      (Manifest.readIn directory host).1 = .ok manifest ∧
      OwnManifests host directory (manifest :: others) := by
  obtain ⟨manifest, hmanifest, hpatterns⟩ := ((Manifest.isQuestion_readIn directory).fst_bind_eq_ok
    fun _ => Workspace.isQuestion_patterns _ _).1 hpatterns
  exact ⟨manifest, hmanifest, hmanifest, hpatterns, hothers⟩

theorem Path.isAbove_singleton_iff {anchor : Anchor} {name : String} (other : Path) :
    other.IsAbove ⟨anchor, [name]⟩ ↔ other = ⟨anchor, []⟩ := by
  obtain ⟨otherAnchor, names⟩ := other
  constructor
  · rintro ⟨hanchor, more, hmore, hnames⟩
    obtain rfl : otherAnchor = anchor := hanchor
    cases names with
    | nil => rfl
    | cons first rest =>
      obtain ⟨-, hrest⟩ := List.cons.inj hnames
      exact absurd (List.append_eq_nil_iff.1 hrest.symm).2 hmore
  · rintro ⟨⟩
    exact ⟨rfl, [name], by simp, rfl⟩

theorem isNearestRoot_singleton {host : Host} {anchor : Anchor} {name : String}
    (hroot : (Workspace.isRoot ⟨anchor, []⟩ host).1 = .ok true) :
    IsNearestRoot host ⟨anchor, [name]⟩ ⟨anchor, []⟩ := by
  refine ⟨(Path.isAbove_singleton_iff _).2 rfl, hroot, ?_⟩
  rintro other ⟨-, more, hmore, hnames⟩ hbelow
  rw [(Path.isAbove_singleton_iff other).1 hbelow] at hnames
  exact absurd hnames.symm hmore

namespace Host

/-- The package that claims nothing is searched first, then the root, and then its workspaces. -/
theorem searched_withClaims : ∃ ui root site,
    (Manifest.readIn ⟨.root, ["ui"]⟩ withClaims).1 = .ok ui ∧
    Searched withClaims ⟨.root, ["ui"]⟩ ([ui] ++ [root, site, ui]) := by
  have hnone : WorkspaceManifests withClaims ⟨.root, ["ui"]⟩ [] [] := .nil
  obtain ⟨ui, hui, hown⟩ := ownManifests_of_patterns (eq_ok_of_toOption (by decide +kernel)) hnone
  obtain ⟨site, hsite⟩ := exists_eq_ok_of_isOk
    (show (Manifest.readIn ⟨.root, ["site"]⟩ withClaims).1.isOk = true by decide +kernel)
  have hworkspaces : WorkspaceManifests withClaims .root ["site", "ui"] [site, ui] := by
    apply WorkspaceManifests.cons_singleton (eq_ok_of_toOption (by decide +kernel)) hsite
    apply WorkspaceManifests.cons_singleton (eq_ok_of_toOption (by decide +kernel)) hui
    exact .nil
  obtain ⟨root, -, haround⟩ := ownManifests_of_patterns
    (eq_ok_of_toOption (by decide +kernel)) hworkspaces
  have hnearest : IsNearestRoot withClaims ⟨.root, ["ui"]⟩ .root :=
    isNearestRoot_singleton (eq_ok_of_toOption (by decide +kernel))
  exact ⟨ui, root, site, hui, .member (eq_ok_of_toOption (by decide +kernel)) hown
    (.within hnearest (eq_ok_of_toOption (by decide +kernel)) haround)⟩

end Host

/-- The version comes from the root, whose claim goes before that of its workspace, and the
framework from that workspace. -/
theorem Project.discover_withClaims : ∃ project ui root site,
    Searched Host.withClaims ⟨.root, ["ui"]⟩ ([ui] ++ [root, site, ui]) ∧
    (discover ⟨.root, ["ui"]⟩ none Host.withClaims).1 = .ok project ∧
    project.react = firstVersion [ui, root, site, ui] ∧
    project.framework = firstFramework [ui, root, site, ui] ∧
    project.react.bind (·.text?) = some "19" ∧ project.framework = .nextjs := by
  obtain ⟨ui, root, site, hui, hsearched⟩ := Host.searched_withClaims
  obtain ⟨compiler, hcompiler⟩ := exists_eq_ok_of_isOk
    (show ((do
      detectCompiler ⟨.root, ["ui"]⟩ (← Manifest.readIn ⟨.root, ["ui"]⟩)) Host.withClaims).1.isOk = true
      by decide +kernel)
  obtain ⟨manifest, hmanifest, hcompiler⟩ := ((Manifest.isQuestion_readIn _).fst_bind_eq_ok
    fun _ => isQuestion_detectCompiler _ _).1 hcompiler
  obtain rfl := Except.ok.inj (hui.symm.trans hmanifest)
  obtain ⟨typeScript, htypeScript⟩ := exists_eq_ok_of_isOk
    (show (Run.pathExists ((⟨.root, ["ui"]⟩ : Path) / "tsconfig.json") Host.withClaims).1.isOk = true
      by decide +kernel)
  obtain ⟨sourceFiles, hsourceFiles⟩ := exists_eq_ok_of_isOk
    (show (countSourceFiles ⟨.root, ["ui"]⟩ Host.withClaims).1.isOk = true by decide +kernel)
  have hthere : (Manifest.isIn ((none : Option Path).getD ⟨.root, ["ui"]⟩) Host.withClaims).1 =
      .ok true := eq_ok_of_toOption (by decide +kernel)
  obtain ⟨project, hproject, hreact, hframework⟩ :=
    discover_of_searched hthere hui hsearched htypeScript hcompiler hsourceFiles
  obtain ⟨found, hfound, hclaims⟩ := exists_eq_ok_of_any
    (show (discover ⟨.root, ["ui"]⟩ none Host.withClaims).1.toOption.any (fun project =>
      project.react.bind (·.text?) == some "19" && project.framework == .nextjs) = true
      by decide +kernel)
  obtain rfl := Except.ok.inj (hproject.symm.trans hfound)
  obtain ⟨hversion, hnext⟩ := (Bool.and_eq_true _ _).mp hclaims
  exact ⟨project, ui, root, site, hsearched, hproject, hreact, hframework, eq_of_beq hversion,
    eq_of_beq hnext⟩

end Checkup
