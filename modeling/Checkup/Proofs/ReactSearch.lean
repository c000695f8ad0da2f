import Checkup.Proofs.Questions

/-!
# Where React is looked for

The version of React is the first one that a manifest gives on a way through several manifests, and
the way is cut short as soon as version and framework are known. `DeclaresReact` says which manifests
lie on it: the own one, those of the own workspaces, and those of the workspace root around, with its
workspaces, unless the directory is a workspace root itself. The searches are specified one by one by
what their facts know (`ReactFacts.Knows`), so that cutting them short never matters.
-/

namespace Checkup

open Run (IsQuestion)

/-! ### Declarations -/

/-- The manifest in a directory gives something for the package `react`. -/
def GivesReact (host : Host) (directory : Path) : Prop :=
  ∃ manifest, (Manifest.readIn directory host).1 = .ok manifest ∧
    (Dependencies.ofManifest manifest).uses "react" = true

/-- One of the packages that a pattern names gives something for `react`. -/
def PatternGivesReact (host : Host) (root : Path) (pattern : String) : Prop :=
  ∃ directories, (Workspace.directories root pattern host).1 = .ok directories ∧
    ∃ directory ∈ directories, GivesReact host directory

/-- One of the workspaces that a manifest declares gives something for `react`. -/
def WorkspacesGiveReact (host : Host) (root : Path) (manifest : Manifest) : Prop :=
  ∃ patterns, (Workspace.patterns root manifest host).1 = .ok patterns ∧
    ∃ pattern ∈ patterns, PatternGivesReact host root pattern

/-- The manifest in a directory, or one of its workspaces, gives something for `react`. -/
def OwnGivesReact (host : Host) (directory : Path) : Prop :=
  ∃ manifest, (Manifest.readIn directory host).1 = .ok manifest ∧
    ((Dependencies.ofManifest manifest).uses "react" = true ∨
      WorkspacesGiveReact host directory manifest)

/-- The workspace root around a directory, or one of its workspaces, gives something for `react`. -/
def EnclosingRootGivesReact (host : Host) (directory : Path) : Prop :=
  ∃ root, (Workspace.enclosingRoot? directory host).1 = .ok (some root) ∧
    (Manifest.isIn root host).1 = .ok true ∧ OwnGivesReact host root

/-- React is declared for the manifest in a directory: by itself or its workspaces, or else by the
workspace root around it. -/
def DeclaresReact (host : Host) (directory : Path) : Prop :=
  OwnGivesReact host directory ∨
    ((Workspace.isRoot directory host).1 = .ok false ∧ EnclosingRootGivesReact host directory)

theorem givesReact_iff {host : Host} {directory : Path} {manifest : Manifest}
    (hmanifest : (Manifest.readIn directory host).1 = .ok manifest) :
    GivesReact host directory ↔ (Dependencies.ofManifest manifest).uses "react" = true := by
  constructor
  · rintro ⟨found, hfound, huses⟩
    rw [hmanifest] at hfound
    cases hfound
    exact huses
  · intro huses
    exact ⟨manifest, hmanifest, huses⟩

theorem ownGivesReact_iff {host : Host} {directory : Path} {manifest : Manifest}
    (hmanifest : (Manifest.readIn directory host).1 = .ok manifest) :
    OwnGivesReact host directory ↔ (Dependencies.ofManifest manifest).uses "react" = true ∨
      WorkspacesGiveReact host directory manifest := by
  constructor
  · rintro ⟨found, hfound, hgives⟩
    rw [hmanifest] at hfound
    cases hfound
    exact hgives
  · intro hgives
    exact ⟨manifest, hmanifest, hgives⟩

/-! ### What the facts know -/

namespace ReactFacts

/-- The facts have a version exactly when the proposition holds, and then one that counts. -/
structure Knows (facts : ReactFacts) (P : Prop) : Prop where
  isSome : facts.version.isSome = true ↔ P
  isTruthy : ∀ version ∈ facts.version, version.isTruthy = true

variable {facts other : ReactFacts} {P Q : Prop} {host : Host}

theorem Knows.any_isTruthy (hknows : facts.Knows P) :
    facts.version.any (·.isTruthy) = true ↔ P := by
  obtain ⟨hsome, htruthy⟩ := hknows
  rw [← hsome]
  cases hversion : facts.version with
  | none => simp
  | some version => simpa using htruthy version hversion

theorem Knows.congr (hknows : facts.Knows P) (hiff : P ↔ Q) : facts.Knows Q :=
  ⟨hknows.isSome.trans hiff, hknows.isTruthy⟩

/-- Facts that are complete cannot learn a version from anything that follows. -/
theorem Knows.of_isComplete (hknows : facts.Knows P) (hcomplete : facts.isComplete = true) :
    facts.Knows (P ∨ Q) := by
  have hsome : facts.version.isSome = true := by
    unfold isComplete at hcomplete
    exact (Bool.and_eq_true _ _ ▸ hcomplete).1
  exact ⟨⟨fun h => .inl (hknows.isSome.1 h), fun _ => hsome⟩, hknows.isTruthy⟩

theorem knows_empty : empty.Knows False := ⟨by simp [empty], nofun⟩

theorem knows_ofManifest (manifest : Manifest) :
    (ofManifest manifest).Knows ((Dependencies.ofManifest manifest).uses "react" = true) := by
  constructor
  · change (Json.given? _).isSome = true ↔ (Json.lookup _ "react").isTruthy = true
    unfold Json.given?
    split <;> simp_all
  · intro version hversion
    obtain ⟨htruthy, rfl⟩ := Json.given?_eq_some_iff.1 hversion
    exact htruthy

theorem Knows.fillFrom (hknows : facts.Knows P) (hother : other.Knows Q) :
    (facts.fillFrom other).Knows (P ∨ Q) := by
  constructor
  · rw [← hknows.isSome, ← hother.isSome]
    exact Option.isSome_or ▸ Bool.or_eq_true _ _ ▸ Iff.rfl
  · intro version hversion
    rcases Option.or_eq_some_iff.1 hversion with hown | ⟨-, hlearnt⟩
    · exact hknows.isTruthy version hown
    · exact hother.isTruthy version hlearnt

/-! ### The searches -/

theorem knows_ofPackages (directories : List Path) (hknows : facts.Knows P) :
    Gives (·.Knows (P ∨ ∃ directory ∈ directories, GivesReact host directory))
      (ofPackages facts directories host).1 := by
  induction directories generalizing facts P with
  | nil => exact .pure (hknows.congr (by simp))
  | cons directory rest ih =>
    intro found hfound
    obtain ⟨manifest, hmanifest, hfound⟩ := ((Manifest.isQuestion_readIn directory).fst_bind_eq_ok
      (fun _ => .ite (.pure _) (isQuestion_ofPackages _ _))).1 hfound
    have hfilled := hknows.fillFrom (knows_ofManifest manifest)
    rw [← givesReact_iff hmanifest] at hfilled
    have hall : (P ∨ GivesReact host directory) ∨ (∃ directory ∈ rest, GivesReact host directory) ↔
        P ∨ ∃ package ∈ directory :: rest, GivesReact host package := by
      simp [or_assoc]
    split at hfound
    · rename_i hcomplete
      cases hfound
      exact (hfilled.of_isComplete hcomplete).congr hall
    · exact (ih hfilled found hfound).congr hall

theorem knows_ofPatterns (root : Path) (patterns : List String) (hknows : facts.Knows P) :
    Gives (·.Knows (P ∨ ∃ pattern ∈ patterns, PatternGivesReact host root pattern))
      (ofPatterns root facts patterns host).1 := by
  induction patterns generalizing facts P with
  | nil => exact .pure (hknows.congr (by simp))
  | cons pattern rest ih =>
    intro found hfound
    have hrest (facts : ReactFacts) : IsQuestion (do
        if facts.isComplete then return facts
        ofPatterns root facts rest) := .ite (.pure _) (isQuestion_ofPatterns _ _ _)
    obtain ⟨directories, hdirectories, hfound⟩ :=
      ((Workspace.isQuestion_directories root pattern).fst_bind_eq_ok
        (fun _ => .bind (isQuestion_ofPackages _ _) hrest)).1 hfound
    obtain ⟨searched, hsearched, hfound⟩ :=
      ((isQuestion_ofPackages facts directories).fst_bind_eq_ok hrest).1 hfound
    have hknown := knows_ofPackages directories hknows searched hsearched
    -- the directories of a pattern are determined, so that there are no others to find React in
    have hpattern : (∃ directory ∈ directories, GivesReact host directory) ↔
        PatternGivesReact host root pattern := by
      simp [PatternGivesReact, hdirectories]
    rw [hpattern] at hknown
    have hall : (P ∨ PatternGivesReact host root pattern) ∨
        (∃ pattern ∈ rest, PatternGivesReact host root pattern) ↔
          P ∨ ∃ other ∈ pattern :: rest, PatternGivesReact host root other := by
      simp [or_assoc]
    split at hfound
    · rename_i hcomplete
      cases hfound
      exact (hknown.of_isComplete hcomplete).congr hall
    · exact (ih hknown found hfound).congr hall

theorem knows_ofWorkspaces (root : Path) (manifest : Manifest) :
    Gives (·.Knows (WorkspacesGiveReact host root manifest)) (ofWorkspaces root manifest host).1 := by
  intro found hfound
  obtain ⟨patterns, hpatterns, hfound⟩ := ((Workspace.isQuestion_patterns root manifest).fst_bind_eq_ok
    (fun _ => isQuestion_ofPatterns _ _ _)).1 hfound
  refine (knows_ofPatterns root patterns knows_empty found hfound).congr ?_
  simp [WorkspacesGiveReact, hpatterns]

/-- The facts of a manifest know of React when it, or one of its workspaces, gives it. -/
theorem knows_ofOwn {directory : Path} {manifest : Manifest}
    (hmanifest : (Manifest.readIn directory host).1 = .ok manifest) :
    Gives (·.Knows (OwnGivesReact host directory)) (ofOwn directory manifest host).1 := by
  intro found hfound
  rw [ownGivesReact_iff hmanifest]
  have hown := knows_ofManifest manifest
  unfold ofOwn at hfound
  split at hfound
  · rename_i hcomplete
    cases hfound
    exact hown.of_isComplete hcomplete
  · obtain ⟨others, hothers, hfound⟩ :=
      ((IsQuestion.bind (Workspace.isQuestion_patterns directory manifest)
        fun _ => isQuestion_ofPatterns _ _ _).fst_bind_eq_ok (fun _ => .pure _)).1 hfound
    cases hfound
    exact hown.fillFrom (knows_ofWorkspaces directory manifest others hothers)

theorem knows_ofEnclosingRoot (directory : Path) :
    Gives (·.Knows (EnclosingRootGivesReact host directory)) (ofEnclosingRoot directory host).1 := by
  intro found hfound
  unfold EnclosingRootGivesReact
  obtain ⟨root?, hroot, hfound⟩ := ((Workspace.isQuestion_firstRoot? directory.parents).fst_bind_eq_ok
    fun root? => by
      cases root? with
      | none => exact .pure _
      | some root =>
        exact .bind (Manifest.isQuestion_isIn root) fun _ => .ite
          (.bind (Manifest.isQuestion_readIn root) fun _ => isQuestion_ofOwn _ _) (.pure _)).1 hfound
  replace hroot : (Workspace.enclosingRoot? directory host).1 = .ok root? := hroot
  cases root? with
  | none =>
    cases hfound
    exact knows_empty.congr (by simp [hroot])
  | some root =>
    obtain ⟨isThere, hthere, hfound⟩ := ((Manifest.isQuestion_isIn root).fst_bind_eq_ok fun _ => .ite
      (.bind (Manifest.isQuestion_readIn root) fun _ => isQuestion_ofOwn _ _) (.pure _)).1 hfound
    cases isThere with
    | false =>
      cases hfound
      exact knows_empty.congr (by simp [hroot, hthere])
    | true =>
      obtain ⟨manifest, hmanifest, hfound⟩ := ((Manifest.isQuestion_readIn root).fst_bind_eq_ok
        fun _ => isQuestion_ofOwn _ _).1 hfound
      exact (knows_ofOwn hmanifest found hfound).congr (by simp [hroot, hthere])

/-- The facts that are resolved for a manifest know of React exactly when it is declared. -/
theorem knows_resolve {directory : Path} {manifest : Manifest}
    (hmanifest : (Manifest.readIn directory host).1 = .ok manifest) :
    Gives (·.Knows (DeclaresReact host directory)) (resolve directory manifest host).1 := by
  intro found hfound
  unfold DeclaresReact
  have hrest (facts : ReactFacts) : IsQuestion (do
      return facts.fillFrom (← ofEnclosingRoot directory)) :=
    .bind (isQuestion_ofEnclosingRoot directory) fun _ => .pure _
  obtain ⟨facts, hfacts, hfound⟩ := ((isQuestion_ofOwn directory manifest).fst_bind_eq_ok
    fun facts => .ite (.pure _) (.bind (Workspace.isQuestion_isRoot directory) fun _ =>
      .ite (.pure _) (hrest facts))).1 hfound
  have hown := knows_ofOwn hmanifest facts hfacts
  split at hfound
  · rename_i hcomplete
    cases hfound
    exact hown.of_isComplete hcomplete
  · obtain ⟨isRoot, hisRoot, hfound⟩ := ((Workspace.isQuestion_isRoot directory).fst_bind_eq_ok
      fun _ => .ite (.pure _) (hrest facts)).1 hfound
    cases isRoot with
    | true =>
      cases hfound
      exact hown.congr (by simp [hisRoot])
    | false =>
      obtain ⟨around, haround, hfound⟩ := ((isQuestion_ofEnclosingRoot directory).fst_bind_eq_ok
        fun _ => .pure _).1 hfound
      cases hfound
      exact (hown.fillFrom (knows_ofEnclosingRoot directory around haround)).congr (by simp [hisRoot])

end ReactFacts

namespace Project

theorem fst_discover (directory : Path) (manifestDirectory : Option Path) (host : Host) :
    (discover directory manifestDirectory host).1 = (do
      let isThere ← (Manifest.isIn (manifestDirectory.getD directory) host).1
      if isThere then
        let manifest ← (Manifest.readIn (manifestDirectory.getD directory) host).1
        let facts ← (ReactFacts.resolve (manifestDirectory.getD directory) manifest host).1
        let typeScript ← (Run.pathExists (directory / "tsconfig.json") host).1
        let compiler ← (detectCompiler directory manifest host).1
        let sourceFiles ← (countSourceFiles directory host).1
        return { root := directory, name := nameOf manifest directory, react := facts.version,
                 framework := facts.framework, typeScript, compiler, sourceFiles }
      else throw (.noManifest (manifestDirectory.getD directory))) := by
  have hcount (project : Nat → Project) : IsQuestion (do
      return project (← countSourceFiles directory)) :=
    .bind (isQuestion_countSourceFiles _) fun _ => .pure _
  have hcompiler (manifest : Manifest) (project : Bool → Nat → Project) : IsQuestion (do
      let compiler ← detectCompiler directory manifest
      return project compiler (← countSourceFiles directory)) :=
    .bind (isQuestion_detectCompiler _ _) fun _ => hcount _
  have htypeScript (manifest : Manifest) (project : Bool → Bool → Nat → Project) : IsQuestion (do
      let typeScript ← Run.pathExists (directory / "tsconfig.json")
      let compiler ← detectCompiler directory manifest
      return project typeScript compiler (← countSourceFiles directory)) :=
    .bind (.pathExists _) fun _ => hcompiler _ _
  have hread (project : Manifest → ReactFacts → Bool → Bool → Nat → Project) : IsQuestion (do
      let manifest ← Manifest.readIn (manifestDirectory.getD directory)
      let facts ← ReactFacts.resolve (manifestDirectory.getD directory) manifest
      let typeScript ← Run.pathExists (directory / "tsconfig.json")
      let compiler ← detectCompiler directory manifest
      return project manifest facts typeScript compiler (← countSourceFiles directory)) :=
    .bind (Manifest.isQuestion_readIn _) fun _ =>
      .bind (ReactFacts.isQuestion_resolve _ _) fun _ => htypeScript _ _
  unfold discover
  dsimp only
  rw [(Manifest.isQuestion_isIn _).fst_bind fun _ => .ite (.bind (.throw _) fun _ => hread _)
    (hread _)]
  refine congrArg (Except.bind _) (funext fun isThere => ?_)
  cases isThere with
  | false => rfl
  | true =>
    rw [if_neg (by simp), if_pos rfl, (Manifest.isQuestion_readIn _).fst_bind fun _ =>
      .bind (ReactFacts.isQuestion_resolve _ _) fun _ => htypeScript _ _]
    refine congrArg (Except.bind _) (funext fun manifest => ?_)
    rw [(ReactFacts.isQuestion_resolve _ _).fst_bind fun _ => htypeScript _ _]
    refine congrArg (Except.bind _) (funext fun facts => ?_)
    rw [(IsQuestion.pathExists _).fst_bind fun _ => hcompiler _ _]
    refine congrArg (Except.bind _) (funext fun typeScript => ?_)
    rw [(isQuestion_detectCompiler _ _).fst_bind fun _ => hcount _]
    refine congrArg (Except.bind _) (funext fun compiler => ?_)
    rw [(isQuestion_countSourceFiles _).fst_bind fun _ => .pure _]
    rfl

/-- Discovery that returns has found a manifest, and the facts that are resolved for it. -/
theorem exists_facts_of_discover {directory : Path} {manifestDirectory : Option Path}
    {project : Project} {host : Host}
    (hproject : (discover directory manifestDirectory host).1 = .ok project) :
    ∃ manifest facts,
      (Manifest.isIn (manifestDirectory.getD directory) host).1 = .ok true ∧
      (Manifest.readIn (manifestDirectory.getD directory) host).1 = .ok manifest ∧
      (ReactFacts.resolve (manifestDirectory.getD directory) manifest host).1 = .ok facts ∧
      project.react = facts.version := by
  rw [fst_discover] at hproject
  obtain ⟨isThere, hthere, hproject⟩ := except_bind_eq_ok.1 hproject
  cases isThere with
  | false => cases hproject
  | true =>
    obtain ⟨manifest, hmanifest, hproject⟩ := except_bind_eq_ok.1 hproject
    obtain ⟨facts, hfacts, hproject⟩ := except_bind_eq_ok.1 hproject
    obtain ⟨typeScript, -, hproject⟩ := except_bind_eq_ok.1 hproject
    obtain ⟨compiler, -, hproject⟩ := except_bind_eq_ok.1 hproject
    obtain ⟨sourceFiles, -, hproject⟩ := except_bind_eq_ok.1 hproject
    cases hproject
    exact ⟨manifest, facts, hthere, hmanifest, hfacts, rfl⟩

/-- Discovery finds React exactly when it is declared for the manifest. -/
theorem react_iff {directory : Path} {manifestDirectory : Option Path} {project : Project}
    {host : Host} (hproject : (discover directory manifestDirectory host).1 = .ok project) :
    project.react.any (·.isTruthy) = true ↔
      DeclaresReact host (manifestDirectory.getD directory) := by
  obtain ⟨manifest, facts, -, hmanifest, hfacts, hreact⟩ := exists_facts_of_discover hproject
  rw [hreact]
  exact (ReactFacts.knows_resolve hmanifest facts hfacts).any_isTruthy

end Project

end Checkup
