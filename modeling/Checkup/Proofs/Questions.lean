import Checkup.Proofs.Run
import Checkup.Scan

/-!
# What is only asked

The questions of a check-up: the looks at files, the questions to git, the discovery of a project,
the search for Node and for the commands of the checks, and the settings. Each is a question
because its parts are, so the proofs follow the definitions one by one.
-/

namespace Checkup

namespace Run

variable {α β : Type}

namespace IsQuestion

theorem note (notice : Notice) : IsQuestion (note notice) := .record rfl

theorem noteAll (notices : List Notice) : IsQuestion (noteAll notices) := by
  induction notices with
  | nil => exact .pure _
  | cons notice rest ih => exact .bind (.note notice) fun _ => ih

theorem access {look : Host → Except AccessFault α} (p : Path)
    (hlook : ∀ {h h' : Host}, h.surface = h'.surface → look h = look h') :
    IsQuestion (access p look) := by
  refine .get_bind (fun host => ?_) fun hsurface => by rw [hlook hsurface]
  cases look host with
  | ok found => exact .pure found
  | error fault => exact .throw _

theorem node? (p : Path) : IsQuestion (node? p) := by
  refine .get_bind (fun host => ?_) fun hsurface => by rw [Host.node_eq_of_surface_eq hsurface]
  split
  · exact .pure _
  · exact .throw _
  · exact .pure _

theorem isFile (p : Path) : IsQuestion (isFile p) := .bind (.node? p) fun _ => .pure _

theorem isDirectory (p : Path) : IsQuestion (isDirectory p) := .bind (.node? p) fun _ => .pure _

theorem pathExists (p : Path) : IsQuestion (pathExists p) := .bind (.node? p) fun _ => .pure _

theorem content (p : Path) : IsQuestion (content p) :=
  .access p fun hsurface => Host.content_eq_of_surface_eq hsurface p

theorem readText (p : Path) : IsQuestion (readText p) := by
  refine .bind (.content p) fun found => ?_
  cases found.text? with
  | some text => exact .pure text
  | none => exact .throw _

theorem readLossy (p : Path) : IsQuestion (readLossy p) := .bind (.content p) fun _ => .pure _

theorem listNames (p : Path) : IsQuestion (listNames p) := by
  refine .bind (.access p fun hsurface => Host.node_eq_of_surface_eq hsurface p) fun found => ?_
  cases found with
  | directory entries => exact .pure _
  | file content => exact .throw _

theorem resolve (p : Path) : IsQuestion (resolve p) := by
  refine .ite (.bind (.throw _) fun _ => ?_) ?_ <;>
    exact .get_bind (fun _ => .pure _) fun hsurface => by
      rw [Host.workingDirectory_eq_of_surface_eq hsurface]

theorem git {arguments : List String} (directory : Path)
    (hsearch : arguments.head? ≠ some "grep") : IsQuestion (git directory arguments) := by
  refine .get_bind (fun host => .bind (.record ?_) fun _ => ?_)
    fun hsurface => by simp only [Host.gitSays_eq_of_surface_eq hsurface]
  · simpa [Event.isInquiry, Event.isSearch] using hsearch
  · cases host.gitSays directory arguments with
    | ok answer => exact .pure answer
    | error fault => exact .throw fault

theorem filterM {test : α → Run Bool} (htest : ∀ a, IsQuestion (test a)) (items : List α) :
    IsQuestion (items.filterM test) := by
  refine .bind ?_ fun _ => .pure _
  generalize ([] : List α) = kept
  induction items generalizing kept with
  | nil => exact .pure kept
  | cons item rest ih => exact .bind (htest item) fun _ => ih _

end IsQuestion

end Run

open Run (IsQuestion)

/-! ### Manifests and workspaces -/

namespace Manifest

theorem isQuestion_read (file : Path) : IsQuestion (read file) := by
  refine .bind (.attempt (.readText file)) fun result => ?_
  split
  · exact .throw _
  · exact .bind (.note _) fun _ => .pure _
  · split
    · exact .pure _
    · exact .bind (.note _) fun _ => .pure _
    · exact .throw _

theorem isQuestion_isIn (directory : Path) : IsQuestion (isIn directory) := .isFile _

theorem isQuestion_readIn (directory : Path) : IsQuestion (readIn directory) := isQuestion_read _

end Manifest

namespace Workspace

theorem isQuestion_isRoot (directory : Path) : IsQuestion (isRoot directory) := by
  refine .bind (.isFile _) fun _ => .ite (.pure _) ?_
  refine .bind (.isFile _) fun _ => .ite (.pure _) ?_
  exact .bind (Manifest.isQuestion_isIn _) fun _ =>
    .ite (.bind (Manifest.isQuestion_readIn _) fun _ => .pure _) (.pure _)

theorem isQuestion_firstRoot? (directories : List Path) : IsQuestion (firstRoot? directories) := by
  induction directories with
  | nil => exact .pure _
  | cons directory rest ih =>
    exact .bind (isQuestion_isRoot directory) fun _ => .ite (.pure _) ih

theorem isQuestion_patterns (root : Path) (manifest : Manifest) :
    IsQuestion (patterns root manifest) := by
  refine .bind (.bind (.isFile _) fun _ => .ite ?_ (.pure _)) fun _ => .pure _
  exact .bind (.readLossy _) fun _ => .pure _

theorem isQuestion_isPackage (directory : Path) : IsQuestion (isPackage directory) :=
  .bind (.isDirectory _) fun _ => .ite (Manifest.isQuestion_isIn _) (.pure _)

theorem isQuestion_directories (root : Path) (pattern : String) :
    IsQuestion (directories root pattern) := by
  unfold directories
  cases Pattern.ofText pattern with
  | literal path => exact .filterM isQuestion_isPackage _
  | wildcard base suffix =>
    refine .bind (.isDirectory _) fun _ => .ite ?_ (.pure _)
    exact .bind (.listNames _) fun _ => .filterM isQuestion_isPackage _

end Workspace

/-! ### The discovery of a project -/

namespace ReactFacts

theorem isQuestion_ofPackages (facts : ReactFacts) (directories : List Path) :
    IsQuestion (ofPackages facts directories) := by
  induction directories generalizing facts with
  | nil => exact .pure _
  | cons directory rest ih =>
    exact .bind (Manifest.isQuestion_readIn directory) fun _ => .ite (.pure _) (ih _)

theorem isQuestion_ofPatterns (root : Path) (facts : ReactFacts) (patterns : List String) :
    IsQuestion (ofPatterns root facts patterns) := by
  induction patterns generalizing facts with
  | nil => exact .pure _
  | cons pattern rest ih =>
    refine .bind (Workspace.isQuestion_directories root pattern) fun _ => ?_
    exact .bind (isQuestion_ofPackages _ _) fun _ => .ite (.pure _) (ih _)

theorem isQuestion_ofOwn (directory : Path) (manifest : Manifest) :
    IsQuestion (ofOwn directory manifest) := by
  refine .ite (.pure _) (.bind ?_ fun _ => .pure _)
  exact .bind (Workspace.isQuestion_patterns _ _) fun _ => isQuestion_ofPatterns _ _ _

theorem isQuestion_ofEnclosingRoot (directory : Path) :
    IsQuestion (ofEnclosingRoot directory) := by
  refine .bind (Workspace.isQuestion_firstRoot? _) fun root => ?_
  cases root with
  | none => exact .pure _
  | some root =>
    refine .bind (Manifest.isQuestion_isIn root) fun _ => .ite ?_ (.pure _)
    exact .bind (Manifest.isQuestion_readIn root) fun _ => isQuestion_ofOwn _ _

theorem isQuestion_resolve (directory : Path) (manifest : Manifest) :
    IsQuestion (resolve directory manifest) := by
  refine .bind (isQuestion_ofOwn _ _) fun _ => .ite (.pure _) ?_
  refine .bind (Workspace.isQuestion_isRoot _) fun _ => .ite (.pure _) ?_
  exact .bind (isQuestion_ofEnclosingRoot _) fun _ => .pure _

end ReactFacts

/-! ### Git -/

namespace Git

theorem isQuestion_output? {arguments : List String} (directory : Path)
    (hsearch : arguments.head? ≠ some "grep") : IsQuestion (output? directory arguments) :=
  .bind (.git directory hsearch) fun _ => .pure _

theorem isQuestion_lines? {arguments : List String} (directory : Path)
    (hsearch : arguments.head? ≠ some "grep") : IsQuestion (lines? directory arguments) :=
  .bind (isQuestion_output? directory hsearch) fun _ => .pure _

theorem isQuestion_files? (directory : Path) : IsQuestion (files? directory) :=
  isQuestion_lines? directory (by decide)

theorem isQuestion_branchExists (directory : Path) (branch : String) :
    IsQuestion (branchExists directory branch) :=
  .bind (isQuestion_output? directory (by simp)) fun _ => .pure _

theorem isQuestion_isRepository (directory : Path) : IsQuestion (isRepository directory) :=
  .bind (isQuestion_output? directory (by simp)) fun _ => .pure _

theorem isQuestion_currentBranch? (directory : Path) : IsQuestion (currentBranch? directory) :=
  .bind (isQuestion_output? directory (by simp)) fun _ => .pure _

theorem isQuestion_firstBranch? (directory : Path) (branches : List String) :
    IsQuestion (firstBranch? directory branches) := by
  induction branches with
  | nil => exact .pure _
  | cons branch rest ih =>
    exact .bind (isQuestion_branchExists directory branch) fun _ => .ite (.pure _) ih

theorem isQuestion_trackedChanges (directory : Path) : IsQuestion (trackedChanges directory) := by
  refine .bind (isQuestion_lines? directory (by simp [changed])) fun found => ?_
  cases found with
  | some found => exact .pure _
  | none => exact .bind (isQuestion_lines? directory (by simp [changed])) fun _ => .pure _

theorem isQuestion_uncommitted (directory : Path) : IsQuestion (uncommitted directory) :=
  .bind (isQuestion_trackedChanges directory) fun _ =>
    .bind (isQuestion_lines? directory (by simp)) fun _ => .pure _

theorem isQuestion_changedSince? (directory : Path) (base : String) :
    IsQuestion (changedSince? directory base) := by
  refine .bind (isQuestion_output? directory (by simp)) fun output => ?_
  cases output with
  | some output => exact isQuestion_lines? directory (by simp [changed])
  | none => exact .pure _

theorem isQuestion_changesSince? (directory : Path) (current : Option String) (base : String) :
    IsQuestion (changesSince? directory current base) :=
  .ite (.pure _) (.bind (isQuestion_changedSince? directory base) fun _ => .pure _)

theorem isQuestion_base? (directory : Path) (requested : Option String) :
    IsQuestion (base? directory requested) := by
  cases requested with
  | none => exact isQuestion_firstBranch? directory _
  | some branch =>
    exact .bind (isQuestion_branchExists directory branch) fun _ =>
      .ite (.pure _) (.bind (.note _) fun _ => .pure _)

theorem isQuestion_changes? (directory : Path) (requested : Option String) :
    IsQuestion (changes? directory requested) := by
  refine .bind (isQuestion_isRepository directory) fun _ => .ite (.pure _) ?_
  refine .bind (isQuestion_currentBranch? directory) fun current => ?_
  refine .bind (isQuestion_uncommitted directory) fun _ => .ite (.pure _) ?_
  refine .bind (isQuestion_base? directory _) fun base => ?_
  cases base with
  | none => exact .pure _
  | some base => exact isQuestion_changesSince? directory current base

end Git

namespace Project

theorem isQuestion_countInTree (directory : Path) : IsQuestion (countInTree directory) := by
  refine .get_bind (fun host => ?_) fun hsurface => by rw [Host.node_eq_of_surface_eq hsurface]
  split
  · exact .pure _
  · exact .throw _
  · exact .pure _

theorem isQuestion_countSourceFiles (directory : Path) :
    IsQuestion (countSourceFiles directory) := by
  refine .bind (Git.isQuestion_files? directory) fun files => ?_
  cases files with
  | some files => exact .pure _
  | none => exact isQuestion_countInTree directory

theorem isQuestion_anyMentionsCompiler (files : List Path) :
    IsQuestion (anyMentionsCompiler files) := by
  induction files with
  | nil => exact .pure _
  | cons file rest ih =>
    refine .bind (.isFile file) fun _ => .ite ?_ ih
    exact .bind (.readLossy file) fun _ => .ite (.pure _) ih

theorem isQuestion_anyDependsOnCompiler (directories : List Path) :
    IsQuestion (anyDependsOnCompiler directories) := by
  induction directories with
  | nil => exact .pure _
  | cons directory rest ih =>
    refine .bind (Manifest.isQuestion_isIn directory) fun _ => .ite ?_ ih
    exact .bind (Manifest.isQuestion_readIn directory) fun _ => .ite (.pure _) ih

theorem isQuestion_detectCompiler (directory : Path) (manifest : Manifest) :
    IsQuestion (detectCompiler directory manifest) := by
  refine .ite (.pure _) (.bind (isQuestion_anyMentionsCompiler _) fun _ => .ite (.pure _) ?_)
  exact isQuestion_anyDependsOnCompiler _

theorem isQuestion_discover (directory : Path) (manifestDirectory : Option Path) :
    IsQuestion (discover directory manifestDirectory) := by
  refine .bind (Manifest.isQuestion_isIn _) fun _ => .ite (.bind (.throw _) fun _ => ?_) ?_ <;>
  · refine .bind (Manifest.isQuestion_readIn _) fun _ => ?_
    refine .bind (ReactFacts.isQuestion_resolve _ _) fun _ => .bind (.pathExists _) fun _ => ?_
    refine .bind (isQuestion_detectCompiler _ _) fun _ => ?_
    exact .bind (isQuestion_countSourceFiles _) fun _ => .pure _

end Project

namespace Package

theorem isQuestion_reactAmong (directories : List Path) : IsQuestion (reactAmong directories) := by
  induction directories with
  | nil => exact .pure _
  | cons directory rest ih =>
    exact .bind (Manifest.isQuestion_readIn _) fun _ => .bind ih fun _ => .ite (.pure _) (.pure _)

theorem isQuestion_reactInPatterns (root : Path) (patterns : List String) :
    IsQuestion (reactInPatterns root patterns) := by
  induction patterns with
  | nil => exact .pure _
  | cons pattern rest ih =>
    refine .bind (Workspace.isQuestion_directories _ _) fun _ => ?_
    exact .bind (isQuestion_reactAmong _) fun _ => .bind ih fun _ => .pure _

theorem isQuestion_inWorkspaces (root : Path) (manifestDirectory : Option Path) :
    IsQuestion (inWorkspaces root manifestDirectory) := by
  refine .bind (Manifest.isQuestion_isIn _) fun _ => .ite (.pure _) ?_
  refine .bind (Manifest.isQuestion_readIn _) fun _ => ?_
  exact .bind (Workspace.isQuestion_patterns _ _) fun _ => isQuestion_reactInPatterns _ _

theorem isQuestion_reactIn? (directory : Path) : IsQuestion (reactIn? directory) := by
  refine .bind (Manifest.isQuestion_isIn _) fun _ => .ite ?_ (.pure _)
  exact .bind (Manifest.isQuestion_readIn _) fun _ => .ite (.pure _) (.pure _)

theorem isQuestion_reactInEntries (directory : Path) (names : List String) :
    IsQuestion (reactInEntries directory names) := by
  induction names with
  | nil => exact .pure _
  | cons name rest ih =>
    refine .bind (.isDirectory _) fun _ => .ite ih ?_
    exact .bind (isQuestion_reactIn? _) fun _ => .bind ih fun _ => .pure _

theorem isQuestion_inSubdirectories (root : Path) (manifestDirectory : Option Path) :
    IsQuestion (inSubdirectories root manifestDirectory) := by
  refine .bind (.isDirectory _) fun _ => .ite (.pure _) ?_
  refine .bind (isQuestion_reactIn? _) fun _ => .bind (.listNames _) fun _ => ?_
  exact .bind (isQuestion_reactInEntries _ _) fun _ => .pure _

end Package

/-! ### Node and the commands of the checks -/

namespace NodeProgram

theorem isQuestion_reportedVersion? (binary : String) :
    IsQuestion (reportedVersion? binary) := by
  refine .get_bind (fun host => ?_) fun hsurface => by
    rw [Host.nodeSays_eq_of_surface_eq hsurface]
  cases host.nodeSays binary with
  | ok answer => exact .pure _
  | error fault => exact .throw fault

theorem isQuestion_homeDirectory : IsQuestion homeDirectory := by
  refine .get_bind (fun host => ?_) fun hsurface => by
    rw [Host.environment_eq_of_surface_eq hsurface, Host.accountHome_eq_of_surface_eq hsurface]
  exact .ite (.bind (.throw _) fun _ => .pure _) (.pure _)

theorem isQuestion_directory? (p : Path) : IsQuestion (directory? p) :=
  .bind (.isDirectory p) fun _ => .pure _

theorem isQuestion_nvmDirectory? (environment : Variables) :
    IsQuestion (nvmDirectory? environment) := by
  unfold nvmDirectory?
  dsimp only
  suffices hrest : ∀ configured, IsQuestion _ by
    cases environment.given? "NVM_DIR" with
    | some written => exact .bind (isQuestion_directory? _) hrest
    | none => exact .bind (.pure _) hrest
  intro configured
  cases configured with
  | some found => exact .pure _
  | none => exact .bind isQuestion_homeDirectory fun _ => isQuestion_directory? _

theorem isQuestion_installedNames (nvm : Path) : IsQuestion (installedNames nvm) :=
  .bind (.access _ fun hsurface => Host.node_eq_of_surface_eq hsurface _) fun _ => .pure _

theorem isQuestion_nvmBinary? (nvm : Option Path) : IsQuestion (nvmBinary? nvm) := by
  cases nvm with
  | none => exact .pure _
  | some directory =>
    refine .bind (.isDirectory _) fun _ => .ite ?_ (.pure _)
    refine .bind (isQuestion_installedNames directory) fun names => ?_
    cases newestSuitable? names with
    | none => exact .pure _
    | some name => exact .bind (.pathExists _) fun _ => .ite (.pure _) (.pure _)

theorem isQuestion_configured? (binary : String) : IsQuestion (configured? binary) := by
  refine .bind (isQuestion_reportedVersion? binary) fun version => ?_
  cases version with
  | some version => exact .pure _
  | none => exact .bind (.note _) fun _ => .pure _

theorem isQuestion_onSearchPath? : IsQuestion onSearchPath? := by
  refine .get_bind (fun host => ?_) fun hsurface => by
    rw [Host.program_eq_of_surface_eq hsurface]
  cases (host.surroundings.program "node" none).filter (· != "") with
  | none => exact .pure _
  | some binary =>
    refine .bind (isQuestion_reportedVersion? binary) fun version => ?_
    cases version with
    | some version => exact .ite (.pure _) (.pure _)
    | none => exact .pure _

theorem isQuestion_underNvm? : IsQuestion underNvm? := by
  refine .get_bind (fun host => ?_) fun hsurface => by
    rw [Host.environment_eq_of_surface_eq hsurface]
  refine .bind (isQuestion_nvmDirectory? _) fun nvm => ?_
  refine .bind (isQuestion_nvmBinary? nvm) fun binary => ?_
  cases binary with
  | none => exact .pure _
  | some binary => exact .bind (isQuestion_reportedVersion? binary) fun _ => .pure _

theorem isQuestion_resolve (configured : Option String) : IsQuestion (resolve configured) := by
  unfold resolve
  cases configured.filter (· != "") with
  | some binary => exact isQuestion_configured? binary
  | none =>
    refine .bind isQuestion_onSearchPath? fun found => ?_
    cases found with
    | some found => exact .pure _
    | none => exact isQuestion_underNvm?

end NodeProgram

namespace Lint

namespace Command

theorem isQuestion_program? (name : String) (path : Option String) :
    IsQuestion (program? name path) :=
  .get_bind (fun _ => .pure _) fun hsurface => by rw [Host.program_eq_of_surface_eq hsurface]

theorem isQuestion_throughSearchPath (node : NodeProgram) :
    IsQuestion (throughSearchPath node) := by
  refine .bind (isQuestion_program? _ _) fun binary => ?_
  cases binary with
  | some binary => exact .pure _
  | none =>
    refine .bind (isQuestion_program? _ _) fun runner => ?_
    exact .get_bind (fun _ => .pure _) fun hsurface => by
      rw [Host.program_eq_of_surface_eq hsurface]

theorem isQuestion_resolve (root : Path) (binary node : Option String) :
    IsQuestion (resolve root binary node) := by
  unfold resolve
  cases binary.filter (· != "") with
  | some given => exact .pure _
  | none =>
    refine .bind (NodeProgram.isQuestion_resolve node) fun found => ?_
    refine .bind (.isFile _) fun _ => .ite (.pure _) ?_
    cases found with
    | none => exact .pure _
    | some program => exact isQuestion_throughSearchPath program

end Command

theorem isQuestion_resolveCommand (fixed : Option (List String)) (context : CheckContext) :
    IsQuestion (resolveCommand fixed context) := by
  cases fixed with
  | some words => exact .pure _
  | none =>
    refine .bind (Command.isQuestion_resolve _ _ _) fun command => ?_
    cases command with
    | some command => exact .pure _
    | none => exact .throw _

end Lint

namespace DeadCode

theorem isQuestion_resolveCommand (root : Path) (binary : Option String) :
    IsQuestion (resolveCommand root binary) := by
  unfold resolveCommand
  cases binary.filter (· != "") with
  | some given => exact .pure _
  | none =>
    refine .bind (.isFile _) fun _ => .ite (.pure _) ?_
    exact .get_bind (fun _ => .pure _) fun hsurface => by
      rw [Host.program_eq_of_surface_eq hsurface]

theorem isQuestion_commandFor (fixed : Option (List String)) (context : CheckContext) :
    IsQuestion (commandFor fixed context) := by
  cases fixed with
  | some words => exact .pure _
  | none => exact isQuestion_resolveCommand _ _

end DeadCode

/-! ### Settings -/

namespace Settings

theorem isQuestion_valueIn (file : Path) : IsQuestion (valueIn file) := by
  refine .bind (.attempt (.readText file)) fun result => ?_
  split
  · exact .pure _
  · exact .throw _
  · split
    · exact .pure _
    · exact .pure _
    · exact .throw _

theorem isQuestion_ofFile (file : Path) : IsQuestion (ofFile file) := by
  refine .bind (isQuestion_valueIn file) fun value => ?_
  split
  · split
    · exact .pure _
    · exact .bind (.note _) fun _ => .pure _
  · exact .bind (.note _) fun _ => .pure _
  · exact .bind (.note _) fun _ => .pure _

theorem isQuestion_ofManifestFile (file : Path) : IsQuestion (ofManifestFile file) := by
  refine .bind (isQuestion_valueIn file) fun value => ?_
  split
  · split
    · split
      · exact .pure _
      · exact .bind (.note _) fun _ => .pure _
    · exact .pure _
  · exact .bind (.note _) fun _ => .pure _

theorem isQuestion_load (root : Path) : IsQuestion (load root) := by
  refine .bind (.isFile _) fun _ => .ite (.bind (isQuestion_ofFile _) fun settings => ?_) ?_
  · cases settings with
    | some settings => exact .pure _
    | none =>
      exact .bind (Manifest.isQuestion_isIn root) fun _ =>
        .ite (isQuestion_ofManifestFile _) (.pure _)
  · exact .bind (Manifest.isQuestion_isIn root) fun _ =>
      .ite (isQuestion_ofManifestFile _) (.pure _)

end Settings

theorem SettingsSource.isQuestion_settings (source : SettingsSource) (directory : Path) :
    IsQuestion (source.settings directory) := by
  cases source with
  | given settings => exact .pure _
  | disk => exact Settings.isQuestion_load directory

namespace RuntimeSettings

theorem isQuestion_ofHost : IsQuestion ofHost := by
  refine .get_bind (fun host => ?_) fun hsurface => by
    rw [Host.environment_eq_of_surface_eq hsurface]
  cases ofVariables host.environment with
  | ok settings => exact .pure _
  | error fault => exact .throw _

theorem isQuestion_given (runtime : Option RuntimeSettings) : IsQuestion (given runtime) := by
  cases runtime with
  | some runtime => exact .pure _
  | none => exact isQuestion_ofHost

end RuntimeSettings

namespace Prospect

theorem isQuestion_find (directory : Path) (options : ScanOptions) (settings : Option Settings)
    (runtime : RuntimeSettings) : IsQuestion (find directory options settings runtime) :=
  .bind (Project.isQuestion_discover _ _) fun _ => .ite (.pure _) (.throw _)

theorem isQuestion_ofScan (directory : Path) (options : ScanOptions)
    (runtime : Option RuntimeSettings) (source : SettingsSource) :
    IsQuestion (ofScan directory options runtime source) := by
  refine .bind (RuntimeSettings.isQuestion_given runtime) fun _ => .bind (.resolve _) fun _ => ?_
  exact .bind (source.isQuestion_settings _) fun _ => isQuestion_find _ _ _ _

end Prospect

end Checkup
