import Checkup.Proofs.Installations
import Checkup.Proofs.Isolation
import Checkup.Proofs.Spawns

/-!
# The Node that the linter runs on

A Node is chosen for the linter in one of three ways (`NodeProgram.IsChosen`), and the linter is
launched through it in one of three ways (`Lint.Command.LaunchesThrough`). Only of a Node on the
search path is the version that it reports compared with what the linter asks for: a configured one
only has to run, and under nvm the name of a directory stands for the version. So every launch is
one through a suitable Node exactly when the Nodes of the latter two kinds are suitable
(`Lint.Command.resolve_settles`).
-/

namespace Checkup

open Run (IsQuestion)

def Host.Reports (host : Host) (binary version : String) : Prop :=
  '\x00' ∉ binary.toList ∧ ∃ output, host.surroundings.nodeVersion binary = .finished 0 output ∧
    Text.strip output = version ∧ version ≠ ""

/-- The Node can be asked for its version, and what it answers is a text. -/
def Host.Answers (host : Host) (binary : String) : Prop :=
  '\x00' ∉ binary.toList ∧ host.surroundings.nodeVersion binary ≠ .undecodable

/-- The program of a name on a search path, the host's own where none is given, unless it is empty. -/
def Host.program? (host : Host) (name : String) (path : Option String) : Option String :=
  (host.surroundings.program name path).filter (· != "")

namespace NodeProgram

variable {host : Host} {configured : Option String} {node : NodeProgram}

/-! ### Nodes that can be chosen -/

/-- The Node that a search by name finds is suitable. -/
inductive IsOnSearchPath (host : Host) : NodeProgram → Prop
  | intro {binary version : String} (hprogram : host.program? "node" none = some binary)
      (hreports : host.Reports binary version)
      (hrange : (NodeVersion.ofText version).InRange) : IsOnSearchPath host ⟨binary, version, true⟩

/-- The Node of the foremost version under nvm that is called suitable is there and runs. -/
inductive IsUnderNvm (host : Host) : NodeProgram → Prop
  | intro {nvm : Path} {name version : String}
      (hnvm : (nvmDirectory? host.environment host).1 = .ok (some nvm))
      (hforemost : IsForemost (suitableNames nvm host) name) (husable : IsUsable nvm host name)
      (hreports : host.Reports (binaryOf nvm name).text version) :
      IsUnderNvm host ⟨(binaryOf nvm name).text, version, false⟩

/-- The Node is chosen for the linter: the configured one, else the one on the search path, else,
unless what is found there gives no answer, the one under nvm. -/
inductive IsChosen (configured : Option String) (host : Host) : NodeProgram → Prop
  | configured {binary version : String} (hgiven : configured.filter (· != "") = some binary)
      (hreports : host.Reports binary version) : IsChosen configured host ⟨binary, version, false⟩
  | onSearchPath {node : NodeProgram} (hfree : configured.filter (· != "") = none)
      (hnode : IsOnSearchPath host node) : IsChosen configured host node
  | underNvm {node : NodeProgram} (hfree : configured.filter (· != "") = none)
      (hnone : ∀ other, ¬ IsOnSearchPath host other)
      (hanswers : ∀ binary, host.program? "node" none = some binary → host.Answers binary)
      (hnode : IsUnderNvm host node) : IsChosen configured host node

/-- The Node may be asked for its version on the way. -/
inductive IsAsked (configured : Option String) (host : Host) : String → Prop
  | configured {binary : String} (hgiven : configured.filter (· != "") = some binary) :
      IsAsked configured host binary
  | onSearchPath {binary : String} (hfree : configured.filter (· != "") = none)
      (hprogram : host.program? "node" none = some binary) : IsAsked configured host binary
  | underNvm {nvm : Path} {name : String} (hfree : configured.filter (· != "") = none)
      (hnvm : (nvmDirectory? host.environment host).1 = .ok (some nvm))
      (hforemost : IsForemost (suitableNames nvm host) name) (husable : IsUsable nvm host name) :
      IsAsked configured host (binaryOf nvm name).text

/-- What can come in the way of finding the linter's Node: a path that is too long, a home directory
that nobody can tell, or a Node that cannot be asked for its version or answers with no text. -/
inductive Hinders (configured : Option String) (host : Host) : Fault → Prop
  | path {p : Path} (hnode : host.node p = .error .nameTooLong) :
      Hinders configured host (AccessFault.nameTooLong.toFault p)
  | home {rest : List Char}
      (hhome : (((host.environment.value? "HOME").or host.surroundings.accountHome).getD
        "~").toList = '~' :: rest) :
      Hinders configured host (.broken "Could not determine home directory.")
  | nul {binary : String} (hasked : IsAsked configured host binary)
      (hnul : '\x00' ∈ binary.toList) : Hinders configured host .embeddedNul
  | undecodable {binary : String} (hasked : IsAsked configured host binary)
      (hanswer : host.surroundings.nodeVersion binary = .undecodable) :
      Hinders configured host .undecodable

end NodeProgram

/-! ### What is chosen -/

/-- The version that a Node says, if it runs and says one. -/
def Host.reported? (host : Host) (binary : String) : Except Fault (Option String) :=
  (host.nodeSays binary).map fun answer => (answer.output?.map Text.strip).filter (· != "")

theorem Host.answers_iff {host : Host} {binary : String} :
    host.Answers binary ↔ (host.nodeSays binary).isOk = true := by
  rw [nodeSays, Answer.isOk_received, Answers]
  simp

theorem Host.reported?_eq_some_iff {host : Host} {binary version : String} :
    host.reported? binary = .ok (some version) ↔ host.Reports binary version := by
  unfold reported? Reports
  constructor
  · intro hreported
    obtain ⟨answer, hanswer, hversion⟩ := except_map_eq_ok.1 hreported
    obtain ⟨hplain, -⟩ := answers_iff.2 (show (host.nodeSays binary).isOk = true by
      rw [hanswer]
      rfl)
    obtain ⟨hstripped, hsome⟩ := Option.filter_eq_some_iff.1 hversion
    obtain ⟨output, houtput, hstrip⟩ := Option.map_eq_some_iff.1 hstripped
    refine ⟨hplain, output, ?_, hstrip, bne_iff_ne.1 hsome⟩
    rw [Answer.eq_of_received hanswer]
    exact Answer.output?_eq_some_iff.1 houtput
  · rintro ⟨hplain, output, hfinished, hstrip, hsome⟩
    have hanswers : host.Answers binary := ⟨hplain, hfinished ▸ nofun⟩
    obtain ⟨answer, hanswer⟩ := exists_eq_ok_of_isOk (answers_iff.1 hanswers)
    obtain rfl : Answer.finished 0 output = answer :=
      hfinished.symm.trans (Answer.eq_of_received hanswer)
    refine except_map_eq_ok.2 ⟨_, hanswer, ?_⟩
    rw [Answer.output?, Option.map_some, hstrip]
    exact Option.filter_eq_some_iff.2 ⟨rfl, bne_iff_ne.2 hsome⟩

namespace NodeProgram

variable {host : Host} {configured : Option String} {node : NodeProgram}

theorem reportedVersion?_apply (binary : String) (host : Host) :
    reportedVersion? binary host = (host.reported? binary, host) := by
  unfold reportedVersion? Host.reported?
  rw [Run.get_bind]
  cases host.nodeSays binary <;> rfl

/-- Where no version can be had, the Node that is asked hinders the search. -/
theorem hinders_of_reported? {binary : String} {fault : Fault}
    (hasked : IsAsked configured host binary) (hfault : host.reported? binary = .error fault) :
    Hinders configured host fault := by
  rcases Answer.received_eq_error (except_map_eq_error.1 hfault) with ⟨hnul, rfl⟩ | ⟨hanswer, rfl⟩
  · exact .nul hasked (by simpa using hnul)
  · exact .undecodable hasked hanswer

theorem fst_configured? (binary : String) (host : Host) : (configured? binary host).1 =
    (host.reported? binary).map (·.map fun version => ⟨binary, version, false⟩) := by
  unfold configured?
  rw [Run.bind_apply, reportedVersion?_apply binary host]
  rcases host.reported? binary with fault | _ | version <;> rfl

/-- The Node that a search by name finds, if it is a suitable one. -/
theorem onSearchPath?_apply (host : Host) : onSearchPath? host =
    (match host.program? "node" none with
      | none => .ok none
      | some binary => (host.reported? binary).map fun version =>
        (version.filter fun version => (NodeVersion.ofText version).isSuitable).map
          fun version => ⟨binary, version, true⟩, host) := by
  unfold onSearchPath? Host.program?
  rw [Run.get_bind]
  cases (host.surroundings.program "node" none).filter (· != "") with
  | none => rfl
  | some binary =>
    dsimp only
    rw [Run.bind_apply, reportedVersion?_apply binary host]
    rcases host.reported? binary with fault | _ | version
    · rfl
    · rfl
    · dsimp only [Except.map]
      cases hsuitable : (NodeVersion.ofText version).isSuitable <;>
        simp [hsuitable, Run.pure_apply, Option.filter]

theorem onSearchPath?_eq_some_iff :
    (onSearchPath? host).1 = .ok (some node) ↔ IsOnSearchPath host node := by
  rw [onSearchPath?_apply]
  constructor
  · intro hfound
    cases hprogram : host.program? "node" none with
    | none =>
      rw [hprogram] at hfound
      cases hfound
    | some binary =>
      rw [hprogram] at hfound
      obtain ⟨reported, hreported, hnode⟩ := except_map_eq_ok.1 hfound
      obtain ⟨version, hversion, rfl⟩ := Option.map_eq_some_iff.1 hnode
      obtain ⟨rfl, hsuitable⟩ := Option.filter_eq_some_iff.1 hversion
      exact .intro hprogram (Host.reported?_eq_some_iff.1 hreported)
        (NodeVersion.isSuitable_iff.1 hsuitable)
  · rintro ⟨hprogram, hreports, hrange⟩
    rw [hprogram]
    refine except_map_eq_ok.2 ⟨_, Host.reported?_eq_some_iff.2 hreports, ?_⟩
    exact Option.map_eq_some_iff.2 ⟨_, Option.filter_eq_some_iff.2
      ⟨rfl, NodeVersion.isSuitable_iff.2 hrange⟩, rfl⟩

/-- The search by name is answered when the Node that it finds is. -/
theorem onSearchPath?_eq_error {fault : Fault} (hfault : (onSearchPath? host).1 = .error fault) :
    ∃ binary, host.program? "node" none = some binary ∧ host.reported? binary = .error fault := by
  rw [onSearchPath?_apply] at hfault
  cases hprogram : host.program? "node" none with
  | none =>
    rw [hprogram] at hfault
    cases hfault
  | some binary =>
    rw [hprogram] at hfault
    exact ⟨binary, rfl, except_map_eq_error.1 hfault⟩

theorem exists_onSearchPath?_eq_ok_iff : (∃ found, (onSearchPath? host).1 = .ok found) ↔
    ∀ binary, host.program? "node" none = some binary → host.Answers binary := by
  rw [onSearchPath?_apply]
  cases hprogram : host.program? "node" none with
  | none => exact ⟨fun _ => nofun, fun _ => ⟨none, rfl⟩⟩
  | some binary =>
    have hreported : (∃ found, host.reported? binary = .ok found) ↔ host.Answers binary := by
      rw [Host.answers_iff, Host.reported?, exists_except_map_eq_ok]
      exact ⟨fun ⟨answer, hanswer⟩ => by rw [hanswer]; rfl, exists_eq_ok_of_isOk⟩
    dsimp only
    rw [exists_except_map_eq_ok, hreported]
    simp

/-! ### Under nvm -/

theorem nvmBinary?_eq_some_iff {nvm : Path} {binary : String} :
    (nvmBinary? (some nvm) host).1 = .ok (some binary) ↔
      ∃ name, IsForemost (suitableNames nvm host) name ∧ IsUsable nvm host name ∧
        binary = (binaryOf nvm name).text := by
  constructor
  · intro hfound
    obtain ⟨-, hnone⟩ | ⟨name, hforemost, ⟨husable, hsome⟩ | ⟨-, hnone⟩⟩ :=
      nvmBinary?_eq_ok_cases hfound
    · cases hnone
    · exact ⟨name, hforemost, husable, Option.some.inj hsome⟩
    · cases hnone
  · rintro ⟨name, hforemost, husable, rfl⟩
    obtain ⟨found, hfound⟩ := husable.binary
    have hversions : ∃ there, host.seen (versionsDirectory nvm) = .ok (some there) := by
      have hlisted := husable.listed
      unfold versionNames at hlisted
      cases hnode : host.node (versionsDirectory nvm) with
      | ok there => exact ⟨there, Host.seen_eq_some_iff.2 hnode⟩
      | error fault =>
        rw [hnode] at hlisted
        cases hlisted
    obtain ⟨there, hthere⟩ := hversions
    rw [nvmBinary?_apply, hthere, newestSuitable?_eq_some_iff.2 hforemost]
    dsimp only
    rw [Host.seen_eq_some_iff.2 hfound]
    rfl

theorem isQuestion_versioned (found : Option String) : IsQuestion (match found with
    | none => pure none
    | some binary => do
      return (← reportedVersion? binary).map fun version =>
        (⟨binary, version, false⟩ : NodeProgram)) := by
  cases found with
  | none => exact .pure _
  | some binary => exact .bind (isQuestion_reportedVersion? binary) fun _ => .pure _

theorem fst_underNvm? (host : Host) : (underNvm? host).1 = (do
    let nvm ← (nvmDirectory? host.environment host).1
    let found ← (nvmBinary? nvm host).1
    match found with
    | none => .ok none
    | some binary =>
      (host.reported? binary).map (·.map fun version => ⟨binary, version, false⟩)) := by
  unfold underNvm?
  rw [Run.get_bind]
  refine ((isQuestion_nvmDirectory? _).fst_bind
    (fun nvm => .bind (isQuestion_nvmBinary? nvm) isQuestion_versioned) host).trans ?_
  refine congrArg (Except.bind _) (funext fun nvm => ?_)
  refine ((isQuestion_nvmBinary? nvm).fst_bind isQuestion_versioned host).trans ?_
  refine congrArg (Except.bind _) (funext fun found => ?_)
  cases found with
  | none => rfl
  | some binary =>
    dsimp only
    rw [Run.bind_pure_apply, reportedVersion?_apply]

theorem underNvm?_eq_some_iff : (underNvm? host).1 = .ok (some node) ↔ IsUnderNvm host node := by
  rw [fst_underNvm?]
  constructor
  · intro hfound
    obtain ⟨nvm, hnvm, hfound⟩ := except_bind_eq_ok.1 hfound
    obtain ⟨found, hbinary, hfound⟩ := except_bind_eq_ok.1 hfound
    cases found with
    | none => cases hfound
    | some binary =>
      obtain ⟨reported, hreported, hnode⟩ := except_map_eq_ok.1 hfound
      obtain ⟨version, rfl, rfl⟩ := Option.map_eq_some_iff.1 hnode
      cases nvm with
      | none => cases hbinary
      | some nvm =>
        obtain ⟨name, hforemost, husable, rfl⟩ := nvmBinary?_eq_some_iff.1 hbinary
        exact .intro hnvm hforemost husable (Host.reported?_eq_some_iff.1 hreported)
  · rintro ⟨hnvm, hforemost, husable, hreports⟩
    refine except_bind_eq_ok.2 ⟨_, hnvm, except_bind_eq_ok.2 ⟨_, nvmBinary?_eq_some_iff.2
      ⟨_, hforemost, husable, rfl⟩, ?_⟩⟩
    exact except_map_eq_ok.2 ⟨_, Host.reported?_eq_some_iff.2 hreports, rfl⟩

theorem hinders_of_directory? {p : Path} {fault : Fault}
    (hfault : (directory? p host).1 = .error fault) : Hinders configured host fault := by
  unfold directory? at hfault
  rw [(IsQuestion.isDirectory p).fst_bind fun _ => .pure _] at hfault
  obtain ⟨hlong, hrefused⟩ | ⟨-, hanswer⟩ := Run.fst_isDirectory_cases p host
  · rw [hrefused] at hfault
    cases hfault
    exact .path hlong
  · rw [hanswer] at hfault
    cases hfault

theorem hinders_of_homeDirectory {fault : Fault}
    (hfault : (homeDirectory host).1 = .error fault) : Hinders configured host fault := by
  unfold homeDirectory at hfault
  rw [Run.get_bind] at hfault
  dsimp only at hfault
  split at hfault
  · rename_i hhead
    cases hfault
    obtain ⟨rest, hrest⟩ := List.head?_eq_some_iff.1 (beq_iff_eq.1 hhead)
    obtain ⟨more, hmore⟩ := List.reverse_prefix.2
      (List.dropWhile_suffix (l := (((host.environment.value? "HOME").or
        host.surroundings.accountHome).getD "~").toList.reverse)
        (· == '/'))
    rw [hrest, List.reverse_reverse] at hmore
    exact .home hmore.symm
  · cases hfault

theorem isQuestion_namedOrHome (found : Option Path) : IsQuestion (match found with
    | some found => pure (some found)
    | none => do directory? ((← homeDirectory) / ".nvm")) := by
  cases found with
  | some found => exact .pure _
  | none => exact .bind isQuestion_homeDirectory fun _ => isQuestion_directory? _

theorem hinders_of_nvmDirectory? {fault : Fault}
    (hfault : (nvmDirectory? host.environment host).1 = .error fault) : Hinders configured host fault := by
  have hhome {fault : Fault} (hfault : ((homeDirectory >>= fun home => directory? (home / ".nvm"))
      host).1 = .error fault) : Hinders configured host fault := by
    rw [isQuestion_homeDirectory.fst_bind fun _ => isQuestion_directory? _] at hfault
    rcases except_bind_eq_error.1 hfault with hhome | ⟨home, -, hfault⟩
    · exact hinders_of_homeDirectory hhome
    · exact hinders_of_directory? hfault
  unfold nvmDirectory? at hfault
  dsimp only at hfault
  cases hgiven : host.environment.given? "NVM_DIR" with
  | none =>
    rw [hgiven] at hfault
    exact hhome hfault
  | some written =>
    rw [hgiven] at hfault
    have hsplit := ((isQuestion_directory? (Path.ofText written)).fst_bind isQuestion_namedOrHome
      host).symm.trans hfault
    rcases except_bind_eq_error.1 hsplit with hnamed | ⟨found, -, hfault⟩
    · exact hinders_of_directory? hnamed
    · cases found with
      | some found => cases hfault
      | none => exact hhome hfault

theorem hinders_of_underNvm? {fault : Fault} (hfree : configured.filter (· != "") = none)
    (hfault : (underNvm? host).1 = .error fault) : Hinders configured host fault := by
  rw [fst_underNvm?] at hfault
  rcases except_bind_eq_error.1 hfault with hnvm | ⟨nvm, hnvm, hfault⟩
  · exact hinders_of_nvmDirectory? hnvm
  · rcases except_bind_eq_error.1 hfault with hbinary | ⟨found, hfound, hfault⟩
    · cases nvm with
      | none => cases hbinary
      | some nvm =>
        obtain ⟨p, hlong, rfl, -⟩ := nvmBinary?_eq_error_iff.1 hbinary
        exact .path hlong
    · cases found with
      | none => cases hfault
      | some binary =>
        cases nvm with
        | none => cases hfound
        | some nvm =>
          obtain ⟨name, hforemost, husable, rfl⟩ := nvmBinary?_eq_some_iff.1 hfound
          exact hinders_of_reported? (.underNvm hfree hnvm hforemost husable)
            (except_map_eq_error.1 hfault)

/-! ### The choice -/

theorem fst_resolve_of_given {binary : String} (hgiven : configured.filter (· != "") = some binary)
    (host : Host) : (resolve configured host).1 =
      (host.reported? binary).map (·.map fun version => ⟨binary, version, false⟩) := by
  unfold resolve
  rw [hgiven]
  exact fst_configured? binary host

/-- Without a configured Node the search path goes before nvm; nothing goes on after a Node there
that gives no answer. -/
theorem fst_resolve_of_free (hfree : configured.filter (· != "") = none) (host : Host) :
    (∃ node, IsOnSearchPath host node ∧ (resolve configured host).1 = .ok (some node)) ∨
    (∃ fault, (onSearchPath? host).1 = .error fault ∧ (resolve configured host).1 = .error fault) ∨
    (onSearchPath? host).1 = .ok none ∧ (resolve configured host).1 = (underNvm? host).1 := by
  have hsearch : (onSearchPath? host).2 = host := by rw [onSearchPath?_apply]
  unfold resolve
  rw [hfree]
  dsimp only
  rw [Run.bind_apply]
  rcases hrun : onSearchPath? host with ⟨fault | _ | node, after⟩ <;> rw [hrun] at hsearch <;>
    subst hsearch
  · exact .inr (.inl ⟨fault, rfl, rfl⟩)
  · exact .inr (.inr ⟨rfl, rfl⟩)
  · exact .inl ⟨node, onSearchPath?_eq_some_iff.1 (congrArg Prod.fst hrun), rfl⟩

/-- The search by name finds no suitable Node, and none that gives no answer. -/
theorem onSearchPath?_eq_none_iff : (onSearchPath? host).1 = .ok none ↔
    (∀ node, ¬ IsOnSearchPath host node) ∧
      ∀ binary, host.program? "node" none = some binary → host.Answers binary := by
  simp only [← onSearchPath?_eq_some_iff, ← exists_onSearchPath?_eq_ok_iff]
  constructor
  · intro hnone
    rw [hnone]
    exact ⟨fun _ => nofun, none, rfl⟩
  · rintro ⟨hnone, found, hfound⟩
    cases found with
    | none => exact hfound
    | some node => exact absurd hfound (hnone node)

theorem resolve_eq_some_iff : (resolve configured host).1 = .ok (some node) ↔
    IsChosen configured host node := by
  cases hgiven : configured.filter (· != "") with
  | some binary =>
    rw [fst_resolve_of_given hgiven]
    constructor
    · intro hfound
      obtain ⟨reported, hreported, hnode⟩ := except_map_eq_ok.1 hfound
      obtain ⟨version, rfl, rfl⟩ := Option.map_eq_some_iff.1 hnode
      exact .configured hgiven (Host.reported?_eq_some_iff.1 hreported)
    · rintro (⟨hother, hreports⟩ | ⟨hfree, -⟩ | ⟨hfree, -, -, -⟩)
      · cases hgiven.symm.trans hother
        rw [Host.reported?_eq_some_iff.2 hreports]
        rfl
      · cases hgiven.symm.trans hfree
      · cases hgiven.symm.trans hfree
  | none =>
    constructor
    · intro hfound
      obtain ⟨found, hnode, hresult⟩ | ⟨fault, -, hresult⟩ | ⟨hnone, hresult⟩ :=
        fst_resolve_of_free hgiven host
      · cases hresult.symm.trans hfound
        exact .onSearchPath hgiven hnode
      · cases hresult.symm.trans hfound
      · obtain ⟨hnone, hanswers⟩ := onSearchPath?_eq_none_iff.1 hnone
        exact .underNvm hgiven hnone hanswers (underNvm?_eq_some_iff.1 (hresult.symm.trans hfound))
    · rintro (⟨hother, -⟩ | ⟨-, hnode⟩ | ⟨-, hnone, hanswers, hnode⟩)
      · cases hgiven.symm.trans hother
      · have hthere := onSearchPath?_eq_some_iff.2 hnode
        obtain ⟨found, hfound, hresult⟩ | ⟨fault, hfault, -⟩ | ⟨hnone, -⟩ :=
          fst_resolve_of_free hgiven host
        · cases (onSearchPath?_eq_some_iff.2 hfound).symm.trans hthere
          exact hresult
        · cases hfault.symm.trans hthere
        · cases hnone.symm.trans hthere
      · have hnone' := onSearchPath?_eq_none_iff.2 ⟨hnone, hanswers⟩
        obtain ⟨found, hfound, -⟩ | ⟨fault, hfault, -⟩ | ⟨-, hresult⟩ :=
          fst_resolve_of_free hgiven host
        · exact absurd hfound (hnone found)
        · cases hfault.symm.trans hnone'
        · exact hresult.trans (underNvm?_eq_some_iff.2 hnode)

theorem IsChosen.unique {other : NodeProgram} (hnode : IsChosen configured host node)
    (hother : IsChosen configured host other) : node = other := by
  have heq := (resolve_eq_some_iff.2 hnode).symm.trans (resolve_eq_some_iff.2 hother)
  exact Option.some.inj (Except.ok.inj heq)

/-- The version that the Node on the search path reports is one that the linter runs on. -/
theorem IsChosen.inRange_of_onPath (hnode : IsChosen configured host node)
    (honPath : node.onPath = true) : (NodeVersion.ofText node.version).InRange := by
  cases hnode with
  | configured => cases honPath
  | onSearchPath _ hnode =>
    cases hnode with
    | intro _ _ hrange => exact hrange
  | underNvm _ _ _ hnode =>
    cases hnode
    cases honPath

theorem hinders_of_resolve {fault : Fault} (hfault : (resolve configured host).1 = .error fault) :
    Hinders configured host fault := by
  cases hgiven : configured.filter (· != "") with
  | some binary =>
    rw [fst_resolve_of_given hgiven] at hfault
    exact hinders_of_reported? (.configured hgiven) (except_map_eq_error.1 hfault)
  | none =>
    obtain ⟨node, -, hresult⟩ | ⟨found, hsearch, hresult⟩ | ⟨-, hresult⟩ :=
      fst_resolve_of_free hgiven host
    · cases hresult.symm.trans hfault
    · cases hresult.symm.trans hfault
      obtain ⟨binary, hprogram, hreported⟩ := onSearchPath?_eq_error hsearch
      exact hinders_of_reported? (.onSearchPath hgiven hprogram) hreported
    · exact hinders_of_underNvm? hgiven (hresult.symm.trans hfault)

end NodeProgram

namespace Lint

/-! ### Launches -/

namespace Command

open NodeProgram (IsChosen Hinders)

variable {host : Host} {root : Path} {configured : Option String} {node : NodeProgram}
  {command : Command}

/-- The directory of the Node, which programs that start Node by themselves get in front of their
search path, unless it is the one they find anyway. -/
def pathDirectoryFor (node : NodeProgram) : Option String :=
  if node.onPath then none else some (Path.ofText node.binary).parent.text

/-- The package runner next to the Node, else the one on the search path. -/
def runnerFor (host : Host) (node : NodeProgram) : Option String :=
  (host.program? "npx" (some (Path.ofText node.binary).parent.text)).or
    (host.surroundings.program "npx" none)

/-- The command launches the linter through the Node: the project's own linter as its script, else a
linter on the search path, else a package runner. -/
inductive LaunchesThrough (root : Path) (host : Host) (node : NodeProgram) : Command → Prop
  | installed (hfile : host.HasFile (installed root)) :
      LaunchesThrough root host node ⟨[node.binary, (installed root).text], none⟩
  | program {linter : String} (hreached : host.node (installed root) ≠ .error .nameTooLong)
      (hmissing : ¬ host.HasFile (installed root))
      (hlinter : host.program? "oxlint" none = some linter) :
      LaunchesThrough root host node ⟨[linter], pathDirectoryFor node⟩
  | runner {npx : String} (hreached : host.node (installed root) ≠ .error .nameTooLong)
      (hmissing : ¬ host.HasFile (installed root)) (hnone : host.program? "oxlint" none = none)
      (hrunner : runnerFor host node = some npx) :
      LaunchesThrough root host node ⟨[npx, "--yes", "oxlint"], pathDirectoryFor node⟩

theorem program?_apply (name : String) (path : Option String) (host : Host) :
    program? name path host = (.ok (host.program? name path), host) := rfl

theorem fst_throughSearchPath (node : NodeProgram) (host : Host) :
    (throughSearchPath node host).1 = .ok (match host.program? "oxlint" none with
      | some linter => some ⟨[linter], pathDirectoryFor node⟩
      | none => (runnerFor host node).map fun npx =>
        ⟨[npx, "--yes", "oxlint"], pathDirectoryFor node⟩) := by
  unfold throughSearchPath
  dsimp only
  rw [Run.bind_of_ok (program?_apply "oxlint" none host)]
  cases host.program? "oxlint" none with
  | some linter => rfl
  | none =>
    dsimp only
    rw [Run.bind_of_ok (program?_apply "npx" _ host)]
    rfl

/-- The launch through a Node, from what there is in the project and on the search path. -/
def launch? (root : Path) (host : Host) (node : NodeProgram) : Except Fault (Option Command) := do
  if ← (Run.isFile (installed root) host).1 then
    return some ⟨[node.binary, (installed root).text], none⟩
  else (throughSearchPath node host).1

theorem launch?_eq_some_iff :
    launch? root host node = .ok (some command) ↔ LaunchesThrough root host node command := by
  unfold launch?
  obtain ⟨hlong, hrefused⟩ | ⟨hreached, hanswer⟩ := Run.fst_isFile_cases (installed root) host
  · rw [hrefused]
    refine ⟨nofun, ?_⟩
    rintro (⟨content, hcontent⟩ | ⟨hreached, -, -⟩ | ⟨hreached, -, -, -⟩)
    · rw [Host.content, hlong] at hcontent
      cases hcontent
    · exact absurd hlong hreached
    · exact absurd hlong hreached
  rw [hanswer]
  by_cases hfile : host.HasFile (installed root)
  · rw [decide_eq_true hfile]
    constructor
    · rintro ⟨⟩
      exact .installed hfile
    · rintro (- | ⟨-, hmissing, -⟩ | ⟨-, hmissing, -, -⟩)
      · rfl
      · exact absurd hfile hmissing
      · exact absurd hfile hmissing
  · rw [decide_eq_false hfile]
    change (throughSearchPath node host).1 = _ ↔ _
    rw [fst_throughSearchPath]
    cases hlinter : host.program? "oxlint" none with
    | some linter =>
      constructor
      · rintro ⟨⟩
        exact .program hreached hfile hlinter
      · rintro (hthere | ⟨-, -, hother⟩ | ⟨-, -, hnone, -⟩)
        · exact absurd hthere hfile
        · cases hlinter.symm.trans hother
          rfl
        · cases hlinter.symm.trans hnone
    | none =>
      rw [Except.ok.injEq, Option.map_eq_some_iff]
      constructor
      · rintro ⟨npx, hrunner, rfl⟩
        exact .runner hreached hfile hlinter hrunner
      · rintro (hthere | ⟨-, -, hother⟩ | ⟨-, -, -, hrunner⟩)
        · exact absurd hthere hfile
        · cases hlinter.symm.trans hother
        · exact ⟨_, hrunner, rfl⟩

theorem isQuestion_throughChosen (found : Option NodeProgram) : IsQuestion (match found with
    | none => pure none
    | some node => throughSearchPath node) := by
  cases found with
  | none => exact .pure _
  | some node => exact isQuestion_throughSearchPath node

/-- The Node is chosen first, and only then it is looked for what launches the linter. -/
theorem fst_resolve (root : Path) (configured : Option String) (host : Host) :
    (resolve root none configured host).1 = (NodeProgram.resolve configured host).1.bind fun
      | some node => launch? root host node
      | none => (Run.isFile (installed root) host).1.map fun _ => none := by
  refine ((NodeProgram.isQuestion_resolve configured).fst_bind
    (fun found => .bind (.isFile _) fun _ => .ite (.pure _) (isQuestion_throughChosen found)) host).trans ?_
  refine congrArg (Except.bind _) (funext fun found => ?_)
  refine ((IsQuestion.isFile (installed root)).fst_bind
    (fun _ => .ite (.pure _) (isQuestion_throughChosen found)) host).trans ?_
  unfold launch?
  cases found <;> rcases (Run.isFile (installed root) host).1 with fault | isThere <;>
    first | rfl | (cases isThere <;> rfl)

/-- A command is found when a Node is chosen and something launches the linter through it. -/
theorem resolve_eq_some_iff : (resolve root none configured host).1 = .ok (some command) ↔
    ∃ node, IsChosen configured host node ∧ LaunchesThrough root host node command := by
  rw [fst_resolve]
  constructor
  · intro hcommand
    obtain ⟨found, hfound, hcommand⟩ := except_bind_eq_ok.1 hcommand
    cases found with
    | none =>
      obtain ⟨isThere, -, hnone⟩ := except_map_eq_ok.1 hcommand
      cases hnone
    | some node =>
      exact ⟨node, NodeProgram.resolve_eq_some_iff.1 hfound, launch?_eq_some_iff.1 hcommand⟩
  · rintro ⟨node, hchosen, hlaunches⟩
    exact except_bind_eq_ok.2 ⟨some node, NodeProgram.resolve_eq_some_iff.2 hchosen,
      launch?_eq_some_iff.2 hlaunches⟩

theorem hinders_of_resolve {fault : Fault}
    (hfault : (resolve root none configured host).1 = .error fault) : Hinders configured host fault := by
  have hfile {fault : Fault} (hfault : (Run.isFile (installed root) host).1 = .error fault) :
      Hinders configured host fault := by
    obtain ⟨hlong, hrefused⟩ | ⟨-, hanswer⟩ := Run.fst_isFile_cases (installed root) host
    · cases hrefused.symm.trans hfault
      exact .path hlong
    · cases hanswer.symm.trans hfault
  rw [fst_resolve] at hfault
  rcases except_bind_eq_error.1 hfault with hnode | ⟨found, -, hfault⟩
  · exact NodeProgram.hinders_of_resolve hnode
  · cases found with
    | none => exact hfile (except_map_eq_error.1 hfault)
    | some node =>
      rcases except_bind_eq_error.1 hfault with hrefused | ⟨isThere, -, hfault⟩
      · exact hfile hrefused
      · cases isThere with
        | true => cases hfault
        | false => cases (fst_throughSearchPath node host).symm.trans hfault

end Command

open Command (LaunchesThrough)
open NodeProgram (IsChosen Hinders)

/-! ### Checks without a command -/

variable {host : Host} {context : CheckContext}

theorem isQuestion_commandOrFault (found : Option Command) : IsQuestion (match found with
    | some command => pure command
    | none => throw (failure noNodeDetail)) := by
  cases found with
  | some command => exact .pure _
  | none => exact .throw _

theorem fst_resolveCommand (hlinter : context.settings.linter = none) (host : Host) :
    (resolveCommand none context host).1 =
      (Command.resolve context.root none context.settings.node host).1.bind fun
        | some command => .ok command
        | none => .error (failure noNodeDetail) := by
  unfold resolveCommand
  dsimp only
  rw [hlinter]
  refine ((Command.isQuestion_resolve _ _ _).fst_bind isQuestion_commandOrFault host).trans ?_
  refine congrArg (Except.bind _) (funext fun found => ?_)
  cases found <;> rfl

/-- Where no command is found the lint check fails, and where none can be found it says that a
suitable Node is missing. -/
theorem check_of_no_command (hpaths : context.paths ≠ some [])
    (hlinter : context.settings.linter = none)
    (hnone : ∀ command,
      (Command.resolve context.root none context.settings.node host).1 ≠ .ok (some command)) :
    ∃ fault, (check none context host).1 = .error fault ∧
      ((Command.resolve context.root none context.settings.node host).1 = .ok none →
        fault = failure noNodeDetail) := by
  obtain ⟨mid, -, hcheck⟩ := check_apply none hpaths host
  have hcommand := fst_resolveCommand hlinter host
  cases hresolve : (Command.resolve context.root none context.settings.node host).1 with
  | error fault =>
    rw [hresolve] at hcommand
    refine ⟨fault, ?_, nofun⟩
    rw [hcheck, hcommand]
    rfl
  | ok found =>
    cases found with
    | some command => exact absurd hresolve (hnone command)
    | none =>
      rw [hresolve] at hcommand
      refine ⟨failure noNodeDetail, ?_, fun _ => rfl⟩
      rw [hcheck, hcommand]
      rfl

/-- A scan lists the lint check as skipped where it has no command. -/
theorem label_mem_skipped_of_no_command {deadCode : Option (List String)} {first : Tool}
    {directory : Path} {options : ScanOptions} {runtime : Option RuntimeSettings}
    {source : SettingsSource} {r : ScanResult} {prospect : Prospect}
    (hscan : (scan directory options runtime (Checks.inOrder none deadCode first) source host).1 =
      .ok r)
    (hprospect : (Prospect.ofScan directory options runtime source host).1 = .ok prospect)
    (hwants : prospect.plan.wants .linter = true) (hpaths : prospect.context.paths ≠ some [])
    (hlinter : prospect.runtime.linter = none)
    (hnone : ∀ command, (Command.resolve prospect.directory none prospect.runtime.node host).1 ≠
      .ok (some command)) : Checks.label .linter ∈ r.skipped := by
  obtain ⟨_, hother, hskipped⟩ := skipped_eq hscan
  cases hprospect.symm.trans hother
  obtain ⟨fault, hfault, -⟩ : ∃ fault, (check none prospect.context host).1 = .error fault ∧ _ :=
    check_of_no_command hpaths hlinter hnone
  have hfails : (((Checks.inOrder none deadCode first).of .linter prospect.context host).1).isOk =
      false := by
    change ((check none prospect.context host).1).isOk = false
    rw [hfault]
    rfl
  rw [hskipped]
  refine List.mem_map_of_mem (List.mem_filter.2 ⟨List.mem_cons_self, ?_⟩)
  rw [hwants, hfails]
  rfl

/-- Every launch is one through a Node in the range exactly when this holds of the Nodes that can be
chosen and are not the one on the search path. -/
theorem Command.inRange_iff {root : Path} {configured : Option String} {host : Host} :
    (∀ command, (resolve root none configured host).1 = .ok (some command) →
        ∃ node, IsChosen configured host node ∧ LaunchesThrough root host node command ∧
          (NodeVersion.ofText node.version).InRange) ↔
      ∀ node command, IsChosen configured host node → LaunchesThrough root host node command →
        node.onPath = false → (NodeVersion.ofText node.version).InRange := by
  constructor
  · intro hsafe node command hchosen hlaunches _
    obtain ⟨other, hother, -, hrange⟩ :=
      hsafe command (resolve_eq_some_iff.2 ⟨node, hchosen, hlaunches⟩)
    exact hchosen.unique hother ▸ hrange
  · intro hsafe command hcommand
    obtain ⟨node, hchosen, hlaunches⟩ := resolve_eq_some_iff.1 hcommand
    refine ⟨node, hchosen, hlaunches, ?_⟩
    cases honPath : node.onPath with
    | true => exact hchosen.inRange_of_onPath honPath
    | false => exact hsafe node command hchosen hlaunches honPath

/-- How the search for the command settles whether and through what the linter is launched. -/
structure Command.Settles (root : Path) (configured : Option String) (host : Host) : Prop where
  /-- a command is found when a Node is chosen and something launches the linter through it -/
  found : ∀ command, (resolve root none configured host).1 = .ok (some command) ↔
    ∃ node, IsChosen configured host node ∧ LaunchesThrough root host node command
  /-- the version that is reported is compared with the range for the Node on the search path only -/
  suitable : (∀ command, (resolve root none configured host).1 = .ok (some command) →
        ∃ node, IsChosen configured host node ∧ LaunchesThrough root host node command ∧
          (NodeVersion.ofText node.version).InRange) ↔
      ∀ node command, IsChosen configured host node → LaunchesThrough root host node command →
        node.onPath = false → (NodeVersion.ofText node.version).InRange
  hindered : ∀ fault, (resolve root none configured host).1 = .error fault →
    Hinders configured host fault
  /-- without a command the check fails, and for want of a Node it says so -/
  fails : ∀ context, context.root = root → context.settings.linter = none →
    context.settings.node = configured → context.paths ≠ some [] →
    (∀ command, (resolve root none configured host).1 ≠ .ok (some command)) →
    ∃ fault, (check none context host).1 = .error fault ∧
      ((resolve root none configured host).1 = .ok none → fault = failure noNodeDetail)
  /-- and a scan lists it as skipped -/
  skipped : ∀ deadCode first directory options runtime source r prospect,
    (scan directory options runtime (Checks.inOrder none deadCode first) source host).1 = .ok r →
    (Prospect.ofScan directory options runtime source host).1 = .ok prospect →
    prospect.directory = root → prospect.runtime.linter = none →
    prospect.runtime.node = configured → prospect.plan.wants .linter = true →
    prospect.context.paths ≠ some [] →
    (∀ command, (resolve root none configured host).1 ≠ .ok (some command)) →
    Checks.label .linter ∈ r.skipped

/-- The linter is launched through a Node that was chosen, and it is one in the range for sure
exactly when every chosen one that is not the one on the search path reports a version in the range.
Without a command there is no such Node or nothing that launches the linter through it, or the
search was hindered; the lint check is skipped then. -/
theorem Command.resolve_settles (root : Path) (configured : Option String) (host : Host) :
    Settles root configured host where
  found _ := resolve_eq_some_iff
  suitable := inRange_iff
  hindered _ := hinders_of_resolve
  fails := by
    rintro context rfl hlinter rfl hpaths hnone
    exact check_of_no_command hpaths hlinter hnone
  skipped := by
    rintro deadCode first directory options runtime source r prospect hscan hprospect rfl hlinter rfl
      hwants hpaths hnone
    exact label_mem_skipped_of_no_command hscan hprospect hwants hpaths hlinter hnone

end Lint

/-- A host without a Node on the search path and with one under nvm that is older than it is called. -/
def Host.withMisnamedNode : Host :=
  let host := ofProject "" (fun _ => .unavailable) fun _ _ _ => .hangs
  { host with
    tree := .directory [("nvm", .directory [("versions", .directory [("node", .directory [
      ("v22.12.0", .directory [("bin", .directory [("node", .file (.text ""))])])])])])]
    environment := [("NVM_DIR", "/nvm")]
    surroundings := { host.surroundings with
      nodeVersion := fun _ => .finished 0 "v18.0.0\n"
      program := fun name _ => if name = "npx" then some "/usr/bin/npx" else none } }

/-- That Node is what the linter is launched through, whether it is configured or found. -/
theorem Lint.Command.resolve_withMisnamedNode :
    let node : NodeProgram := ⟨"/nvm/versions/node/v22.12.0/bin/node", "v18.0.0", false⟩
    let command : Command :=
      ⟨["/usr/bin/npx", "--yes", "oxlint"], some "/nvm/versions/node/v22.12.0/bin"⟩
    (resolve .root none (some node.binary) Host.withMisnamedNode).1 = .ok (some command) ∧
    NodeProgram.IsChosen (some node.binary) Host.withMisnamedNode node ∧
    (resolve .root none none Host.withMisnamedNode).1 = .ok (some command) ∧
    NodeProgram.IsChosen none Host.withMisnamedNode node ∧
    ¬ (NodeVersion.ofText node.version).InRange :=
  ⟨eq_ok_of_toOption (by decide +kernel),
    NodeProgram.resolve_eq_some_iff.1 (eq_ok_of_toOption (by decide +kernel)),
    eq_ok_of_toOption (by decide +kernel),
    NodeProgram.resolve_eq_some_iff.1 (eq_ok_of_toOption (by decide +kernel)), by decide +kernel⟩

end Checkup
