import Checkup.Proofs.Questions

/-!
# The two kinds of change scopes

What git answers in a directory decides which files a change scope names. There are two kinds of
scopes: the changes that are not committed and, where there are none, those since the current branch
has left its base. Each kind is described by the answers to single questions (`IsScope`), and no
scope is made in another way. A question that fails has no answer; one that cannot be put to git, or
is answered with bytes that are no text, ends the run (`Ends`).
-/

namespace Checkup.Git

open Run (Records IsQuestion)

section Answers

variable (ask : List String → Answer)

def said (arguments : List String) : Option String :=
  match ask arguments with
  | .finished 0 output => some output
  | _ => none

/-- The lines of what git answers that are not empty. -/
def saidLines (arguments : List String) : Option (List String) :=
  (said ask arguments).map fun output => (Text.lines output).filter (· != "")

def InWorkTree : Prop :=
  ∃ output, said ask ["rev-parse", "--is-inside-work-tree"] = some output ∧
    Text.strip output = "true"

/-- The branch that git says is the current one; a detached head is none. -/
def branch : Option String :=
  ((said ask ["rev-parse", "--abbrev-ref", "HEAD"]).map Text.strip).filter
    fun name => name != "" && name != "HEAD"

def Verifies (name : String) : Prop :=
  (said ask ["rev-parse", "--verify", "--quiet", name]).isSome = true

instance (name : String) : Decidable (Verifies ask name) :=
  inferInstanceAs (Decidable (_ = true))

/-- The tracked files that differ from the last commit, or, where git cannot tell, those that differ
in the index. -/
def edited : List String :=
  ((saidLines ask (changed ["HEAD"])).or (saidLines ask (changed ["--cached"]))).getD []

def added : List String :=
  (saidLines ask ["ls-files", "--others", "--exclude-standard"]).getD []

/-- Where the current branch has left another one, as git says it. -/
def fork (base : String) : Option String :=
  said ask ["merge-base", base, "HEAD"]

/-- The files that differ between a commit and the last one. -/
def committed (commit : String) : Option (List String) :=
  saidLines ask (changed [Text.strip commit, "HEAD"])

/-- The branch to compare with: the one that is asked for, if git knows it, or, if none is, the
first of the usual ones that git knows. -/
inductive IsBase : Option String → String → Prop
  | requested {base : String} (hgiven : base ≠ "") (hknown : Verifies ask base) :
      IsBase (some base) base
  | main {request : Option String} (hfree : request = none ∨ request = some "")
      (hknown : Verifies ask "main") : IsBase request "main"
  | master {request : Option String} (hfree : request = none ∨ request = some "")
      (hunknown : ¬Verifies ask "main") (hknown : Verifies ask "master") :
      IsBase request "master"

inductive IsScope (request : Option String) : Changes → Prop
  | uncommitted {files : List String} (hrepository : InWorkTree ask)
      (hfiles : files = (edited ask).eraseDups ++ ((added ask).removeAll (edited ask)).eraseDups)
      (hdistinct : files.Nodup) (hsome : files ≠ []) :
      IsScope request ⟨files, branch ask, none, true⟩
  | since {base commit : String} {files : List String} (hrepository : InWorkTree ask)
      (hclean : edited ask = [] ∧ added ask = []) (hbase : IsBase ask request base)
      (hother : branch ask ≠ some base) (hfork : fork ask base = some commit)
      (hfiles : committed ask commit = some files) :
      IsScope request ⟨files, branch ask, some base, false⟩

end Answers

/-! ### Texts without repeats -/

theorem nodup_distinct (texts : List String) : (distinct texts).Nodup := by
  induction texts with
  | nil => exact .nil
  | cons s rest ih =>
    refine List.nodup_cons.2 ⟨fun hs => ?_, ih.filter _⟩
    simpa using (List.mem_filter.1 hs).2

theorem distinct_filter (p : String → Bool) (texts : List String) :
    distinct (texts.filter p) = (distinct texts).filter p := by
  induction texts with
  | nil => rfl
  | cons s rest ih =>
    cases hs : p s with
    | true => simp [distinct, hs, ih, List.filter_filter, Bool.and_comm]
    | false =>
      -- what fails the test is gone, so nothing is left that equals the first text
      have hother : ∀ t, (p t && t != s) = p t := by
        intro t
        by_cases ht : t = s <;> simp [ht, hs]
      simp [distinct, hs, ih, List.filter_filter, hother]

theorem distinct_eq_eraseDups : ∀ texts : List String, distinct texts = texts.eraseDups
  | [] => rfl
  | s :: rest => by
    rw [List.eraseDups_cons, ← distinct_eq_eraseDups (rest.filter _), distinct_filter]
    rfl
termination_by texts => texts.length
decreasing_by exact Nat.lt_succ_of_le (List.length_filter_le _ _)

theorem distinct_append (texts more : List String) :
    distinct (texts ++ more) = texts.eraseDups ++ (more.removeAll texts).eraseDups := by
  rw [distinct_eq_eraseDups, List.eraseDups_append]

theorem distinct_eq_nil {texts : List String} : distinct texts = [] ↔ texts = [] := by
  cases texts <;> simp [distinct]

/-! ### What the questions give -/

section Questions

variable {host : Host} {directory : Path} {ask : List String → Answer}

theorem output?_apply (arguments : List String) :
    output? directory arguments host =
      ((host.gitSays directory arguments).map (·.output?), host.record (.git directory arguments)) :=
    by
  rw [output?, Run.bind_pure_apply, Run.git_apply]

theorem output?_eq_said (arguments : List String) :
    (ask arguments).output? = said ask arguments := rfl

theorem gives_output? (arguments : List String) :
    Gives (· = said (host.surroundings.git directory) arguments)
      (output? directory arguments host).1 := by
  intro output houtput
  rw [output?_apply] at houtput
  obtain ⟨answer, hanswer, rfl⟩ := except_map_eq_ok.1 houtput
  rw [← Answer.eq_of_received hanswer]
  exact output?_eq_said arguments

theorem gives_map {α β : Type} {step : Run α} {found : α} (f : α → β)
    (hstep : Gives (· = found) (step host).1) :
    Gives (· = f found) ((step >>= fun a => pure (f a)) host).1 := by
  rw [Run.bind_pure_apply]
  intro b hb
  obtain ⟨a, ha, rfl⟩ := except_map_eq_ok.1 hb
  exact congrArg f (hstep a ha)

theorem gives_lines? (arguments : List String) :
    Gives (· = saidLines (host.surroundings.git directory) arguments)
      (lines? directory arguments host).1 :=
  gives_map _ (gives_output? arguments)

theorem gives_isRepository (directory : Path) (host : Host) :
    Gives (fun isThere => isThere = true ↔ InWorkTree (host.surroundings.git directory))
      (isRepository directory host).1 := by
  intro isThere hthere
  rw [gives_map _ (gives_output? _) isThere hthere, Option.any_eq_true]
  simp only [beq_iff_eq]
  rfl

theorem gives_currentBranch? : Gives (· = branch (host.surroundings.git directory))
    (currentBranch? directory host).1 :=
  gives_map _ (gives_output? _)

theorem gives_branchExists (name : String) :
    Gives (· = decide (Verifies (host.surroundings.git directory) name))
      (branchExists directory name host).1 := by
  intro isThere hthere
  rw [gives_map _ (gives_output? _) isThere hthere]
  exact Bool.decide_eq_true.symm

theorem gives_trackedChanges : Gives (· = edited (host.surroundings.git directory))
    (trackedChanges directory host).1 := by
  refine (isQuestion_lines? directory (by simp [changed])).gives_bind (fun found => ?_)
    fun found hfound => ?_
  · cases found with
    | some found => exact .pure _
    | none => exact .bind (isQuestion_lines? directory (by simp [changed])) fun _ => .pure _
  · obtain rfl := gives_lines? _ found hfound
    unfold edited
    cases saidLines (host.surroundings.git directory) (changed ["HEAD"]) with
    | some found => exact .pure rfl
    | none => exact gives_map _ (gives_lines? _)

theorem gives_uncommitted : Gives (· = distinct (edited (host.surroundings.git directory) ++
    added (host.surroundings.git directory))) (uncommitted directory host).1 := by
  refine (isQuestion_trackedChanges directory).gives_bind (fun _ =>
    .bind (isQuestion_lines? directory (by simp)) fun _ => .pure _) fun tracked htracked => ?_
  obtain rfl := gives_trackedChanges tracked htracked
  exact gives_map _ (gives_lines? _)

theorem gives_changedSince? (base : String) :
    Gives (· = (fork (host.surroundings.git directory) base).bind
      (committed (host.surroundings.git directory))) (changedSince? directory base host).1 := by
  refine (isQuestion_output? directory (by simp)).gives_bind (fun output => ?_)
    fun output houtput => ?_
  · cases output with
    | some output => exact isQuestion_lines? directory (by simp [changed])
    | none => exact .pure _
  · obtain rfl := gives_output? _ output houtput
    unfold fork
    cases said (host.surroundings.git directory) ["merge-base", base, "HEAD"] with
    | some commit => exact gives_lines? _
    | none => exact .pure rfl

theorem gives_firstBranch? (names : List String) :
    Gives (· = names.find? fun name => Verifies (host.surroundings.git directory) name)
      (firstBranch? directory names host).1 := by
  induction names with
  | nil => exact .pure rfl
  | cons name rest ih =>
    refine (isQuestion_branchExists directory name).gives_bind (fun _ =>
      .ite (.pure _) (isQuestion_firstBranch? directory rest)) fun isThere hthere => ?_
    obtain rfl := gives_branchExists name isThere hthere
    by_cases hname : Verifies (host.surroundings.git directory) name
    · simp only [List.find?_cons, hname, decide_true, if_true]
      exact .pure rfl
    · simpa [hname] using ih

/-- The base that the answers to single questions lead to. -/
def baseFor (ask : List String → Answer) (request : Option String) : Option String :=
  match request.filter (· != "") with
  | some name => if Verifies ask name then some name else none
  | none => defaultBranches.find? fun name => Verifies ask name

theorem gives_base? (request : Option String) :
    Gives (· = baseFor (host.surroundings.git directory) request)
      (base? directory (request.filter (· != "")) host).1 := by
  unfold baseFor
  cases request.filter (· != "") with
  | none => exact gives_firstBranch? defaultBranches
  | some name =>
    refine (isQuestion_branchExists directory name).gives_bind (fun _ =>
      .ite (.pure _) (.bind (.note _) fun _ => .pure _)) fun isThere hthere => ?_
    obtain rfl := gives_branchExists name isThere hthere
    by_cases hknown : Verifies (host.surroundings.git directory) name
    · simp only [hknown, decide_true, if_true]
      exact .pure rfl
    · simp only [hknown, decide_false, Bool.false_eq_true, if_false]
      exact .pure rfl

theorem baseFor_given {name : String} (hgiven : name ≠ "") :
    baseFor ask (some name) = if Verifies ask name then some name else none := by
  have hfilter : (some name).filter (· != "") = some name := by simp [hgiven]
  rw [baseFor, hfilter]

theorem baseFor_free {request : Option String} (hfree : request = none ∨ request = some "") :
    baseFor ask request = if Verifies ask "main" then some "main"
      else if Verifies ask "master" then some "master" else none := by
  have hfilter : request.filter (· != "") = none := by
    obtain rfl | rfl := hfree <;> rfl
  rw [baseFor, hfilter, defaultBranches]
  by_cases hmain : Verifies ask "main" <;> by_cases hmaster : Verifies ask "master" <;>
    simp [hmain, hmaster]

theorem baseFor_eq_some {request : Option String} {base : String} :
    baseFor ask request = some base ↔ IsBase ask request base := by
  constructor
  · intro hfound
    by_cases hfree : request = none ∨ request = some ""
    · rw [baseFor_free hfree] at hfound
      split at hfound
      case isTrue hmain => exact Option.some.inj hfound ▸ .main hfree hmain
      case isFalse hmain =>
        obtain ⟨hmaster, hbase⟩ := Option.ite_none_right_eq_some.1 hfound
        exact Option.some.inj hbase ▸ .master hfree hmain hmaster
    · obtain ⟨name, rfl⟩ := Option.ne_none_iff_exists'.1 fun hnone => hfree (.inl hnone)
      have hgiven : name ≠ "" := fun hempty => hfree (.inr (congrArg some hempty))
      rw [baseFor_given hgiven] at hfound
      obtain ⟨hknown, hbase⟩ := Option.ite_none_right_eq_some.1 hfound
      exact Option.some.inj hbase ▸ .requested hgiven hknown
  · rintro (⟨hgiven, hknown⟩ | ⟨hfree, hmain⟩ | ⟨hfree, hmain, hmaster⟩)
    · rw [baseFor_given hgiven, if_pos hknown]
    · rw [baseFor_free hfree, if_pos hmain]
    · rw [baseFor_free hfree, if_neg hmain, if_pos hmaster]

theorem IsBase.unique {request : Option String} {base other : String}
    (hbase : IsBase ask request base) (hother : IsBase ask request other) : base = other :=
  Option.some.inj ((baseFor_eq_some.2 hbase).symm.trans (baseFor_eq_some.2 hother))

/-! ### The changes -/

/-- What is compared where every change is committed. -/
def sinceBase? (directory : Path) (requested current : Option String) : Run (Option Changes) := do
  match ← base? directory requested with
  | none => return none
  | some base => changesSince? directory current base

theorem isQuestion_sinceBase? (directory : Path) (requested current : Option String) :
    IsQuestion (sinceBase? directory requested current) := by
  refine .bind (isQuestion_base? directory requested) fun base => ?_
  cases base with
  | none => exact .pure _
  | some base => exact isQuestion_changesSince? directory current base

theorem gives_changesSince? (current : Option String) (base : String) :
    Gives (· = if some base = current then none else
      ((fork (host.surroundings.git directory) base).bind
        (committed (host.surroundings.git directory))).map
          fun files => ⟨files, current, some base, false⟩)
      (changesSince? directory current base host).1 := by
  unfold changesSince?
  by_cases hother : some base = current
  · simp only [hother, beq_self_eq_true, if_true]
    exact .pure rfl
  · simp only [beq_iff_eq, hother, if_false]
    exact gives_map _ (gives_changedSince? base)

/-- With every change committed, a scope is what git says about the base and the current branch. -/
theorem gives_sinceBase? (directory : Path) (request current : Option String) (host : Host) :
    Gives (fun found => ∀ c, found = some c ↔ ∃ base commit files,
        IsBase (host.surroundings.git directory) request base ∧ current ≠ some base ∧
        fork (host.surroundings.git directory) base = some commit ∧
        committed (host.surroundings.git directory) commit = some files ∧
        (⟨files, current, some base, false⟩ : Changes) = c)
      (sinceBase? directory (request.filter (· != "")) current host).1 := by
  refine (isQuestion_base? directory _).gives_bind (fun base => ?_) fun base hbase => ?_
  · cases base with
    | none => exact .pure _
    | some base => exact isQuestion_changesSince? directory current base
  · simp only [← baseFor_eq_some]
    rw [← gives_base? request base hbase]
    cases base with
    | none => exact .pure fun c => by simp
    | some base =>
      intro found hfound c
      rw [gives_changesSince? current base found hfound]
      by_cases hother : current = some base
      · subst hother
        simp
      · simp [Ne.symm hother, hother, Option.bind_eq_some_iff]

end Questions

/-! ### What is asked -/

def changeCommands : List (List String) :=
  [["rev-parse"], ["diff", "--name-only"], ["ls-files"], ["merge-base"]]

/-- A question about the changes in the directory, or the message that the branch which is asked for
is not there. -/
def isAboutChanges (directory : Path) (request : Option String) : Event → Bool
  | .git asked arguments => asked == directory && changeCommands.any (·.isPrefixOf arguments)
  | .notice (.baseBranchMissing name) => request == some name
  | _ => false

/-- Git can be asked, for no word has a NUL in it, and answers with a text. -/
def Replies (host : Host) (directory : Path) (arguments : List String) : Prop :=
  (∀ word ∈ directory.names ++ arguments, '\x00' ∉ word.toList) ∧
    host.surroundings.git directory arguments ≠ .undecodable

theorem replies_iff {host : Host} {directory : Path} {arguments : List String} :
    Replies host directory arguments ↔ (host.gitSays directory arguments).isOk = true := by
  rw [Host.gitSays, Answer.isOk_received, Replies]
  simp only [List.any_eq_false, List.contains_iff_mem]

/-- How questions to git end: each one is replied to, or the last one is not. -/
inductive Ends {α : Type} (host : Host) (directory : Path) : List Event → Except Fault α → Prop
  | returned {asked : List Event} {a : α}
      (hreplies : ∀ arguments, .git directory arguments ∈ asked → Replies host directory arguments) :
      Ends host directory asked (.ok a)
  | stopped {asked : List Event} {arguments : List String} {fault : Fault}
      (hlast : .git directory arguments ∈ asked)
      (hfault : host.gitSays directory arguments = .error fault) :
      Ends host directory asked (.error fault)

namespace Ends

variable {α : Type} {host : Host} {directory : Path} {asked : List Event} {result : Except Fault α}

/-- A host that differs in its record only gets the same replies. -/
theorem after {events more : List Event} (hends : Ends { host with events } directory more result)
    (hreplies : ∀ arguments, .git directory arguments ∈ asked →
      Replies host directory arguments) : Ends host directory (asked ++ more) result := by
  cases hends with
  | returned hmore =>
    exact .returned fun arguments hmem =>
      (List.mem_append.1 hmem).elim (hreplies arguments) (hmore arguments)
  | stopped hlast hfault => exact .stopped (List.mem_append_right _ hlast) hfault

theorem exists_eq_ok_iff (hends : Ends host directory asked result) : (∃ a, result = .ok a) ↔
    ∀ arguments, .git directory arguments ∈ asked → Replies host directory arguments := by
  cases hends with
  | returned hreplies => exact ⟨fun _ => hreplies, fun _ => ⟨_, rfl⟩⟩
  | stopped hlast hfault =>
    refine ⟨nofun, fun hreplies => ?_⟩
    have hreplied := replies_iff.1 (hreplies _ hlast)
    rw [hfault] at hreplied
    cases hreplied

theorem eq_of_error {fault : Fault} (hends : Ends host directory asked result)
    (hresult : result = .error fault) : fault = .embeddedNul ∨ fault = .undecodable := by
  cases hends with
  | returned hreplies => cases hresult
  | stopped hlast hfault =>
    cases hresult
    exact (Answer.received_eq_error hfault).imp And.right And.right

end Ends

/-- The step puts questions about the changes to git, and ends as they do. -/
def Asks {α : Type} (directory : Path) (request : Option String) (step : Run α) : Prop :=
  ∀ host, ∃ asked, (step host).2 = { host with events := host.events ++ asked } ∧
    (∀ event ∈ asked, isAboutChanges directory request event = true) ∧
    Ends host directory asked (step host).1

namespace Asks

variable {α β : Type} {directory : Path} {request : Option String} {step : Run α}

theorem pure (a : α) : Asks directory request (Pure.pure a) := fun host =>
  ⟨[], by simp, by simp, .returned (by simp)⟩

theorem note {notice : Notice} (hnotice : isAboutChanges directory request (.notice notice) = true) :
    Asks directory request (Run.note notice) := fun _ =>
  ⟨[.notice notice], rfl, by simpa using hnotice, .returned (by simp)⟩

theorem ite {c : Prop} [Decidable c] {yes no : Run α} (hyes : Asks directory request yes)
    (hno : Asks directory request no) : Asks directory request (if c then yes else no) := by
  split
  · exact hyes
  · exact hno

theorem bind {next : α → Run β} (hstep : Asks directory request step)
    (hnext : ∀ a, Asks directory request (next a)) : Asks directory request (step >>= next) := by
  intro host
  obtain ⟨asked, hafter, htest, hends⟩ := hstep host
  rw [Run.bind_apply]
  rcases hrun : step host with ⟨result, mid⟩
  rw [hrun] at hafter hends
  cases hafter
  cases hends with
  | stopped hlast hfault => exact ⟨asked, rfl, htest, .stopped hlast hfault⟩
  | @returned a hreplies =>
    -- what comes next is asked of a host with a longer record, to which git replies as before
    obtain ⟨more, hafter, htest', hends⟩ := hnext a { host with events := host.events ++ asked }
    refine ⟨asked ++ more, ?_, fun event hevent => ?_, ?_⟩
    · simp only [hafter, List.append_assoc]
    · exact (List.mem_append.1 hevent).elim (htest event) (htest' event)
    · exact hends.after hreplies

theorem output? {arguments : List String}
    (hcommand : changeCommands.any (·.isPrefixOf arguments) = true) :
    Asks directory request (output? directory arguments) := by
  intro host
  refine ⟨[.git directory arguments], ?_, by simp [isAboutChanges, hcommand], ?_⟩
  · rw [output?_apply]
    rfl
  · rw [output?_apply]
    cases hanswer : host.gitSays directory arguments with
    | error fault => exact .stopped (List.mem_singleton_self _) hanswer
    | ok answer =>
      refine .returned fun asked hasked => replies_iff.2 ?_
      cases List.mem_singleton.1 hasked
      rw [hanswer]
      rfl

theorem lines? {arguments : List String}
    (hcommand : changeCommands.any (·.isPrefixOf arguments) = true) :
    Asks directory request (lines? directory arguments) :=
  .bind (.output? hcommand) fun _ => .pure _

theorem firstBranch? (names : List String) :
    Asks directory request (firstBranch? directory names) := by
  induction names with
  | nil => exact .pure _
  | cons name rest ih =>
    exact .bind (.bind (.output? rfl) fun _ => .pure _) fun _ => .ite (.pure _) ih

theorem base? : Asks directory request (base? directory (request.filter (· != ""))) := by
  cases hgiven : request.filter (· != "") with
  | none => exact firstBranch? defaultBranches
  | some name =>
    have hrequest : request = some name := (Option.filter_eq_some_iff.1 hgiven).1
    refine .bind (.bind (.output? rfl) fun _ => .pure _) fun _ => .ite (.pure _) ?_
    exact .bind (.note (by simp [isAboutChanges, hrequest])) fun _ => .pure _

theorem uncommitted : Asks directory request (uncommitted directory) := by
  refine .bind (.bind (.lines? rfl) fun found => ?_) fun _ => .bind (.lines? rfl) fun _ => .pure _
  cases found with
  | some found => exact .pure _
  | none => exact .bind (.lines? rfl) fun _ => .pure _

theorem changesSince? (current : Option String) (base : String) :
    Asks directory request (changesSince? directory current base) := by
  refine .ite (.pure _) (.bind (.bind (.output? rfl) fun commit => ?_) fun _ => .pure _)
  cases commit with
  | some commit => exact .lines? rfl
  | none => exact .pure _

theorem changes? (directory : Path) (request : Option String) :
    Asks directory request (changes? directory request) := by
  refine .bind (.bind (.output? rfl) fun _ => .pure _) fun _ => .ite (.pure _) ?_
  refine .bind (.bind (.output? rfl) fun _ => .pure _) fun current => ?_
  refine .bind .uncommitted fun _ => .ite (.pure _) (.bind .base? fun base => ?_)
  cases base with
  | none => exact .pure _
  | some base => exact .changesSince? current base

end Asks

/-! ### The scope -/

section Scope

variable {ask : List String → Answer} {request : Option String} {c : Changes}

theorem listing_eq_nil :
    distinct (edited ask ++ added ask) = [] ↔ edited ask = [] ∧ added ask = [] := by
  rw [distinct_eq_nil, List.append_eq_nil_iff]

/-- While changes are listed that are not committed, they are the scope. -/
theorem isScope_of_listed (hrepository : InWorkTree ask)
    (hlisted : distinct (edited ask ++ added ask) ≠ []) :
    ⟨distinct (edited ask ++ added ask), branch ask, none, true⟩ = c ↔
      IsScope ask request c := by
  constructor
  · rintro rfl
    exact .uncommitted hrepository (distinct_append _ _) (nodup_distinct _) hlisted
  · rintro (⟨-, hfiles, -, -⟩ | ⟨-, hclean, -⟩)
    · rw [hfiles, distinct_append]
    · exact absurd (listing_eq_nil.2 hclean) hlisted

theorem isScope_of_clean (hrepository : InWorkTree ask)
    (hclean : distinct (edited ask ++ added ask) = []) :
    (∃ base commit files, IsBase ask request base ∧ branch ask ≠ some base ∧
      fork ask base = some commit ∧ committed ask commit = some files ∧
      ⟨files, branch ask, some base, false⟩ = c) ↔ IsScope ask request c := by
  constructor
  · rintro ⟨base, commit, files, hbase, hother, hfork, hfiles, rfl⟩
    exact .since hrepository (listing_eq_nil.1 hclean) hbase hother hfork hfiles
  · rintro (⟨-, hfiles, -, hsome⟩ | ⟨-, -, hbase, hother, hfork, hfiles⟩)
    · exact absurd (hfiles.trans ((distinct_append _ _).symm.trans hclean)) hsome
    · exact ⟨_, _, _, hbase, hother, hfork, hfiles, rfl⟩

/-- A base that git does not know is not replaced by another one. -/
theorem IsScope.uncommitted_of_unknown {base : String} (hgiven : base ≠ "")
    (hunknown : ¬Verifies ask base) (hscope : IsScope ask (some base) c) :
    c.uncommitted = true := by
  cases hscope with
  | uncommitted => rfl
  | since _ _ hbase =>
    have hknown := baseFor_eq_some.2 hbase
    rw [baseFor_given hgiven, if_neg hunknown] at hknown
    cases hknown

theorem IsScope.uncommitted_of_failed {base : String}
    (hbase : IsBase ask request base)
    (hfailed : ∀ commit, fork ask base = some commit → committed ask commit = none)
    (hscope : IsScope ask request c) : c.uncommitted = true := by
  cases hscope with
  | uncommitted => rfl
  | since _ _ hused _ hfork hfiles =>
    obtain rfl := hbase.unique hused
    cases (hfailed _ hfork).symm.trans hfiles

end Scope

def scopeIn? (directory : Path) (request : Option String) : Run (Option Changes) := do
  let current ← currentBranch? directory
  let files ← uncommitted directory
  if !files.isEmpty then return some ⟨files, current, none, true⟩
  sinceBase? directory (request.filter (· != "")) current

theorem changes?_eq (directory : Path) (request : Option String) :
    changes? directory request = (do
      if !(← isRepository directory) then return none
      scopeIn? directory request) := rfl

theorem isQuestion_scopeIn? (directory : Path) (request : Option String) :
    IsQuestion (scopeIn? directory request) :=
  .bind (isQuestion_currentBranch? directory) fun _ => .bind (isQuestion_uncommitted directory)
    fun _ => .ite (.pure _) (isQuestion_sinceBase? _ _ _)

theorem gives_scopeIn? {directory : Path} {host : Host} (request : Option String)
    (hrepository : InWorkTree (host.surroundings.git directory)) :
    Gives (fun found => ∀ c, found = some c ↔ IsScope (host.surroundings.git directory) request c)
      (scopeIn? directory request host).1 := by
  have hlast (current : Option String) (files : List String) : IsQuestion (do
      if !files.isEmpty then return some ⟨files, current, none, true⟩
      sinceBase? directory (request.filter (· != "")) current) :=
    .ite (.pure _) (isQuestion_sinceBase? _ _ _)
  refine (isQuestion_currentBranch? directory).gives_bind (fun current =>
    .bind (isQuestion_uncommitted directory) (hlast current)) fun current hcurrent => ?_
  obtain rfl := gives_currentBranch? current hcurrent
  refine (isQuestion_uncommitted directory).gives_bind (hlast _) fun files hfiles => ?_
  obtain rfl := gives_uncommitted files hfiles
  by_cases hclean : distinct (edited (host.surroundings.git directory) ++
      added (host.surroundings.git directory)) = []
  · rw [hclean]
    intro found hfound c
    exact (gives_sinceBase? directory request _ host found hfound c).trans
      (isScope_of_clean hrepository hclean)
  · rw [if_pos (by simpa using hclean)]
    refine .pure fun c => ?_
    rw [Option.some_inj, isScope_of_listed hrepository hclean]

/-- What git answers in the directory settles the scope that is found. -/
theorem gives_changes? (directory : Path) (request : Option String) (host : Host) :
    Gives (fun found => ∀ c, found = some c ↔ IsScope (host.surroundings.git directory) request c)
      (changes? directory request host).1 := by
  rw [changes?_eq]
  refine (isQuestion_isRepository directory).gives_bind (fun _ =>
    .ite (.pure _) (isQuestion_scopeIn? directory request)) fun isThere hthere => ?_
  have hrepository := gives_isRepository directory host isThere hthere
  cases isThere with
  | false =>
    refine .pure fun c => ⟨nofun, ?_⟩
    rintro (⟨hthere, -⟩ | ⟨hthere, -⟩) <;> exact absurd (hrepository.2 hthere) Bool.false_ne_true
  | true => exact gives_scopeIn? request (hrepository.1 rfl)

/-- Whatever git answers, the changes are found out by questions about the directory alone. There is
no fault exactly when git replies to each of them, and what is found then is the scope that the
answers allow; after a base that git does not know, or a comparison that fails, only changes that
are not committed make a scope. -/
theorem found_iff_isScope (directory : Path) (request : Option String) (host : Host) :
    ∃ result asked, changes? directory request host =
        (result, { host with events := host.events ++ asked }) ∧
      (∀ event ∈ asked, isAboutChanges directory request event = true) ∧
      ((∃ found, result = .ok found) ↔
        ∀ arguments, .git directory arguments ∈ asked → Replies host directory arguments) ∧
      (∀ fault, result = .error fault → fault = .embeddedNul ∨ fault = .undecodable) ∧
      ∀ found, result = .ok found →
        (∀ c, found = some c ↔ IsScope (host.surroundings.git directory) request c) ∧
        (∀ base, request = some base → base ≠ "" →
          ¬Verifies (host.surroundings.git directory) base →
          ∀ c, found = some c → c.uncommitted = true) ∧
        ∀ base, IsBase (host.surroundings.git directory) request base →
          (∀ commit, fork (host.surroundings.git directory) base = some commit →
            committed (host.surroundings.git directory) commit = none) →
          ∀ c, found = some c → c.uncommitted = true := by
  obtain ⟨asked, hafter, htest, hends⟩ := Asks.changes? directory request host
  refine ⟨_, asked, Prod.ext rfl hafter, htest, hends.exists_eq_ok_iff,
    fun fault hfault => hends.eq_of_error hfault, fun found hfound => ?_⟩
  have hscope := gives_changes? directory request host found hfound
  refine ⟨hscope, ?_, ?_⟩
  · rintro base rfl hgiven hunknown c hc
    exact ((hscope c).1 hc).uncommitted_of_unknown hgiven hunknown
  · intro base hbase hfailed c hc
    exact ((hscope c).1 hc).uncommitted_of_failed hbase hfailed

end Checkup.Git

namespace Checkup

/-- A repository on a branch of its own, one commit after `main`, and what git answers there when it
is asked for the changes since the last commit. -/
def Host.onFeature (edited : Answer) : Host :=
  .ofProject reactManifest
    (fun arguments =>
      if arguments = ["rev-parse", "--is-inside-work-tree"] then .finished 0 "true\n"
      else if arguments = ["rev-parse", "--abbrev-ref", "HEAD"] then .finished 0 "feature\n"
      else if arguments = Git.changed ["HEAD"] then edited
      else if arguments = ["rev-parse", "--verify", "--quiet", "main"] then .finished 0 "c0\n"
      else if arguments = ["merge-base", "main", "HEAD"] then .finished 0 "c0\n"
      else if arguments = Git.changed ["c0", "HEAD"] then .finished 0 "src/App.tsx\n"
      else .finished 0 "")
    fun _ _ _ => .hangs

/-- A base with a NUL in its name stops the run. A list of the changes that git did not get to is
taken for an empty one. -/
theorem Git.changes?_onFeature :
    (changes? .root (some "feature\x00x") (.onFeature (.finished 0 ""))).1 = .error .embeddedNul ∧
    saidLines ((Host.onFeature .unavailable).surroundings.git .root) (changed ["HEAD"]) = none ∧
    (changes? .root none (.onFeature .unavailable)).1 =
      .ok (some ⟨["src/App.tsx"], some "feature", some "main", false⟩) :=
  ⟨eq_error_of_faultOf (by decide +kernel), by decide +kernel, eq_ok_of_toOption (by decide +kernel)⟩

end Checkup
