import Checkup.Proofs.Readings

/-!
# Tries and waits

A step that is tried again runs through a chain of states: from one try to the next there is a wait,
and nothing else. So the outcomes of its tries, taken in turn, tell how often it is tried: up to the
first outcome that is no failure worth another try, or as often as the policy allows. The dead-code
check is such a step, and what its process leaves tells whether it is started once more.
-/

namespace Checkup

/-- How often something is done that is done again after the outcomes for which `again` holds, and
at most `limit` times: up to the first outcome of another kind, if that comes before the limit. -/
structure DoneUpTo (again : Nat → Prop) (limit calls : Nat) : Prop where
  of_final : ∀ n, ¬ again n → (∀ m < n, again m) → calls = min (n + 1) limit
  of_endless : (∀ n, again n) → calls = limit

theorem DoneUpTo.of_last {again : Nat → Prop} {limit last : Nat} (hlimit : last < limit)
    (hbefore : ∀ n < last, again n) (hlast : last + 1 = limit ∨ ¬ again last) :
    DoneUpTo again limit (last + 1) where
  of_final := by
    intro n hn hfirst
    have hge : last ≤ n := Nat.le_of_not_lt fun hlt => hn (hbefore n hlt)
    rcases hlast with hceiling | hstop
    · omega
    · have hle : n ≤ last := Nat.le_of_not_lt fun hlt => hstop (hfirst last hlt)
      omega
  of_endless := fun hall => hlast.elim id fun hstop => absurd (hall last) hstop

namespace RetryPolicy

/-- The result is a failure that is worth another try. -/
def Retries {α : Type} (policy : RetryPolicy) (result : Except Fault α) : Prop :=
  ∃ fault, result = .error fault ∧ policy.retries fault = true

end RetryPolicy

def Number.times : Number → Nat → Number
  | .whole n, k => .whole (n * k)
  | .real x, k => .real (x * Float.ofNat k)

theorem RetryPolicy.delay_eq (policy : RetryPolicy) (tried : Nat) :
    policy.delay tried = policy.backoff.times tried := by
  unfold delay Number.times
  cases policy.backoff <;> rfl

section Course

variable {ε : Type} (tried : ε) (waited : Number → ε) (backoff : Number)

/-- So many tries, with a wait after each: a short one at first, after the second try one that is
twice as long, and so on. -/
def triesWithWaits (n : Nat) : List ε :=
  (List.range n).flatMap fun m => [tried, waited (backoff.times (m + 1))]

def course (calls : Nat) : List ε :=
  triesWithWaits tried waited backoff (calls - 1) ++ [tried]

theorem triesWithWaits_succ (n : Nat) : triesWithWaits tried waited backoff (n + 1) =
    triesWithWaits tried waited backoff n ++ [tried, waited (backoff.times (n + 1))] := by
  unfold triesWithWaits
  rw [List.range_succ, List.flatMap_append, List.flatMap_singleton]

end Course

namespace RetryPolicy

section Chain

variable {σ α : Type} (policy : RetryPolicy) (step : ExceptT Fault (StateM σ) α)
  (pause : Number → σ → σ) (state : σ)

/-- The state in which a step is tried once more, after so many tries and the wait after each. -/
def stateAfter : Nat → σ
  | 0 => state
  | tried + 1 => pause (policy.delay (tried + 1)) (step (stateAfter tried)).2

variable {policy step pause state} {wait : Number → ExceptT Fault (StateM σ) Unit}

theorem retryFrom_succ_of_retries (hwait : ∀ seconds s, wait seconds s = (.ok (), pause seconds s))
    {tried : Nat} (hagain : policy.Retries (step (policy.stateAfter step pause state tried)).1)
    (left : Nat) :
    policy.retryFrom wait step tried (left + 1) (policy.stateAfter step pause state tried) =
      policy.retryFrom wait step (tried + 1) left
        (policy.stateAfter step pause state (tried + 1)) := by
  obtain ⟨fault, hfault, hretries⟩ := hagain
  rcases hstep : step (policy.stateAfter step pause state tried) with ⟨result, after⟩
  rw [hstep] at hfault
  subst hfault
  simp only [retryFrom, stateAfter, hstep, if_pos hretries]
  change (StateT.bind (wait _) (ExceptT.bindCont _)) after = _
  unfold StateT.bind
  rw [hwait]
  rfl

theorem retryFrom_succ_of_not_retries {tried : Nat}
    (hstop : ¬ policy.Retries (step (policy.stateAfter step pause state tried)).1) (left : Nat) :
    policy.retryFrom wait step tried (left + 1) (policy.stateAfter step pause state tried) =
      step (policy.stateAfter step pause state tried) := by
  rcases hstep : step (policy.stateAfter step pause state tried) with ⟨fault | a, after⟩
  · have hfinal : policy.retries fault ≠ true := fun hretries =>
      hstop ⟨fault, congrArg Prod.fst hstep, hretries⟩
    simp only [retryFrom, hstep, if_neg hfinal]
  · simp only [retryFrom, hstep]

variable (policy step state)

/-- From any of its tries on, a run comes to what one of the following tries comes to: the first one
that is not to be repeated, or the last one that is left. -/
theorem exists_retryFrom_eq (hwait : ∀ seconds s, wait seconds s = (.ok (), pause seconds s))
    (tried left : Nat) : ∃ last, tried ≤ last ∧ last ≤ tried + left ∧
      (∀ n, tried ≤ n → n < last →
        policy.Retries (step (policy.stateAfter step pause state n)).1) ∧
      (last = tried + left ∨ ¬ policy.Retries (step (policy.stateAfter step pause state last)).1) ∧
      policy.retryFrom wait step tried left (policy.stateAfter step pause state tried) =
        step (policy.stateAfter step pause state last) := by
  -- By the tries that are left: one that is repeated leaves one less and begins one later.
  induction left generalizing tried with
  | zero =>
    exact ⟨tried, Nat.le_refl _, Nat.le_refl _, fun n hge hlt => absurd hge (by omega), .inl rfl,
      rfl⟩
  | succ left ih =>
    by_cases hagain : policy.Retries (step (policy.stateAfter step pause state tried)).1
    · obtain ⟨last, hge, hle, hbefore, hlast, hrun⟩ := ih (tried + 1)
      refine ⟨last, by omega, by omega, fun n hn hlt => ?_, ?_, ?_⟩
      · rcases Nat.eq_or_lt_of_le hn with rfl | hlater
        · exact hagain
        · exact hbefore n hlater hlt
      · exact hlast.imp_left (by omega)
      · rw [retryFrom_succ_of_retries hwait hagain, hrun]
    · refine ⟨tried, Nat.le_refl _, by omega, fun n hge hlt => absurd hge (by omega), .inr hagain,
        ?_⟩
      exact retryFrom_succ_of_not_retries hagain left

/-- A step that is tried at all comes to its last try, in the state that the tries before it and the
waits after them have left. -/
theorem exists_retry_eq (hwait : ∀ seconds s, wait seconds s = (.ok (), pause seconds s))
    (hattempts : 1 ≤ policy.attempts) : ∃ last,
      DoneUpTo (fun n => policy.Retries (step (policy.stateAfter step pause state n)).1)
        policy.attempts.toNat (last + 1) ∧
      policy.retry wait step state = step (policy.stateAfter step pause state last) := by
  obtain ⟨last, -, hle, hbefore, hlast, hrun⟩ :=
    exists_retryFrom_eq policy step state hwait 0 (policy.attempts.toNat - 1)
  refine ⟨last, .of_last (by omega) (fun n => hbefore n (Nat.zero_le n)) ?_, ?_⟩
  · exact hlast.imp_left (by omega)
  · unfold retry
    rw [if_neg (by omega)]
    exact hrun

theorem retry_of_attempts_lt (hattempts : policy.attempts < 1) :
    policy.retry wait step state = (.error (.badValue "attempts must be >= 1"), state) := by
  unfold retry
  rw [if_pos hattempts]
  rfl

end Chain

end RetryPolicy

/-! ### Rehearsals -/

inductive Move
  | tried
  | waited (seconds : Number)

def Move.isTry : Move → Bool
  | tried => true
  | waited _ => false

namespace Rehearsal

variable {α : Type}

/-- A step that comes to the given outcomes, one after the other. -/
def step (outcomes : Nat → Except Fault α) : ExceptT Fault (StateM (List Move)) α :=
  fun moves => (outcomes (moves.countP Move.isTry), moves ++ [.tried])

def wait (seconds : Number) : ExceptT Fault (StateM (List Move)) Unit :=
  fun moves => (.ok (), moves ++ [.waited seconds])

theorem countP_triesWithWaits (backoff : Number) (n : Nat) :
    (triesWithWaits .tried .waited backoff n).countP Move.isTry = n := by
  induction n with
  | zero => rfl
  | succ n ih =>
    rw [triesWithWaits_succ, List.countP_append, ih]
    rfl

theorem stateAfter_eq (policy : RetryPolicy) (outcomes : Nat → Except Fault α) (n : Nat) :
    policy.stateAfter (step outcomes) (fun seconds moves => moves ++ [.waited seconds]) [] n =
      triesWithWaits .tried .waited policy.backoff n := by
  induction n with
  | zero => rfl
  | succ n ih =>
    rw [RetryPolicy.stateAfter, ih, triesWithWaits_succ, RetryPolicy.delay_eq]
    exact List.append_assoc ..

theorem step_triesWithWaits (backoff : Number) (outcomes : Nat → Except Fault α) (n : Nat) :
    step outcomes (triesWithWaits .tried .waited backoff n) =
      (outcomes n, course .tried .waited backoff (n + 1)) := by
  unfold step
  rw [countP_triesWithWaits]
  rfl

end Rehearsal

/-! ### The dead-code tool -/

theorem Host.started_afterStart_self (host : Host) (spawn : Spawn) :
    (host.afterStart spawn).started spawn.tool = host.started spawn.tool + 1 := by
  simp [afterStart, Tool.countOne]

/-- What a process of the dead-code tool leaves when its failure may be a passing one: it could not
be started, or took too long, or ended badly and printed nothing, or printed something that is not
the text of an object. -/
inductive Outcome.IsPassing : Outcome → Prop
  | refused (wording : String) : IsPassing (refused (.system wording))
  | refusedLate (wording : String) : IsPassing (refused (.timeout wording))
  | hangs : IsPassing hangs
  | crashed {status : Option Int} {output : Content} (errors : Content) (hstatus : status ≠ some 0)
      (hblank : Text.strip output.lossy = "") : IsPassing (finished status output errors)
  | unreadable (status : Option Int) {output : Content} (errors : Content)
      (hprinted : Text.strip output.lossy ≠ "")
      (hread : Json.read (Text.strip output.lossy) = .error .malformed) :
      IsPassing (finished status output errors)
  | misshapen (status : Option Int) {output : Content} (errors : Content) {value : Json}
      (hread : Json.read (Text.strip output.lossy) = .ok value) (hobject : value.members? = none) :
      IsPassing (finished status output errors)
  /-- the refusal is a check's own failure, as no system refuses -/
  | declined (failure : CheckFailure) : IsPassing (refused (.check failure))

namespace DeadCode

/-- A report fails the check by itself exactly where it is not the text of an object. -/
theorem exists_parseReport_eq_check_iff {output : String} :
    (∃ failure, parseReport output = .error (.check failure)) ↔
      Text.strip output ≠ "" ∧ (Json.read (Text.strip output) = .error .malformed ∨
        ∃ value, Json.read (Text.strip output) = .ok value ∧ value.members? = none) := by
  by_cases hblank : Text.strip output = ""
  · have hnone : parseReport output = .ok [] := by
      unfold parseReport
      rw [hblank]
      rfl
    simp [hnone, hblank]
  rw [parseReport_eq hblank]
  rcases Json.read (Text.strip output) with fault | value
  · cases fault with
    | malformed => exact ⟨fun _ => ⟨hblank, .inl rfl⟩, fun _ => ⟨_, rfl⟩⟩
    | tooManyDigits count => exact ⟨nofun, fun ⟨_, hread⟩ => hread.elim nofun nofun⟩
  · cases value with
    | object members =>
      refine ⟨fun ⟨failure, hfailure⟩ => ?_, ?_⟩
      · obtain ⟨fault, -, hshape⟩ := except_mapError_eq_error.1 hfailure
        cases hshape
      · rintro ⟨-, hread | ⟨_, ⟨⟩, hobject⟩⟩
        · cases hread
        · cases hobject
    | _ => exact ⟨fun _ => ⟨hblank, .inr ⟨_, rfl, rfl⟩⟩, fun _ => ⟨_, rfl⟩⟩

theorem Patience.retries_iff {α : Type} (patience : Patience) {result : Except Fault α} :
    patience.policy.Retries result ↔ ∃ failure, result = .error (.check failure) := by
  unfold RetryPolicy.Retries
  simp only [patience.retries_eq_true_iff]
  exact ⟨fun ⟨_, hresult, failure, hcheck⟩ => ⟨failure, hcheck ▸ hresult⟩,
    fun ⟨failure, hresult⟩ => ⟨_, hresult, failure, rfl⟩⟩

theorem resultOf_finished (spawn : Spawn) (status : Option Int) (output errors : Content) :
    resultOf (spawn, .finished status output errors) =
      if Text.strip output.lossy = "" ∧ status ≠ some 0 then
        .error (.check
          ⟨toolName, silentDetail ⟨status.getD (-1), output.lossy, errors.lossy⟩, false⟩)
      else parseReport output.lossy := by
  have hstatus : status.getD (-1) ≠ 0 ↔ status ≠ some 0 := by
    cases status <;> simp
  unfold resultOf
  dsimp only
  rw [CommandResult.forCheck_finished]
  dsimp only [bind, Except.bind]
  simp only [Bool.and_eq_true, beq_iff_eq, bne_iff_ne, hstatus]
  split <;> rfl

/-- The check fails by itself, and so tries again, where the failure may be a passing one. -/
theorem exists_resultOf_eq_check_iff {spawn : Spawn} (harguments : spawn.arguments ≠ [])
    {outcome : Outcome} : (∃ failure, resultOf (spawn, outcome) = .error (.check failure)) ↔
      outcome.IsPassing := by
  cases outcome with
  | refused fault =>
    cases fault with
    | system wording => exact ⟨fun _ => .refused wording, fun _ => ⟨_, rfl⟩⟩
    | timeout wording => exact ⟨fun _ => .refusedLate wording, fun _ => ⟨_, rfl⟩⟩
    | check failure => exact ⟨fun _ => .declined failure, fun _ => ⟨_, rfl⟩⟩
    | _ => exact ⟨nofun, nofun⟩
  | hangs =>
    refine ⟨fun _ => .hangs, fun _ => ?_⟩
    unfold resultOf CommandResult.forCheck CommandResult.ofOutcome CommandResult.timeoutFault
    dsimp only
    cases harguments' : spawn.arguments with
    | nil => exact absurd harguments' harguments
    | cons word rest => exact ⟨_, rfl⟩
  | finished status output errors =>
    rw [resultOf_finished]
    by_cases hcrash : Text.strip output.lossy = "" ∧ status ≠ some 0
    · rw [if_pos hcrash]
      exact ⟨fun _ => .crashed errors hcrash.2 hcrash.1, fun _ => ⟨_, rfl⟩⟩
    rw [if_neg hcrash, exists_parseReport_eq_check_iff]
    constructor
    · rintro ⟨hprinted, hread | ⟨value, hread, hobject⟩⟩
      · exact .unreadable status errors hprinted hread
      · exact .misshapen status errors hread hobject
    · intro hpassing
      cases hpassing with
      | crashed _ hstatus hblank => exact absurd ⟨hblank, hstatus⟩ hcrash
      | unreadable _ _ hprinted hread => exact ⟨hprinted, .inl hread⟩
      | misshapen _ _ hread hobject =>
        refine ⟨fun hblank => ?_, .inr ⟨_, hread, hobject⟩⟩
        rw [hblank, read_blank] at hread
        cases hread

theorem snd_commandFor (fixed : Option (List String)) (context : CheckContext) (host : Host) :
    (commandFor fixed context host).2 = host := by
  have hisFile (p : Path) : (Run.isFile p host).2 = host := by
    unfold Run.isFile Run.node?
    rw [Run.snd_bind_pure, Run.get_bind]
    rcases host.node p with fault | node
    · cases fault <;> rfl
    · rfl
  cases fixed with
  | some words => rfl
  | none =>
    unfold commandFor resolveCommand
    dsimp only
    cases context.settings.deadCode.filter (· != "") with
    | some given => rfl
    | none =>
      have hinstalled := hisFile (installed context.root)
      dsimp only
      rw [Run.bind_apply]
      rcases hrun : Run.isFile (installed context.root) host with ⟨fault | isThere, mid⟩ <;>
        rw [hrun] at hinstalled <;> subst hinstalled
      · rfl
      · cases isThere <;> rfl

section Chain

variable (policy : RetryPolicy) (arguments : List String) (root : Path) (host : Host)

/-- The host on which the tool is started once more, after so many tries and waits. -/
def hostAfter (tried : Nat) : Host :=
  policy.stateAfter (runOnce arguments root) (fun seconds h => h.record (.wait seconds)) host tried

/-- Tries and waits move the count of the tool's processes on, and show in the record. -/
structure ComesFrom (spawn : Spawn) (tried : Nat) (after : Host) : Prop where
  tree : after.tree = host.tree
  surroundings : after.surroundings = host.surroundings
  started : after.started .deadCode = host.started .deadCode + tried
  events : after.events = host.events ++ triesWithWaits (.spawn spawn) .wait policy.backoff tried

theorem comesFrom_hostAfter (tried : Nat) :
    ComesFrom policy host ⟨.deadCode, arguments, root, none, host.tree⟩ tried
      (hostAfter policy arguments root host tried) := by
  induction tried with
  | zero => exact ⟨rfl, rfl, rfl, (List.append_nil _).symm⟩
  | succ tried ih =>
    let spawn : Spawn := ⟨.deadCode, arguments, root, none, host.tree⟩
    unfold hostAfter at ih ⊢
    rw [RetryPolicy.stateAfter, runOnce_apply, ih.tree]
    generalize policy.stateAfter _ _ host tried = mid at ih ⊢
    refine ⟨ih.tree, ih.surroundings, ?_, ?_⟩
    · refine (mid.started_afterStart_self spawn).trans ?_
      rw [ih.started, Nat.add_assoc]
    · change (mid.events ++ [.spawn spawn]) ++ [.wait _] = _
      rw [ih.events, triesWithWaits_succ, policy.delay_eq, List.append_assoc, List.append_assoc]
      rfl

def outcomeOf (tried : Nat) : Outcome :=
  host.surroundings.process .deadCode (host.started .deadCode + tried) arguments

theorem runOnce_hostAfter (tried : Nat) :
    (runOnce arguments root (hostAfter policy arguments root host tried)).1 =
        resultOf (⟨.deadCode, arguments, root, none, host.tree⟩, outcomeOf arguments host tried) ∧
      (runOnce arguments root (hostAfter policy arguments root host tried)).2.events =
        host.events ++
          course (.spawn ⟨.deadCode, arguments, root, none, host.tree⟩) .wait policy.backoff
            (tried + 1) := by
  have hcomes := comesFrom_hostAfter policy arguments root host tried
  have hnext : (hostAfter policy arguments root host tried).next .deadCode arguments =
      outcomeOf arguments host tried := by
    rw [Host.next, hcomes.surroundings, hcomes.started, outcomeOf]
  rw [runOnce_apply, hnext, hcomes.tree]
  refine ⟨rfl, ?_⟩
  change _ ++ [_] = _
  rw [hcomes.events]
  exact List.append_assoc ..

end Chain

/-- The dead-code check starts its process again and again, with a wait before each new try, until
one leaves something else than a passing failure, and comes to what the last one comes to. -/
theorem check_tries {fixed : Option (List String)} {patience : Patience} {context : CheckContext}
    {host : Host} {words : List String}
    (hcommand : (commandFor fixed context host).1 = .ok (some words))
    (hattempts : 1 ≤ patience.attempts) :
    let spawn : Spawn := ⟨.deadCode, words ++ reportArguments, context.root, none, host.tree⟩
    ∃ last, DoneUpTo (fun n => (outcomeOf spawn.arguments host n).IsPassing)
        patience.attempts.toNat (last + 1) ∧
      (check fixed patience context host).1 =
        resultOf (spawn, outcomeOf spawn.arguments host last) ∧
      (check fixed patience context host).2.events =
        host.events ++ course (.spawn spawn) .wait patience.backoff (last + 1) := by
  intro spawn
  have harguments : spawn.arguments ≠ [] := List.append_ne_nil_of_right_ne_nil words (by decide)
  have hcheck : check fixed patience context host =
      patience.policy.retry Run.wait (runOnce spawn.arguments context.root) host := by
    have hquiet := snd_commandFor fixed context host
    unfold check
    rw [Run.bind_apply]
    rcases hrun : commandFor fixed context host with ⟨result, mid⟩
    rw [hrun] at hcommand hquiet
    subst hcommand hquiet
    rfl
  have hwait (seconds : Number) (h : Host) :
      Run.wait seconds h = (.ok (), h.record (.wait seconds)) := rfl
  obtain ⟨last, hdone, hretry⟩ := patience.policy.exists_retry_eq
    (runOnce spawn.arguments context.root) host hwait hattempts
  have hrun := runOnce_hostAfter patience.policy spawn.arguments context.root host
  refine ⟨last, ?_, ?_, ?_⟩
  · have hagain (n : Nat) : patience.policy.Retries (runOnce spawn.arguments context.root
        (hostAfter patience.policy spawn.arguments context.root host n)).1 ↔
          (outcomeOf spawn.arguments host n).IsPassing := by
      rw [patience.retries_iff, (hrun n).1]
      exact exists_resultOf_eq_check_iff harguments
    exact (funext fun n => propext (hagain n)) ▸ hdone
  · rw [hcheck, hretry]
    exact (hrun last).1
  · rw [hcheck, hretry]
    exact (hrun last).2

end DeadCode

/-- A step is tried up to its first outcome that is no failure worth another try, and as often as
the policy allows, with a wait between two tries that is one more of the policy's each time; what the
last try comes to is what counts. So is the dead-code tool, which is started again as it was after every
failure that may be a passing one. -/
theorem tries_doneUpTo {α : Type} (policy : RetryPolicy) (outcomes : Nat → Except Fault α)
    (fixed : Option (List String)) (patience : DeadCode.Patience) (context : CheckContext)
    (host : Host) :
    (policy.attempts < 1 → policy.retry Rehearsal.wait (Rehearsal.step outcomes) [] =
      (.error (.badValue "attempts must be >= 1"), [])) ∧
    (1 ≤ policy.attempts → ∃ last,
      DoneUpTo (fun n => policy.Retries (outcomes n)) policy.attempts.toNat (last + 1) ∧
      policy.retry Rehearsal.wait (Rehearsal.step outcomes) [] =
        (outcomes last, course .tried .waited policy.backoff (last + 1))) ∧
    ∀ words, (DeadCode.commandFor fixed context host).1 = .ok (some words) →
      1 ≤ patience.attempts →
      let spawn : Spawn :=
        ⟨.deadCode, words ++ DeadCode.reportArguments, context.root, none, host.tree⟩
      let outcome (n : Nat) : Outcome :=
        host.surroundings.process .deadCode (host.started .deadCode + n) spawn.arguments
      ∃ last, DoneUpTo (fun n => (outcome n).IsPassing) patience.attempts.toNat (last + 1) ∧
        (DeadCode.check fixed patience context host).1 =
          DeadCode.resultOf (spawn, outcome last) ∧
        (DeadCode.check fixed patience context host).2.events =
          host.events ++ course (.spawn spawn) .wait patience.backoff (last + 1) := by
  refine ⟨policy.retry_of_attempts_lt _ _, fun hattempts => ?_, fun words hcommand hattempts =>
    DeadCode.check_tries hcommand hattempts⟩
  have hwait (seconds : Number) (moves : List Move) :
      Rehearsal.wait seconds moves = (.ok (), moves ++ [.waited seconds]) := rfl
  obtain ⟨last, hdone, hretry⟩ :=
    policy.exists_retry_eq (Rehearsal.step outcomes) [] hwait hattempts
  refine ⟨last, ?_, ?_⟩
  · have houtcome (n : Nat) : (Rehearsal.step outcomes (policy.stateAfter (Rehearsal.step outcomes)
        (fun seconds moves => moves ++ [.waited seconds]) [] n)).1 = outcomes n := by
      rw [Rehearsal.stateAfter_eq, Rehearsal.step_triesWithWaits]
    simpa only [houtcome] using hdone
  · rw [hretry, Rehearsal.stateAfter_eq, Rehearsal.step_triesWithWaits]

def failsTwice : Nat → Except Fault String
  | 0 | 1 => .error (.check ⟨"knip", "down", false⟩)
  | _ => .ok "found"

/-- A project whose dead-code tool cannot be started at first, then prints the beginning of a
report, and then a report. -/
def Host.withPassingFailures : Host :=
  .ofProject reactManifest (fun _ => .unavailable) fun
    | _, 0, _ => .refused (.system "[Errno 11] Resource temporarily unavailable")
    | _, 1, _ => .finished (some 0) (.text "\x7b") (.text "")
    | _, _, _ => .finished (some 0) (.text "\x7b\x7d") (.text "")

/-- In both cases the third try is the last one, after two waits, the second twice as long as the
first. -/
theorem tries_withPassingFailures :
    let patience : DeadCode.Patience := ⟨5, .whole 3⟩
    let policy := patience.policy
    let spawn : Spawn :=
      ⟨.deadCode, ["knip"] ++ DeadCode.reportArguments, .root, none, Host.withPassingFailures.tree⟩
    let run := DeadCode.check (some ["knip"]) patience ⟨.root, default, default, none⟩
      Host.withPassingFailures
    { policy with attempts := 0 }.retry Rehearsal.wait (Rehearsal.step failsTwice) [] =
        (.error (.badValue "attempts must be >= 1"), []) ∧
      policy.retry Rehearsal.wait (Rehearsal.step failsTwice) [] =
        (.ok "found", [.tried, .waited (.whole 3), .tried, .waited (.whole 6), .tried]) ∧
      run.1 = .ok [] ∧ run.2.events = [.spawn spawn, .wait (.whole 3), .spawn spawn,
        .wait (.whole 6), .spawn spawn] := by
  intro patience policy spawn run
  have hattempts : 1 ≤ policy.attempts := by decide
  obtain ⟨hnever, -, -⟩ := tries_doneUpTo { policy with attempts := 0 } failsTwice (some ["knip"])
    patience ⟨.root, default, default, none⟩ Host.withPassingFailures
  obtain ⟨-, htried, hstarted⟩ := tries_doneUpTo policy failsTwice (some ["knip"])
    patience ⟨.root, default, default, none⟩ Host.withPassingFailures
  obtain ⟨last, hdone, hretry⟩ := htried hattempts
  obtain ⟨last', hdone', hresult, hevents⟩ := hstarted ["knip"] rfl hattempts
  obtain rfl : last = 2 := by
    have hthird := hdone.of_final 2 (fun ⟨_, hfault, _⟩ => nomatch hfault) fun m hm => by
      obtain rfl | rfl : m = 0 ∨ m = 1 := by omega
      all_goals exact ⟨_, rfl, rfl⟩
    exact Nat.succ.inj hthird
  have harguments : spawn.arguments ≠ [] := List.cons_ne_nil _ _
  have hthird : (DeadCode.resultOf (spawn, .finished (some 0) (.text "\x7b\x7d") (.text ""))) =
      .ok [] := by
    obtain ⟨found, hfound, hnone⟩ := exists_eq_ok_of_any (show (DeadCode.resultOf (spawn,
      .finished (some 0) (.text "\x7b\x7d") (.text ""))).toOption.any List.isEmpty = true
        by decide +kernel)
    rw [hfound, List.isEmpty_iff.1 hnone]
  obtain rfl : last' = 2 := by
    have hfinal := hdone'.of_final 2 (fun hpassing => ?_) fun m hm => ?_
    · exact Nat.succ.inj hfinal
    · obtain ⟨failure, hfailure⟩ :=
        (DeadCode.exists_resultOf_eq_check_iff harguments).2 hpassing
      cases hthird.symm.trans hfailure
    · obtain rfl | rfl : m = 0 ∨ m = 1 := by omega
      · exact .refused _
      · have hread : faultOf (Json.read (Text.strip (Content.text "\x7b").lossy)) =
            some .malformed := by decide +kernel
        exact .unreadable (some 0) (.text "") (by decide +kernel) (eq_error_of_faultOf hread)
  exact ⟨hnever (by decide), hretry, hresult.trans hthird, hevents⟩

end Checkup
