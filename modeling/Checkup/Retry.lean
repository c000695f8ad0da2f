import Checkup.Host

/-!
# Trying again

A step that may fail for a passing reason is tried a limited number of times, with a wait before
each new try that grows with the tries so far. The last failure is the one that counts, and a
failure that is not worth another try counts at once.
-/

namespace Checkup

/-- How often a step is tried, how long to wait, and after which faults. -/
structure RetryPolicy where
  attempts : Int
  backoff : Number
  retries : Fault → Bool

namespace RetryPolicy

def delay (policy : RetryPolicy) (tried : Nat) : Number :=
  match policy.backoff with
  | .whole n => .whole (n * tried)
  | .real x => .real (x * Float.ofNat tried)

variable {σ α : Type}

/-- Tries the step, after `tried` tries before, with `left` tries to follow if it fails. -/
def retryFrom (policy : RetryPolicy) (wait : Number → ExceptT Fault (StateM σ) Unit)
    (step : ExceptT Fault (StateM σ) α) (tried : Nat) : Nat → ExceptT Fault (StateM σ) α
  | 0 => step
  | left + 1 => fun state =>
    match step state with
    | (.error fault, after) =>
      if policy.retries fault then
        (do wait (policy.delay (tried + 1)); retryFrom policy wait step (tried + 1) left :
          ExceptT Fault (StateM σ) α) after
      else (.error fault, after)
    | done => done

/-- Tries the step as often as the policy allows, which has to be at least once. -/
def retry (policy : RetryPolicy) (wait : Number → ExceptT Fault (StateM σ) Unit)
    (step : ExceptT Fault (StateM σ) α) : ExceptT Fault (StateM σ) α :=
  if policy.attempts < 1 then throw (.badValue "attempts must be >= 1")
  else retryFrom policy wait step 0 (policy.attempts.toNat - 1)

end RetryPolicy

end Checkup
