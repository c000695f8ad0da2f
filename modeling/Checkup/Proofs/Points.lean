import Mathlib.Data.Rat.Floor
import Checkup.Proofs.Tallies

/-!
# The score in closed form

A score is what is left of a hundred points when each finding in turn has taken its part, never less
than nothing, and rounded to the nearest whole number, a half upwards. All of that comes to one
formula in two numbers, that of the errors and that of the other findings. What one more finding
costs, and that more findings never make a project healthier, is read off the formula.
-/

namespace Checkup.Score

variable {diagnostics more : List Diagnostic}

/-! ### Points -/

def loss (d : Diagnostic) : ℚ :=
  if d.isError then 3 / 2 else 3 / 4

/-- The points that are left when each finding has taken its part, between none and all. -/
def pointsLeft (diagnostics : List Diagnostic) : ℚ :=
  max 0 (min perfect (perfect - diagnostics.foldl (fun lost d => lost + loss d) 0))

theorem loss_eq (d : Diagnostic) : loss d = penalty d / 4 := by
  unfold loss penalty
  cases d.isError <;> norm_num

theorem foldl_loss (lost : ℚ) (diagnostics : List Diagnostic) :
    diagnostics.foldl (fun lost d => lost + loss d) lost =
      lost + total penalty diagnostics / 4 := by
  induction diagnostics generalizing lost with
  | nil => simp
  | cons d rest ih =>
    rw [List.foldl_cons, ih, loss_eq, total_cons]
    push_cast
    ring

/-- Counting in quarters, and cutting off below nothing only, loses no part of a point. -/
theorem pointsLeft_eq (diagnostics : List Diagnostic) :
    pointsLeft diagnostics = quarters diagnostics / 4 := by
  have hlost : (0 : ℚ) ≤ total penalty diagnostics / 4 := by positivity
  unfold pointsLeft quarters perfect
  rw [foldl_loss, zero_add, min_eq_right (sub_le_self _ hlost)]
  rcases Nat.le_total (total penalty diagnostics) (4 * 100) with hle | hle
  · have hleft : (total penalty diagnostics : ℚ) ≤ 4 * 100 := by exact_mod_cast hle
    rw [Nat.cast_sub hle, max_eq_right]
    · push_cast
      ring
    · push_cast
      linarith
  · have hnone : (4 * 100 : ℚ) ≤ total penalty diagnostics := by exact_mod_cast hle
    rw [Nat.sub_eq_zero_of_le hle, max_eq_left]
    · simp
    · push_cast
      linarith

/-- The score is what is left, rounded to the nearest whole number, a half upwards. -/
theorem floor_pointsLeft (diagnostics : List Diagnostic) :
    ⌊pointsLeft diagnostics + 1 / 2⌋ = (ofDiagnostics diagnostics).score := by
  have hquarters : pointsLeft diagnostics + 1 / 2 =
      ((quarters diagnostics + 2 : ℤ) : ℚ) / (4 : ℕ) := by
    rw [pointsLeft_eq]
    push_cast
    ring
  rw [hquarters, Rat.floor_intCast_div_natCast]
  rfl

/-! ### The formula -/

theorem score_eq (diagnostics : List Diagnostic) : (ofDiagnostics diagnostics).score =
    ((402 - 3 * (2 * diagnostics.countP (·.isError) +
      diagnostics.countP (!·.isError))) / 4 : ℕ) := by
  change ((roundQuarters (quarters diagnostics) : ℕ) : ℤ) = _
  unfold roundQuarters quarters perfect
  rw [total_penalty]
  omega

theorem ofDiagnostics_of_perm (hperm : more.Perm diagnostics) :
    ofDiagnostics more = ofDiagnostics diagnostics := by
  have hquarters : quarters more = quarters diagnostics := by
    unfold quarters
    rw [total_penalty, total_penalty, hperm.countP_eq, hperm.countP_eq]
  unfold ofDiagnostics
  rw [hquarters]

theorem score_le_hundred (diagnostics : List Diagnostic) :
    (ofDiagnostics diagnostics).score ≤ 100 := by
  rw [score_eq]
  omega

section Added

variable {before after : List Diagnostic} {d : Diagnostic}

/-- Wherever a finding is added, an error counts twice and any other finding once. -/
theorem score_added (before after : List Diagnostic) (d : Diagnostic) :
    (ofDiagnostics (before ++ d :: after)).score =
      ((402 - 3 * (2 * (before ++ after).countP (·.isError) +
        (before ++ after).countP (!·.isError) + if d.isError then 2 else 1)) / 4 : ℕ) := by
  rw [ofDiagnostics_of_perm List.perm_middle, score_eq, List.countP_cons, List.countP_cons]
  cases d.isError with
  | true =>
    rw [if_pos rfl, if_neg (by decide), if_pos rfl]
    omega
  | false =>
    rw [if_neg Bool.false_ne_true, if_pos Bool.not_false, if_neg Bool.false_ne_true]
    omega

/-- One more error takes one point or two, as long as there are any. -/
theorem score_added_error (herror : d.isError = true) :
    let score := (ofDiagnostics (before ++ after)).score
    let next := (ofDiagnostics (before ++ d :: after)).score
    (0 < score → next = score - 1 ∨ next = score - 2) ∧ (score = 0 → next = 0) := by
  rw [score_added, herror, if_pos rfl, score_eq]
  omega

theorem score_added_other (herror : d.isError = false) :
    let score := (ofDiagnostics (before ++ after)).score
    let next := (ofDiagnostics (before ++ d :: after)).score
    next = score ∨ next = score - 1 := by
  rw [score_added, herror, if_neg Bool.false_ne_true, score_eq]
  omega

end Added

/-! ### Health -/

def Health.rank : Health → Nat
  | good => 2
  | fair => 1
  | poor => 0

theorem rank_health_mono {score greater : Int} (hle : score ≤ greater) :
    (health score).rank ≤ (health greater).rank := by
  unfold health goodThreshold fairThreshold
  split_ifs <;> first | omega | decide

/-- The score is one formula in the number of errors and that of all other findings, and that
formula is what is left of the points, rounded. So it lies between nought and a hundred, and the
order of the findings does not matter; more findings, wherever they are added, leave no greater
score and no better health; and one more error takes one or two points, one more other finding none
or one, until there are none left. -/
theorem ofDiagnostics_in_closed_form (diagnostics : List Diagnostic) :
    let score := (ofDiagnostics diagnostics).score
    score = ((402 - 3 * (2 * diagnostics.countP (·.isError) +
      diagnostics.countP (!·.isError))) / 4 : ℕ) ∧
    score = ⌊pointsLeft diagnostics + 1 / 2⌋ ∧
    (0 ≤ score ∧ score ≤ 100) ∧
    (ofDiagnostics diagnostics).label = (health score).label ∧
    (∀ other, other.Perm diagnostics → ofDiagnostics other = ofDiagnostics diagnostics) ∧
    (∀ more, diagnostics.Sublist more → (ofDiagnostics more).score ≤ score ∧
      (health (ofDiagnostics more).score).rank ≤ (health score).rank) ∧
    ∀ before after d, before ++ after = diagnostics →
      let next := (ofDiagnostics (before ++ d :: after)).score
      (d.isError = true →
        (0 < score → next = score - 1 ∨ next = score - 2) ∧ (score = 0 → next = 0)) ∧
      (d.isError = false → next = score ∨ next = score - 1) := by
  intro score
  refine ⟨score_eq diagnostics, (floor_pointsLeft diagnostics).symm,
    ⟨Int.natCast_nonneg _, score_le_hundred diagnostics⟩, rfl,
    fun other hperm => ofDiagnostics_of_perm hperm, fun more hmore => ?_, ?_⟩
  · have hscore : (ofDiagnostics more).score ≤ score := le_of_sublist hmore
    exact ⟨hscore, rank_health_mono hscore⟩
  · rintro before after d rfl
    exact ⟨score_added_error, score_added_other⟩

/-- One error leaves 98 points and a half, which counts as 99. -/
example : (ofDiagnostics [{ (default : Diagnostic) with severity := .error }]).score = 99 := by
  decide

end Checkup.Score
