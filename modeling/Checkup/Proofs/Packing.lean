import Checkup.Lint.Batch

/-!
# The fewest batches

A packing cuts a list of paths into batches, in order, so that several paths are in one batch only
if they fit beside the base arguments. Filling each batch as far as the limit allows is a packing,
and no other one has fewer batches: wherever another one closes a batch, this one has come at least
as far.
-/

namespace Checkup.Lint.Batch

/-- The batches are the paths cut into pieces, each of one path or short enough to stand behind base
arguments of the given length. -/
structure IsPacking (base : Nat) (limit : Int) (paths : List String)
    (batches : List (List String)) : Prop where
  flatten : batches.flatten = paths
  ne_nil : ∀ batch ∈ batches, batch ≠ []
  fits : ∀ batch ∈ batches, 2 ≤ batch.length → ↑(base + length batch) ≤ limit

theorem length_append (arguments more : List String) :
    length (arguments ++ more) = length arguments + length more :=
  total_append cost arguments more

theorem length_singleton (argument : String) : length [argument] = cost argument := rfl

section Packing

variable {base : Nat} {limit : Int} {opened paths rest : List String} {used : Nat} {path : String}
  {batches : List (List String)}

theorem IsPacking.tail {batch : List String}
    (hpacking : IsPacking base limit paths (batch :: batches)) :
    IsPacking base limit batches.flatten batches where
  flatten := rfl
  ne_nil := (List.forall_mem_cons.1 hpacking.ne_nil).2
  fits := (List.forall_mem_cons.1 hpacking.fits).2

/-! ### Packing in order -/

/-- With the length counted right so far, and room for what is open, every batch has a path and each
of several paths fits. -/
theorem forall_mem_pack (hused : used = base + length opened)
    (hfits : 2 ≤ opened.length → ↑used ≤ limit) :
    ∀ batch ∈ pack base limit opened used paths,
      batch ≠ [] ∧ (2 ≤ batch.length → ↑(base + length batch) ≤ limit) := by
  induction paths generalizing opened used with
  | nil =>
    cases opened with
    | nil => exact List.forall_mem_nil _
    | cons first others => exact List.forall_mem_singleton.2 ⟨List.cons_ne_nil _ _, hused ▸ hfits⟩
  | cons path rest ih =>
    unfold pack
    split
    · rename_i hfull
      have hopened : opened ≠ [] := by
        rintro rfl
        simp at hfull
      refine List.forall_mem_cons.2 ⟨⟨hopened, hused ▸ hfits⟩, ?_⟩
      exact ih rfl fun hseveral => absurd hseveral (by simp)
    · rename_i hroom
      refine ih ?_ fun hseveral => ?_
      · rw [length_append, length_singleton, hused, Nat.add_assoc]
      · have hopened : opened.isEmpty = false := by
          cases opened with
          | nil => simp at hseveral
          | cons first others => rfl
        simpa [hopened] using hroom

theorem isPacking_ofPaths (base : List String) (limit : Int) (paths : List String) :
    IsPacking (length base) limit paths (ofPaths base limit paths) := by
  have hbatches : ∀ batch ∈ ofPaths base limit paths, _ :=
    forall_mem_pack rfl fun hseveral => absurd hseveral (by simp)
  exact ⟨flatten_ofPaths base limit paths, fun batch hbatch => (hbatches batch hbatch).1,
    fun batch hbatch => (hbatches batch hbatch).2⟩

/-! ### No fewer batches -/

/-- Where a path does not fit to what is open, no packing that has begun earlier can have come past
what is open with its first batch. -/
theorem IsPacking.exists_of_full {earlier first : List String}
    (hpacking : IsPacking base limit (earlier ++ opened ++ path :: rest) (first :: batches))
    (hopened : opened ≠ []) (hfull : limit < ↑(base + length opened + cost path)) :
    ∃ left, IsPacking base limit (left ++ [path] ++ rest) batches := by
  have htail := hpacking.tail
  have hflatten : first ++ batches.flatten = (earlier ++ opened) ++ path :: rest :=
    hpacking.flatten
  rcases List.append_eq_append_iff.1 hflatten with ⟨left, -, hleft⟩ | ⟨past, hpast, hrest⟩
  · refine ⟨left, ?_⟩
    rwa [hleft, List.append_cons] at htail
  cases past with
  | nil =>
    refine ⟨[], ?_⟩
    rwa [← List.nil_append batches.flatten, ← hrest] at htail
  | cons next others =>
    -- the first batch would hold all that is open and the path, which is more than fits
    obtain ⟨rfl, -⟩ := List.cons.inj hrest
    have hseveral : 2 ≤ first.length := by
      have := List.length_pos_iff.2 hopened
      simp only [hpast, List.length_append, List.length_cons]
      omega
    have hfits := hpacking.fits first List.mem_cons_self hseveral
    have hlength : length first =
        length earlier + length opened + (cost path + length others) := by
      rw [hpast, length_append, length_append]
      rfl
    omega

/-- What is open may be the end only of what another packing has still to cut up: even so that one
makes no fewer batches. -/
theorem length_pack_le (hused : used = base + length opened) (earlier : List String)
    (hbatches : IsPacking base limit (earlier ++ opened ++ paths) batches) :
    (pack base limit opened used paths).length ≤ batches.length := by
  induction paths generalizing opened used earlier batches with
  | nil =>
    cases opened with
    | nil => exact Nat.zero_le _
    | cons first others =>
      cases batches with
      | nil => exact absurd hbatches.flatten (by simp)
      | cons batch batches => exact Nat.succ_le_succ (Nat.zero_le _)
  | cons path rest ih =>
    unfold pack
    split
    · rename_i hfull
      rw [Bool.and_eq_true, decide_eq_true_eq, hused] at hfull
      obtain ⟨hopened, hfull⟩ := hfull
      have hopened : opened ≠ [] := by simpa using hopened
      cases batches with
      | nil => exact absurd hbatches.flatten (by simp)
      | cons first batches =>
        obtain ⟨left, hleft⟩ := hbatches.exists_of_full hopened hfull
        exact Nat.succ_le_succ (ih rfl left hleft)
    · refine ih ?_ earlier ?_
      · rw [length_append, length_singleton, hused, Nat.add_assoc]
      · rwa [List.append_cons, List.append_assoc earlier] at hbatches

end Packing

/-- The batches are the paths in their order, none is empty, each of several paths fits beside the
base arguments, and no other way to cut up the paths like that needs fewer batches. -/
theorem isPacking_ofPaths_least (base : List String) (limit : Int) (paths : List String) :
    IsPacking (length base) limit paths (ofPaths base limit paths) ∧
    ∀ batches, IsPacking (length base) limit paths batches →
      (ofPaths base limit paths).length ≤ batches.length :=
  ⟨isPacking_ofPaths base limit paths, fun _ hbatches => length_pack_le rfl [] hbatches⟩

/-- A path that is too long has a batch of its own, and the next two share one. -/
example : ofPaths ["lint"] 12 ["src/Table.tsx", "a.ts", "b"] =
    [["src/Table.tsx"], ["a.ts", "b"]] := by decide

end Checkup.Lint.Batch
