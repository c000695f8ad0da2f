import Checkup.Console.Device
import Checkup.Proofs.Run

/-!
# What markup shows

A text that nobody protected is read as markup like the rest of its line. It is shown as it is
exactly when it is plain: no tag stands in it, and no bracket behind a backslash
(`visible_eq_self_iff`). A line of texts with tags between them shows its texts exactly when each is
plain and none that a tag follows ends in a backslash (`visible_weave_iff`), whatever the tags are.
What the console prints of such a line follows from that by what it is relied on to do with ordinary
lines (`Console.ReadsMarkup`), which the plain console does.
-/

namespace Checkup

namespace Markup

/-! ### Tags -/

/-- The inside of a tag, which begins like one and has no bracket in it. -/
def IsTagBody (body : List Char) : Prop :=
  body.head?.any beginsTag = true ∧ '[' ∉ body ∧ ']' ∉ body

instance (body : List Char) : Decidable (IsTagBody body) :=
  inferInstanceAs (Decidable (_ ∧ _ ∧ _))

def written (body : List Char) : List Char :=
  '[' :: body ++ [']']

variable {cs a b body rest : List Char} {n : Nat}

theorem tagBody_eq_some_iff :
    tagBody cs = some (body, rest) ↔ cs = body ++ ']' :: rest ∧ '[' ∉ body ∧ ']' ∉ body := by
  induction cs generalizing body with
  | nil => simp [tagBody]
  | cons c more ih =>
    unfold tagBody
    by_cases hclose : c = ']'
    · subst hclose
      rw [if_pos (by decide)]
      constructor
      · rintro ⟨⟩
        exact ⟨rfl, by simp, by simp⟩
      · rintro ⟨heq, -, hnone⟩
        cases body with
        | nil =>
          cases heq
          rfl
        | cons first others =>
          cases heq
          exact absurd List.mem_cons_self hnone
    rw [if_neg (by simpa using hclose)]
    by_cases hopen : c = '['
    · subst hopen
      rw [if_pos (by decide)]
      refine ⟨nofun, fun ⟨heq, hnone, _⟩ => ?_⟩
      cases body with
      | nil => cases heq
      | cons first others =>
        cases heq
        exact absurd List.mem_cons_self hnone
    rw [if_neg (by simpa using hopen), Option.map_eq_some_iff]
    constructor
    · rintro ⟨⟨inside, after⟩, hfound, heq⟩
      cases heq
      obtain ⟨rfl, hnone⟩ := ih.1 hfound
      exact ⟨rfl, by simpa [Ne.symm hopen, Ne.symm hclose] using hnone⟩
    · rintro ⟨heq, hnone⟩
      cases body with
      | nil =>
        cases heq
        exact absurd rfl hclose
      | cons first others =>
        cases heq
        exact ⟨(others, rest),
          ih.2 ⟨rfl, by simpa [Ne.symm hopen, Ne.symm hclose] using hnone⟩, rfl⟩

theorem replicate_append_drop (cs : List Char) :
    List.replicate (cs.takeWhile (· == '\\')).length '\\' ++
      cs.drop (cs.takeWhile (· == '\\')).length = cs := by
  induction cs with
  | nil => rfl
  | cons c more ih =>
    by_cases hc : c = '\\'
    · subst hc
      simpa [List.takeWhile_cons, List.replicate_succ] using ih
    · simp [hc]

/-- The tag at the start of a text, by what the text is made of. -/
theorem tag?_eq_some_iff : tag? cs = some ⟨n, body, rest⟩ ↔
    cs = List.replicate n '\\' ++ (written body ++ rest) ∧ IsTagBody body := by
  unfold tag? IsTagBody written
  constructor
  · intro htag
    have hcs := replicate_append_drop cs
    dsimp only at htag
    split at htag
    · rename_i c more hdrop
      rw [hdrop] at hcs
      split at htag
      · rename_i hbegins
        obtain ⟨⟨found, left⟩, hbody, heq⟩ := Option.map_eq_some_iff.1 htag
        cases heq
        obtain ⟨hmore, hopen, hclose⟩ := tagBody_eq_some_iff.1 hbody
        refine ⟨?_, ?_, hopen, hclose⟩
        · rw [hmore] at hcs
          simpa using hcs.symm
        · cases found with
          | nil =>
            cases hmore
            cases hbegins
          | cons first others =>
            cases hmore
            exact hbegins
      · cases htag
    · cases htag
  · rintro ⟨rfl, hbegins, hopen, hclose⟩
    cases body with
    | nil => cases hbegins
    | cons c inside =>
      have hbody : tagBody (c :: (inside ++ ']' :: rest)) = some (c :: inside, rest) :=
        tagBody_eq_some_iff.2 ⟨rfl, hopen, hclose⟩
      replace hbegins : beginsTag c = true := hbegins
      simp [hbegins, hbody]

theorem tag?_written (hbody : IsTagBody body) (rest : List Char) :
    tag? (written body ++ rest) = some ⟨0, body, rest⟩ :=
  tag?_eq_some_iff.2 ⟨rfl, hbody⟩

theorem tag?_cons_backslash (hnone : tag? ('\\' :: cs) = none) : tag? cs = none := by
  cases htag : tag? cs with
  | none => rfl
  | some found =>
    obtain ⟨hcs, hbody⟩ := tag?_eq_some_iff.1 htag
    have hlonger : tag? ('\\' :: cs) = some ⟨found.escapes + 1, found.body, found.rest⟩ :=
      tag?_eq_some_iff.2 ⟨by rw [hcs]; rfl, hbody⟩
    cases hnone.symm.trans hlonger

theorem tag?_append_of_eq_some (htag : tag? a = some ⟨n, body, rest⟩) (b : List Char) :
    tag? (a ++ b) = some ⟨n, body, rest ++ b⟩ := by
  obtain ⟨rfl, hbody⟩ := tag?_eq_some_iff.1 htag
  exact tag?_eq_some_iff.2 ⟨by simp, hbody⟩

/-- A backslash at the end protects what follows from being a tag. -/
def EndsInBackslash (cs : List Char) : Prop :=
  ['\\'] <:+ cs

instance (cs : List Char) : Decidable (EndsInBackslash cs) :=
  inferInstanceAs (Decidable (_ <:+ _))

theorem EndsInBackslash.of_suffix (hends : EndsInBackslash a) (hsuffix : a <:+ b) :
    EndsInBackslash b :=
  hends.trans hsuffix

theorem endsInBackslash_of_backslashes (hsome : a ≠ []) (hbegins : a <+: List.replicate n '\\') :
    EndsInBackslash a := by
  refine ⟨a.dropLast, ?_⟩
  rw [← List.eq_of_mem_replicate (hbegins.subset (List.getLast_mem hsome))]
  exact List.dropLast_concat_getLast hsome

/-- No tag reaches over an opening bracket, unless backslashes lead up to it. -/
theorem tag?_append_of_eq_none (hnone : tag? a = none) (hsome : a ≠ [])
    (hlast : ¬ EndsInBackslash a) (b : List Char) : tag? (a ++ '[' :: b) = none := by
  cases htag : tag? (a ++ '[' :: b) with
  | none => rfl
  | some found =>
    obtain ⟨n, body, rest⟩ := found
    obtain ⟨hcs, hbody⟩ := tag?_eq_some_iff.1 htag
    have hwhole : ∀ more, a ≠ List.replicate n '\\' ++ (written body ++ more) := by
      intro more ha
      cases hnone.symm.trans (tag?_eq_some_iff.2 ⟨ha, hbody⟩)
    obtain ⟨more, hmore, -⟩ | ⟨start, hstart, hrest⟩ := List.append_eq_append_iff.1 hcs
    · exact absurd (endsInBackslash_of_backslashes hsome ⟨more, hmore.symm⟩) hlast
    obtain ⟨more, hmore, hbracket⟩ | ⟨inside, hinside, -⟩ := List.append_eq_append_iff.1 hrest.symm
    · cases start with
      | nil => exact absurd (endsInBackslash_of_backslashes hsome ⟨[], by simpa using hstart⟩) hlast
      | cons first others =>
        cases more with
        | nil => exact absurd (by rw [hstart, hmore]; simp) (hwhole [])
        | cons x more =>
          -- the bracket would be one inside the tag
          obtain ⟨rfl, -⟩ := List.cons.inj hbracket
          have hinside : body ++ [']'] = others ++ '[' :: more := (List.cons.inj hmore).2
          have hmem : '[' ∈ body ++ [']'] := by simp [hinside]
          exact absurd (by simpa using hmem) hbody.2.1
    · exact absurd (by rw [hstart, hinside]) (hwhole inside)

/-! ### What a text shows -/

/-- The parts of a text, `pending` being the plain text before it, backwards. -/
def partsAfter (pending cs : List Char) : List Part :=
  partsFrom pending (cs.length + 1) cs

theorem length_rest_lt (htag : tag? cs = some ⟨n, body, rest⟩) : rest.length < cs.length := by
  obtain ⟨rfl, -⟩ := tag?_eq_some_iff.1 htag
  simp [written]
  omega

variable {pending : List Char}

theorem partsFrom_congr {fuel fuel' : Nat} (hfuel : cs.length < fuel) (hfuel' : cs.length < fuel') :
    partsFrom pending fuel cs = partsFrom pending fuel' cs := by
  induction fuel generalizing fuel' pending cs with
  | zero => omega
  | succ fuel ih =>
    obtain ⟨fuel', rfl⟩ := Nat.exists_eq_add_one_of_ne_zero (Nat.ne_zero_of_lt hfuel')
    cases cs with
    | nil => rfl
    | cons c more =>
      rw [List.length_cons, Nat.add_lt_add_iff_right] at hfuel hfuel'
      unfold partsFrom
      dsimp only
      split
      · exact ih hfuel hfuel'
      · rename_i found hfound
        have hless := length_rest_lt hfound
        rw [List.length_cons] at hless
        have hrest : partsFrom [] fuel found.rest = partsFrom [] fuel' found.rest :=
          ih (by omega) (by omega)
        rw [hrest]

theorem partsAfter_nil : partsAfter pending [] = [.plain pending.reverse] := rfl

theorem partsAfter_of_eq_none {c : Char} (hnone : tag? (c :: cs) = none) :
    partsAfter pending (c :: cs) = partsAfter (c :: pending) cs := by
  unfold partsAfter
  rw [partsFrom]
  simp only [hnone]
  rfl

/-- What a tag becomes: an odd number of backslashes makes it text. -/
def partOf (n : Nat) (body : List Char) : Part :=
  if n % 2 == 1 then .literal (written body) else .tag body

theorem partsAfter_of_eq_some (htag : tag? cs = some ⟨n, body, rest⟩) :
    partsAfter pending cs = .plain pending.reverse :: .literal (List.replicate (n / 2) '\\') ::
      partOf n body :: parts rest := by
  cases cs with
  | nil => cases htag
  | cons c more =>
    have hless := length_rest_lt htag
    rw [List.length_cons] at hless
    have hrest : partsFrom [] (c :: more).length rest = parts rest :=
      partsFrom_congr (by simpa using hless) (Nat.lt_succ_self _)
    unfold partsAfter
    rw [partsFrom]
    simp only [htag]
    rw [hrest]
    rfl

/-- A text is read by a character where no tag begins, and else by a whole tag. -/
theorem reading {motive : List Char → List Char → Prop} (done : ∀ pending, motive pending [])
    (plain : ∀ pending c cs, tag? (c :: cs) = none → motive (c :: pending) cs →
      motive pending (c :: cs))
    (tag : ∀ pending cs n body rest, tag? cs = some ⟨n, body, rest⟩ → motive [] rest →
      motive pending cs) (pending cs : List Char) : motive pending cs := by
  induction hlength : cs.length using Nat.strongRecOn generalizing pending cs with
  | ind length ih =>
    subst hlength
    cases cs with
    | nil => exact done pending
    | cons c more =>
      cases htag : tag? (c :: more) with
      | none => exact plain pending c more htag (ih _ (by simp) _ _ rfl)
      | some found => exact tag pending _ _ _ _ htag (ih _ (length_rest_lt htag) _ _ rfl)

/-- The text that the parts show when their tags can be followed. -/
def textOf : List Part → List Char
  | [] => []
  | .plain text :: rest => shown text ++ textOf rest
  | .literal text :: rest => text ++ textOf rest
  | .tag _ :: rest => textOf rest

def visible (cs : List Char) : List Char :=
  textOf (parts cs)

theorem textOf_partsAfter_nil : textOf (partsAfter pending []) = shown pending.reverse := by
  simp [partsAfter_nil, textOf]

theorem textOf_partsAfter_of_eq_some (htag : tag? cs = some ⟨n, body, rest⟩) :
    textOf (partsAfter pending cs) = shown pending.reverse ++
      (List.replicate (n / 2) '\\' ++ ((if n % 2 == 1 then written body else []) ++ visible rest)) := by
  rw [partsAfter_of_eq_some htag]
  unfold partOf visible
  split <;> rfl

theorem shown_append (hlast : ¬ EndsInBackslash a) (b : List Char) :
    shown (a ++ b) = shown a ++ shown b := by
  fun_induction shown a with
  | case1 => rfl
  | case2 more ih =>
    have hmore : ¬ EndsInBackslash more := fun h => hlast (h.of_suffix ⟨['\\', '['], rfl⟩)
    rw [List.cons_append, List.cons_append, shown, ih hmore, List.cons_append]
  | case3 c more hother ih =>
    have hnone : ∀ rest, c = '\\' → more ++ b = '[' :: rest → False := by
      rintro rest rfl hrest
      cases more with
      | nil => exact hlast (List.suffix_refl _)
      | cons x others =>
        cases hrest
        exact hother _ rfl rfl
    have hmore : ¬ EndsInBackslash more := fun h => hlast (h.of_suffix (List.suffix_cons _ _))
    rw [List.cons_append, shown, ih hmore, List.cons_append]
    exact hnone

theorem shown_sublist (cs : List Char) : (shown cs).Sublist cs := by
  fun_induction shown cs with
  | case1 => exact .slnil
  | case2 more ih => exact (ih.cons_cons _).cons _
  | case3 c more hother ih => exact ih.cons_cons _

theorem shown_eq_self (hescape : ¬ ['\\', '['] <:+: cs) : shown cs = cs := by
  fun_induction shown cs with
  | case1 => rfl
  | case2 more ih => exact absurd ⟨[], more, rfl⟩ hescape
  | case3 c more hother ih =>
    rw [ih fun h => hescape (h.trans (List.suffix_cons c more).isInfix)]

theorem count_shown_lt (hescape : ['\\', '['] <:+: cs) : (shown cs).count '\\' < cs.count '\\' := by
  fun_induction shown cs with
  | case1 => simp at hescape
  | case2 more ih =>
    have hless := (shown_sublist more).count_le '\\'
    simp
    omega
  | case3 c more hother ih =>
    obtain hbegins | hwithin := List.infix_cons_iff.1 hescape
    · obtain ⟨rest, hrest⟩ := hbegins
      cases hrest
      exact absurd rfl (hother rest rfl)
    · have hless := ih hwithin
      rw [List.count_cons, List.count_cons]
      omega

theorem not_protected_of_notMem (hopen : '[' ∉ cs) : ¬ ['\\', '['] <:+: cs :=
  fun h => hopen (h.subset (by simp))

theorem shown_bracket (cs : List Char) : shown ('[' :: cs) = '[' :: shown cs := by
  rw [shown]
  intro _ h
  cases h

theorem shown_written (hbody : IsTagBody body) (rest : List Char) :
    shown (written body ++ rest) = written body ++ shown rest := by
  have hinside : '[' ∉ body ++ [']'] := by simpa using hbody.2.1
  have hends : ¬ EndsInBackslash ('[' :: (body ++ [']'])) := by
    rintro ⟨start, hstart⟩
    have hlast : start ++ ['\\'] = ('[' :: body) ++ [']'] := hstart
    exact absurd (List.append_inj' hlast rfl).2 (by decide)
  calc shown ('[' :: (body ++ [']']) ++ rest) = '[' :: shown (body ++ [']']) ++ shown rest := by
        rw [shown_append hends, shown_bracket]
    _ = written body ++ shown rest := by
        rw [shown_eq_self (not_protected_of_notMem hinside)]
        rfl

/-- The backslashes in front of a tag protect its bracket, so that one of them is lost. -/
theorem shown_tag (hbody : IsTagBody body) (n : Nat) (rest : List Char) :
    shown (List.replicate n '\\' ++ (written body ++ rest)) =
      List.replicate (n - 1) '\\' ++ (written body ++ shown rest) := by
  induction n with
  | zero => exact shown_written hbody rest
  | succ n ih =>
    cases n with
    | zero => exact (shown_bracket _).symm.trans (shown_written hbody rest)
    | succ n =>
      rw [List.replicate_succ, List.cons_append, shown, ih]
      · rfl
      · intro _ _ h
        cases h

/-- A text shows no more than what is left when the protected brackets have lost their
backslashes. -/
theorem textOf_partsAfter_sublist (hpending : pending.head? = some '\\' → tag? cs = none) :
    (textOf (partsAfter pending cs)).Sublist (shown (pending.reverse ++ cs)) := by
  induction pending, cs using reading with
  | done pending => simp [textOf_partsAfter_nil]
  | plain pending c cs hnone ih =>
    rw [partsAfter_of_eq_none hnone]
    simpa using ih fun hc => tag?_cons_backslash (by simpa [Option.some.inj hc] using hnone)
  | tag pending cs n body rest htag ih =>
    obtain ⟨rfl, hbody⟩ := tag?_eq_some_iff.1 htag
    have hlast : ¬ EndsInBackslash pending.reverse := by
      intro hends
      obtain ⟨more, rfl⟩ : ['\\'] <+: pending := List.reverse_suffix.1 hends
      cases htag.symm.trans (hpending rfl)
    rw [textOf_partsAfter_of_eq_some htag, shown_append hlast, shown_tag hbody]
    refine (List.Sublist.refl _).append (.append ?_ (.append ?_ ?_))
    · exact (List.replicate_sublist_replicate _).2 (by omega)
    · split
      · exact .refl _
      · exact List.nil_sublist _
    · exact ih nofun

theorem visible_sublist_shown (cs : List Char) : (visible cs).Sublist (shown cs) :=
  textOf_partsAfter_sublist nofun

theorem visible_sublist (cs : List Char) : (visible cs).Sublist cs :=
  (visible_sublist_shown cs).trans (shown_sublist cs)

/-- Plain text that was set aside is shown in front of the rest. -/
theorem textOf_partsAfter_append (hlast : ¬ EndsInBackslash pending.reverse) (recent : List Char)
    (cs : List Char) : textOf (partsAfter (recent ++ pending) cs) =
      shown pending.reverse ++ textOf (partsAfter recent cs) := by
  induction recent, cs using reading with
  | done recent => simp [textOf_partsAfter_nil, shown_append hlast]
  | plain recent c cs hnone ih =>
    rw [partsAfter_of_eq_none hnone, partsAfter_of_eq_none hnone]
    exact ih
  | tag recent cs n body rest htag ih =>
    rw [textOf_partsAfter_of_eq_some htag, textOf_partsAfter_of_eq_some htag, List.reverse_append,
      shown_append hlast, List.append_assoc]

/-- What is shown of a text up to an opening bracket does not depend on what follows. -/
theorem textOf_partsAfter_bracket (pending : List Char)
    (hlast : ¬ EndsInBackslash (pending.reverse ++ a)) (b : List Char) :
    textOf (partsAfter pending (a ++ '[' :: b)) =
      textOf (partsAfter pending a) ++ visible ('[' :: b) := by
  induction pending, a using reading with
  | done pending =>
    rw [List.append_nil] at hlast
    rw [List.nil_append, ← List.nil_append pending, textOf_partsAfter_append hlast,
      textOf_partsAfter_nil]
    rfl
  | plain pending c a hnone ih =>
    have hends : ¬ EndsInBackslash (c :: a) := fun h => hlast (h.of_suffix (List.suffix_append _ _))
    have hlonger := tag?_append_of_eq_none hnone (by simp) hends b
    rw [List.cons_append] at hlonger ⊢
    rw [partsAfter_of_eq_none hlonger, partsAfter_of_eq_none hnone]
    exact ih (by simpa using hlast)
  | tag pending a n body rest htag ih =>
    have hends : ¬ EndsInBackslash rest := by
      obtain ⟨rfl, -⟩ := tag?_eq_some_iff.1 htag
      exact fun h => hlast (h.of_suffix ⟨pending.reverse ++ (List.replicate n '\\' ++ written body),
        by simp⟩)
    rw [textOf_partsAfter_of_eq_some htag,
      textOf_partsAfter_of_eq_some (tag?_append_of_eq_some htag _)]
    have hrest : visible (rest ++ '[' :: b) = visible rest ++ visible ('[' :: b) := ih hends
    rw [hrest]
    simp

theorem visible_append_bracket (hlast : ¬ EndsInBackslash a) (b : List Char) :
    visible (a ++ '[' :: b) = visible a ++ visible ('[' :: b) :=
  textOf_partsAfter_bracket [] hlast b

theorem visible_written (hbody : IsTagBody body) (rest : List Char) :
    visible (written body ++ rest) = visible rest := by
  change textOf (partsAfter [] (written body ++ rest)) = visible rest
  rw [textOf_partsAfter_of_eq_some (tag?_written hbody rest)]
  rfl

theorem visible_append_written (hlast : ¬ EndsInBackslash a) (hbody : IsTagBody body)
    (rest : List Char) : visible (a ++ (written body ++ rest)) = visible a ++ visible rest := by
  rw [← visible_written hbody rest]
  exact visible_append_bracket hlast _

/-! ### Plain texts -/

/-- A text that markup takes as it is: no tag stands in it, and no bracket behind a backslash. -/
structure IsPlain (cs : List Char) : Prop where
  noTag : ∀ body, IsTagBody body → ¬ written body <:+: cs
  noEscape : ¬ ['\\', '['] <:+: cs

namespace IsPlain

theorem of_infix (hplain : IsPlain b) (hwithin : a <:+: b) : IsPlain a :=
  ⟨fun body hbody h => hplain.noTag body hbody (h.trans hwithin),
    fun h => hplain.noEscape (h.trans hwithin)⟩

theorem tag?_eq_none (hplain : IsPlain cs) : tag? cs = none := by
  cases htag : tag? cs with
  | none => rfl
  | some found =>
    obtain ⟨hcs, hbody⟩ := tag?_eq_some_iff.1 htag
    exact absurd ⟨_, _, by rw [hcs, List.append_assoc]⟩ (hplain.noTag _ hbody)

theorem partsAfter_eq (hplain : IsPlain cs) :
    partsAfter pending cs = [.plain (pending.reverse ++ cs)] := by
  induction cs generalizing pending with
  | nil => simp [partsAfter_nil]
  | cons c more ih =>
    rw [partsAfter_of_eq_none hplain.tag?_eq_none,
      ih (hplain.of_infix (List.suffix_cons c more).isInfix)]
    simp

theorem partsAfter_append_written (hplain : IsPlain cs) (hlast : ¬ EndsInBackslash cs)
    (hbody : IsTagBody body) (rest : List Char) :
    partsAfter pending (cs ++ (written body ++ rest)) =
      .plain (pending.reverse ++ cs) :: .literal [] :: .tag body :: parts rest := by
  induction cs generalizing pending with
  | nil => simpa [partOf] using partsAfter_of_eq_some (tag?_written hbody rest)
  | cons c more ih =>
    have hnone := tag?_append_of_eq_none hplain.tag?_eq_none (by simp) hlast (body ++ [']'] ++ rest)
    have hstep : partsAfter pending (c :: more ++ (written body ++ rest)) =
        partsAfter (c :: pending) (more ++ (written body ++ rest)) := partsAfter_of_eq_none hnone
    rw [hstep, ih (hplain.of_infix (List.suffix_cons c more).isInfix)
      fun h => hlast (h.of_suffix (List.suffix_cons _ _))]
    simp

end IsPlain

theorem visible_eq_self_iff : visible cs = cs ↔ IsPlain cs := by
  constructor
  · intro hvisible
    have hescape : ¬ ['\\', '['] <:+: cs := by
      intro hwithin
      have hcount := (visible_sublist_shown cs).count_le '\\'
      have hless := count_shown_lt hwithin
      rw [hvisible] at hcount
      omega
    refine ⟨fun body hbody hwithin => ?_, hescape⟩
    obtain ⟨before, after, rfl⟩ := hwithin
    have hlast : ¬ EndsInBackslash before := by
      rintro ⟨start, rfl⟩
      exact hescape ⟨start, body ++ [']'] ++ after, by simp [written]⟩
    rw [List.append_assoc, visible_append_written hlast hbody] at hvisible
    have hlength := congrArg List.length hvisible
    have hbefore := (visible_sublist before).length_le
    have hafter := (visible_sublist after).length_le
    simp [written] at hlength
    omega
  · intro hplain
    have hparts : parts cs = [.plain cs] := hplain.partsAfter_eq
    simp [visible, hparts, textOf, shown_eq_self hplain.noEscape]

structure IsSafe (cs : List Char) : Prop extends IsPlain cs where
  noBackslash : ¬ EndsInBackslash cs

/-- Text without brackets and backslashes, next to which no text changes its meaning. -/
def IsNeutral (cs : List Char) : Prop :=
  '[' ∉ cs ∧ ']' ∉ cs ∧ '\\' ∉ cs

instance (cs : List Char) : Decidable (IsNeutral cs) :=
  inferInstanceAs (Decidable (_ ∧ _ ∧ _))

theorem infix_of_append_left {l : List Char} {c : Char} (hlast : c ∉ b)
    (hwithin : l ++ [c] <:+: a ++ b) : l ++ [c] <:+: a := by
  obtain ha | hb | ⟨l₁, l₂, hl, hsuffix, hbegins⟩ := List.infix_append_iff.1 hwithin
  · exact ha
  · exact absurd (hb.subset (by simp)) hlast
  · obtain rfl | ⟨start, x, rfl⟩ := List.eq_nil_or_concat l₂
    · rw [hl, List.append_nil]
      exact hsuffix.isInfix
    · rw [List.concat_eq_append, ← List.append_assoc] at hl
      obtain rfl : c = x := by simpa using (List.append_inj' hl rfl).2
      exact absurd (hbegins.subset (by simp)) hlast

theorem infix_of_append_right {l : List Char} {c : Char} (hfirst : c ∉ a)
    (hwithin : c :: l <:+: a ++ b) : c :: l <:+: b := by
  obtain ha | hb | ⟨l₁, l₂, hl, hsuffix, hbegins⟩ := List.infix_append_iff.1 hwithin
  · exact absurd (ha.subset (by simp)) hfirst
  · exact hb
  · cases l₁ with
    | nil =>
      rw [hl]
      exact hbegins.isInfix
    | cons x more =>
      obtain rfl : c = x := (List.cons.inj hl).1
      exact absurd (hsuffix.subset (by simp)) hfirst

theorem isPlain_append_iff (hneutral : IsNeutral b) : IsPlain (a ++ b) ↔ IsPlain a := by
  refine ⟨fun h => h.of_infix (List.prefix_append a b).isInfix, fun h => ⟨fun body hbody hwithin => ?_,
    fun hwithin => ?_⟩⟩
  · exact h.noTag body hbody (infix_of_append_left hneutral.2.1 hwithin)
  · exact h.noEscape (infix_of_append_left hneutral.1 (show ['\\'] ++ ['['] <:+: a ++ b from hwithin))

theorem isPlain_prepend_iff (hneutral : IsNeutral a) : IsPlain (a ++ b) ↔ IsPlain b := by
  refine ⟨fun h => h.of_infix (List.suffix_append a b).isInfix, fun h => ⟨fun body hbody hwithin => ?_,
    fun hwithin => ?_⟩⟩
  · exact h.noTag body hbody (infix_of_append_right hneutral.1 hwithin)
  · exact h.noEscape (infix_of_append_right hneutral.2.2 hwithin)

theorem isPlain_of_notMem (hopen : '[' ∉ cs) : IsPlain cs :=
  ⟨fun _ _ h => hopen (h.subset (by simp [written])), not_protected_of_notMem hopen⟩

theorem IsNeutral.isPlain (hneutral : IsNeutral cs) : IsPlain cs :=
  isPlain_of_notMem hneutral.1

theorem IsNeutral.not_endsInBackslash (hneutral : IsNeutral cs) : ¬ EndsInBackslash cs :=
  fun h => hneutral.2.2 (h.subset (by simp))

theorem IsNeutral.isSafe (hneutral : IsNeutral cs) : IsSafe cs :=
  ⟨hneutral.isPlain, hneutral.not_endsInBackslash⟩

theorem endsInBackslash_append_iff (hsome : b ≠ []) :
    EndsInBackslash (a ++ b) ↔ EndsInBackslash b := by
  refine ⟨fun hends => ?_, fun hends => hends.of_suffix (List.suffix_append a b)⟩
  obtain ⟨before, hbefore⟩ := hends
  obtain ⟨start, x, rfl⟩ := (List.eq_nil_or_concat b).resolve_left hsome
  rw [List.concat_eq_append, ← List.append_assoc] at hbefore
  exact ⟨start, by rw [(List.append_inj' hbefore rfl).2, List.concat_eq_append]⟩

/-- A text may stand in front of a tag when neutral text stands between them. -/
theorem isSafe_append_iff (hneutral : IsNeutral b) (hsome : b ≠ []) :
    IsSafe (a ++ b) ↔ IsPlain a := by
  refine ⟨fun h => (isPlain_append_iff hneutral).1 h.toIsPlain,
    fun h => ⟨(isPlain_append_iff hneutral).2 h, ?_⟩⟩
  rw [endsInBackslash_append_iff hsome]
  exact hneutral.not_endsInBackslash

theorem isSafe_prepend_iff (hneutral : IsNeutral a) : IsSafe (a ++ b) ↔ IsSafe b := by
  refine ⟨fun h => ⟨(isPlain_prepend_iff hneutral).1 h.toIsPlain,
    fun hends => h.noBackslash (hends.of_suffix (List.suffix_append a b))⟩,
    fun h => ⟨(isPlain_prepend_iff hneutral).2 h.toIsPlain, ?_⟩⟩
  cases b with
  | nil =>
    rw [List.append_nil]
    exact hneutral.not_endsInBackslash
  | cons c more =>
    rw [endsInBackslash_append_iff (by simp)]
    exact h.noBackslash

/-! ### Lines -/

/-- A line of markup: a text, and texts with a tag in front of each. -/
def weave (first : List Char) : List (List Char × List Char) → List Char
  | [] => first
  | (body, next) :: rest => first ++ (written body ++ weave next rest)

def texts (first : List Char) : List (List Char × List Char) → List Char
  | [] => first
  | (_, next) :: rest => first ++ texts next rest

def IsKept (first : List Char) : List (List Char × List Char) → Prop
  | [] => IsPlain first
  | (_, next) :: rest => IsSafe first ∧ IsKept next rest

/-- The tags of a line are tags, and have no backslash in them. -/
def AreTags (pieces : List (List Char × List Char)) : Prop :=
  ∀ piece ∈ pieces, IsTagBody piece.1 ∧ '\\' ∉ piece.1

variable {first : List Char} {pieces : List (List Char × List Char)}

theorem count_weave (htags : AreTags pieces) :
    (weave first pieces).count '\\' = (texts first pieces).count '\\' := by
  induction pieces generalizing first with
  | nil => rfl
  | cons piece rest ih =>
    obtain ⟨⟨-, hbody⟩, hrest⟩ := List.forall_mem_cons.1 htags
    simp [weave, texts, written, List.count_append, ih hrest, List.count_eq_zero.2 hbody]

theorem not_endsInBackslash_of_weave {next : List Char}
    (hescape : ¬ ['\\', '['] <:+: weave first ((body, next) :: pieces)) :
    ¬ EndsInBackslash first := by
  rintro ⟨start, rfl⟩
  exact hescape ⟨start, body ++ [']'] ++ weave next pieces, by simp [weave, written]⟩

/-- Where no bracket is protected, a line shows no more than its texts, and less unless it keeps
them. -/
theorem isKept_of_visible_weave (htags : AreTags pieces)
    (hescape : ¬ ['\\', '['] <:+: weave first pieces) :
    (visible (weave first pieces)).length ≤ (texts first pieces).length ∧
      (visible (weave first pieces) = texts first pieces → IsKept first pieces) := by
  induction pieces generalizing first with
  | nil => exact ⟨(visible_sublist first).length_le, visible_eq_self_iff.1⟩
  | cons piece rest ih =>
    obtain ⟨body, next⟩ := piece
    obtain ⟨⟨hbody, -⟩, hrest⟩ := List.forall_mem_cons.1 htags
    have hlast := not_endsInBackslash_of_weave hescape
    have hsuffix : weave next rest <:+ weave first ((body, next) :: rest) :=
      ⟨first ++ written body, by simp [weave]⟩
    obtain ⟨hless, hkept⟩ := ih hrest fun h => hescape (h.trans hsuffix.isInfix)
    have hfirst := (visible_sublist first).length_le
    rw [weave, texts, visible_append_written hlast hbody, List.length_append, List.length_append]
    refine ⟨by omega, fun hvisible => ?_⟩
    have hlength := congrArg List.length hvisible
    rw [List.length_append, List.length_append] at hlength
    obtain ⟨hplain, hnext⟩ := List.append_inj hvisible (by omega)
    exact ⟨⟨visible_eq_self_iff.1 hplain, hlast⟩, hkept hnext⟩

theorem visible_weave_of_isKept (htags : AreTags pieces) (hkept : IsKept first pieces) :
    visible (weave first pieces) = texts first pieces := by
  induction pieces generalizing first with
  | nil => exact visible_eq_self_iff.2 hkept
  | cons piece rest ih =>
    obtain ⟨⟨hbody, -⟩, hrest⟩ := List.forall_mem_cons.1 htags
    obtain ⟨hsafe, hnext⟩ := hkept
    rw [weave, texts, visible_append_written hsafe.noBackslash hbody,
      visible_eq_self_iff.2 hsafe.toIsPlain, ih hrest hnext]

/-- A line shows its texts exactly when it keeps them. A backslash in front of a tag would turn the
tag into text, but then there is one backslash less to be seen. -/
theorem visible_weave_iff (htags : AreTags pieces) :
    visible (weave first pieces) = texts first pieces ↔ IsKept first pieces := by
  refine ⟨fun hvisible => ?_, visible_weave_of_isKept htags⟩
  have hescape : ¬ ['\\', '['] <:+: weave first pieces := by
    intro hwithin
    have hcount := (visible_sublist_shown (weave first pieces)).count_le '\\'
    have hless := count_shown_lt hwithin
    rw [hvisible, ← count_weave htags] at hcount
    omega
  exact (isKept_of_visible_weave htags hescape).2 hvisible

/-! ### The tags of a line -/

def tagsOf : List Part → List (List Char)
  | [] => []
  | .plain _ :: rest => tagsOf rest
  | .literal _ :: rest => tagsOf rest
  | .tag body :: rest => body :: tagsOf rest

def tags (cs : List Char) : List (List Char) :=
  tagsOf (parts cs)

def isClosing (body : List Char) : Bool :=
  body.head? == some '/'

/-- Whether one of the tags closes when nothing is open, so many being open before them. -/
def overcloses : Nat → List (List Char) → Bool
  | _, [] => false
  | 0, body :: rest => isClosing body || overcloses 1 rest
  | opened + 1, body :: rest =>
    if isClosing body then overcloses opened rest else overcloses (opened + 2) rest

theorem overcloses_cons_of_isClosing {opened : Nat} (hcloses : isClosing body = true)
    (rest : List (List Char)) :
    overcloses (opened + 1) (body :: rest) = overcloses opened rest := by
  rw [overcloses, if_pos hcloses]

theorem overcloses_cons_of_not_isClosing (hopens : isClosing body = false) (opened : Nat)
    (rest : List (List Char)) :
    overcloses opened (body :: rest) = overcloses (opened + 1) rest := by
  cases opened <;> simp [overcloses, hopens]

def styles : List (List Char) :=
  ["dim".toList, "cyan".toList, "red".toList]

/-- Whether the tags open these styles and close the last one, and match. -/
def areMatched (bodies : List (List Char)) : Bool :=
  bodies.all (fun body => body == ['/'] || styles.contains body) && !overcloses 0 bodies

theorem isTagBody_of_areMatched {bodies : List (List Char)} (hmatched : areMatched bodies = true) :
    ∀ body ∈ bodies, IsTagBody body ∧ '\\' ∉ body := by
  intro body hbody
  unfold areMatched at hmatched
  rw [Bool.and_eq_true, List.all_eq_true] at hmatched
  have hall : ∀ body ∈ ['/'] :: styles, IsTagBody body ∧ '\\' ∉ body := by decide
  exact hall body (by simpa using hmatched.1 body hbody)

theorem IsPlain.tags_eq_nil (hplain : IsPlain cs) : tags cs = [] := by
  have hparts : parts cs = [.plain cs] := hplain.partsAfter_eq
  rw [tags, hparts]
  rfl

theorem tags_weave (htags : AreTags pieces) (hkept : IsKept first pieces) :
    tags (weave first pieces) = pieces.map (·.1) := by
  induction pieces generalizing first with
  | nil => exact IsPlain.tags_eq_nil hkept
  | cons piece rest ih =>
    obtain ⟨body, next⟩ := piece
    obtain ⟨⟨hbody, -⟩, hrest⟩ := List.forall_mem_cons.1 htags
    obtain ⟨hsafe, hnext⟩ := hkept
    have hparts : parts (weave first ((body, next) :: rest)) =
        .plain first :: .literal [] :: .tag body :: parts (weave next rest) :=
      hsafe.partsAfter_append_written hsafe.noBackslash hbody _
    rw [tags, hparts, List.map_cons, ← ih hrest hnext]
    rfl

end Markup

/-! ### The library -/

namespace Console

/-- How a console is set up: the names that stand for pictures between colons, the cells that a text
takes, and the cells in a row. -/
structure Setup where
  pictures : List String
  cells : List Char → Nat
  width : Nat

/-- A line in which markup is all that is not shown as it is: it has no picture and no control
character, and needs no row to be broken. -/
structure Setup.IsOrdinary (setup : Setup) (line : String) : Prop where
  noPicture : ∀ name ∈ setup.pictures, ¬ ':' :: name.toList ++ [':'] <:+: line.toList
  noControl : ∀ c ∈ line.toList, Text.isControl c = true → c = '\n'
  fits : ∀ row ∈ (Markup.visible line.toList).splitOn '\n', setup.cells row ≤ setup.width

/-- What is relied on of the library. Of an ordinary line it shows what markup leaves of it, if
anything; it does show one whose tags match; and it refuses a line in which a tag closes what is not
open. -/
structure ReadsMarkup (console : Console) (setup : Setup) : Prop where
  shows : ∀ {line text : String}, setup.IsOrdinary line → console.render line = .ok text →
    text.toList = Markup.visible line.toList
  prints : ∀ {line : String}, setup.IsOrdinary line →
    Markup.areMatched (Markup.tags line.toList) = true → ∃ text, console.render line = .ok text
  refuses : ∀ {line : String}, Markup.overcloses 0 (Markup.tags line.toList) = true →
    ∃ fault, console.render line = .error fault

open Markup

/-- A marked-up line shows the texts between its tags exactly when it keeps them. -/
theorem ReadsMarkup.render_eq_ok_iff {console : Console} {setup : Setup} {line text : String}
    (hreads : console.ReadsMarkup setup) (hordinary : setup.IsOrdinary line) (first : List Char)
    (pieces : List (List Char × List Char)) (hmatched : areMatched (pieces.map (·.1)) = true)
    (hline : line.toList = weave first pieces) (htext : text.toList = texts first pieces) :
    console.render line = .ok text ↔ IsKept first pieces := by
  have htags : AreTags pieces :=
    fun piece hpiece => isTagBody_of_areMatched hmatched _ (List.mem_map_of_mem hpiece)
  rw [← visible_weave_iff htags, ← hline, ← htext]
  constructor
  · exact fun hrender => (hreads.shows hordinary hrender).symm
  · intro hvisible
    have hkept : IsKept first pieces := by
      rwa [← visible_weave_iff htags, ← hline, ← htext]
    obtain ⟨shown, hshown⟩ := hreads.prints hordinary
      (by rwa [hline, tags_weave htags hkept])
    have hsame : shown.toList = text.toList := (hreads.shows hordinary hshown).trans hvisible
    rw [hshown, String.toList_inj.1 hsame]

end Console

/-! ### The plain console -/

namespace Markup

variable {body : List Char} {found : List Part} {openings after applied closed : List Opening}
  {text : List Char}

theorem textOf_of_showParts_eq_ok (hshown : showParts openings found = .ok (text, applied)) :
    text = textOf found := by
  induction found generalizing openings text applied with
  | nil =>
    cases hshown
    rfl
  | cons part rest ih =>
    cases part with
    | plain body =>
      obtain ⟨⟨more, others⟩, hrest, heq⟩ := except_bind_eq_ok.1 hshown
      cases heq
      rw [textOf, ih hrest]
    | literal body =>
      obtain ⟨⟨more, others⟩, hrest, heq⟩ := except_bind_eq_ok.1 hshown
      cases heq
      rw [textOf, ih hrest]
    | tag body =>
      obtain ⟨⟨after, closed⟩, -, hshown⟩ := except_bind_eq_ok.1 hshown
      obtain ⟨⟨more, others⟩, hrest, heq⟩ := except_bind_eq_ok.1 hshown
      cases heq
      exact ih hrest

theorem length_of_take?_eq_some {name : String} {opening : Opening}
    (htake : take? name openings = some (opening, after)) : openings.length = after.length + 1 := by
  induction openings generalizing after with
  | nil => cases htake
  | cons first rest ih =>
    unfold take? at htake
    split at htake
    · cases htake
      rfl
    · obtain ⟨⟨found, others⟩, hfound, heq⟩ := Option.map_eq_some_iff.1 htake
      cases heq
      rw [List.length_cons, List.length_cons, ih hfound]

theorem length_of_closed?_eq_ok {name : List Char} {opening : Opening}
    (hclosed : closed? name openings = .ok (some (opening, after))) :
    openings.length = after.length + 1 := by
  unfold closed? at hclosed
  split at hclosed
  · cases openings with
    | nil => cases hclosed
    | cons last others =>
      cases hclosed
      rfl
  · obtain ⟨style, -, htake⟩ := except_bind_eq_ok.1 hclosed
    exact length_of_take?_eq_some (Except.ok.inj htake)

theorem length_of_follow_eq_ok (hfollow : follow body openings = .ok (after, closed)) :
    if isClosing body then openings.length = after.length + 1
      else after.length = openings.length + 1 := by
  unfold follow at hfollow
  split at hfollow
  · obtain ⟨last, hlast, hfollow⟩ := except_bind_eq_ok.1 hfollow
    cases last with
    | none => cases hfollow
    | some pair =>
      obtain ⟨opening, others⟩ := pair
      have hlength := length_of_closed?_eq_ok hlast
      dsimp only at hfollow
      split at hfollow
      · cases hfollow
        exact hlength
      · split at hfollow <;> cases hfollow
        exact hlength
  · rename_i hopens
    obtain ⟨opening, -, heq⟩ := except_bind_eq_ok.1 hfollow
    cases heq
    have hfalse : isClosing body = false := by
      cases body with
      | nil => rfl
      | cons c rest =>
        refine Bool.eq_false_iff.2 fun hcloses => ?_
        obtain rfl : c = '/' := by simpa [isClosing] using hcloses
        exact hopens rest rfl
    rw [hfalse]
    rfl

theorem overcloses_of_showParts_eq_ok (hshown : showParts openings found = .ok (text, applied)) :
    overcloses openings.length (tagsOf found) = false := by
  -- every tag that is followed moves the number of open ones by one, so the number is all that counts
  induction found generalizing openings text applied with
  | nil => rfl
  | cons part rest ih =>
    cases part with
    | plain body =>
      obtain ⟨⟨more, others⟩, hrest, -⟩ := except_bind_eq_ok.1 hshown
      exact ih hrest
    | literal body =>
      obtain ⟨⟨more, others⟩, hrest, -⟩ := except_bind_eq_ok.1 hshown
      exact ih hrest
    | tag body =>
      obtain ⟨⟨after, closed⟩, hfollow, hshown⟩ := except_bind_eq_ok.1 hshown
      obtain ⟨⟨more, others⟩, hrest, -⟩ := except_bind_eq_ok.1 hshown
      have hlength := length_of_follow_eq_ok hfollow
      rw [tagsOf]
      split at hlength
      · rename_i hcloses
        rw [hlength, overcloses_cons_of_isClosing hcloses]
        exact ih hrest
      · rename_i hopens
        rw [overcloses_cons_of_not_isClosing (Bool.eq_false_iff.2 hopens), ← hlength]
        exact ih hrest

def IsCommon (opening : Opening) : Prop :=
  ∃ body ∈ styles, openingOf body = .ok opening

theorem exists_openingOf_eq_ok (hbody : body ∈ styles) :
    ∃ opening, openingOf body = .ok opening ∧ opening.isHandler = false ∧
      (orStop (Style.read opening.style)).isOk = true := by
  have hall : ∀ body ∈ styles, ((openingOf body).map fun opening =>
      !opening.isHandler && (orStop (Style.read opening.style)).isOk).toOption = some true := by
    decide +kernel
  have hone := hall body hbody
  cases hopening : openingOf body with
  | error fault =>
    rw [hopening] at hone
    cases hone
  | ok opening =>
    rw [hopening] at hone
    have hboth := Option.some.inj hone
    rw [Bool.and_eq_true, Bool.not_eq_true'] at hboth
    exact ⟨opening, rfl, hboth⟩

theorem IsCommon.not_isHandler {opening : Opening} (hcommon : IsCommon opening) :
    opening.isHandler = false := by
  obtain ⟨body, hbody, hopening⟩ := hcommon
  obtain ⟨found, hfound, hplain, -⟩ := exists_openingOf_eq_ok hbody
  rw [hopening] at hfound
  cases hfound
  exact hplain

theorem applyStyles_of_isCommon (hcommon : ∀ opening ∈ openings, IsCommon opening) :
    applyStyles openings = .ok () := by
  induction openings with
  | nil => rfl
  | cons opening rest ih =>
    obtain ⟨⟨body, hbody, hopening⟩, hrest⟩ := List.forall_mem_cons.1 hcommon
    obtain ⟨found, hfound, -, hread⟩ := exists_openingOf_eq_ok hbody
    rw [hopening] at hfound
    cases hfound
    obtain ⟨style, hstyle⟩ := exists_eq_ok_of_isOk hread
    exact except_bind_eq_ok.2 ⟨style, hstyle, ih hrest⟩

theorem follow_of_mem (openings : List Opening) (hbody : body ∈ styles) :
    ∃ opening, follow body openings = .ok (opening :: openings, []) ∧ IsCommon opening ∧
      isClosing body = false := by
  obtain ⟨opening, hopening, -⟩ := exists_openingOf_eq_ok hbody
  have hopens : isClosing body = false := by
    have hall : ∀ body ∈ styles, isClosing body = false := by decide
    exact hall body hbody
  refine ⟨opening, ?_, ⟨body, hbody, hopening⟩, hopens⟩
  unfold follow
  split
  · cases hopens
  · exact except_bind_eq_ok.2 ⟨opening, hopening, rfl⟩

/-- Tags that match are followed, as long as what is open are styles of the run. -/
theorem exists_showParts_eq_ok (hopenings : ∀ opening ∈ openings, IsCommon opening)
    (htags : ∀ body ∈ tagsOf found, body = ['/'] ∨ body ∈ styles)
    (hcloses : overcloses openings.length (tagsOf found) = false) :
    ∃ text applied, showParts openings found = .ok (text, applied) ∧
      ∀ opening ∈ applied, IsCommon opening := by
  induction found generalizing openings with
  | nil => exact ⟨[], openings, rfl, hopenings⟩
  | cons part rest ih =>
    cases part with
    | plain body =>
      obtain ⟨text, applied, hshown, happlied⟩ := ih hopenings htags hcloses
      exact ⟨_, applied, except_bind_eq_ok.2 ⟨_, hshown, rfl⟩, happlied⟩
    | literal body =>
      obtain ⟨text, applied, hshown, happlied⟩ := ih hopenings htags hcloses
      exact ⟨_, applied, except_bind_eq_ok.2 ⟨_, hshown, rfl⟩, happlied⟩
    | tag body =>
      obtain ⟨hbody, hrest⟩ := List.forall_mem_cons.1 htags
      obtain rfl | hstyle := hbody
      rotate_left
      · obtain ⟨opening, hfollow, hcommon, hopens⟩ := follow_of_mem openings hstyle
        rw [tagsOf, overcloses_cons_of_not_isClosing hopens] at hcloses
        obtain ⟨text, applied, hshown, happlied⟩ :=
          ih (List.forall_mem_cons.2 ⟨hcommon, hopenings⟩) hrest hcloses
        exact ⟨text, [] ++ applied, except_bind_eq_ok.2 ⟨_, hfollow,
          except_bind_eq_ok.2 ⟨_, hshown, rfl⟩⟩, happlied⟩
      · cases openings with
        | nil => cases hcloses
        | cons last others =>
          obtain ⟨hlast, hothers⟩ := List.forall_mem_cons.1 hopenings
          have hfollow : follow ['/'] (last :: others) = .ok (others, [last]) := by
            refine except_bind_eq_ok.2 ⟨some (last, others), rfl, ?_⟩
            dsimp only
            rw [hlast.not_isHandler]
            rfl
          rw [tagsOf, List.length_cons, overcloses_cons_of_isClosing rfl] at hcloses
          obtain ⟨text, applied, hshown, happlied⟩ := ih hothers hrest hcloses
          exact ⟨text, [last] ++ applied, except_bind_eq_ok.2 ⟨_, hfollow,
            except_bind_eq_ok.2 ⟨_, hshown, rfl⟩⟩, List.forall_mem_cons.2 ⟨hlast, happlied⟩⟩

end Markup

theorem Console.readsMarkup_plain (setup : Setup) : plain.ReadsMarkup setup where
  shows := by
    intro line text _ hrender
    change Markup.render line = .ok text at hrender
    unfold Markup.render at hrender
    split at hrender
    · obtain ⟨⟨found, applied⟩, hshown, hrest⟩ := except_bind_eq_ok.1 hrender
      obtain ⟨_, -, heq⟩ := except_bind_eq_ok.1 hrest
      rw [← Except.ok.inj heq, String.toList_ofList]
      exact Markup.textOf_of_showParts_eq_ok hshown
    · rename_i hopen
      cases hrender
      exact (Markup.visible_eq_self_iff.2 (Markup.isPlain_of_notMem (by simpa using hopen))).symm
  prints := by
    intro line _ hmatched
    change ∃ text, Markup.render line = .ok text
    unfold Markup.render
    split
    · unfold Markup.areMatched at hmatched
      rw [Bool.and_eq_true, Bool.not_eq_true', List.all_eq_true] at hmatched
      obtain ⟨text, applied, hshown, happlied⟩ : ∃ text applied,
          Markup.showParts [] (Markup.parts line.toList) = .ok (text, applied) ∧
            ∀ opening ∈ applied, Markup.IsCommon opening :=
        Markup.exists_showParts_eq_ok nofun (fun body hbody => by simpa using hmatched.1 body hbody)
          hmatched.2
      exact ⟨_, except_bind_eq_ok.2 ⟨_, hshown,
        except_bind_eq_ok.2 ⟨(), Markup.applyStyles_of_isCommon happlied, rfl⟩⟩⟩
    · exact ⟨line, rfl⟩
  refuses := by
    intro line hcloses
    change ∃ fault, Markup.render line = .error fault
    cases hrender : Markup.render line with
    | error fault => exact ⟨fault, rfl⟩
    | ok text =>
      unfold Markup.render at hrender
      split at hrender
      · obtain ⟨⟨found, applied⟩, hshown, -⟩ := except_bind_eq_ok.1 hrender
        have hfew := Markup.overcloses_of_showParts_eq_ok hshown
        cases hcloses.symm.trans hfew
      · rename_i hopen
        have hplain : Markup.IsPlain line.toList := Markup.isPlain_of_notMem (by simpa using hopen)
        rw [hplain.tags_eq_nil] at hcloses
        cases hcloses

end Checkup
