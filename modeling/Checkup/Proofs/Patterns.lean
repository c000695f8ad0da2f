import Checkup.Proofs.Grouping
import Checkup.Proofs.Messages

/-!
# Paths as patterns

The files that settings ignore are given by patterns, and a path is a pattern as well: each of its
characters stands for itself, a star or a question mark among others, until an opening bracket is
closed and makes a set, which stands for one character where the path has several. So settings
that list the path of a finding suppress the finding, unless the path has a set.
-/

namespace Checkup

namespace Glob

/-- A set is closed in the text: a closing bracket that is not its first character, an exclamation
mark apart. -/
def ClosesSet (cs : List Char) : Prop :=
  ∃ inside after, cs = inside ++ ']' :: after ∧ inside ≠ [] ∧ inside ≠ ['!']

def HasSet (cs : List Char) : Prop :=
  ∃ before rest, cs = before ++ '[' :: rest ∧ ClosesSet rest

theorem not_hasSet_nil : ¬ HasSet [] := by
  rintro ⟨before, rest, hcs, -⟩
  cases before <;> cases hcs

theorem hasSet_cons_iff {c : Char} {cs : List Char} :
    HasSet (c :: cs) ↔ c = '[' ∧ ClosesSet cs ∨ HasSet cs := by
  constructor
  · rintro ⟨before, rest, hcs, hcloses⟩
    cases before with
    | nil =>
      obtain ⟨rfl, rfl⟩ := List.cons.inj hcs
      exact .inl ⟨rfl, hcloses⟩
    | cons d before =>
      obtain ⟨-, rfl⟩ := List.cons.inj hcs
      exact .inr ⟨before, rest, rfl, hcloses⟩
  · rintro (⟨rfl, hcloses⟩ | ⟨before, rest, rfl, hcloses⟩)
    · exact ⟨[], cs, rfl, hcloses⟩
    · exact ⟨c :: before, rest, rfl, hcloses⟩

theorem HasSet.bracket_mem {cs : List Char} (hset : HasSet cs) : '[' ∈ cs := by
  obtain ⟨before, rest, rfl, -⟩ := hset
  simp

/-! ### Brackets -/

theorem takeChar_eq {c : Char} {cs taken rest : List Char} (htake : takeChar c cs = (taken, rest)) :
    cs = taken ++ rest ∧ (taken = [c] ∨ taken = [] ∧ rest.head? ≠ some c) := by
  cases cs with
  | nil =>
    cases htake
    exact ⟨rfl, .inr ⟨rfl, nofun⟩⟩
  | cons d cs =>
    rw [takeChar] at htake
    split at htake
    · rename_i heq
      obtain ⟨rfl, rfl⟩ := Prod.mk.inj htake
      exact ⟨rfl, .inl (congrArg ([·]) (eq_of_beq heq))⟩
    · rename_i hne
      obtain ⟨rfl, rfl⟩ := Prod.mk.inj htake
      exact ⟨rfl, .inr ⟨rfl, fun hhead => hne (beq_iff_eq.2 (Option.some.inj hhead))⟩⟩

/-- The characters up to the first closing bracket, if there is one. -/
theorem span_eq {cs body rest : List Char} (hspan : cs.span (· != ']') = (body, rest)) :
    cs = body ++ rest ∧ ']' ∉ body ∧ (rest = [] ∨ ∃ after, rest = ']' :: after) := by
  obtain ⟨hcs, hbody⟩ := Lint.of_span hspan
  refine ⟨hcs, fun hmem => absurd (hbody _ hmem) (by decide), ?_⟩
  rw [List.span_eq_takeWhile_dropWhile] at hspan
  obtain ⟨-, rfl⟩ := Prod.mk.inj hspan
  have hfirst := List.head?_dropWhile_not (· != ']') cs
  cases hrest : cs.dropWhile (· != ']') with
  | nil => exact .inl rfl
  | cons c after =>
    rw [hrest] at hfirst
    exact .inr ⟨after, congrArg (· :: after) (by simpa using hfirst)⟩

/-- What is read after an opening bracket: a mark, a closing bracket in the first place, the
characters up to the next one, and what begins with that one. -/
theorem inside?_cases (cs : List Char) : ∃ mark first body more,
    cs = mark ++ first ++ body ++ more ∧
    (mark = ['!'] ∨ mark = [] ∧ cs.head? ≠ some '!') ∧
    (first = [']'] ∨ first = [] ∧ (body ++ more).head? ≠ some ']') ∧ ']' ∉ body ∧
    (more = [] ∧ inside? cs = none ∨
      ∃ after, more = ']' :: after ∧ inside? cs = some (mark ++ first ++ body, after)) := by
  unfold inside?
  rcases hmark : takeChar '!' cs with ⟨mark, afterMark⟩
  rcases hfirst : takeChar ']' afterMark with ⟨first, afterFirst⟩
  rcases hspan : afterFirst.span (· != ']') with ⟨body, more⟩
  obtain ⟨hcs, htaken⟩ := takeChar_eq hmark
  obtain ⟨rfl, htakenFirst⟩ := takeChar_eq hfirst
  obtain ⟨rfl, hbody, hmore⟩ := span_eq hspan
  refine ⟨mark, first, body, more, by simp only [hcs, List.append_assoc], ?_, htakenFirst, hbody,
    ?_⟩
  · rcases htaken with htaken | ⟨rfl, hhead⟩
    · exact .inl htaken
    · exact .inr ⟨rfl, hcs ▸ hhead⟩
  · simp only [hfirst, hspan]
    rcases hmore with rfl | ⟨after, rfl⟩
    · exact .inl ⟨rfl, rfl⟩
    · exact .inr ⟨after, rfl, rfl⟩

/-- The inside of a set is some text, and the closing bracket follows it. -/
theorem inside?_eq_some {cs inside rest : List Char} (hinside : inside? cs = some (inside, rest)) :
    cs = inside ++ ']' :: rest ∧ inside ≠ [] ∧ inside ≠ ['!'] := by
  obtain ⟨mark, first, body, more, hcs, hmark, hfirst, -,
    ⟨-, hnone⟩ | ⟨after, rfl, hsome⟩⟩ := inside?_cases cs
  · cases hnone.symm.trans hinside
  obtain ⟨rfl, rfl⟩ := Prod.mk.inj (Option.some.inj (hsome.symm.trans hinside))
  have hrest : first ++ body ≠ [] := by
    intro hnil
    obtain ⟨rfl, rfl⟩ := List.append_eq_nil_iff.1 hnil
    rcases hfirst with hfirst | ⟨-, hhead⟩
    · cases hfirst
    · exact hhead rfl
  refine ⟨hcs, ?_, ?_⟩
  · rw [List.append_assoc]
    exact List.append_ne_nil_of_right_ne_nil _ hrest
  · intro hone
    rcases hmark with rfl | ⟨rfl, hhead⟩
    · exact hrest (List.cons.inj hone).2
    · -- An exclamation mark in front would have been taken.
      rw [hcs, hone] at hhead
      exact hhead rfl

/-- Without an inside there is no closing bracket, or only one that would belong to the inside. -/
theorem inside?_eq_none {cs : List Char} (hinside : inside? cs = none) : ¬ ClosesSet cs := by
  obtain ⟨mark, first, body, more, hcs, hmark, hfirst, hbody,
    ⟨rfl, -⟩ | ⟨after, -, hsome⟩⟩ := inside?_cases cs
  swap
  · cases hsome.symm.trans hinside
  have hmarkMem : ']' ∉ mark := by
    rcases hmark with rfl | ⟨rfl, -⟩ <;> decide
  rw [List.append_nil, List.append_assoc] at hcs
  rintro ⟨inside, after, hcloses, hnil, hnegated⟩
  rw [hcs] at hcloses
  rcases hfirst with rfl | ⟨rfl, -⟩
  · -- The closing bracket in the first place is the only one.
    obtain ⟨rfl, -⟩ := (List.append_cons_inj_of_notMem hmarkMem hbody).1 hcloses
    rcases hmark with rfl | ⟨rfl, -⟩
    · exact hnegated rfl
    · exact hnil rfl
  · have hmem : ']' ∈ mark ++ ([] ++ body) := by
      rw [hcloses]
      simp
    rcases List.mem_append.1 hmem with hmem | hmem
    · exact hmarkMem hmem
    · exact hbody hmem

/-! ### Pieces -/

def Piece.ofChar : Char → Piece
  | '*' => anyText
  | '?' => anyChar
  | c => char c

theorem bracket_ne_anyText (inside : List Char) : bracket inside ≠ .anyText := by
  unfold bracket
  dsimp only
  split <;> exact nofun

/-- The first piece is a set where one is closed, and stands for the first character otherwise. -/
theorem piecesFrom_cons (fuel : Nat) (c : Char) (cs : List Char) :
    (∃ inside rest, c = '[' ∧ inside? cs = some (inside, rest) ∧
      piecesFrom (fuel + 1) (c :: cs) = bracket inside :: piecesFrom fuel rest) ∨
    (c = '[' → inside? cs = none) ∧
      piecesFrom (fuel + 1) (c :: cs) = .ofChar c :: piecesFrom fuel cs := by
  by_cases hbracket : c = '['
  · subst hbracket
    rw [piecesFrom.eq_5]
    cases hinside : inside? cs with
    | none => exact .inr ⟨fun _ => rfl, rfl⟩
    | some found => exact .inl ⟨found.1, found.2, rfl, rfl, rfl⟩
  · refine .inr ⟨fun h => absurd h hbracket, ?_⟩
    by_cases hstar : c = '*'
    · rw [hstar]
      rfl
    by_cases hquestion : c = '?'
    · rw [hquestion]
      rfl
    rw [piecesFrom.eq_6 _ _ _ hstar hquestion hbracket, Piece.ofChar.eq_3 _ hstar hquestion]

theorem piecesFrom_eq_map {fuel : Nat} {cs : List Char} (hfuel : cs.length ≤ fuel)
    (hset : ¬ HasSet cs) : piecesFrom fuel cs = cs.map .ofChar := by
  induction fuel generalizing cs with
  | zero => rw [List.eq_nil_of_length_eq_zero (Nat.le_zero.1 hfuel), piecesFrom, List.map_nil]
  | succ fuel ih =>
    cases cs with
    | nil => rfl
    | cons c cs =>
      rw [hasSet_cons_iff, not_or, not_and] at hset
      rcases piecesFrom_cons fuel c cs with ⟨inside, rest, hc, hinside, -⟩ | ⟨-, hpieces⟩
      · obtain ⟨hcs, hnil, hnegated⟩ := inside?_eq_some hinside
        exact absurd ⟨inside, rest, hcs, hnil, hnegated⟩ (hset.1 hc)
      · rw [hpieces, ih (Nat.le_of_succ_le_succ hfuel) hset.2, List.map_cons]

theorem length_piecesFrom_le (fuel : Nat) (cs : List Char) :
    (piecesFrom fuel cs).length ≤ cs.length := by
  induction fuel generalizing cs with
  | zero => exact Nat.zero_le _
  | succ fuel ih =>
    cases cs with
    | nil => exact Nat.le_refl _
    | cons c cs =>
      rcases piecesFrom_cons fuel c cs with ⟨inside, rest, -, hinside, hpieces⟩ | ⟨-, hpieces⟩
      · obtain ⟨rfl, -⟩ := inside?_eq_some hinside
        have hrest := ih rest
        rw [hpieces]
        simp only [List.length_cons, List.length_append]
        omega
      · rw [hpieces]
        exact Nat.succ_le_succ (ih cs)

theorem length_piecesFrom_lt (fuel : Nat) {cs : List Char} (hset : HasSet cs) :
    (piecesFrom fuel cs).length < cs.length := by
  induction fuel generalizing cs with
  | zero => exact List.length_pos_of_mem hset.bracket_mem
  | succ fuel ih =>
    cases cs with
    | nil => exact absurd hset not_hasSet_nil
    | cons c cs =>
      rcases piecesFrom_cons fuel c cs with ⟨inside, rest, -, hinside, hpieces⟩ | ⟨hnone, hpieces⟩
      · obtain ⟨rfl, -⟩ := inside?_eq_some hinside
        have hrest := length_piecesFrom_le fuel rest
        rw [hpieces]
        simp only [List.length_cons, List.length_append]
        omega
      · rw [hpieces]
        rcases hasSet_cons_iff.1 hset with ⟨hc, hcloses⟩ | hset
        · exact absurd hcloses (inside?_eq_none (hnone hc))
        · exact Nat.succ_lt_succ (ih hset)

theorem anyText_not_mem_piecesFrom (fuel : Nat) {cs : List Char} (hstar : '*' ∉ cs) :
    .anyText ∉ piecesFrom fuel cs := by
  induction fuel generalizing cs with
  | zero => exact List.not_mem_nil
  | succ fuel ih =>
    cases cs with
    | nil => exact List.not_mem_nil
    | cons c cs =>
      rw [List.mem_cons, not_or] at hstar
      rcases piecesFrom_cons fuel c cs with ⟨inside, rest, -, hinside, hpieces⟩ | ⟨-, hpieces⟩
      · obtain ⟨rfl, -⟩ := inside?_eq_some hinside
        rw [hpieces, List.mem_cons, not_or]
        exact ⟨(bracket_ne_anyText inside).symm, ih fun hmem => hstar.2 (by simp [hmem])⟩
      · rw [hpieces, List.mem_cons, not_or]
        refine ⟨fun hpiece => ?_, ih hstar.2⟩
        unfold Piece.ofChar at hpiece
        split at hpiece
        · exact hstar.1 rfl
        all_goals cases hpiece

/-! ### Texts that match themselves -/

theorem someEnding_of_test {test : List Char → Bool} {cs : List Char} (htest : test cs = true) :
    someEnding test cs = true := by
  cases cs with
  | nil => exact htest
  | cons c cs => exact Bool.or_eq_true_iff.2 (.inl htest)

theorem matchesPieces_cons {piece : Piece} (hany : piece ≠ .anyText) (rest : List Piece) (c : Char)
    (cs : List Char) :
    matchesPieces (piece :: rest) (c :: cs) = (piece.fits c && matchesPieces rest cs) := by
  cases piece with
  | anyText => exact absurd rfl hany
  | _ => rfl

theorem fits_ofChar (c : Char) : (Piece.ofChar c).fits c = true := by
  unfold Piece.ofChar
  split
  · rfl
  · rfl
  · exact beq_self_eq_true c

/-- The pieces of the characters of a text match it, the star and the question mark included. -/
theorem matchesPieces_map_ofChar (cs : List Char) : matchesPieces (cs.map .ofChar) cs = true := by
  induction cs with
  | nil => rfl
  | cons c cs ih =>
    rw [List.map_cons]
    by_cases hany : Piece.ofChar c = .anyText
    · rw [hany]
      exact Bool.or_eq_true_iff.2 (.inr (someEnding_of_test ih))
    · rw [matchesPieces_cons hany, fits_ofChar, ih, Bool.true_and]

/-- Without a star, a text that matches has one character for each piece. -/
theorem length_eq_of_matchesPieces {ps : List Piece} {cs : List Char} (hany : .anyText ∉ ps)
    (hmatches : matchesPieces ps cs = true) : ps.length = cs.length := by
  induction ps generalizing cs with
  | nil =>
    obtain rfl := List.isEmpty_iff.1 hmatches
    rfl
  | cons piece rest ih =>
    rw [List.mem_cons, not_or] at hany
    cases cs with
    | nil => cases piece <;> first | exact absurd rfl hany.1 | cases hmatches
    | cons c cs =>
      rw [matchesPieces_cons (Ne.symm hany.1), Bool.and_eq_true] at hmatches
      exact congrArg (· + 1) (ih hany.2 hmatches.2)

theorem accepts_self {path : String} (hset : ¬ HasSet path.toList) : accepts path path = true := by
  unfold accepts pieces
  rw [piecesFrom_eq_map (Nat.le_refl _) hset]
  exact matchesPieces_map_ofChar _

theorem accepts_self_iff {path : String} (hstar : '*' ∉ path.toList) :
    accepts path path = true ↔ ¬ HasSet path.toList := by
  refine ⟨fun haccepts hset => ?_, accepts_self⟩
  have hlength := length_eq_of_matchesPieces (anyText_not_mem_piecesFrom _ hstar) haccepts
  exact Nat.ne_of_lt (length_piecesFrom_lt _ hset) hlength

end Glob

/-- The path with a slash in the place of each backslash, which is what the patterns match. -/
def Text.slashed (path : String) : String :=
  String.ofList (substitute '\\' '/' path.toList)

theorem Text.slashed_eq_self {path : String} (hbackslash : '\\' ∉ path.toList) :
    slashed path = path := by
  have hsame : ∀ c ∈ path.toList, (if c == '\\' then '/' else c) = id c := by
    intro c hc
    have hne : c ≠ '\\' := fun heq => hbackslash (heq ▸ hc)
    simp [hne]
  rw [slashed, substitute, List.map_congr_left hsame, List.map_id, String.ofList_toList]

theorem Text.star_not_mem_slashed {path : String} (hstar : '*' ∉ path.toList) :
    '*' ∉ (slashed path).toList := by
  rw [slashed, String.toList_ofList, substitute, List.mem_map]
  rintro ⟨c, hc, hslashed⟩
  split at hslashed
  · cases hslashed
  · exact hstar (hslashed ▸ hc)

namespace Suppression

/-- The settings suppress the finding, wherever it stands among others. -/
def Removes (settings : Settings) (d : Diagnostic) : Prop :=
  ∀ before after, remaining settings (before ++ d :: after) = remaining settings (before ++ after)

variable {settings : Settings} {d : Diagnostic}

theorem removes_of_covers (hcovers : covers settings d = .ok true) : Removes settings d := by
  intro before after
  induction before with
  | nil =>
    rw [List.nil_append, List.nil_append, remaining, hcovers]
    cases remaining settings after <;> rfl
  | cons other before ih => rw [List.cons_append, List.cons_append, remaining, ih, ← remaining]

theorem Removes.covers (hremoves : Removes settings d) : covers settings d = .ok true := by
  have hnone : remaining settings [d] = .ok [] := hremoves [] []
  obtain ⟨covered, hcovers, hleft⟩ := except_bind_eq_ok.1 hnone
  cases covered with
  | true => exact hcovers
  | false => cases hleft

theorem covers_of_listed {path : String} (hfile : d.file = .text path)
    (haccepts : Glob.accepts (Text.slashed path) (Text.slashed path) = true)
    (hlisted : Text.slashed path ∈ settings.ignoredFiles) : covers settings d = .ok true := by
  unfold covers coversFile
  rw [hfile]
  split
  · rfl
  · exact congrArg Except.ok (List.any_eq_true.2 ⟨_, hlisted, haccepts⟩)

theorem accepts_of_covers {path : String} (hfile : d.file = .text path)
    (hcovers : covers { ignoredFiles := [Text.slashed path] } d = .ok true) :
    Glob.accepts (Text.slashed path) (Text.slashed path) = true := by
  unfold covers coversFile at hcovers
  rw [hfile, if_neg (by simp)] at hcovers
  obtain ⟨pattern, hpattern, haccepts⟩ := List.any_eq_true.1 (Except.ok.inj hcovers)
  rwa [List.mem_singleton.1 hpattern] at haccepts

/-- Settings that list the path of a finding suppress the finding when the path, with slashes for
its backslashes, has no set; a path without a star has to be without a set for that. -/
theorem removes_of_listed {path : String} (hfile : d.file = .text path) :
    (¬ Glob.HasSet (Text.slashed path).toList →
      ∀ settings : Settings, Text.slashed path ∈ settings.ignoredFiles → Removes settings d) ∧
    ('*' ∉ path.toList →
      ((∀ settings : Settings, Text.slashed path ∈ settings.ignoredFiles → Removes settings d) ↔
        ¬ Glob.HasSet (Text.slashed path).toList)) ∧
    ('\\' ∉ path.toList → Text.slashed path = path) := by
  have hremoves (hset : ¬ Glob.HasSet (Text.slashed path).toList) (settings : Settings)
      (hlisted : Text.slashed path ∈ settings.ignoredFiles) : Removes settings d :=
    removes_of_covers (covers_of_listed hfile (Glob.accepts_self hset) hlisted)
  refine ⟨hremoves, fun hstar => ⟨fun hall => ?_, hremoves⟩, Text.slashed_eq_self⟩
  have hcovers := (hall { ignoredFiles := [Text.slashed path] } (List.mem_singleton.2 rfl)).covers
  exact (Glob.accepts_self_iff (Text.star_not_mem_slashed hstar)).1
    (accepts_of_covers hfile hcovers)

def findingIn (path : String) : Diagnostic :=
  { (default : Diagnostic) with file := .text path }

/-- A component that the settings list by its path is suppressed among others. -/
theorem removes_listedComponent :
    Removes { ignoredFiles := ["src/App.tsx"] } (findingIn "src/App.tsx") := by
  have hfile : (findingIn "src/App.tsx").file = .text "src/App.tsx" := rfl
  obtain ⟨hremoves, -, hslashed⟩ := removes_of_listed hfile
  have hpath : Text.slashed "src/App.tsx" = "src/App.tsx" := hslashed (by decide)
  rw [hpath] at hremoves
  exact hremoves (fun hset => absurd hset.bracket_mem (by decide)) _ (List.mem_singleton.2 rfl)

/-- The page of a route with a parameter stays where the settings list its path: the set stands for
one character of the two. -/
theorem remaining_listedRoute :
    "app/[id]/page.tsx" ∈ ({ ignoredFiles := ["app/[id]/page.tsx"] } : Settings).ignoredFiles ∧
    (findingIn "app/[id]/page.tsx").file = .text "app/[id]/page.tsx" ∧
    remaining { ignoredFiles := ["app/[id]/page.tsx"] } [findingIn "app/[id]/page.tsx"] =
      .ok [findingIn "app/[id]/page.tsx"] := by
  refine ⟨List.mem_singleton.2 rfl, rfl, ?_⟩
  rw [remaining_eq_kept (List.forall_mem_singleton.2 ⟨_, rfl⟩), kept, List.filter_cons_of_pos]
  · rfl
  · decide +kernel

end Suppression

end Checkup
