import Mathlib.Data.List.TakeDrop
import Checkup.Lint.Report

/-!
# Messages without places

A message may name a place in a file: a word with an extension, a line and a column somewhere after
its first character. The message is cut before the first such word, and what is left has no place in
it any more, so that to cut it again changes nothing. The same cut comes from looking, character by
character, for the first match of a pattern: characters that are not blank, and after them an
extension, a line and a column.
-/

namespace Checkup

namespace Text

def blankCodes : List Nat :=
  [9, 10, 11, 12, 13, 28, 29, 30, 31, 32, 133, 160, 5760, 8192, 8193, 8194, 8195, 8196, 8197, 8198,
    8199, 8200, 8201, 8202, 8232, 8233, 8239, 8287, 12288]

theorem toNat_mem_blankCodes {c : Char} (hblank : isBlank c = true) : c.toNat ∈ blankCodes := by
  simp only [isBlank, Bool.or_eq_true, Bool.and_eq_true, decide_eq_true_eq, beq_iff_eq] at hblank
  simp only [blankCodes, List.mem_cons, List.not_mem_nil, or_false]
  omega

/-- A blank character is no part of an extension, a line or a column. -/
theorem isWord_eq_false_of_isBlank {c : Char} (hblank : isBlank c = true) :
    isWord c = false ∧ isDigit c = false := by
  have hascii : ∀ n ∈ blankCodes,
      ((Char.ofNat n).isAlphanum || Char.ofNat n == '_') = false := by decide +kernel
  -- The table is searched as a list, which the kernel goes through faster than an array.
  have hranges : ∀ n ∈ blankCodes,
      (wordRanges.toList.any fun range => range.1 ≤ n && n ≤ range.2) = false := by decide +kernel
  have hdigit : ∀ n ∈ blankCodes, isDigit (Char.ofNat n) = false := by decide +kernel
  have hmem := toNat_mem_blankCodes hblank
  constructor
  · unfold isWord inRanges
    rw [← Array.any_toList]
    split
    · simpa only [Char.ofNat_toNat] using hascii _ hmem
    · exact hranges _ hmem
  · simpa only [Char.ofNat_toNat] using hdigit _ hmem

end Text

namespace Lint

open Text

/-! ### Places in a text -/

/-- There are characters, and all of them are of the kind. -/
def MadeOf (kind : Char → Bool) (cs : List Char) : Prop :=
  cs ≠ [] ∧ ∀ c ∈ cs, kind c = true

inductive IsLocation : List Char → Prop
  | mk {extension line column : List Char} (hextension : MadeOf isWord extension)
      (hline : MadeOf isDigit line) (hcolumn : MadeOf isDigit column) :
      IsLocation ('.' :: extension ++ ':' :: line ++ ':' :: column)

theorem MadeOf.not_isBlank {kind : Char → Bool} (hkind : ∀ c, isBlank c = true → kind c = false)
    {cs : List Char} (hcs : MadeOf kind cs) : ∀ c ∈ cs, isBlank c = false := by
  intro c hc
  refine Bool.eq_false_iff.2 fun hblank => ?_
  exact Bool.eq_false_iff.1 (hkind c hblank) (hcs.2 c hc)

theorem IsLocation.not_isBlank {place : List Char} (hplace : IsLocation place) :
    ∀ c ∈ place, isBlank c = false := by
  obtain ⟨hextension, hline, hcolumn⟩ := hplace
  intro c hc
  simp only [List.mem_append, List.mem_cons] at hc
  rcases hc with ((rfl | hc) | rfl | hc) | rfl | hc
  · decide
  · exact hextension.not_isBlank (fun _ hblank => (isWord_eq_false_of_isBlank hblank).1) c hc
  · decide
  · exact hline.not_isBlank (fun _ hblank => (isWord_eq_false_of_isBlank hblank).2) c hc
  · decide
  · exact hcolumn.not_isBlank (fun _ hblank => (isWord_eq_false_of_isBlank hblank).2) c hc

theorem span_append {p : Char → Bool} {cs rest : List Char} {c : Char} (hcs : ∀ d ∈ cs, p d = true)
    (hc : p c = false) : (cs ++ c :: rest).span p = (cs, c :: rest) := by
  rw [List.span_eq_takeWhile_dropWhile, List.takeWhile_append_of_pos hcs,
    List.dropWhile_append_of_pos hcs, List.takeWhile_cons_of_neg (by simp [hc]),
    List.dropWhile_cons_of_neg (by simp [hc]), List.append_nil]

theorem of_span {p : Char → Bool} {cs found rest : List Char} (hspan : cs.span p = (found, rest)) :
    cs = found ++ rest ∧ ∀ c ∈ found, p c = true := by
  rw [List.span_eq_takeWhile_dropWhile] at hspan
  obtain ⟨rfl, rfl⟩ := Prod.mk.inj hspan
  exact ⟨List.takeWhile_append_dropWhile.symm, List.all_eq_true.1 List.all_takeWhile⟩

theorem beginsLocation_append {place : List Char} (hplace : IsLocation place) (rest : List Char) :
    beginsLocation (place ++ rest) = true := by
  obtain @⟨extension, line, column, hextension, hline, hcolumn⟩ := hplace
  cases column with
  | nil => exact absurd rfl hcolumn.1
  | cons c more =>
    have hcolon : isWord ':' = false ∧ isDigit ':' = false := by decide +kernel
    simp only [List.append_assoc, List.cons_append, beginsLocation,
      span_append hextension.2 hcolon.1, span_append hline.2 hcolon.2]
    simp [hextension.1, hline.1, hcolumn.2 c (List.mem_cons_self ..)]

theorem beginsLocation_iff {cs : List Char} :
    beginsLocation cs = true ↔ ∃ place rest, cs = place ++ rest ∧ IsLocation place := by
  constructor
  · intro hbegins
    unfold beginsLocation at hbegins
    split at hbegins
    · rename_i more
      rcases hextension : more.span isWord with ⟨extension, afterExtension⟩
      rw [hextension] at hbegins
      dsimp only at hbegins
      split at hbegins
      · rename_i afterColon
        rcases hline : afterColon.span isDigit with ⟨line, afterLine⟩
        rw [hline] at hbegins
        dsimp only at hbegins
        split at hbegins
        · rename_i c rest
          simp only [Bool.and_eq_true, Bool.not_eq_true', List.isEmpty_eq_false_iff] at hbegins
          obtain ⟨rfl, hword⟩ := of_span hextension
          obtain ⟨rfl, hdigits⟩ := of_span hline
          refine ⟨_, rest, ?_, .mk ⟨hbegins.1.1, hword⟩ ⟨hbegins.1.2, hdigits⟩
            ⟨List.cons_ne_nil c [], List.forall_mem_singleton.2 hbegins.2⟩⟩
          simp
        · cases hbegins
      · cases hbegins
    · cases hbegins
  · rintro ⟨place, rest, rfl, hplace⟩
    exact beginsLocation_append hplace rest

theorem holdsLocation_iff {cs : List Char} : holdsLocation cs = true ↔
    ∃ start place rest, cs = start ++ place ++ rest ∧ IsLocation place := by
  induction cs with
  | nil =>
    refine ⟨nofun, ?_⟩
    rintro ⟨start, place, rest, hcs, ⟨⟩⟩
    simp at hcs
  | cons c cs ih =>
    rw [holdsLocation, Bool.or_eq_true, beginsLocation_iff, ih]
    constructor
    · rintro (⟨place, rest, hcs, hplace⟩ | ⟨start, place, rest, hcs, hplace⟩)
      · exact ⟨[], place, rest, hcs, hplace⟩
      · exact ⟨c :: start, place, rest, congrArg (c :: ·) hcs, hplace⟩
    · rintro ⟨_ | ⟨d, start⟩, place, rest, hcs, hplace⟩
      · exact .inl ⟨place, rest, hcs, hplace⟩
      · exact .inr ⟨start, place, rest, (List.cons.inj hcs).2, hplace⟩

/-! ### The text before the first place -/

/-- The text before the first split at which something begins, all of it when nothing does. -/
inductive IsTextBefore (begins : List Char → List Char → Prop) (cs : List Char) : List Char → Prop
  | whole (hnone : ∀ before rest, cs = before ++ rest → ¬ begins before rest) :
      IsTextBefore begins cs cs
  | cut {before rest : List Char} (hcs : cs = before ++ rest) (hbegins : begins before rest)
      (hfirst : ∀ earlier others, cs = earlier ++ others → begins earlier others →
        before.length ≤ earlier.length) : IsTextBefore begins cs before

namespace IsTextBefore

variable {begins : List Char → List Char → Prop} {cs kept other : List Char}

theorem unique (hkept : IsTextBefore begins cs kept) (hother : IsTextBefore begins cs other) :
    other = kept := by
  cases hkept with
  | whole hnone =>
    cases hother with
    | whole _ => rfl
    | cut hcs hbegins _ => exact absurd hbegins (hnone _ _ hcs)
  | cut hcs hbegins hfirst =>
    cases hother with
    | whole hnone => exact absurd hbegins (hnone _ _ hcs)
    | cut hcs' hbegins' hfirst' =>
      have hlength := Nat.le_antisymm (hfirst' _ _ hcs hbegins) (hfirst _ _ hcs' hbegins')
      exact (List.append_inj (hcs'.symm.trans hcs) hlength).1

theorem start {c : Char} (hbegins : begins [] (c :: cs)) : IsTextBefore begins (c :: cs) [] :=
  .cut (List.nil_append _).symm hbegins fun _ _ _ _ => Nat.zero_le _

theorem cons {c : Char} (hstart : ¬ begins [] (c :: cs))
    (hkept : IsTextBefore (fun before rest => begins (c :: before) rest) cs kept) :
    IsTextBefore begins (c :: cs) (c :: kept) := by
  cases hkept with
  | whole hnone =>
    refine .whole fun before rest hcs hbegins => ?_
    cases before with
    | nil => exact hstart (hcs ▸ hbegins)
    | cons d before =>
      obtain ⟨rfl, hrest⟩ := List.cons.inj hcs
      exact hnone before rest hrest hbegins
  | cut hcs hbegins hfirst =>
    refine .cut (congrArg (c :: ·) hcs) hbegins fun earlier others hcs' hearlier => ?_
    cases earlier with
    | nil => exact absurd (hcs' ▸ hearlier) hstart
    | cons d earlier =>
      obtain ⟨rfl, hrest⟩ := List.cons.inj hcs'
      exact Nat.succ_le_succ (hfirst earlier others hrest hearlier)

/-- What is left has nothing in it that would begin in the whole text. -/
theorem not_begins (hkept : IsTextBefore begins cs kept) {before rest : List Char}
    (hsplit : kept = before ++ rest) (hrest : rest ≠ []) (more : List Char)
    (hcs : cs = kept ++ more) : ¬ begins before (rest ++ more) := by
  intro hbegins
  rw [hsplit, List.append_assoc] at hcs
  cases hkept with
  | whole hnone => exact hnone _ _ hcs hbegins
  | cut _ _ hfirst =>
    have hle := hfirst _ _ hcs hbegins
    rw [hsplit, List.length_append] at hle
    exact hrest (List.length_eq_zero_iff.1 (by omega))

theorem exists_eq_append (hkept : IsTextBefore begins cs kept) : ∃ more, cs = kept ++ more := by
  cases hkept with
  | whole _ => exact ⟨[], (List.append_nil _).symm⟩
  | cut hcs _ _ => exact ⟨_, hcs⟩

end IsTextBefore

/-- Whether a text ends inside a word; `inWord` tells that it starts inside one. -/
def endsInWord (inWord : Bool) : List Char → Bool
  | [] => inWord
  | c :: cs => endsInWord (!isBlank c) cs

/-- What begins where a word begins that names a place after its first character. It may begin
later in such a word, but nowhere else. -/
structure IsSign (inWord : Bool) (begins : List Char → List Char → Prop) : Prop where
  nil : ∀ before, ¬ begins before []
  of_begins : ∀ before c cs, begins before (c :: cs) →
    isBlank c = false ∧ holdsLocation (cs.takeWhile fun d => !isBlank d) = true
  begins : ∀ before c cs, endsInWord inWord before = false → isBlank c = false →
    holdsLocation (cs.takeWhile fun d => !isBlank d) = true → begins before (c :: cs)

theorem IsSign.cons {inWord : Bool} {begins : List Char → List Char → Prop}
    (hsign : IsSign inWord begins) (c : Char) :
    IsSign (!isBlank c) fun before rest => begins (c :: before) rest where
  nil before := hsign.nil (c :: before)
  of_begins before := hsign.of_begins (c :: before)
  begins before := hsign.begins (c :: before)

/-- The text is cut at the first sign, whichever signs one looks for. Inside a word no place may be
left that the word names. -/
theorem isTextBefore_beforeLocation {inWord : Bool} {begins : List Char → List Char → Prop}
    (hsign : IsSign inWord begins) {cs : List Char}
    (hword : inWord = true → holdsLocation (cs.takeWhile fun d => !isBlank d) = false) :
    IsTextBefore begins cs (beforeLocation inWord cs) := by
  induction cs generalizing inWord begins with
  | nil =>
    refine .whole fun before rest hcs hbegins => ?_
    rw [(List.append_eq_nil_iff.1 hcs.symm).2] at hbegins
    exact hsign.nil before hbegins
  | cons c cs ih =>
    unfold beforeLocation
    by_cases hblank : isBlank c = true
    · rw [if_pos hblank]
      have hgap : IsSign false fun before rest => begins (c :: before) rest := by
        simpa only [hblank, Bool.not_true] using hsign.cons c
      refine .cons (fun hbegins => ?_) (ih hgap nofun)
      exact Bool.eq_false_iff.1 (hsign.of_begins _ _ _ hbegins).1 hblank
    rw [if_neg hblank]
    have hinside : IsSign true fun before rest => begins (c :: before) rest := by
      simpa only [Bool.eq_false_iff.2 hblank, Bool.not_false] using hsign.cons c
    by_cases hnames : holdsLocation (cs.takeWhile fun d => !isBlank d) = true
    · -- Inside a word this was settled at its first character.
      have hfree : inWord = false := by
        refine Bool.eq_false_iff.2 fun hin => ?_
        have hnone := hword hin
        rw [List.takeWhile_cons_of_pos (by simpa using hblank), holdsLocation, hnames,
          Bool.or_true] at hnone
        cases hnone
      rw [if_pos (by simp [hfree, hnames])]
      exact .start (hsign.begins [] c cs hfree (Bool.eq_false_iff.2 hblank) hnames)
    · rw [if_neg (by simp [hnames])]
      exact .cons (fun hbegins => hnames (hsign.of_begins _ _ _ hbegins).2)
        (ih hinside fun _ => Bool.eq_false_iff.2 hnames)

/-! ### Words and matches -/

/-- A word between two parts of a text: characters that are not blank, as many as there are. -/
structure IsRun (before word after : List Char) : Prop where
  word : MadeOf (fun c => !isBlank c) word
  starts : endsInWord false before = false
  ends : ∀ c ∈ after.head?, isBlank c = true

/-- The word names a place after its first character. -/
def NamesPlace (word : List Char) : Prop :=
  ∃ start place rest, word = start ++ place ++ rest ∧ start ≠ [] ∧ IsLocation place

/-- A word that names a place stands between what is before and some other text. -/
def BeginsPlace (before rest : List Char) : Prop :=
  ∃ word after, rest = word ++ after ∧ IsRun before word after ∧ NamesPlace word

/-- A match of the pattern begins here: characters that are not blank, at least one, then an
extension, a line and a column, and all that follows. -/
def BeginsMatch (rest : List Char) : Prop :=
  ∃ start place more, rest = start ++ place ++ more ∧ MadeOf (fun c => !isBlank c) start ∧
    IsLocation place

theorem namesPlace_cons {c : Char} {word : List Char} :
    NamesPlace (c :: word) ↔ holdsLocation word = true := by
  rw [holdsLocation_iff]
  constructor
  · rintro ⟨_ | ⟨d, start⟩, place, rest, hword, hstart, hplace⟩
    · exact absurd rfl hstart
    · exact ⟨start, place, rest, (List.cons.inj hword).2, hplace⟩
  · rintro ⟨start, place, rest, hword, hplace⟩
    exact ⟨c :: start, place, rest, congrArg (c :: ·) hword, List.cons_ne_nil _ _, hplace⟩

theorem IsRun.takeWhile_eq {before word after : List Char} {c : Char}
    (hrun : IsRun before (c :: word) after) :
    (word ++ after).takeWhile (fun d => !isBlank d) = word := by
  rw [List.takeWhile_append_of_pos fun d hd => hrun.word.2 d (List.mem_cons_of_mem c hd)]
  cases after with
  | nil => exact List.append_nil _
  | cons d rest =>
    have hend : isBlank d = true := hrun.ends d rfl
    rw [List.takeWhile_cons_of_neg (by simp [hend]), List.append_nil]

theorem isSign_beginsPlace : IsSign false BeginsPlace where
  nil := by
    rintro before ⟨word, after, hrest, hrun, -⟩
    exact hrun.word.1 (List.append_eq_nil_iff.1 hrest.symm).1
  of_begins := by
    rintro before c cs ⟨_ | ⟨d, word⟩, after, hrest, hrun, hplace⟩
    · exact absurd rfl hrun.word.1
    · obtain ⟨rfl, hcs⟩ := List.cons.inj hrest
      rw [hcs, List.append_eq, hrun.takeWhile_eq]
      exact ⟨by simpa using hrun.word.2 c (List.mem_cons_self ..), namesPlace_cons.1 hplace⟩
  begins := by
    intro before c cs hstarts hblank hplace
    refine ⟨c :: cs.takeWhile fun d => !isBlank d, cs.dropWhile fun d => !isBlank d, ?_,
      ⟨⟨List.cons_ne_nil _ _, ?_⟩, hstarts, fun d hd => ?_⟩, namesPlace_cons.2 hplace⟩
    · rw [List.cons_append, List.takeWhile_append_dropWhile]
    · exact List.forall_mem_cons.2 ⟨by simp [hblank], List.all_eq_true.1 List.all_takeWhile⟩
    · have hhead := List.head?_dropWhile_not (fun d => !isBlank d) cs
      rw [Option.mem_def.1 hd] at hhead
      simpa using hhead

theorem isSign_beginsMatch : IsSign false fun _ rest => BeginsMatch rest where
  nil := by
    rintro before ⟨start, place, more, hrest, hstart, -⟩
    simp only [List.nil_eq, List.append_eq_nil_iff] at hrest
    exact hstart.1 hrest.1.1
  of_begins := by
    rintro before c cs ⟨_ | ⟨d, start⟩, place, more, hrest, hstart, hplace⟩
    · exact absurd rfl hstart.1
    · obtain ⟨rfl, rfl⟩ := List.cons.inj hrest
      obtain ⟨hfirst, hothers⟩ := List.forall_mem_cons.1 hstart.2
      have hmatch : ∀ d ∈ start ++ place, (!isBlank d) = true := List.forall_mem_append.2
        ⟨hothers, fun d hd => by simp [hplace.not_isBlank d hd]⟩
      refine ⟨by simpa using hfirst, holdsLocation_iff.2 ?_⟩
      exact ⟨start, place, _, List.takeWhile_append_of_pos hmatch, hplace⟩
  begins := by
    intro before c cs _ hblank hholds
    obtain ⟨start, place, rest, hword, hplace⟩ := holdsLocation_iff.1 hholds
    have hall : ∀ d ∈ start ++ place ++ rest, (!isBlank d) = true :=
      hword ▸ List.all_eq_true.1 List.all_takeWhile
    refine ⟨c :: start, place, rest ++ cs.dropWhile fun d => !isBlank d, ?_,
      ⟨List.cons_ne_nil _ _, List.forall_mem_cons.2 ⟨by simp [hblank], fun d hd => ?_⟩⟩, hplace⟩
    · rw [List.cons_append, List.cons_append, ← List.append_assoc, ← hword,
        List.takeWhile_append_dropWhile]
    · exact hall d (by simp [hd])

theorem BeginsPlace.beginsMatch {before rest : List Char} (hplace : BeginsPlace before rest) :
    BeginsMatch rest := by
  obtain ⟨word, after, rfl, hrun, start, place, more, rfl, hstart, hlocation⟩ := hplace
  refine ⟨start, place, more ++ after, List.append_assoc .., ⟨hstart, fun c hc => ?_⟩, hlocation⟩
  exact hrun.word.2 c (by simp [hc])

theorem BeginsMatch.append {rest : List Char} (hmatch : BeginsMatch rest) (more : List Char) :
    BeginsMatch (rest ++ more) := by
  obtain ⟨start, place, others, rfl, hstart, hplace⟩ := hmatch
  exact ⟨start, place, others ++ more, List.append_assoc .., hstart, hplace⟩

/-! ### Cleaned messages -/

theorem exists_eq_append_trim (cs : List Char) : ∃ start stop, cs = start ++ trim cs ++ stop := by
  have hend (ds : List Char) : ds = trimEnd ds ++ (ds.reverse.takeWhile isBlank).reverse := by
    unfold trimEnd
    rw [← List.reverse_append, List.takeWhile_append_dropWhile, List.reverse_reverse]
  refine ⟨cs.takeWhile isBlank, ((cs.dropWhile isBlank).reverse.takeWhile isBlank).reverse, ?_⟩
  unfold trim
  rw [List.append_assoc, ← hend, List.takeWhile_append_dropWhile]

/-- No match begins in what is left of a message, blanks at its ends or not. -/
theorem not_beginsMatch_trim {cs before rest : List Char}
    (hsplit : trim (beforeLocation false cs) = before ++ rest) : ¬ BeginsMatch rest := by
  intro hmatch
  -- It would be a match in the whole message too, and one before the first.
  have hkept : IsTextBefore (fun _ rest => BeginsMatch rest) cs (beforeLocation false cs) :=
    isTextBefore_beforeLocation isSign_beginsMatch nofun
  obtain ⟨start, stop, hends⟩ := exists_eq_append_trim (beforeLocation false cs)
  obtain ⟨more, hcs⟩ := hkept.exists_eq_append
  have hrest : rest ≠ [] := fun hnil => isSign_beginsMatch.nil [] (hnil ▸ hmatch)
  have hwhole : beforeLocation false cs = (start ++ before) ++ (rest ++ stop) := by
    simpa [hsplit] using hends
  exact hkept.not_begins hwhole (List.append_ne_nil_of_left_ne_nil hrest stop) more hcs
    ((hmatch.append stop).append more)

theorem withoutLocation_withoutLocation (message : String) :
    withoutLocation (withoutLocation message) = withoutLocation message := by
  have hnone : IsTextBefore (fun _ rest => BeginsMatch rest)
      (trim (beforeLocation false message.toList)) (trim (beforeLocation false message.toList)) :=
    .whole fun _ _ hsplit => not_beginsMatch_trim hsplit
  have hkept := (isTextBefore_beforeLocation isSign_beginsMatch nofun).unique hnone
  unfold withoutLocation
  rw [String.toList_ofList, ← hkept, trim_trim]

theorem fst_cleanMessage {plugin : String} (hplugin : plugin ≠ compilerPlugin) (message : String)
    (help : Json) (rule : String) : (cleanMessage message help plugin rule).1 =
      if withoutLocation message = "" then message else withoutLocation message := by
  unfold cleanMessage
  rw [if_neg (by simpa using hplugin)]
  simp only [beq_iff_eq]

theorem snd_cleanMessage {plugin : String} (hplugin : plugin ≠ compilerPlugin) (message : String)
    (help : Json) (rule : String) : (cleanMessage message help plugin rule).2 =
      help.given?.getD (.text (Catalogue.helpFor rule)) := by
  unfold cleanMessage
  rw [if_neg (by simpa using hplugin)]

theorem getD_given?_getD (help : Json) (usual : String) :
    (help.given?.getD (.text usual)).given?.getD (.text usual) =
      help.given?.getD (.text usual) := by
  by_cases hgiven : help.isTruthy = true
  · have hsame : help.given? = some help := by simp [Json.given?, hgiven]
    rw [hsame, Option.getD_some, hsame, Option.getD_some]
  · have hnone : help.given? = none := by simp [Json.given?, hgiven]
    rw [hnone, Option.getD_none]
    unfold Json.given?
    split <;> rfl

theorem fst_cleanMessage_again {plugin : String} (hplugin : plugin ≠ compilerPlugin)
    (message : String) (help again : Json) (rule : String) :
    (cleanMessage (cleanMessage message help plugin rule).1 again plugin rule).1 =
      (cleanMessage message help plugin rule).1 := by
  simp only [fst_cleanMessage hplugin]
  by_cases hnothing : withoutLocation message = ""
  · rw [if_pos hnothing, if_pos hnothing]
  · rw [if_neg hnothing, withoutLocation_withoutLocation, if_neg hnothing]

/-- A message is cut before the first word that names a place, which is where the first match of the
pattern begins. What is left, without blanks at its ends, is the message, or the help of the React
compiler's plugin; where nothing is left, both stay what they are. A cleaned message names no place,
and to clean it again changes nothing. -/
theorem cleanMessage_cuts {plugin : String} (hplugin : plugin ≠ compilerPlugin) (message : String)
    (help : Json) (rule : String) : ∃ kept,
      (∀ other, IsTextBefore BeginsPlace message.toList other ↔ other = kept) ∧
      (∀ other, IsTextBefore (fun _ rest => BeginsMatch rest) message.toList other ↔ other = kept) ∧
      let cleaned := strip (String.ofList kept)
      let result := cleanMessage message help plugin rule
      result.1 = (if cleaned = "" then message else cleaned) ∧
        (message ≠ "" → result.1 ≠ "") ∧
        (cleaned ≠ "" → ∀ before rest, result.1.toList = before ++ rest →
          ¬ BeginsPlace before rest ∧ ¬ BeginsMatch rest) ∧
        cleanMessage result.1 result.2 plugin rule = result ∧
        cleanMessage message help compilerPlugin rule =
          (compilerMessage, if cleaned = "" then help else .text cleaned) := by
  have hplace : IsTextBefore BeginsPlace message.toList (beforeLocation false message.toList) :=
    isTextBefore_beforeLocation isSign_beginsPlace nofun
  have hmatch : IsTextBefore (fun _ rest => BeginsMatch rest) message.toList
      (beforeLocation false message.toList) :=
    isTextBefore_beforeLocation isSign_beginsMatch nofun
  refine ⟨beforeLocation false message.toList, fun other => ⟨hplace.unique, ?_⟩,
    fun other => ⟨hmatch.unique, ?_⟩, ?_⟩
  · rintro rfl
    exact hplace
  · rintro rfl
    exact hmatch
  intro cleaned result
  have hcleaned : cleaned = withoutLocation message := by
    unfold cleaned strip withoutLocation
    rw [String.toList_ofList]
  have hresult : result.1 = if cleaned = "" then message else cleaned := by
    rw [hcleaned]
    exact fst_cleanMessage hplugin message help rule
  refine ⟨hresult, fun hmessage => ?_, fun hleft before rest hsplit => ?_, ?_, ?_⟩
  · rw [hresult]
    split
    · exact hmessage
    · assumption
  · rw [hresult, if_neg hleft, hcleaned, withoutLocation, String.toList_ofList] at hsplit
    have hnone : ¬ BeginsMatch rest := not_beginsMatch_trim hsplit
    exact ⟨fun hword => hnone hword.beginsMatch, hnone⟩
  · refine Prod.ext (fst_cleanMessage_again hplugin message help _ rule) ?_
    rw [snd_cleanMessage hplugin, snd_cleanMessage hplugin, getD_given?_getD]
  · rw [hcleaned]
    unfold cleanMessage
    rw [if_pos (by simp)]
    simp only [beq_iff_eq]

def missingKeyMessage : String := "Missing key src/App.tsx:12:4 in list"

/-- The message without its place, as one of some plugin and as one of the React compiler's. -/
theorem cleanMessage_missingKeyMessage :
    let result := cleanMessage missingKeyMessage .null "react" "jsx-key"
    result.1 = "Missing key" ∧ cleanMessage result.1 result.2 "react" "jsx-key" = result ∧
      cleanMessage missingKeyMessage .null compilerPlugin "jsx-key" =
        (compilerMessage, .text "Missing key") := by
  obtain ⟨kept, hkept, -, hresult, -, -, hagain, hcompiler⟩ :=
    cleanMessage_cuts (show "react" ≠ compilerPlugin by decide) missingKeyMessage .null "jsx-key"
  obtain rfl : beforeLocation false missingKeyMessage.toList = kept :=
    (hkept _).1 (isTextBefore_beforeLocation isSign_beginsPlace nofun)
  have hcleaned : strip (String.ofList (beforeLocation false missingKeyMessage.toList)) =
      "Missing key" := by decide +kernel
  rw [hcleaned] at hresult hcompiler
  exact ⟨hresult, hagain, hcompiler⟩

end Lint

end Checkup
