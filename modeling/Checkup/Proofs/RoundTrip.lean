import Mathlib.Data.List.Forall2
import Mathlib.Data.List.TakeDrop
import Mathlib.Tactic.IntervalCases
import Checkup.Json.Printer
import Checkup.Json.Reader

/-!
# Reading JSON back

What the printer writes the reader reads as the same value, with any indent. The induction is on the
value. A text is read back character by character, an escaped one through its UTF-16 units; a number
by its digits, which end because no other number sign may follow a value; and the blanks of a layout
are the blanks that the reader skips between the parts. Real numbers are left out.
-/

namespace Checkup

theorem Named.set_of_notMem {α : Type} {name : String} {entries : List (String × α)}
    (hname : name ∉ entries.map (·.1)) (value : α) :
    Named.set name value entries = entries ++ [(name, value)] := by
  induction entries with
  | nil => rfl
  | cons entry rest ih =>
    rw [List.map_cons, List.mem_cons, not_or] at hname
    simp [Named.set, Ne.symm hname.1, ih hname.2]

namespace Json

namespace Reader

/-! ### Texts -/

section Texts

variable {c : Char} {n : Nat} {cs rest : List Char}

theorem hexValue?_digitChar (hn : n < 16) : hexValue? (Nat.digitChar n) = some n := by
  interval_cases n <;> decide

theorem hexDigits_one (hn : n < 16) : Printer.hexDigits 1 n = [Nat.digitChar n] := by
  rw [Printer.hexDigits, Nat.toDigits_of_lt_base hn]
  rfl

theorem hexDigits_succ {width : Nat} (hwidth : 0 < width) (n : Nat) :
    Printer.hexDigits (width + 1) n =
      Printer.hexDigits width (n / 16) ++ [Nat.digitChar (n % 16)] := by
  unfold Printer.hexDigits
  rw [Nat.toDigits_eq_if (by decide)]
  split
  · rename_i hn
    -- The digit of a small number has zeros in front, and the last of them is the rest.
    rw [Nat.div_eq_of_lt hn, Nat.mod_eq_of_lt hn, Nat.toDigits_of_lt_base (by decide)]
    obtain ⟨k, rfl⟩ := Nat.exists_eq_succ_of_ne_zero hwidth.ne'
    change List.replicate (k + 1) '0' ++ _ = (List.replicate k '0' ++ ['0']) ++ _
    rw [List.replicate_succ']
  · dsimp only
    rw [List.length_append, List.length_singleton, Nat.add_sub_add_right, List.append_assoc]

theorem units_unitEscape (hn : n < 0x10000) (cs : List Char) :
    units (Printer.unitEscape n ++ cs) =
      (units cs).map fun (found, rest) => (n :: found, rest) := by
  have hvalue : (n / 16 / 16 / 16 * 16 + n / 16 / 16 % 16) * 256 + (n / 16 % 16 * 16 + n % 16) = n := by
    omega
  rw [Printer.unitEscape, hexDigits_succ (by decide), hexDigits_succ (by decide),
    hexDigits_succ (by decide), hexDigits_one (by omega)]
  simp only [List.cons_append, List.nil_append]
  rw [units, hexFour?, hexValue?_digitChar (by omega), hexValue?_digitChar (by omega),
    hexValue?_digitChar (by omega), hexValue?_digitChar (by omega)]
  cases units cs <;> simp [hvalue]

def unitsOf (c : Char) : List Nat :=
  if c.toNat < 0x10000 then [c.toNat]
  else [0xD800 + (c.toNat - 0x10000) / 1024, 0xDC00 + (c.toNat - 0x10000) % 1024]

theorem units_escape {e : Char} (he : e ≠ 'u') (hunit : escape? e = some n) (cs : List Char) :
    units ('\\' :: e :: cs) = (units cs).map fun (found, rest) => (n :: found, rest) := by
  rw [units]
  · rw [hunit]
    cases units cs <;> rfl
  · intro a b c d rest heq
    exact absurd heq he

theorem units_plain (hlow : 32 ≤ c.toNat) (hquote : c ≠ '"') (hbackslash : c ≠ '\\')
    (cs : List Char) :
    units (c :: cs) = (units cs).map fun (found, rest) => (c.toNat :: found, rest) := by
  rw [units]
  · have hplain : ¬ (c.toNat < 32 || c == '\\') = true := by
      simp [hbackslash]
      omega
    rw [if_neg hplain]
    cases units cs <;> rfl
  all_goals
    intros
    simp_all

theorem units_char (c : Char) (cs : List Char) :
    units (Printer.char c ++ cs) =
      (units cs).map fun (found, rest) => (unitsOf c ++ found, rest) := by
  have hsmall (hlt : c.toNat < 0x10000) : unitsOf c = [c.toNat] := if_pos hlt
  have hnamed {e : Char} {n : Nat} (he : e ≠ 'u') (hunit : escape? e = some n) (hn : c.toNat = n)
      (hlt : n < 0x10000) : units (['\\', e] ++ cs) =
        (units cs).map fun (found, rest) => (unitsOf c ++ found, rest) := by
    rw [hsmall (hn ▸ hlt), hn]
    exact units_escape he hunit cs
  unfold Printer.char
  iterate 5
    split
    · rename_i hc
      exact hnamed (by decide) rfl (beq_iff_eq.1 hc ▸ rfl) (by decide)
  iterate 2
    split
    · rename_i hc
      exact hnamed (by decide) rfl (beq_iff_eq.1 hc) (by decide)
  split
  · rename_i hquote hbackslash _ _ _ _ _ hplain
    simp only [Bool.and_eq_true, decide_eq_true_eq] at hplain
    rw [hsmall (by omega), List.singleton_append]
    exact units_plain hplain.1 (by simpa using hquote) (by simpa using hbackslash) cs
  split
  · rename_i hlt
    rw [hsmall hlt]
    exact units_unitEscape hlt cs
  · rename_i hlarge
    have hvalid : c.toNat < 0xD800 ∨ 0xDFFF < c.toNat ∧ c.toNat < 0x110000 := c.valid
    rw [unitsOf, if_neg hlarge, List.append_assoc, units_unitEscape (by omega),
      units_unitEscape (by omega)]
    cases units cs <;> rfl

/-- The units of a character are joined again, whatever follows them. -/
theorem joinUnits_unitsOf (c : Char) (found : List Nat) :
    joinUnits (unitsOf c ++ found) = c :: joinUnits found := by
  have hvalid : c.toNat < 0xD800 ∨ 0xDFFF < c.toNat ∧ c.toNat < 0x110000 := c.valid
  have hchar : Char.ofNat c.toNat = c := Char.ofNat_toNat c
  unfold unitsOf
  split
  · have hhigh : isHigh c.toNat = false := by
      simp [isHigh]
      omega
    have hlow : isLow c.toNat = false := by
      simp [isLow]
      omega
    have hunit : unitChar c.toNat = c := by
      rw [unitChar, hhigh, hlow]
      exact hchar
    cases found with
    | nil => exact congrArg (fun d => [d]) hunit
    | cons n found => rw [List.singleton_append, joinUnits, hhigh, hunit]; rfl
  · have hhigh : isHigh (0xD800 + (c.toNat - 0x10000) / 1024) = true := by
      simp [isHigh]
      omega
    have hlow : isLow (0xDC00 + (c.toNat - 0x10000) % 1024) = true := by
      simp [isLow]
      omega
    have hvalue : 0x10000 + (0xD800 + (c.toNat - 0x10000) / 1024 - 0xD800) * 1024 +
        (0xDC00 + (c.toNat - 0x10000) % 1024 - 0xDC00) = c.toNat := by
      omega
    rw [List.cons_append, List.cons_append, List.nil_append, joinUnits, hhigh, hlow, hvalue, hchar]
    rfl

theorem string_eq_ok (s : String) (rest : List Char) :
    string (s.toList.flatMap Printer.char ++ '"' :: rest) = .ok (s, rest) := by
  have hunits (cs : List Char) : units (cs.flatMap Printer.char ++ '"' :: rest) =
      some (cs.flatMap unitsOf, rest) := by
    induction cs with
    | nil => rfl
    | cons c cs ih => rw [List.flatMap_cons, List.append_assoc, units_char, ih]; rfl
  have hjoined (cs : List Char) : joinUnits (cs.flatMap unitsOf) = cs := by
    induction cs with
    | nil => rfl
    | cons c cs ih => rw [List.flatMap_cons, joinUnits_unitsOf, ih]
  rw [string, hunits]
  dsimp only
  rw [hjoined, String.ofList_toList]

end Texts

/-! ### Numbers -/

section Numbers

variable {c : Char} {cs rest : List Char} {n : Nat}

/-- No part of a number may follow: no digit, no point and no mark of an exponent. -/
def EndsNumber (rest : List Char) : Prop :=
  ∀ c ∈ rest.head?, isDigit c = false ∧ c ≠ '.' ∧ c ≠ 'e' ∧ c ≠ 'E'

theorem isDigit_of_mem_toDigits (hc : c ∈ Nat.toDigits 10 n) : isDigit c = true := by
  have hdigit := Nat.isDigit_of_mem_toDigits (by decide) (by decide) hc
  simpa [Char.isDigit, isDigit, Char.le_def] using hdigit

theorem head?_toDigits_ne (hn : 0 < n) : (Nat.toDigits 10 n).head? ≠ some '0' := by
  induction n using Nat.strongRecOn with
  | ind n ih =>
    rw [Nat.toDigits_eq_if (by decide)]
    split
    · interval_cases n <;> decide
    · rw [List.head?_append_of_ne_nil _ Nat.toDigits_ne_nil]
      exact ih (n / 10) (by omega) (by omega)

theorem span_digits {digits : List Char} (hdigits : ∀ c ∈ digits, isDigit c = true)
    (hrest : EndsNumber rest) : (digits ++ rest).span isDigit = (digits, rest) := by
  rw [List.span_eq_takeWhile_dropWhile, List.takeWhile_append_of_pos hdigits,
    List.dropWhile_append_of_pos hdigits]
  cases rest with
  | nil => simp
  | cons c rest =>
    have hc := (hrest c rfl).1
    simp [hc]

theorem wholePart_toDigits (n : Nat) (hrest : EndsNumber rest) :
    wholePart (Nat.toDigits 10 n ++ rest) = (Nat.toDigits 10 n, rest) := by
  have hdigits : ∀ c ∈ Nat.toDigits 10 n, isDigit c = true := fun _ => isDigit_of_mem_toDigits
  rcases Nat.eq_zero_or_pos n with rfl | hn
  · rfl
  · have hhead := head?_toDigits_ne hn
    cases htext : Nat.toDigits 10 n with
    | nil => exact absurd htext Nat.toDigits_ne_nil
    | cons c digits =>
      rw [htext] at hdigits hhead
      rw [List.cons_append, wholePart]
      · exact span_digits hdigits hrest
      · rintro rest ⟨⟩
        exact hhead rfl

theorem fractionPart_eq (hrest : EndsNumber rest) : fractionPart rest = ([], rest) := by
  cases rest with
  | nil => rfl
  | cons c rest =>
    rw [fractionPart]
    rintro after ⟨⟩
    exact (hrest '.' rfl).2.1 rfl

theorem exponentPart_eq (hrest : EndsNumber rest) : exponentPart rest = (none, rest) := by
  cases rest with
  | nil => rfl
  | cons c rest =>
    obtain ⟨-, -, hsmall, hlarge⟩ := hrest c rfl
    rw [exponentPart, if_neg (by simp [hsmall, hlarge])]

theorem digitsNumber_toDigits (n : Nat) : digitsNumber (Nat.toDigits 10 n) = n := by
  rw [digitsNumber, Decimal.ofDigits, List.foldl_map]
  exact Nat.ofDigitChars_ten_toDigits

theorem number_toDigits (hn : n < 10 ^ Decimal.digitLimit)
    (hrest : EndsNumber rest) (negative : Bool) :
    number negative (Nat.toDigits 10 n ++ rest) =
      .ok (.number (.whole (Decimal.signed negative n)), rest) := by
  have hsome : (Nat.toDigits 10 n).isEmpty = false := by simp
  have hlength : ¬ Decimal.digitLimit < (Nat.toDigits 10 n).length :=
    Nat.not_lt.2 ((Nat.length_toDigits_le_iff (by decide) (by decide)).2 hn)
  rw [number, wholePart_toDigits n hrest]
  dsimp only
  rw [hsome, fractionPart_eq hrest]
  dsimp only
  rw [exponentPart_eq hrest]
  dsimp only
  rw [if_neg hlength, digitsNumber_toDigits]
  rfl

theorem find?_words (hnone : ∀ entry ∈ words, ¬ entry.1 <+: cs) {found : List Char × Json} :
    words.find? (fun entry => entry.1.isPrefixOf cs) ≠ some found := by
  intro hfound
  have hbegins := List.find?_some hfound
  exact hnone found (List.mem_of_find?_eq_some hfound) (List.isPrefixOf_iff_prefix.1 hbegins)

theorem scalar_digit (hc : isDigit c = true) (cs : List Char) :
    scalar (c :: cs) = number false (c :: cs) := by
  have hnone : ∀ entry ∈ words, ¬ entry.1 <+: c :: cs := by
    simp only [words, List.forall_mem_cons, String.reduceToList, List.cons_prefix_cons, not_and]
    refine ⟨?_, ?_, ?_, ?_, ?_, ?_, by simp⟩
    all_goals
      rintro rfl
      exact absurd hc (by decide)
  rw [scalar]
  · split
    · rename_i hfound
      exact absurd hfound (find?_words hnone)
    · rfl
  · rintro rest heq
    rw [(List.cons.inj heq).1] at hc
    exact absurd hc (by decide)

theorem scalar_minus (hc : isDigit c = true) (cs : List Char) :
    scalar ('-' :: c :: cs) = number true (c :: cs) := by
  have hnone : ∀ entry ∈ words, ¬ entry.1 <+: '-' :: c :: cs := by
    simp only [words, List.forall_mem_cons, String.reduceToList, List.cons_prefix_cons, not_and]
    refine ⟨by simp, by simp, by simp, by simp, by simp, ?_, by simp⟩
    rintro - rfl
    exact absurd hc (by decide)
  rw [scalar]
  split
  · rename_i hfound
    exact absurd hfound (find?_words hnone)
  · rfl

end Numbers

/-! ### Layouts -/

section Layouts

variable {c : Char} {blanks cs : List Char}

def AreBlank (blanks : List Char) : Prop :=
  ∀ c ∈ blanks, isSpace c = true

theorem AreBlank.skip_append (hblanks : AreBlank blanks) (cs : List Char) :
    skip (blanks ++ cs) = skip cs :=
  List.dropWhile_append_of_pos hblanks

theorem areBlank_singleton : AreBlank [' '] := by
  intro c hc
  rw [List.mem_singleton.1 hc]
  rfl

theorem skip_cons (hc : isSpace c = false) (cs : List Char) : skip (c :: cs) = c :: cs :=
  List.dropWhile_cons_of_neg (by simp [hc])

theorem endsNumber_cons (hc : c = ',' ∨ c = ']' ∨ c = '}' ∨ isSpace c = true) (cs : List Char) :
    EndsNumber (c :: cs) := by
  rintro _ ⟨⟩
  rcases hc with rfl | rfl | rfl | hspace
  · decide
  · decide
  · decide
  · simp only [isSpace, Bool.or_eq_true, beq_iff_eq] at hspace
    rcases hspace with ((rfl | rfl) | rfl) | rfl <;> decide

theorem AreBlank.endsNumber_append (hblanks : AreBlank blanks) (hcs : EndsNumber cs) :
    EndsNumber (blanks ++ cs) := by
  cases blanks with
  | nil => exact hcs
  | cons c blanks => exact endsNumber_cons (.inr (.inr (.inr (hblanks c List.mem_cons_self)))) _

/-- The layout has nothing but blanks at the brackets, and a comma and blanks between the parts. -/
structure IsBlankLayout (l : Printer.Layout) : Prop where
  opening : AreBlank l.opening.toList
  between : ∃ blanks, l.between.toList = ',' :: blanks ∧ AreBlank blanks
  closing : AreBlank l.closing.toList

theorem areBlank_newline (indent depth : Nat) :
    AreBlank (Printer.newline indent depth).toList := by
  intro c hc
  rw [Printer.newline, String.toList_append, List.mem_append] at hc
  rcases hc with hc | hc
  · rw [List.mem_singleton.1 (show c ∈ ['\n'] from hc)]
    rfl
  · rw [String.toList_ofList] at hc
    rw [(List.mem_replicate.1 hc).2]
    rfl

theorem isBlankLayout (indent : Option Nat) (depth : Nat) :
    IsBlankLayout (Printer.layout indent depth) := by
  cases indent with
  | none => exact ⟨nofun, ⟨[' '], by simp [Printer.layout], areBlank_singleton⟩, nofun⟩
  | some indent =>
    refine ⟨areBlank_newline _ _, ⟨_, ?_, areBlank_newline indent (depth + 1)⟩,
      areBlank_newline _ _⟩
    exact String.toList_append

end Layouts

/-! ### Parts of a value -/

section Parts

variable {text next rest blanks : List Char} {texts : List (List Char)} {l : Printer.Layout}
  {fuel : Nat}

/-- The text begins with a character that is no blank and no closing bracket. -/
def BeginsPart (text : List Char) : Prop :=
  ∃ c cs, text = c :: cs ∧ isSpace c = false ∧ c ≠ ']' ∧ c ≠ '}'

theorem BeginsPart.append (htext : BeginsPart text) (rest : List Char) :
    BeginsPart (text ++ rest) := by
  obtain ⟨c, cs, rfl, hc⟩ := htext
  exact ⟨c, cs ++ rest, rfl, hc⟩

theorem BeginsPart.skip_eq (htext : BeginsPart text) : skip text = text := by
  obtain ⟨c, cs, rfl, hc, -⟩ := htext
  exact skip_cons hc cs

theorem BeginsPart.intercalate (hnext : BeginsPart next) (separator : List Char)
    (texts : List (List Char)) : BeginsPart (separator.intercalate (next :: texts)) := by
  cases texts with
  | nil => rwa [List.intercalate_singleton]
  | cons text texts =>
    rw [List.intercalate_cons_cons, List.append_assoc]
    exact hnext.append _

/-- The parts begin with their first character when the blanks before them are skipped. -/
theorem exists_skip_opening (hl : IsBlankLayout l) (htext : BeginsPart text)
    (texts : List (List Char)) (rest : List Char) : ∃ c cs,
    l.between.toList.intercalate (text :: texts) ++ rest = c :: cs ∧
      skip (l.opening.toList ++ (l.between.toList.intercalate (text :: texts) ++ rest)) = c :: cs ∧
      c ≠ ']' ∧ c ≠ '}' := by
  have hparts := (htext.intercalate l.between.toList texts).append rest
  rw [hl.opening.skip_append, hparts.skip_eq]
  obtain ⟨c, cs, hcs, -, hsigns⟩ := hparts
  exact ⟨c, cs, hcs, hcs, hsigns⟩

/-- A part that is not the last one stands before a comma, and after the blanks behind it stand the
other parts. -/
theorem intercalate_append (hbetween : l.between.toList = ',' :: blanks) (text next : List Char)
    (texts : List (List Char)) (rest : List Char) :
    l.between.toList.intercalate (text :: next :: texts) ++ rest =
      text ++ ',' :: (blanks ++ (l.between.toList.intercalate (next :: texts) ++ rest)) := by
  rw [List.intercalate_cons_cons]
  simp only [hbetween, List.append_assoc, List.cons_append]

theorem length_intercalate (separator text next : List Char) (texts : List (List Char)) :
    (separator.intercalate (text :: next :: texts)).length =
      text.length + separator.length + (separator.intercalate (next :: texts)).length := by
  rw [List.intercalate_cons_cons, List.length_append, List.length_append]

/-- The text is read as the value, whatever follows that cannot be part of a number. -/
structure Spells (text : List Char) (found : Json) : Prop where
  begins : BeginsPart text
  reads : ∀ fuel rest, 2 * text.length ≤ fuel → EndsNumber rest →
    value fuel (text ++ rest) = .ok (found, rest)

theorem items_eq_ok {found : List Json} (hl : IsBlankLayout l)
    (hspells : List.Forall₂ Spells texts found) (hsome : texts ≠ [])
    (hfuel : 2 * (l.between.toList.intercalate texts).length < fuel) (rest : List Char) :
    items fuel (l.between.toList.intercalate texts ++ (l.closing.toList ++ ']' :: rest)) =
      .ok (found, rest) := by
  obtain ⟨blanks, hbetween, hblanks⟩ := hl.between
  have hcomma : 1 ≤ l.between.toList.length := by rw [hbetween]; simp
  induction hspells generalizing fuel with
  | nil => exact absurd rfl hsome
  | @cons text item texts found hitem hrest ih =>
    obtain ⟨fuel, rfl⟩ := Nat.exists_eq_succ_of_ne_zero (show fuel ≠ 0 by omega)
    cases hrest with
    | nil =>
      rw [List.intercalate_singleton] at hfuel ⊢
      have hread := hitem.reads fuel (l.closing.toList ++ ']' :: rest) (by omega)
        (hl.closing.endsNumber_append (endsNumber_cons (.inr (.inl rfl)) rest))
      rw [items, hread]
      dsimp only [bind, Except.bind]
      rw [hl.closing.skip_append, skip_cons (by decide)]
      rfl
    | @cons next second texts found hsecond hrest =>
      rw [length_intercalate] at hfuel
      have hothers : items fuel _ = .ok (second :: found, rest) :=
        ih (List.cons_ne_nil _ _) (by omega)
      have hnext := (hsecond.begins.intercalate l.between.toList texts).append
        (l.closing.toList ++ ']' :: rest)
      rw [intercalate_append hbetween, items,
        hitem.reads fuel _ (by omega) (endsNumber_cons (.inl rfl) _)]
      dsimp only [bind, Except.bind]
      rw [skip_cons (by decide)]
      change (items fuel (skip (blanks ++ _)) >>= _) = _
      rw [hblanks.skip_append, hnext.skip_eq, hothers]
      rfl

/-- The text of a member, with the text of its value. -/
def memberText (name : String) (text : List Char) : List Char :=
  '"' :: (name.toList.flatMap Printer.char ++ '"' :: ':' :: ' ' :: text)

theorem members_memberText {name : String} {item : Json} (hitem : Spells text item)
    (hfuel : 2 * text.length ≤ fuel) (hrest : EndsNumber rest) :
    members (fuel + 1) (memberText name text ++ rest) = (do
      match skip rest with
      | '}' :: after => return ([(name, item)], after)
      | ',' :: more =>
        let (others, after) ← members fuel (skip more)
        return ((name, item) :: others, after)
      | _ => .error .malformed) := by
  have htext : memberText name text ++ rest =
      '"' :: (name.toList.flatMap Printer.char ++ '"' :: ':' :: ' ' :: (text ++ rest)) := by
    simp [memberText]
  have hskip : skip (' ' :: (text ++ rest)) = text ++ rest :=
    (areBlank_singleton.skip_append _).trans (hitem.begins.append rest).skip_eq
  rw [htext, members, string_eq_ok]
  dsimp only [bind, Except.bind]
  rw [skip_cons (by decide)]
  change (value fuel (skip (' ' :: (text ++ rest))) >>= _) = _
  rw [hskip, hitem.reads fuel rest hfuel hrest]
  rfl

def SpellsMember (text : List Char) (member : String × Json) : Prop :=
  ∃ valueText, Spells valueText member.2 ∧ text = memberText member.1 valueText

theorem SpellsMember.begins {member : String × Json} (hspells : SpellsMember text member) :
    BeginsPart text := by
  obtain ⟨valueText, -, rfl⟩ := hspells
  exact ⟨'"', _, rfl, by decide, by decide, by decide⟩

theorem members_eq_ok {found : List (String × Json)} (hl : IsBlankLayout l)
    (hspells : List.Forall₂ SpellsMember texts found) (hsome : texts ≠ [])
    (hfuel : 2 * (l.between.toList.intercalate texts).length < fuel) (rest : List Char) :
    members fuel (l.between.toList.intercalate texts ++ (l.closing.toList ++ '}' :: rest)) =
      .ok (found, rest) := by
  obtain ⟨blanks, hbetween, hblanks⟩ := hl.between
  have hcomma : 1 ≤ l.between.toList.length := by rw [hbetween]; simp
  induction hspells generalizing fuel with
  | nil => exact absurd rfl hsome
  | @cons text member texts found hmember hrest ih =>
    obtain ⟨fuel, rfl⟩ := Nat.exists_eq_succ_of_ne_zero (show fuel ≠ 0 by omega)
    obtain ⟨valueText, hitem, rfl⟩ := hmember
    have hlength : valueText.length ≤ (memberText member.1 valueText).length := by
      simp [memberText]
      omega
    cases hrest with
    | nil =>
      rw [List.intercalate_singleton] at hfuel ⊢
      rw [members_memberText hitem (by omega)
        (hl.closing.endsNumber_append (endsNumber_cons (.inr (.inr (.inl rfl))) rest)),
        hl.closing.skip_append, skip_cons (by decide)]
      rfl
    | @cons next second texts found hsecond hrest =>
      rw [length_intercalate] at hfuel
      have hothers : members fuel _ = .ok (second :: found, rest) :=
        ih (List.cons_ne_nil _ _) (by omega)
      have hnext := (hsecond.begins.intercalate l.between.toList texts).append
        (l.closing.toList ++ '}' :: rest)
      rw [intercalate_append hbetween,
        members_memberText hitem (by omega) (endsNumber_cons (.inl rfl) _), skip_cons (by decide)]
      change (members fuel (skip (blanks ++ _)) >>= _) = _
      rw [hblanks.skip_append, hnext.skip_eq, hothers]
      rfl

end Parts

/-! ### Values -/

section Values

variable {c : Char} {cs rest text : List Char} {l : Printer.Layout} {fuel : Nat}

theorem value_scalar (hquote : c ≠ '"') (hbracket : c ≠ '[') (hbrace : c ≠ '{') (fuel : Nat)
    (cs : List Char) : value (fuel + 1) (c :: cs) = scalar (c :: cs) := by
  rw [value]
  · rintro _ ⟨⟩
    exact hquote rfl
  · rintro _ ⟨⟩
    exact hbracket rfl
  · rintro _ ⟨⟩
    exact hbrace rfl

/-- The characters that no word and no number begins with, among those that have a meaning. -/
def signs : List Char :=
  ['"', '[', '{', ']', '}', ' ', '\t', '\n', '\r']

theorem notMem_signs (hc : isDigit c = true) : c ∉ signs := by
  intro hsign
  simp only [signs, List.mem_cons, List.not_mem_nil, or_false] at hsign
  rcases hsign with rfl | rfl | rfl | rfl | rfl | rfl | rfl | rfl | rfl <;>
    exact absurd hc (by decide)

/-- A word or a number is read back when the reader of such values reads it. -/
theorem spells_scalar {found : Json} (hc : c ∉ signs)
    (hreads : ∀ rest, EndsNumber rest → scalar (c :: cs ++ rest) = .ok (found, rest)) :
    Spells (c :: cs) found := by
  simp only [signs, List.mem_cons, List.not_mem_nil, or_false, not_or] at hc
  obtain ⟨hquote, hbracket, hbrace, hclosing, hclosing', hblanks⟩ := hc
  refine ⟨⟨c, cs, rfl, by simp [isSpace, hblanks], hclosing, hclosing'⟩,
    fun fuel rest hfuel hrest => ?_⟩
  rw [List.length_cons] at hfuel
  obtain ⟨fuel, rfl⟩ := Nat.exists_eq_succ_of_ne_zero (show fuel ≠ 0 by omega)
  rw [List.cons_append, value_scalar hquote hbracket hbrace]
  exact hreads rest hrest

theorem spells_whole {n : Int} (hn : n.natAbs < 10 ^ Decimal.digitLimit) :
    Spells (toString n).toList (.number (.whole n)) := by
  obtain ⟨c, digits, hdigits⟩ := List.exists_cons_of_ne_nil
    (Nat.toDigits_ne_nil : Nat.toDigits 10 n.natAbs ≠ [])
  have hc : isDigit c = true := isDigit_of_mem_toDigits (hdigits ▸ List.mem_cons_self)
  have hnumber (negative : Bool) {rest : List Char} (hrest : EndsNumber rest) :=
    hdigits ▸ number_toDigits hn hrest negative
  rw [Int.toString_eq_repr, Int.repr_eq_if]
  split
  · rename_i hpos
    have habs : n.toNat = n.natAbs := by omega
    have hvalue : Decimal.signed false n.natAbs = n := Int.natAbs_of_nonneg hpos
    rw [Nat.repr_eq_ofList_toDigits, String.toList_ofList, habs, hdigits]
    refine spells_scalar (notMem_signs hc) fun rest hrest => ?_
    rw [List.cons_append, scalar_digit hc, ← List.cons_append, hnumber false hrest, hvalue]
  · rename_i hneg
    have habs : (-n).toNat = n.natAbs := by omega
    have hvalue : Decimal.signed true n.natAbs = n := by
      change -(n.natAbs : Int) = n
      omega
    have htext : ("-" ++ String.ofList (c :: digits)).toList = '-' :: c :: digits := by simp
    rw [Nat.repr_eq_ofList_toDigits, habs, hdigits, htext]
    refine spells_scalar (by decide) fun rest hrest => ?_
    rw [List.cons_append, List.cons_append, scalar_minus hc, ← List.cons_append,
      hnumber true hrest, hvalue]

theorem toList_string (s : String) :
    (Printer.string s).toList = '"' :: (s.toList.flatMap Printer.char ++ ['"']) := by
  rw [Printer.string, String.toList_ofList, List.cons_append]

theorem spells_text (s : String) : Spells (Printer.string s).toList (.text s) := by
  rw [toList_string]
  refine ⟨⟨'"', _, rfl, by decide, by decide, by decide⟩, fun fuel rest hfuel _ => ?_⟩
  rw [List.length_cons] at hfuel
  obtain ⟨fuel, rfl⟩ := Nat.exists_eq_succ_of_ne_zero (show fuel ≠ 0 by omega)
  rw [List.cons_append, List.append_assoc, value]
  change (string (s.toList.flatMap Printer.char ++ '"' :: rest) >>= _) = _
  rw [string_eq_ok]
  rfl

theorem toList_bracketed_nil {opening closing : String} (left right : Char)
    (hopening : opening.toList = [left]) (hclosing : closing.toList = [right])
    (l : Printer.Layout) : (Printer.bracketed l opening closing []).toList = [left, right] := by
  rw [Printer.bracketed, if_pos List.isEmpty_nil, String.toList_append, hopening, hclosing]
  rfl

theorem toList_bracketed_cons {opening closing : String} (left right : Char)
    (hopening : opening.toList = [left]) (hclosing : closing.toList = [right])
    (l : Printer.Layout) (part : String) (parts : List String) :
    (Printer.bracketed l opening closing (part :: parts)).toList =
      left :: (l.opening.toList ++ (l.between.toList.intercalate
        (part.toList :: parts.map String.toList) ++ (l.closing.toList ++ [right]))) := by
  rw [Printer.bracketed, if_neg (by simp)]
  simp only [String.toList_append, String.toList_intercalate, List.append_assoc, hopening, hclosing,
    List.map_cons, List.cons_append, List.nil_append]

/-- Parts between brackets are read where both can be read behind the opening bracket: the closing one
alone, and the parts up to it. -/
theorem spells_bracketed {α : Type} {IsWritten : List Char → α → Prop}
    {opening closing : String} {parts : List String} {values : List α} {found : Json}
    (left right : Char) (hopening : opening.toList = [left]) (hclosing : closing.toList = [right])
    (hleft : isSpace left = false ∧ left ≠ ']' ∧ left ≠ '}') (hl : IsBlankLayout l)
    (hbegins : ∀ {text value}, IsWritten text value → BeginsPart text)
    (hwritten : List.Forall₂ IsWritten (parts.map String.toList) values)
    (hempty : parts = [] → ∀ fuel rest,
      value (fuel + 1) (left :: right :: rest) = .ok (found, rest))
    (hsome : parts ≠ [] → ∀ fuel rest c cs behind,
      2 * (l.between.toList.intercalate (parts.map String.toList)).length < fuel →
      l.between.toList.intercalate (parts.map String.toList) ++
        (l.closing.toList ++ right :: rest) = c :: cs →
      skip behind = c :: cs → c ≠ ']' → c ≠ '}' →
      value (fuel + 1) (left :: behind) = .ok (found, rest)) :
    Spells (Printer.bracketed l opening closing parts).toList found := by
  cases parts with
  | nil =>
    rw [toList_bracketed_nil left right hopening hclosing]
    refine ⟨⟨left, [right], rfl, hleft⟩, fun fuel rest hfuel _ => ?_⟩
    obtain ⟨fuel, rfl⟩ := Nat.exists_eq_succ_of_ne_zero (show fuel ≠ 0 by simp at hfuel; omega)
    exact hempty rfl fuel rest
  | cons part parts =>
    rw [toList_bracketed_cons left right hopening hclosing]
    refine ⟨⟨left, _, rfl, hleft⟩, fun fuel rest hfuel _ => ?_⟩
    rw [List.length_cons, List.length_append, List.length_append] at hfuel
    obtain ⟨fuel, rfl⟩ := Nat.exists_eq_succ_of_ne_zero (show fuel ≠ 0 by omega)
    have hpart : BeginsPart part.toList := by
      cases hwritten with
      | cons hpart _ => exact hbegins hpart
    obtain ⟨c, cs, hcs, hskip, hc⟩ := exists_skip_opening hl hpart
      (parts.map String.toList) (l.closing.toList ++ right :: rest)
    simp only [List.cons_append, List.append_assoc, List.nil_append]
    exact hsome (List.cons_ne_nil _ _) fuel rest c cs _ (by rw [List.map_cons]; omega) hcs hskip
      hc.1 hc.2

theorem spells_array {parts : List String} {found : List Json} (hl : IsBlankLayout l)
    (hspells : List.Forall₂ Spells (parts.map String.toList) found) :
    Spells (Printer.bracketed l "[" "]" parts).toList (.array found) := by
  refine spells_bracketed '[' ']' (by decide) (by decide) (by decide) hl Spells.begins hspells
    ?_ ?_
  · rintro rfl fuel rest
    cases hspells
    rw [value, skip_cons (by decide)]
    rfl
  · intro hsome fuel rest c cs behind hfuel hcs hskip hbracket _
    have hread := items_eq_ok hl hspells (by simpa using hsome) hfuel rest
    rw [hcs] at hread
    rw [value, hskip]
    split
    · rename_i heq
      exact absurd (List.cons.inj heq).1 hbracket
    · rw [hread]
      rfl

theorem spells_object {parts : List String} {found : List (String × Json)} (hl : IsBlankLayout l)
    (hspells : List.Forall₂ SpellsMember (parts.map String.toList) found) :
    Spells (Printer.bracketed l "\x7b" "\x7d" parts).toList (ofMembers found) := by
  refine spells_bracketed '{' '}' (by decide) (by decide) (by decide) hl SpellsMember.begins hspells
    ?_ ?_
  · rintro rfl fuel rest
    cases hspells
    rw [value, skip_cons (by decide)]
    rfl
  · intro hsome fuel rest c cs behind hfuel hcs hskip _ hbrace
    have hread := members_eq_ok hl hspells (by simpa using hsome) hfuel rest
    rw [hcs] at hread
    rw [value, hskip]
    split
    · rename_i heq
      exact absurd (List.cons.inj heq).1 hbrace
    · rw [hread]
      rfl

end Values

end Reader

/-! ### Exact values -/

/-- The value has no real number in it, no whole number of too many digits and no object in which two
members have one name. -/
inductive IsExact : Json → Prop
  | null : IsExact .null
  | bool (value : Bool) : IsExact (.bool value)
  | whole {n : Int} (hn : n.natAbs < 10 ^ Decimal.digitLimit) : IsExact (.number (.whole n))
  | text (s : String) : IsExact (.text s)
  | array {found : List Json} (hfound : ∀ item ∈ found, IsExact item) : IsExact (.array found)
  | object {found : List (String × Json)} (hnames : (found.map (·.1)).Nodup)
      (hfound : ∀ member ∈ found, IsExact member.2) : IsExact (.object found)

theorem ofMembers_of_nodup {found : List (String × Json)} (hnames : (found.map (·.1)).Nodup) :
    ofMembers found = .object found := by
  have hput (before after : List (String × Json)) (hnames : ((before ++ after).map (·.1)).Nodup) :
      after.foldl (fun members entry => put members entry.1 entry.2) before = before ++ after := by
    induction after generalizing before with
    | nil => simp
    | cons entry after ih =>
      have hnew : entry.1 ∉ before.map (·.1) := by
        rw [List.map_append, List.map_cons] at hnames
        intro hmem
        exact (List.nodup_append.1 hnames).2.2 _ hmem _ List.mem_cons_self rfl
      rw [List.foldl_cons, put, Named.set_of_notMem hnew, ih, List.append_assoc]
      · rfl
      · rwa [List.append_assoc]
  exact congrArg Json.object (hput [] found hnames)

open Reader

theorem spells_items {found : List Json} (indent : Option Nat) (depth : Nat)
    (hfound : ∀ item ∈ found, ∀ depth, Spells (Printer.value indent depth item).toList item) :
    List.Forall₂ Spells ((Printer.items indent depth found).map String.toList) found := by
  induction found with
  | nil => exact .nil
  | cons item found ih =>
    obtain ⟨hitem, hrest⟩ := List.forall_mem_cons.1 hfound
    exact .cons (hitem depth) (ih hrest)

theorem spells_members {found : List (String × Json)} (indent : Option Nat) (depth : Nat)
    (hfound : ∀ member ∈ found, ∀ depth,
      Spells (Printer.value indent depth member.2).toList member.2) :
    List.Forall₂ SpellsMember ((Printer.members indent depth found).map String.toList) found := by
  induction found with
  | nil => exact .nil
  | cons member found ih =>
    obtain ⟨hmember, hrest⟩ := List.forall_mem_cons.1 hfound
    refine .cons ⟨_, hmember depth, ?_⟩ (ih hrest)
    simp only [String.toList_append, toList_string, memberText]
    simp

/-- A printed value is read as itself, at any depth of any layout. -/
theorem IsExact.spells {found : Json} (hexact : IsExact found) (indent : Option Nat) (depth : Nat) :
    Spells (Printer.value indent depth found).toList found := by
  induction hexact generalizing depth with
  | null =>
    have htext : "null".toList = ['n', 'u', 'l', 'l'] := by simp
    rw [Printer.value, htext]
    exact spells_scalar (by decide) fun _ _ => rfl
  | bool value =>
    rw [Printer.value]
    cases value with
    | false =>
      have htext : "false".toList = ['f', 'a', 'l', 's', 'e'] := by simp
      rw [if_neg Bool.false_ne_true, htext]
      exact spells_scalar (by decide) fun _ _ => rfl
    | true =>
      have htext : "true".toList = ['t', 'r', 'u', 'e'] := by simp
      rw [if_pos rfl, htext]
      exact spells_scalar (by decide) fun _ _ => rfl
  | whole hn => exact spells_whole hn
  | text s => exact spells_text s
  | array hfound ih => exact spells_array (isBlankLayout indent depth) (spells_items indent (depth + 1) ih)
  | @object found hnames hfound ih =>
    have hspells := spells_object (isBlankLayout indent depth) (spells_members indent (depth + 1) ih)
    rwa [ofMembers_of_nodup hnames] at hspells

theorem document_of_spells {text : List Char} {found : Json} (hspells : Spells text found) :
    document text = .ok found := by
  have hread := hspells.reads (2 * text.length + 2) [] (by omega) nofun
  rw [List.append_nil] at hread
  rw [document, hspells.begins.skip_eq, hread]
  rfl

/-- What is printed, with lines for the parts or without them, is read as the value that was
printed. -/
theorem IsExact.read_value {found : Json} (hexact : IsExact found) (indent : Option Nat) :
    read (Printer.value indent 0 found) = .ok found :=
  document_of_spells (hexact.spells indent 0)

theorem IsExact.read_pretty {found : Json} (hexact : IsExact found) : read found.pretty = .ok found :=
  hexact.read_value (some 2)

end Json

end Checkup
