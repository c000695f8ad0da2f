import Mathlib.Data.Finset.Card
import Mathlib.Data.Finset.Dedup
import Mathlib.Data.List.TakeWhile
import Mathlib.Tactic.IntervalCases
import Checkup.Json.Reader
import Checkup.Report.Share
import Checkup.Proofs.Grouping

/-!
# What a link says

The link to a result says the project's name, the score and three counts, and all of it can be read
back from the link: its query is cut at the signs between the parts, each part at its first equals
sign, and the bytes that are written there are the bytes of the text. None of the signs that mean
something in a link is ever written for a character of a text, and UTF-8 loses no character. So two
links are equal only if they say the same.
-/

namespace Checkup

/-! ### Texts as bytes -/

namespace Text.Utf8

variable {b k : Nat} {pending : Pending}

theorem decodeFrom_cons (hb : b < 256) (state : Option Pending) (rest : List UInt8) :
    decodeFrom state (UInt8.ofNat b :: rest) =
      (step state b).1 ++ decodeFrom (step state b).2 rest := by
  rw [decodeFrom, UInt8.toNat_ofNat_of_lt' hb]

theorem decodeFrom_of_opens (hlead : lead b = .opens pending) (hb : b < 256) (rest : List UInt8) :
    decodeFrom none (UInt8.ofNat b :: rest) = decodeFrom (some pending) rest := by
  rw [decodeFrom_cons hb, step, begin, hlead]
  rfl

theorem decodeFrom_of_owed (howed : 1 < pending.owed) (hlow : pending.low ≤ b)
    (hhigh : b ≤ pending.high) (hb : b < 256) (rest : List UInt8) :
    decodeFrom (some pending) (UInt8.ofNat b :: rest) =
      decodeFrom (some ⟨pending.owed - 1, 0x80, 0xBF, pending.value * 64 + (b - 0x80)⟩) rest := by
  rw [decodeFrom_cons hb, step]
  simp [hlow, hhigh, Nat.not_le.2 howed]

theorem decodeFrom_of_last (howed : pending.owed ≤ 1) (hlow : pending.low ≤ b)
    (hhigh : b ≤ pending.high) (hb : b < 256) (rest : List UInt8) :
    decodeFrom (some pending) (UInt8.ofNat b :: rest) =
      some (Char.ofNat (pending.value * 64 + (b - 0x80))) :: decodeFrom none rest := by
  rw [decodeFrom_cons hb, step]
  simp [hlow, hhigh, howed]

theorem lead_two (hlow : 2 ≤ k) (hhigh : k < 32) :
    lead (0xC0 + k) = .opens ⟨1, 0x80, 0xBF, k⟩ := by
  unfold lead
  rw [if_neg (by omega), if_neg (by omega), if_pos (by omega), Nat.add_sub_cancel_left]

theorem lead_three (hhigh : k < 16) : lead (0xE0 + k) =
    .opens ⟨2, if k = 0 then 0xA0 else 0x80, if k = 13 then 0x9F else 0xBF, k⟩ := by
  interval_cases k <;> rfl

theorem lead_four (hhigh : k < 5) : lead (0xF0 + k) =
    .opens ⟨3, if k = 0 then 0x90 else 0x80, if k = 4 then 0x8F else 0xBF, k⟩ := by
  interval_cases k <;> rfl

/-- A character is read back from its bytes, whatever follows them. -/
theorem decodeFrom_encodeChar (c : Char) (rest : List UInt8) :
    decodeFrom none ((encodeChar c).map UInt8.ofNat ++ rest) = some c :: decodeFrom none rest := by
  have hvalid : c.toNat < 0xD800 ∨ 0xDFFF < c.toNat ∧ c.toNat < 0x110000 := c.valid
  have hchar : Char.ofNat c.toNat = c := Char.ofNat_toNat c
  revert hvalid hchar
  unfold encodeChar
  generalize c.toNat = n
  intro hvalid hchar
  -- One case for each number of bytes; what has to be seen is that they are in the ranges that the
  -- first byte leaves open, and that the number is put together again.
  dsimp only
  split
  · rename_i hone
    rw [List.map_singleton, List.singleton_append, decodeFrom_cons (by omega), step, begin, lead,
      if_pos hone, hchar]
    rfl
  split
  · have hvalue : n / 64 * 64 + (0x80 + n % 64 - 0x80) = n := by omega
    simp only [List.map_cons, List.map_nil, List.cons_append, List.nil_append]
    rw [decodeFrom_of_opens (lead_two (by omega) (by omega)) (by omega),
      decodeFrom_of_last Nat.le.refl (by dsimp only; omega) (by dsimp only; omega) (by omega),
      hvalue, hchar]
  split
  · have hlow : (if n / 4096 = 0 then 0xA0 else 0x80) ≤ 0x80 + n / 64 % 64 := by split <;> omega
    have hhigh : 0x80 + n / 64 % 64 ≤ if n / 4096 = 13 then 0x9F else 0xBF := by split <;> omega
    have hvalue : (n / 4096 * 64 + (0x80 + n / 64 % 64 - 0x80)) * 64 + (0x80 + n % 64 - 0x80) = n := by
      omega
    simp only [List.map_cons, List.map_nil, List.cons_append, List.nil_append]
    rw [decodeFrom_of_opens (lead_three (by omega)) (by omega),
      decodeFrom_of_owed Nat.one_lt_two hlow hhigh (by omega),
      decodeFrom_of_last Nat.le.refl (by dsimp only; omega) (by dsimp only; omega) (by omega),
      hvalue, hchar]
  · have hlow : (if n / 262144 = 0 then 0x90 else 0x80) ≤ 0x80 + n / 4096 % 64 := by
      split <;> omega
    have hhigh : 0x80 + n / 4096 % 64 ≤ if n / 262144 = 4 then 0x8F else 0xBF := by
      split <;> omega
    have hvalue : ((n / 262144 * 64 + (0x80 + n / 4096 % 64 - 0x80)) * 64 +
        (0x80 + n / 64 % 64 - 0x80)) * 64 + (0x80 + n % 64 - 0x80) = n := by
      omega
    simp only [List.map_cons, List.map_nil, List.cons_append, List.nil_append]
    rw [decodeFrom_of_opens (lead_four (by omega)) (by omega),
      decodeFrom_of_owed (Nat.lt_of_sub_eq_succ rfl) hlow hhigh (by omega),
      decodeFrom_of_owed Nat.one_lt_two (by dsimp only; omega) (by dsimp only; omega) (by omega),
      decodeFrom_of_last Nat.le.refl (by dsimp only; omega) (by dsimp only; omega) (by omega),
      hvalue, hchar]

theorem decodeFrom_encode (cs : List Char) :
    decodeFrom none ((encode cs).map UInt8.ofNat) = cs.map some := by
  induction cs with
  | nil => rfl
  | cons c cs ih =>
    rw [encode, List.flatMap_cons, List.map_append, decodeFrom_encodeChar, List.map_cons, ← ih,
      encode]

theorem decode?_encode (cs : List Char) :
    decode? ((encode cs).map UInt8.ofNat) = some (String.ofList cs) := by
  have hall : (cs.map some).mapM id = some cs := option_mapM_eq_some.2 (List.map_id _)
  rw [decode?, decodeFrom_encode, hall, Option.map_some]

theorem lt_of_mem_encodeChar {c : Char} (hb : b ∈ encodeChar c) : b < 256 := by
  have hvalid : c.toNat < 0xD800 ∨ 0xDFFF < c.toNat ∧ c.toNat < 0x110000 := c.valid
  unfold encodeChar at hb
  dsimp only at hb
  split at hb
  · rw [List.mem_singleton] at hb
    omega
  split at hb
  · simp only [List.mem_cons, List.not_mem_nil, or_false] at hb
    omega
  split at hb
  · simp only [List.mem_cons, List.not_mem_nil, or_false] at hb
    omega
  · simp only [List.mem_cons, List.not_mem_nil, or_false] at hb
    omega

end Text.Utf8

/-! ### Cutting -/

theorem Text.cut_append {separator : Char} {before : List Char} (hbefore : separator ∉ before)
    (after : List Char) :
    cut separator (before ++ separator :: after) = before :: cut separator after := by
  induction before with
  | nil => simp [cut]
  | cons c before ih =>
    rw [List.mem_cons, not_or] at hbefore
    simp [cut, Ne.symm hbefore.1, ih hbefore.2]

theorem Text.cut_intercalate {separator : Char} {pieces : List (List Char)} (hsome : pieces ≠ [])
    (hpieces : ∀ piece ∈ pieces, separator ∉ piece) :
    cut separator ([separator].intercalate pieces) = pieces := by
  induction pieces with
  | nil => exact absurd rfl hsome
  | cons piece rest ih =>
    obtain ⟨hpiece, hrest⟩ := List.forall_mem_cons.1 hpieces
    cases rest with
    | nil => simpa using cut_of_notMem hpiece
    | cons next rest =>
      rw [List.intercalate_cons_cons, List.append_assoc, List.singleton_append, cut_append hpiece,
        ih (List.cons_ne_nil _ _) hrest]

theorem Text.notMem_intercalate {c separator : Char} {pieces : List (List Char)}
    (hseparator : c ≠ separator) (hpieces : ∀ piece ∈ pieces, c ∉ piece) :
    c ∉ [separator].intercalate pieces := by
  induction pieces with
  | nil => simp
  | cons piece rest ih =>
    obtain ⟨hpiece, hrest⟩ := List.forall_mem_cons.1 hpieces
    cases rest with
    | nil => simpa using hpiece
    | cons next rest =>
      rw [List.intercalate_cons_cons, List.append_assoc, List.singleton_append]
      simp [hpiece, hseparator, ih hrest]

namespace Text.Query

/-! ### Reading a query -/

/-- The bytes that a part of a query is written for: a plus sign stands for a blank, two digits after
a percent sign for a byte, and any other character for itself. -/
def bytes? : List Char → Option (List Nat)
  | [] => some []
  | '%' :: high :: low :: cs => do
    let byte := (← Json.Reader.hexValue? high) * 16 + (← Json.Reader.hexValue? low)
    return byte :: (← bytes? cs)
  | c :: cs => do
    if c == '%' then none
    else return (if c == '+' then [0x20] else Utf8.encodeChar c) ++ (← bytes? cs)

def decode? (cs : List Char) : Option String := do
  Utf8.decode? ((← bytes? cs).map UInt8.ofNat)

/-- A named value, from a part of a query that is cut at its first equals sign. -/
def pair? (part : List Char) : Option (String × String) :=
  match part.dropWhile (· != '=') with
  | [] => none
  | _ :: value => do
    return (← decode? (part.takeWhile (· != '=')), ← decode? value)

def pairs? (query : List Char) : Option (List (String × String)) :=
  (Text.cut '&' query).mapM pair?

/-- The query of a link: what stands after the first question mark, up to a number sign. -/
def ofLink (link : String) : List Char :=
  ((link.toList.dropWhile (· != '?')).drop 1).takeWhile (· != '#')

/-! ### Reading back what was written -/

variable {c : Char} {cs : List Char} {n : Nat}

theorem isPlain_hexDigit (hn : n < 16) : isPlain (Nat.digitChar n).toUpper = true := by
  interval_cases n <;> decide

theorem hexValue?_hexDigit (hn : n < 16) :
    Json.Reader.hexValue? (Nat.digitChar n).toUpper = some n := by
  interval_cases n <;> decide

theorem bytes?_escape (hn : n < 256) (cs : List Char) :
    bytes? (escape n ++ cs) = (bytes? cs).map (n :: ·) := by
  have hhigh := hexValue?_hexDigit (show n / 16 < 16 by omega)
  have hlow := hexValue?_hexDigit (show n % 16 < 16 by omega)
  have hvalue : n / 16 * 16 + n % 16 = n := by omega
  change bytes? ('%' :: _ :: _ :: cs) = _
  rw [bytes?, hhigh, hlow]
  cases hcs : bytes? cs <;> simp [hvalue]

theorem bytes?_flatMap_escape {ns : List Nat} (hns : ∀ n ∈ ns, n < 256) (cs : List Char) :
    bytes? (ns.flatMap escape ++ cs) = (bytes? cs).map (ns ++ ·) := by
  induction ns with
  | nil => simp
  | cons n ns ih =>
    obtain ⟨hn, hrest⟩ := List.forall_mem_cons.1 hns
    rw [List.flatMap_cons, List.append_assoc, bytes?_escape hn, ih hrest]
    cases bytes? cs <;> rfl

theorem bytes?_cons (hc : c ≠ '%') (cs : List Char) : bytes? (c :: cs) =
    (bytes? cs).map ((if c == '+' then [0x20] else Utf8.encodeChar c) ++ ·) := by
  rw [bytes?]
  · rw [if_neg (by simpa using hc)]
    cases bytes? cs <;> rfl
  · intro high low rest heq
    exact absurd heq hc

theorem bytes?_encodeChar (c : Char) (cs : List Char) :
    bytes? (encodeChar c ++ cs) = (bytes? cs).map (Utf8.encodeChar c ++ ·) := by
  unfold encodeChar
  split
  · rename_i hblank
    rw [beq_iff_eq.1 hblank]
    exact bytes?_cons (by decide) cs
  split
  · rename_i hplain
    have hpercent : c ≠ '%' := by
      rintro rfl
      exact absurd hplain (by decide)
    have hplus : ¬ (c == '+') = true := by
      intro heq
      rw [beq_iff_eq.1 heq] at hplain
      exact absurd hplain (by decide)
    rw [List.singleton_append, bytes?_cons hpercent, if_neg hplus]
  · exact bytes?_flatMap_escape (fun _ => Utf8.lt_of_mem_encodeChar) cs

theorem decode?_encode (s : String) : decode? (encode s).toList = some s := by
  have hbytes (cs : List Char) : bytes? (cs.flatMap encodeChar) = some (Utf8.encode cs) := by
    induction cs with
    | nil => rfl
    | cons c cs ih => rw [List.flatMap_cons, bytes?_encodeChar, ih]; rfl
  rw [encode, String.toList_ofList, decode?, hbytes]
  change Utf8.decode? _ = _
  rw [Utf8.decode?_encode, String.ofList_toList]

/-! ### The signs of a link -/

/-- Letters, digits, four marks and the two signs of the encoding are all that is ever written. -/
theorem isPlain_of_mem_encode {s : String} (hc : c ∈ (encode s).toList) :
    isPlain c = true ∨ c = '+' ∨ c = '%' := by
  rw [encode, String.toList_ofList, List.mem_flatMap] at hc
  obtain ⟨source, -, hc⟩ := hc
  unfold encodeChar at hc
  split at hc
  · exact .inr (.inl (List.mem_singleton.1 hc))
  split at hc
  · rename_i hplain
    rw [List.mem_singleton.1 hc]
    exact .inl hplain
  · obtain ⟨n, hn, hc⟩ := List.mem_flatMap.1 hc
    have hlt := Utf8.lt_of_mem_encodeChar hn
    simp only [escape, List.mem_cons, List.not_mem_nil, or_false] at hc
    rcases hc with rfl | rfl | rfl
    · exact .inr (.inr rfl)
    · exact .inl (isPlain_hexDigit (by omega))
    · exact .inl (isPlain_hexDigit (by omega))

theorem notMem_encode (hplain : isPlain c = false) (hplus : c ≠ '+') (hpercent : c ≠ '%')
    (s : String) : c ∉ (encode s).toList := by
  intro hc
  rcases isPlain_of_mem_encode hc with htrue | rfl | rfl
  · cases hplain.symm.trans htrue
  · exact hplus rfl
  · exact hpercent rfl

/-- The characters of a named value as it is written. -/
def part (pair : String × String) : List Char :=
  (encode pair.1).toList ++ '=' :: (encode pair.2).toList

theorem notMem_part (hplain : isPlain c = false) (hplus : c ≠ '+') (hpercent : c ≠ '%')
    (hequals : c ≠ '=') (pair : String × String) : c ∉ part pair := by
  have hname := notMem_encode hplain hplus hpercent pair.1
  have hvalue := notMem_encode hplain hplus hpercent pair.2
  simp [part, hname, hvalue, hequals]

theorem pair?_part (pair : String × String) : pair? (part pair) = some pair := by
  have hname : ∀ c ∈ (encode pair.1).toList, (c != '=') = true := by
    intro c hc
    rw [bne_iff_ne]
    rintro rfl
    exact notMem_encode (by decide) (by decide) (by decide) pair.1 hc
  have hvalue : (part pair).dropWhile (· != '=') = '=' :: (encode pair.2).toList :=
    List.dropWhile_append_of_pos hname
  have htaken : (part pair).takeWhile (· != '=') = (encode pair.1).toList :=
    (List.takeWhile_append_of_pos hname).trans (List.append_nil _)
  rw [pair?, hvalue, htaken]
  dsimp only
  rw [decode?_encode, decode?_encode]
  rfl

theorem toList_ofPairs (pairs : List (String × String)) :
    (ofPairs pairs).toList = ['&'].intercalate (pairs.map part) := by
  have hpart (pair : String × String) :
      (encode pair.1 ++ "=" ++ encode pair.2).toList = part pair := by
    rw [part, String.toList_append, String.toList_append, List.append_assoc]
    rfl
  rw [ofPairs, String.toList_intercalate, List.map_map]
  simp only [Function.comp_def, hpart]
  rfl

theorem pairs?_ofPairs {pairs : List (String × String)} (hsome : pairs ≠ []) :
    pairs? (ofPairs pairs).toList = some pairs := by
  have hparts : ∀ written ∈ pairs.map part, '&' ∉ written := by
    intro written hwritten
    obtain ⟨pair, -, rfl⟩ := List.mem_map.1 hwritten
    exact notMem_part (by decide) (by decide) (by decide) (by decide) pair
  rw [pairs?, toList_ofPairs, Text.cut_intercalate (by simpa using hsome) hparts,
    option_mapM_eq_some, List.map_map]
  simp only [Function.comp_def, pair?_part]

theorem ofLink_append {address : String} (haddress : '?' ∉ address.toList)
    (pairs : List (String × String)) :
    ofLink (address ++ "?" ++ ofPairs pairs) = (ofPairs pairs).toList := by
  have hbefore : ∀ c ∈ address.toList, (c != '?') = true := by
    intro c hc
    rw [bne_iff_ne]
    rintro rfl
    exact haddress hc
  have hquery : ∀ c ∈ (ofPairs pairs).toList, (c != '#') = true := by
    intro c hc
    rw [bne_iff_ne]
    rintro rfl
    rw [toList_ofPairs] at hc
    refine Text.notMem_intercalate (by decide) (fun written hwritten => ?_) hc
    obtain ⟨pair, -, rfl⟩ := List.mem_map.1 hwritten
    exact notMem_part (by decide) (by decide) (by decide) (by decide) pair
  have hlink : (address ++ "?" ++ ofPairs pairs).toList =
      address.toList ++ '?' :: (ofPairs pairs).toList := by
    rw [String.toList_append, String.toList_append, List.append_assoc]
    rfl
  rw [ofLink, hlink, List.dropWhile_append_of_pos hbefore]
  exact List.takeWhile_eq_self_iff.2 hquery

end Text.Query

/-! ### Numbers as texts -/

theorem toString_nat_injective {m n : Nat} (heq : toString m = toString n) : m = n := by
  have hdigits : Nat.toDigits 10 m = Nat.toDigits 10 n := by
    simpa [Nat.toString_eq_repr, Nat.repr_eq_ofList_toDigits] using congrArg String.toList heq
  rw [← Nat.ofDigitChars_ten_toDigits (n := m), hdigits, Nat.ofDigitChars_ten_toDigits]

theorem head?_toString_nat (n : Nat) : (toString n).toList.head? ≠ some '-' := by
  intro hhead
  rw [Nat.toString_eq_repr, Nat.repr_eq_ofList_toDigits, String.toList_ofList] at hhead
  have hdigit := Nat.isDigit_of_mem_toDigits (by decide) (by decide) (List.mem_of_head? hhead)
  exact absurd hdigit (by decide)

theorem toString_int_injective {m n : Int} (heq : toString m = toString n) : m = n := by
  have hsign (k l : Nat) : toString k ≠ "-" ++ toString l := by
    intro hsame
    apply head?_toString_nat k
    rw [hsame]
    simp
  simp only [Int.toString_eq_repr, Int.repr_eq_if, ← Nat.toString_eq_repr] at heq
  split at heq <;> split at heq
  · have := toString_nat_injective heq
    omega
  · exact absurd heq (hsign _ _)
  · exact absurd heq.symm (hsign _ _)
  · have := toString_nat_injective ((String.append_right_inj "-").1 heq)
    omega

/-! ### What the link to a result says -/

namespace Report

structure Shared where
  project : String
  score : Option Int
  errors : Nat
  others : Nat
  files : Nat
  deriving DecidableEq

namespace Shared

def counted (name : String) (count : Nat) : List (String × String) :=
  if count = 0 then [] else [(name, toString count)]

def pairs (shared : Shared) : List (String × String) :=
  ("p", shared.project) :: ((shared.score.map fun score => ("s", toString score)).toList ++
    counted "e" shared.errors ++ counted "w" shared.others ++ counted "f" shared.files)

def ofResult (diagnostics : List Diagnostic) (score : Option Score) (project : String) : Shared where
  project := project
  score := score.map (·.score)
  errors := diagnostics.countP fun d => d.severity = .error
  others := diagnostics.countP fun d => d.severity ≠ .error
  files := (diagnostics.map (·.path)).toFinset.card

/-- Each of the named values is there for one thing that is said. -/
theorem get?_pairs (shared : Shared) :
    Named.get? "p" shared.pairs = some shared.project ∧
    Named.get? "s" shared.pairs = shared.score.map toString ∧
    Named.get? "e" shared.pairs = (if shared.errors = 0 then none else some (toString shared.errors)) ∧
    Named.get? "w" shared.pairs = (if shared.others = 0 then none else some (toString shared.others)) ∧
    Named.get? "f" shared.pairs = (if shared.files = 0 then none else some (toString shared.files)) := by
  obtain ⟨project, score, errors, others, files⟩ := shared
  unfold pairs counted
  by_cases herrors : errors = 0 <;> by_cases hothers : others = 0 <;> by_cases hfiles : files = 0 <;>
    cases score <;> simp [Named.get?, herrors, hothers, hfiles]

theorem count_eq {count other : Nat}
    (heq : (if count = 0 then none else some (toString count)) =
      if other = 0 then none else some (toString other)) : count = other := by
  by_cases hcount : count = 0 <;> by_cases hother : other = 0
  · rw [hcount, hother]
  · simp [hcount, hother] at heq
  · simp [hcount, hother] at heq
  · rw [if_neg hcount, if_neg hother, Option.some.injEq] at heq
    exact toString_nat_injective heq

theorem pairs_injective : Function.Injective pairs := by
  intro shared other heq
  obtain ⟨hproject, hscore, herrors, hothers, hfiles⟩ := get?_pairs shared
  obtain ⟨hproject', hscore', herrors', hothers', hfiles'⟩ := get?_pairs other
  rw [heq] at hproject hscore herrors hothers hfiles
  have hscores : Function.Injective (Option.map (toString : Int → String)) :=
    Option.map_injective fun _ _ => toString_int_injective
  have hproject := Option.some.inj (hproject.symm.trans hproject')
  have hscore := hscores (hscore.symm.trans hscore')
  have herrors := count_eq (herrors.symm.trans herrors')
  have hothers := count_eq (hothers.symm.trans hothers')
  have hfiles := count_eq (hfiles.symm.trans hfiles')
  cases shared
  cases other
  simp only at hproject hscore herrors hothers hfiles
  rw [hproject, hscore, herrors, hothers, hfiles]

end Shared

variable {diagnostics : List Diagnostic}

theorem length_affectedFiles (diagnostics : List Diagnostic) :
    ((FileLines.places diagnostics).map (·.file)).length =
      (diagnostics.map (·.path)).toFinset.card := by
  rw [List.length_map, FileLines.places, List.length_map,
    ← List.toFinset_card_of_nodup (nodup_eraseDups _)]
  congr 1
  ext path
  simp

theorem shareParameters_eq (diagnostics : List Diagnostic) (score : Option Score)
    (project : String) :
    shareParameters diagnostics (diagnostics.map (·.path)).toFinset.card score project =
      (Shared.ofResult diagnostics score project).pairs := by
  have herrors : diagnostics.countP (·.isError) =
      diagnostics.countP fun d => d.severity = .error := by
    simp only [Diagnostic.isError, beq_eq_decide]
  have hothers : diagnostics.length - diagnostics.countP (·.isError) =
      diagnostics.countP fun d => d.severity ≠ .error := by
    rw [herrors, List.length_eq_countP_add_countP (fun d => decide (d.severity = .error))]
    simp
  have hcounted (name : String) (count : Nat) :
      countParameter name count = Shared.counted name count := by
    simp [countParameter, Shared.counted]
  rw [shareParameters, hothers, herrors, Shared.pairs, hcounted, hcounted, hcounted]
  simp [Shared.ofResult, Function.comp_def]

theorem shareLink_eq_ok (hfiles : ∀ d ∈ diagnostics, d.HasTextFile) (score : Option Score)
    (project : String) : shareLink diagnostics score project =
      .ok (shareUrl ++ "?" ++
        Text.Query.ofPairs (Shared.ofResult diagnostics score project).pairs) := by
  rw [shareLink, affectedFiles_eq_ok hfiles, ← shareParameters_eq, ← length_affectedFiles]
  rfl

/-- The link to a result says the result, and nothing else: its query is read back as the named values
of the result in their order, and another result has the same link only if the same is to be said of
it. -/
theorem exists_shareLink_eq (hfiles : ∀ d ∈ diagnostics, d.HasTextFile) (score : Option Score)
    (project : String) :
    ∃ link, shareLink diagnostics score project = .ok link ∧
      Text.Query.pairs? (Text.Query.ofLink link) =
        some (Shared.ofResult diagnostics score project).pairs ∧
      ∀ others, (∀ d ∈ others, d.HasTextFile) → ∀ score' project',
        (shareLink others score' project' = .ok link ↔
          Shared.ofResult others score' project' = Shared.ofResult diagnostics score project) := by
  have haddress : '?' ∉ shareUrl.toList := by decide
  have hread (shared : Shared) : Text.Query.pairs? (Text.Query.ofLink
      (shareUrl ++ "?" ++ Text.Query.ofPairs shared.pairs)) = some shared.pairs := by
    rw [Text.Query.ofLink_append haddress]
    exact Text.Query.pairs?_ofPairs (List.cons_ne_nil _ _)
  refine ⟨_, shareLink_eq_ok hfiles score project, hread _, fun others hothers score' project' => ?_⟩
  rw [shareLink_eq_ok hothers]
  constructor
  · intro hsame
    have hpairs := hread (Shared.ofResult others score' project')
    rw [Except.ok.inj hsame, hread] at hpairs
    exact (Shared.pairs_injective (Option.some.inj hpairs)).symm
  · intro hshared
    rw [hshared]

/-- A project name that holds every sign of a link is read back like any other one. -/
theorem exists_shareLink_withSigns : ∃ link,
    (∀ d ∈ Diagnostic.interleaved, d.HasTextFile) ∧
    shareLink Diagnostic.interleaved (some (Score.ofDiagnostics Diagnostic.interleaved))
      "p=R&D? #1+1 100%41 é😀" = .ok link ∧
    Text.Query.pairs? (Text.Query.ofLink link) =
      some [("p", "p=R&D? #1+1 100%41 é😀"), ("s", "95"), ("e", "2"), ("w", "3"), ("f", "2")] := by
  have hfiles : ∀ d ∈ Diagnostic.interleaved, d.HasTextFile := by
    intro d hd
    obtain ⟨finding, -, rfl⟩ := List.mem_map.1 hd
    exact ⟨_, rfl⟩
  have hpairs : (Shared.ofResult Diagnostic.interleaved
      (some (Score.ofDiagnostics Diagnostic.interleaved)) "p=R&D? #1+1 100%41 é😀").pairs =
      [("p", "p=R&D? #1+1 100%41 é😀"), ("s", "95"), ("e", "2"), ("w", "3"), ("f", "2")] := by
    decide +kernel
  obtain ⟨link, hlink, hread, -⟩ := exists_shareLink_eq hfiles
    (some (Score.ofDiagnostics Diagnostic.interleaved)) "p=R&D? #1+1 100%41 é😀"
  rw [hpairs] at hread
  exact ⟨link, hfiles, hlink, hread⟩

end Report

end Checkup
