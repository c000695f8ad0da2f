import Checkup.Proofs.Batches

/-!
# Reports that can be read

An analyzer may print anything. A text that is not JSON, or not JSON of the right outer form, fails
the check by itself, with a failure that names the tool. What is inside a report is taken as it is,
and only the values that are used have to be what they are used for: where one is not, reading ends
with a fault of shape, which is no failure of the check and is not tried again. The conditions for
that are given value by value here, for every text.
-/

namespace Checkup

open Text (strip)

/-- If the result is a fault, it is a check's own failure. -/
def FailsAsCheck {α : Type} (result : Except Fault α) : Prop :=
  ∀ fault, result = .error fault → ∃ failure, fault = .check failure

theorem failsAsCheck_mapError_shape {α : Type} {result : Except ShapeFault α} :
    FailsAsCheck (result.mapError .shape) ↔ ∃ a, result = .ok a := by
  cases result with
  | error fault => exact ⟨fun hfails => (hfails _ rfl).elim nofun, nofun⟩
  | ok a => exact ⟨fun _ => ⟨a, rfl⟩, fun _ => nofun⟩

/-! ### Printed texts -/

/-- What a printed text says is what it is used for: none of its numbers is too long, and if there
is a report in it, the report can be read. -/
structure IsUsable {α : Type} (output : String) (isReport isReadable : α → Prop) : Prop where
  digits : ∀ count, Json.read (strip output) ≠ .error (.tooManyDigits count)
  report : ∀ found, isReport found → isReadable found

/-- What a printed text comes to: a report in it is read, and a text without one fails the check,
unless there is nothing in it or a number that is too long. -/
inductive IsReading {α : Type} (output : String) (isReport : α → Prop)
    (read : α → Except ShapeFault (List Diagnostic)) : Except Fault (List Diagnostic) → Prop
  | blank (hblank : strip output = "") (hnone : ∀ found, ¬ isReport found) :
      IsReading output isReport read (.ok [])
  | longNumber {count : Nat} (hread : Json.read (strip output) = .error (.tooManyDigits count))
      (hprinted : strip output ≠ "") (hnone : ∀ found, ¬ isReport found) :
      IsReading output isReport read (.error (.shape (.tooManyDigits count)))
  | noReport (hdigits : ∀ count, Json.read (strip output) ≠ .error (.tooManyDigits count))
      (hprinted : strip output ≠ "") (hnone : ∀ found, ¬ isReport found) (failure : CheckFailure) :
      IsReading output isReport read (.error (.check failure))
  | report {found : α} (hdigits : ∀ count, Json.read (strip output) ≠ .error (.tooManyDigits count))
      (hprinted : strip output ≠ "") (hreport : isReport found)
      (honly : ∀ other, isReport other → other = found) :
      IsReading output isReport read ((read found).mapError .shape)

theorem read_blank : Json.read "" = .error .malformed := eq_error_of_faultOf (by decide +kernel)

namespace IsReading

variable {α : Type} {output : String} {isReport isReadable : α → Prop}
  {read : α → Except ShapeFault (List Diagnostic)} {result : Except Fault (List Diagnostic)}

theorem failsAsCheck_iff (hreading : IsReading output isReport read result)
    (hread : ∀ found, (∃ a, read found = .ok a) ↔ isReadable found) :
    FailsAsCheck result ↔ IsUsable output isReport isReadable := by
  cases hreading with
  | blank hblank hnone =>
    refine ⟨fun _ => ⟨?_, fun found hreport => absurd hreport (hnone found)⟩, fun _ => nofun⟩
    rw [hblank, read_blank]
    nofun
  | longNumber hlong _ _ =>
    exact ⟨fun hfails => (hfails _ rfl).elim nofun, fun husable => absurd hlong (husable.digits _)⟩
  | noReport hdigits _ hnone failure =>
    refine ⟨fun _ => ⟨hdigits, fun found hreport => absurd hreport (hnone found)⟩, fun _ => ?_⟩
    rintro _ ⟨⟩
    exact ⟨failure, rfl⟩
  | @report found hdigits _ hreport honly =>
    rw [failsAsCheck_mapError_shape, hread]
    exact ⟨fun hreadable => ⟨hdigits, fun other hother => honly other hother ▸ hreadable⟩,
      fun husable => husable.report found hreport⟩

theorem exists_eq_ok_iff (hreading : IsReading output isReport read result)
    (hread : ∀ found, (∃ a, read found = .ok a) ↔ isReadable found) :
    (∃ found, result = .ok found) ↔
      strip output = "" ∨ ∃ found, isReport found ∧ isReadable found := by
  cases hreading with
  | blank hblank _ => exact ⟨fun _ => .inl hblank, fun _ => ⟨[], rfl⟩⟩
  | longNumber _ hprinted hnone | noReport _ hprinted hnone =>
    exact ⟨nofun, fun hok => hok.elim (absurd · hprinted) fun ⟨found, hreport, _⟩ =>
      absurd hreport (hnone found)⟩
  | @report found _ hprinted hreport honly =>
    simp only [except_mapError_eq_ok, hread]
    refine ⟨fun hreadable => .inr ⟨found, hreport, hreadable⟩, ?_⟩
    rintro (hblank | ⟨other, hother, hreadable⟩)
    · exact absurd hblank hprinted
    · exact honly other hother ▸ hreadable

end IsReading

/-! ### Values that are used -/

namespace Json

theorem get_object (members : List (String × Json)) (name : String) :
    (object members).get name = .ok (lookup members name) := rfl

/-- The value stands for a whole number: it is not given, or a whole number, a finite real one, a
truth value or a numeral. -/
inductive IsCount : Json → Prop
  | notGiven {value : Json} (hnone : value.isTruthy = false) : IsCount value
  | whole (n : Int) : IsCount (.number (.whole n))
  | real {x : Float} {n : Int} (hfinite : Decimal.truncate x = .ok n) : IsCount (.number (.real x))
  | bool (b : Bool) : IsCount (.bool b)
  | numeral {s : String} {n : Int} (hread : Decimal.readWhole s = .ok n) : IsCount (.text s)

/-- The value is not given, or can be gone through, and all that comes up has the property. -/
def EachIs (P : Json → Prop) (value : Json) : Prop :=
  value.isTruthy = true → ∃ items, value.each = .ok items ∧ ∀ item ∈ items, P item

def IsTextIfGiven (value : Json) : Prop :=
  value.isTruthy = true → ∃ s, value = .text s

theorem exists_asText_eq_ok_iff {value : Json} :
    (∃ s, value.asText = .ok s) ↔ ∃ s, value = .text s := by
  cases value with
  | text s => exact ⟨fun _ => ⟨s, rfl⟩, fun _ => ⟨s, rfl⟩⟩
  | _ => exact ⟨nofun, nofun⟩

theorem exists_asWhole_eq_ok {value : Json} (hcount : IsCount value)
    (hgiven : value.isTruthy = true) : ∃ n, value.asWhole = .ok n := by
  cases hcount with
  | notGiven hnone => exact absurd hgiven (by simp [hnone])
  | whole n => exact ⟨n, rfl⟩
  | @real x n hfinite =>
    refine ⟨n, ?_⟩
    unfold asWhole
    dsimp only
    rw [hfinite]
    rfl
  | bool b => exact ⟨_, rfl⟩
  | @numeral s n hread =>
    refine ⟨n, ?_⟩
    unfold asWhole
    dsimp only
    rw [hread]

theorem isCount_of_asWhole {value : Json} {n : Int} (hwhole : value.asWhole = .ok n) :
    IsCount value := by
  cases value with
  | null => exact .notGiven rfl
  | bool b => exact .bool b
  | number x =>
    cases x with
    | whole m => exact .whole m
    | real x => exact .real (except_mapError_eq_ok.1 hwhole)
  | text s =>
    unfold asWhole at hwhole
    dsimp only at hwhole
    rcases hread : Decimal.readWhole s with fault | m
    · rw [hread] at hwhole
      cases fault <;> cases hwhole
    · exact .numeral hread
  | array items => cases hwhole
  | object members => cases hwhole

theorem exists_asCount_eq_ok_iff {value : Json} :
    (∃ n, value.asCount = .ok n) ↔ IsCount value := by
  unfold asCount
  by_cases hgiven : value.isTruthy = true
  · rw [if_pos hgiven]
    exact ⟨fun ⟨_, hwhole⟩ => isCount_of_asWhole hwhole, fun hcount =>
      exists_asWhole_eq_ok hcount hgiven⟩
  · rw [if_neg hgiven]
    exact ⟨fun _ => .notGiven (by simpa using hgiven), fun _ => ⟨0, rfl⟩⟩

theorem exists_eachGiven_eq_ok_iff {P : Json → Prop} {value : Json} :
    (∃ items, value.eachGiven = .ok items ∧ ∀ item ∈ items, P item) ↔ EachIs P value := by
  unfold eachGiven EachIs
  by_cases hgiven : value.isTruthy = true
  · rw [if_pos hgiven]
    exact ⟨fun hitems _ => hitems, fun hitems => hitems hgiven⟩
  · rw [if_neg hgiven]
    exact ⟨fun _ hgiven' => absurd hgiven' hgiven, fun _ => ⟨[], rfl, List.forall_mem_nil _⟩⟩

end Json

open Json (IsCount EachIs IsTextIfGiven lookup)

/-! ### The linter's report -/

namespace Lint

/-- The labels are not given, or the first of them does not say where the finding is, or says so by
values that stand for whole numbers. -/
def HasPlace (labels : Json) : Prop :=
  labels.isTruthy = true → (∃ s, labels = .text s) ∨ ∃ label rest, labels = .array (label :: rest) ∧
    ∀ members span, label = .object members → lookup members "span" = .object span →
      IsCount (lookup span "line") ∧ IsCount (lookup span "column")

/-- An entry whose values are what they are used for. Only those of an entry with a code on a
component file are used. -/
def IsReadable (entry : Json) : Prop :=
  ∃ members, entry = .object members ∧
    ((lookup members "code").isTruthy = true → IsTextIfGiven (lookup members "filename") ∧
      ∀ path, lookup members "filename" = .text path → SourceFile.isComponent path = true →
        (∃ code, lookup members "code" = .text code) ∧ IsTextIfGiven (lookup members "message") ∧
          HasPlace (lookup members "labels"))

theorem exists_givenText_eq_ok_iff {members : List (String × Json)} {name : String} :
    (∃ s, givenText (.object members) name = .ok s) ↔ IsTextIfGiven (lookup members name) := by
  unfold givenText IsTextIfGiven
  rw [Json.get_object]
  dsimp only [bind, Except.bind]
  by_cases hgiven : (lookup members name).isTruthy = true
  · rw [if_pos hgiven, Json.exists_asText_eq_ok_iff]
    exact ⟨fun htext _ => htext, fun htext => htext hgiven⟩
  · rw [if_neg hgiven]
    exact ⟨fun _ hgiven' => absurd hgiven' hgiven, fun _ => ⟨"", rfl⟩⟩

/-- The first place is an object whose line and column stand for whole numbers. -/
def IsPlace (span : Json) : Prop :=
  ∃ members, span = .object members ∧
    IsCount (lookup members "line") ∧ IsCount (lookup members "column")

theorem isPlace_nil : IsPlace (.object []) := ⟨[], rfl, .notGiven rfl, .notGiven rfl⟩

theorem exists_firstSpan_eq_ok_iff {members : List (String × Json)} :
    (∃ span, firstSpan (.object members) = .ok span ∧ IsPlace span) ↔
      HasPlace (lookup members "labels") := by
  have hnowhere : ∃ span, Except.ok (.object []) = (.ok span : Except ShapeFault Json) ∧
      IsPlace span := ⟨_, rfl, isPlace_nil⟩
  unfold firstSpan HasPlace
  rw [Json.get_object]
  dsimp only [bind, Except.bind]
  generalize lookup members "labels" = labels
  by_cases hgiven : labels.isTruthy = true
  · rw [if_neg (by simp [hgiven])]
    cases labels with
    | null => cases hgiven
    | bool b => exact ⟨nofun, fun hplace => (hplace hgiven).elim nofun nofun⟩
    | number x => exact ⟨nofun, fun hplace => (hplace hgiven).elim nofun nofun⟩
    -- A text has a first item as well, but that is no object.
    | text s => exact ⟨fun _ _ => .inl ⟨s, rfl⟩, fun _ => hnowhere⟩
    | object found => exact ⟨nofun, fun hplace => (hplace hgiven).elim nofun nofun⟩
    | array items =>
      cases items with
      | nil => cases hgiven
      | cons label rest =>
        dsimp only [Json.first, List.head?_cons, Option.getD_some]
        cases label with
        | object given =>
          dsimp only
          rw [Json.get_object]
          cases hspan : lookup given "span" with
          | object span =>
            refine ⟨?_, fun hplace => ?_⟩
            · rintro ⟨_, ⟨⟩, found, ⟨⟩, hcounts⟩ _
              refine .inr ⟨_, rest, rfl, ?_⟩
              rintro _ _ ⟨⟩ hspan'
              cases hspan.symm.trans hspan'
              exact hcounts
            · obtain ⟨s, hs⟩ | ⟨_, _, ⟨⟩, hcounts⟩ := hplace hgiven
              · cases hs
              · exact ⟨_, rfl, span, rfl, hcounts given span rfl hspan⟩
          | _ =>
            refine ⟨fun _ _ => .inr ⟨_, rest, rfl, ?_⟩, fun _ => hnowhere⟩
            rintro _ _ ⟨⟩ hspan'
            cases hspan.symm.trans hspan'
        | _ => exact ⟨fun _ _ => .inr ⟨_, rest, rfl, nofun⟩, fun _ => hnowhere⟩
  · rw [if_pos (by simp [hgiven])]
    exact ⟨fun _ hgiven' => absurd hgiven' hgiven, fun _ => hnowhere⟩

theorem exists_eq_object_of_firstSpan {members : List (String × Json)} {span : Json}
    (hspan : firstSpan (.object members) = .ok span) : ∃ place, span = .object place := by
  unfold firstSpan at hspan
  obtain ⟨labels, -, hspan⟩ := except_bind_eq_ok.1 hspan
  by_cases hgiven : labels.isTruthy = true
  · rw [if_neg (by simp [hgiven])] at hspan
    obtain ⟨label, -, hspan⟩ := except_bind_eq_ok.1 hspan
    cases label with
    | object given =>
      obtain ⟨place, -, hspan⟩ := except_bind_eq_ok.1 hspan
      cases place <;> cases hspan <;> exact ⟨_, rfl⟩
    | _ => cases hspan; exact ⟨[], rfl⟩
  · rw [if_pos (by simp [hgiven])] at hspan
    cases hspan
    exact ⟨[], rfl⟩

theorem exists_entryDiagnostic_eq_ok_iff {members : List (String × Json)} {code : Json}
    {file : String} : (∃ found, entryDiagnostic (.object members) code file = .ok found) ↔
      (∃ s, code = .text s) ∧ IsTextIfGiven (lookup members "message") ∧
        HasPlace (lookup members "labels") := by
  rw [← Json.exists_asText_eq_ok_iff, ← exists_givenText_eq_ok_iff, ← exists_firstSpan_eq_ok_iff]
  unfold entryDiagnostic
  simp only [exists_except_bind_eq_ok]
  constructor
  · rintro ⟨s, hs, said, hsaid, _, -, span, hspan, _, -, _, hline, n, hn, _, hcolumn, m, hm, -⟩
    obtain ⟨place, rfl⟩ := exists_eq_object_of_firstSpan hspan
    cases hline
    cases hcolumn
    exact ⟨⟨s, hs⟩, ⟨said, hsaid⟩, _, hspan, place, rfl, Json.exists_asCount_eq_ok_iff.1 ⟨n, hn⟩,
      Json.exists_asCount_eq_ok_iff.1 ⟨m, hm⟩⟩
  · rintro ⟨⟨s, hs⟩, ⟨said, hsaid⟩, _, hspan, place, rfl, hline, hcolumn⟩
    obtain ⟨n, hn⟩ := Json.exists_asCount_eq_ok_iff.2 hline
    obtain ⟨m, hm⟩ := Json.exists_asCount_eq_ok_iff.2 hcolumn
    exact ⟨s, hs, said, hsaid, _, rfl, _, hspan, _, rfl, _, rfl, n, hn, _, rfl, m, hm, _, rfl⟩

theorem exists_entry?_eq_ok_iff {entry : Json} :
    (∃ found, entry? entry = .ok found) ↔ IsReadable entry := by
  cases entry with
  | object members =>
    simp only [IsReadable, Json.object.injEq, exists_eq_left']
    unfold entry?
    rw [Json.get_object, Json.get_object]
    dsimp only [bind, Except.bind]
    by_cases hcode : (lookup members "code").isTruthy = true
    · rw [if_neg (by simp [hcode])]
      generalize lookup members "filename" = file
      by_cases hfile : file.isTruthy = true
      · rw [if_pos hfile]
        cases file with
        | text path =>
          dsimp only [Json.asText]
          by_cases hcomponent : SourceFile.isComponent path = true
          · rw [if_neg (by simp [hcomponent])]
            refine exists_except_map_eq_ok.trans (exists_entryDiagnostic_eq_ok_iff.trans ?_)
            exact ⟨fun hvalues _ => ⟨fun _ => ⟨path, rfl⟩, fun _ _ _ => hvalues⟩,
              fun hvalues => (hvalues hcode).2 path rfl hcomponent⟩
          · rw [if_pos (by simp [hcomponent])]
            refine ⟨fun _ _ => ⟨fun _ => ⟨path, rfl⟩, ?_⟩, fun _ => ⟨none, rfl⟩⟩
            rintro _ ⟨⟩ hcomponent'
            exact absurd hcomponent' hcomponent
        | _ => exact ⟨nofun, fun hvalues => ((hvalues hcode).1 hfile).elim nofun⟩
      · rw [if_neg hfile]
        have hempty : SourceFile.isComponent "" = false := by decide +kernel
        dsimp only [pure, Except.pure]
        rw [if_pos (by simp [hempty])]
        refine ⟨fun _ _ => ⟨fun hfile' => absurd hfile' hfile, ?_⟩, fun _ => ⟨none, rfl⟩⟩
        rintro path rfl hcomponent
        have hnone : path = "" := by simpa [Json.isTruthy] using hfile
        rw [hnone, hempty] at hcomponent
        cases hcomponent
    · rw [if_pos (by simp [hcode])]
      exact ⟨fun _ hcode' => absurd hcode' hcode, fun _ => ⟨none, rfl⟩⟩
  | _ => exact ⟨nofun, nofun⟩

theorem exists_entries_eq_ok_iff {reported : List Json} :
    (∃ found, entries reported = .ok found) ↔ ∀ entry ∈ reported, IsReadable entry := by
  induction reported with
  | nil => exact ⟨fun _ => List.forall_mem_nil _, fun _ => ⟨[], rfl⟩⟩
  | cons entry rest ih =>
    rw [List.forall_mem_cons, ← ih, ← exists_entry?_eq_ok_iff, entries]
    simp only [exists_except_bind_eq_ok]
    constructor
    · rintro ⟨found, hfound, others, hothers, -⟩
      exact ⟨⟨found, hfound⟩, others, hothers⟩
    · rintro ⟨⟨found, hfound⟩, others, hothers⟩
      exact ⟨found, hfound, others, hothers, _, rfl⟩

theorem isReading_parseReport (output : String) :
    IsReading output (IsReport output) entries (parseReport output) := by
  unfold parseReport
  by_cases hblank : strip output = ""
  · rw [if_pos (by simpa using hblank)]
    exact .blank hblank fun _ hreport => hreport.strip_ne_empty hblank
  rw [if_neg (by simpa using hblank)]
  unfold readReport
  rcases hread : Json.read (strip output) with fault | value
  · have hnone (reported : List Json) : ¬ IsReport output reported := by
      rintro ⟨value, hvalue, -⟩
      cases hread.symm.trans hvalue
    cases fault with
    | malformed => exact .noReport (by simp [hread]) hblank hnone _
    | tooManyDigits count => exact .longNumber hread hblank hnone
  · have hdigits (count : Nat) : Json.read (strip output) ≠ .error (.tooManyDigits count) := by
      simp [hread]
    have hreports {reported : List Json} (hreport : IsReport output reported) :
        value.member? "diagnostics" = some (.array reported) := by
      obtain ⟨_, hvalue, hmember⟩ := hreport
      cases hread.symm.trans hvalue
      exact hmember
    dsimp only [bind, Except.bind]
    split
    · rename_i reported hmember
      refine .report hdigits hblank ⟨value, hread, hmember⟩ fun other hother => ?_
      cases hmember.symm.trans (hreports hother)
      rfl
    · rename_i hmember
      exact .noReport hdigits hblank (fun reported hreport => hmember _ (hreports hreport)) _

end Lint

namespace DeadCode

/-! ### The dead-code tool's report -/

/-- The line and the column stand for whole numbers. -/
def HasPosition (members : List (String × Json)) : Prop :=
  IsCount (lookup members "line") ∧ IsCount (lookup members "col")

/-- A symbol is read as it is, but for where it is; what is not an object is passed over. -/
def IsReadableSymbol (item : Json) : Prop :=
  ∀ members, item = .object members → HasPosition members

/-- The name is a text; what is not an object has none. -/
def IsNamed (item : Json) : Prop :=
  ∀ members, item = .object members → ∃ name, nameIn members = .text name

/-- The names of a group are texts, and its first item says where it is. -/
def IsReadableGroup (item : Json) : Prop :=
  ∀ first others, item = .array (first :: others) →
    (∀ item ∈ first :: others, IsNamed item) ∧ IsReadableSymbol first

/-- An issue is read if it has a file, which has to be a key where the file itself is listed. -/
def IsReadableIssue (item : Json) : Prop :=
  ∃ members, item = .object members ∧ ((lookup members "file").isTruthy = true →
    ((lookup members "files").isTruthy = true →
      ∃ key, (lookup members "file").asKey = .ok key) ∧
    EachIs IsReadableSymbol (lookup members "exports") ∧
    EachIs IsReadableSymbol (lookup members "types") ∧
    EachIs IsReadableGroup (lookup members "duplicates"))

/-- A report whose values are what they are used for. -/
def IsReadable (members : List (String × Json)) : Prop :=
  EachIs (fun _ => True) (lookup members "files") ∧
    EachIs IsReadableIssue (lookup members "issues")

theorem exists_position_eq_ok_iff {members : List (String × Json)} :
    (∃ place, position members = .ok place) ↔ HasPosition members := by
  unfold position HasPosition
  simp only [exists_except_bind_eq_ok, ← Json.exists_asCount_eq_ok_iff]
  exact ⟨fun ⟨line, hline, column, hcolumn, _⟩ => ⟨⟨line, hline⟩, column, hcolumn⟩,
    fun ⟨⟨line, hline⟩, column, hcolumn⟩ => ⟨line, hline, column, hcolumn, _, rfl⟩⟩

theorem exists_symbols_eq_ok_iff (issue : Issue) (file : Json) {items : List Json} :
    (∃ found, symbols issue file items = .ok found) ↔ ∀ item ∈ items, IsReadableSymbol item := by
  induction items with
  | nil => exact ⟨fun _ => List.forall_mem_nil _, fun _ => ⟨[], rfl⟩⟩
  | cons item rest ih =>
    rw [List.forall_mem_cons, ← ih]
    cases item with
    | object members =>
      simp only [IsReadableSymbol, Json.object.injEq, forall_eq']
      rw [← exists_position_eq_ok_iff, symbols]
      simp only [exists_except_bind_eq_ok]
      exact ⟨fun ⟨place, hplace, found, hfound, _⟩ => ⟨⟨place, hplace⟩, found, hfound⟩,
        fun ⟨⟨place, hplace⟩, found, hfound⟩ => ⟨place, hplace, found, hfound, _, rfl⟩⟩
    | _ => exact ⟨fun hrest => ⟨nofun, hrest⟩, And.right⟩

theorem exists_joinedNames_eq_ok_iff {place : Nat} {items : List Json} :
    (∃ names, joinedNames place items = .ok names) ↔ ∀ item ∈ items, IsNamed item := by
  induction items generalizing place with
  | nil => exact ⟨fun _ => List.forall_mem_nil _, fun _ => ⟨[], rfl⟩⟩
  | cons item rest ih =>
    rw [List.forall_mem_cons]
    cases item with
    | object members =>
      simp only [IsNamed, Json.object.injEq, forall_eq']
      unfold joinedNames
      cases nameIn members with
      | text name =>
        dsimp only
        rw [exists_except_bind_eq_ok]
        exact ⟨fun ⟨names, hnames, _⟩ => ⟨⟨name, rfl⟩, ih.1 ⟨names, hnames⟩⟩,
          fun ⟨_, hrest⟩ => (ih.2 hrest).imp fun _ hnames => ⟨hnames, _, rfl⟩⟩
      | _ => exact ⟨nofun, fun ⟨hname, _⟩ => hname.elim nofun⟩
    | _ => exact ih.trans ⟨fun hrest => ⟨nofun, hrest⟩, And.right⟩

theorem exists_duplicate_eq_ok_iff (file : Json) {first : Json} {others : List Json} :
    (∃ found, duplicate file (first :: others) = .ok found) ↔
      IsReadableGroup (.array (first :: others)) := by
  have hplace : (∃ place, position (((first :: others).head?.bind (·.members?)).getD []) =
      .ok place) ↔ IsReadableSymbol first := by
    rw [exists_position_eq_ok_iff]
    unfold IsReadableSymbol
    cases first with
    | object members => simp [Json.members?]
    | _ => exact ⟨fun _ => nofun, fun _ => ⟨.notGiven rfl, .notGiven rfl⟩⟩
  have hgroup : IsReadableGroup (.array (first :: others)) ↔
      (∀ item ∈ first :: others, IsNamed item) ∧ IsReadableSymbol first :=
    ⟨fun hvalues => hvalues first others rfl, fun hvalues _ _ hsame => by
      cases hsame
      exact hvalues⟩
  rw [hgroup, ← hplace, ← exists_joinedNames_eq_ok_iff, duplicate]
  simp only [exists_except_bind_eq_ok]
  exact ⟨fun ⟨names, hnames, place, hplace, _⟩ => ⟨⟨names, hnames⟩, place, hplace⟩,
    fun ⟨⟨names, hnames⟩, place, hplace⟩ => ⟨names, hnames, place, hplace, _, rfl⟩⟩

theorem exists_duplicates_eq_ok_iff (file : Json) {items : List Json} :
    (∃ found, duplicates file items = .ok found) ↔ ∀ item ∈ items, IsReadableGroup item := by
  induction items with
  | nil => exact ⟨fun _ => List.forall_mem_nil _, fun _ => ⟨[], rfl⟩⟩
  | cons item rest ih =>
    rw [List.forall_mem_cons, ← ih]
    cases item with
    | array group =>
      cases group with
      | nil => exact ⟨fun hrest => ⟨nofun, hrest⟩, And.right⟩
      | cons first others =>
        rw [← exists_duplicate_eq_ok_iff file, duplicates]
        simp only [exists_except_bind_eq_ok]
        exact ⟨fun ⟨found, hfound, more, hmore, _⟩ => ⟨⟨found, hfound⟩, more, hmore⟩,
          fun ⟨⟨found, hfound⟩, more, hmore⟩ => ⟨found, hfound, more, hmore, _, rfl⟩⟩
    | _ => exact ⟨fun hrest => ⟨nofun, hrest⟩, And.right⟩

theorem exists_issueFile_eq_ok_iff {seen : List Json} {members : List (String × Json)}
    {file : Json} : (∃ unused, issueFile seen (.object members) file = .ok unused) ↔
      ((lookup members "files").isTruthy = true → ∃ key, file.asKey = .ok key) := by
  unfold issueFile
  rw [Json.get_object]
  dsimp only [bind, Except.bind]
  by_cases hlisted : (lookup members "files").isTruthy = true
  · rw [if_pos hlisted]
    rcases file.asKey with fault | key
    · exact ⟨nofun, fun hkey => (hkey hlisted).elim nofun⟩
    · exact ⟨fun _ _ => ⟨key, rfl⟩, fun _ => ⟨_, rfl⟩⟩
  · rw [if_neg hlisted]
    exact ⟨fun _ hlisted' => absurd hlisted' hlisted, fun _ => ⟨[], rfl⟩⟩

theorem exists_issueEntries_eq_ok_iff {members : List (String × Json)} {file : Json} :
    (∃ found, issueEntries (.object members) file = .ok found) ↔
      EachIs IsReadableSymbol (lookup members "exports") ∧
        EachIs IsReadableSymbol (lookup members "types") ∧
        EachIs IsReadableGroup (lookup members "duplicates") := by
  unfold issueEntries
  simp only [exists_except_bind_eq_ok, ← Json.exists_eachGiven_eq_ok_iff]
  constructor
  · rintro ⟨_, ⟨⟩, exports, hexports, _, hexported, _, ⟨⟩, types, htypes, _, htyped, _, ⟨⟩, groups,
      hgroups, _, hgrouped, -⟩
    exact ⟨⟨exports, hexports, (exists_symbols_eq_ok_iff _ _).1 ⟨_, hexported⟩⟩,
      ⟨types, htypes, (exists_symbols_eq_ok_iff _ _).1 ⟨_, htyped⟩⟩,
      groups, hgroups, (exists_duplicates_eq_ok_iff _).1 ⟨_, hgrouped⟩⟩
  · rintro ⟨⟨exports, hexports, hexported⟩, ⟨types, htypes, htyped⟩, groups, hgroups, hgrouped⟩
    obtain ⟨_, hexported⟩ := (exists_symbols_eq_ok_iff .unusedExport file).2 hexported
    obtain ⟨_, htyped⟩ := (exists_symbols_eq_ok_iff .unusedType file).2 htyped
    obtain ⟨_, hgrouped⟩ := (exists_duplicates_eq_ok_iff file).2 hgrouped
    exact ⟨_, rfl, exports, hexports, _, hexported, _, rfl, types, htypes, _, htyped, _, rfl,
      groups, hgroups, _, hgrouped, _, rfl⟩

theorem exists_issues_eq_ok_iff {seen : List Json} {items : List Json} :
    (∃ found, issues seen items = .ok found) ↔ ∀ item ∈ items, IsReadableIssue item := by
  induction items generalizing seen with
  | nil => exact ⟨fun _ => List.forall_mem_nil _, fun _ => ⟨[], rfl⟩⟩
  | cons item rest ih =>
    rw [List.forall_mem_cons]
    cases item with
    | object members =>
      have hissue : IsReadableIssue (.object members) ↔ ((lookup members "file").isTruthy = true →
          (∃ unused, issueFile seen (.object members) (lookup members "file") = .ok unused) ∧
            ∃ found, issueEntries (.object members) (lookup members "file") = .ok found) := by
        rw [exists_issueFile_eq_ok_iff, exists_issueEntries_eq_ok_iff]
        exact ⟨fun ⟨_, hsame, hvalues⟩ => Json.object.inj hsame ▸ hvalues,
          fun hvalues => ⟨members, rfl, hvalues⟩⟩
      rw [hissue, issues, Json.get_object, exists_except_bind_eq_ok]
      simp only [Except.ok.injEq, exists_eq_left']
      by_cases hfile : (lookup members "file").isTruthy = true
      · rw [if_neg (by simp [hfile])]
        simp only [exists_except_bind_eq_ok]
        constructor
        · rintro ⟨unused, hunused, found, hfound, more, hmore, -⟩
          exact ⟨fun _ => ⟨⟨unused, hunused⟩, found, hfound⟩, ih.1 ⟨more, hmore⟩⟩
        · rintro ⟨hvalues, hrest⟩
          obtain ⟨⟨unused, hunused⟩, found, hfound⟩ := hvalues hfile
          obtain ⟨more, hmore⟩ := ih.2 hrest
          exact ⟨unused, hunused, found, hfound, more, hmore, _, rfl⟩
      · rw [if_pos (by simp [hfile]), ih]
        exact ⟨fun hrest => ⟨fun hfile' => absurd hfile' hfile, hrest⟩, And.right⟩
    | _ => exact ⟨nofun, fun ⟨hissue, _⟩ => hissue.elim nofun⟩

theorem exists_ofReport_eq_ok_iff {members : List (String × Json)} :
    (∃ found, ofReport members = .ok found) ↔ IsReadable members := by
  unfold ofReport IsReadable
  simp only [exists_except_bind_eq_ok, ← Json.exists_eachGiven_eq_ok_iff]
  constructor
  · rintro ⟨files, hfiles, items, hitems, found, hfound, -⟩
    exact ⟨⟨files, hfiles, fun _ _ => .intro⟩, items, hitems, exists_issues_eq_ok_iff.1 ⟨_, hfound⟩⟩
  · rintro ⟨⟨files, hfiles, -⟩, items, hitems, hissues⟩
    obtain ⟨_, hfound⟩ := exists_issues_eq_ok_iff.2 hissues
    exact ⟨files, hfiles, items, hitems, _, hfound, _, rfl⟩

theorem parseReport_eq {output : String} (hprinted : strip output ≠ "") :
    parseReport output = match Json.read (strip output) with
      | .ok (.object members) => (ofReport members).mapError .shape
      | .ok _ => .error (misshapenReport toolName (strip output))
      | .error .malformed => .error (unreadableReport toolName (strip output))
      | .error (.tooManyDigits count) => .error (.shape (.tooManyDigits count)) := by
  unfold parseReport readReport
  rw [if_neg (by simpa using hprinted)]
  rcases Json.read (strip output) with fault | value
  · cases fault <;> rfl
  · cases value <;> rfl

def IsReport (output : String) (members : List (String × Json)) : Prop :=
  Json.read (strip output) = .ok (.object members)

theorem isReading_parseReport (output : String) :
    IsReading output (IsReport output) ofReport (parseReport output) := by
  by_cases hblank : strip output = ""
  · unfold parseReport IsReport
    rw [if_pos (by simpa using hblank), hblank, read_blank]
    exact .blank hblank nofun
  rw [parseReport_eq hblank]
  unfold IsReport
  rcases hread : Json.read (strip output) with fault | value
  · cases fault with
    | malformed => exact .noReport (by simp [hread]) hblank nofun _
    | tooManyDigits count => exact .longNumber hread hblank nofun
  · have hdigits (count : Nat) : Json.read (strip output) ≠ .error (.tooManyDigits count) := by
      simp [hread]
    cases value with
    | object members =>
      refine .report hdigits hblank rfl fun other hother => ?_
      cases hother
      rfl
    | _ => exact .noReport hdigits hblank nofun _

theorem Patience.retries_eq_true_iff (patience : Patience) (fault : Fault) :
    patience.policy.retries fault = true ↔ ∃ failure, fault = .check failure := by
  cases fault with
  | check failure => exact ⟨fun _ => ⟨failure, rfl⟩, fun _ => rfl⟩
  | _ => exact ⟨nofun, nofun⟩

end DeadCode

/-- Whatever an analyzer prints, it comes to findings where there is nothing in it or a report whose
values are what they are used for; it comes to these or to a failure of the check, which the
dead-code check tries again, where what it says is what it is used for. Reports are read to any depth,
and without surrogates that stand alone. -/
theorem parseReport_failsAsCheck_iff (output : String) :
    (FailsAsCheck (Lint.parseReport output) ↔
      IsUsable output (Lint.IsReport output) (∀ entry ∈ ·, Lint.IsReadable entry)) ∧
    ((∃ found, Lint.parseReport output = .ok found) ↔
      strip output = "" ∨ ∃ reported, Lint.IsReport output reported ∧
        ∀ entry ∈ reported, Lint.IsReadable entry) ∧
    (FailsAsCheck (DeadCode.parseReport output) ↔
      IsUsable output (DeadCode.IsReport output) DeadCode.IsReadable) ∧
    ((∃ found, DeadCode.parseReport output = .ok found) ↔
      strip output = "" ∨ ∃ members, DeadCode.IsReport output members ∧
        DeadCode.IsReadable members) ∧
    ∀ patience : DeadCode.Patience,
      (∀ fault, DeadCode.parseReport output = .error fault → patience.policy.retries fault = true) ↔
        IsUsable output (DeadCode.IsReport output) DeadCode.IsReadable := by
  have hlint := Lint.isReading_parseReport output
  have hdead := DeadCode.isReading_parseReport output
  have hentries (reported : List Json) : (∃ found, Lint.entries reported = .ok found) ↔
      ∀ entry ∈ reported, Lint.IsReadable entry := Lint.exists_entries_eq_ok_iff
  have hreport (members : List (String × Json)) : (∃ found, DeadCode.ofReport members = .ok found) ↔
      DeadCode.IsReadable members := DeadCode.exists_ofReport_eq_ok_iff
  refine ⟨hlint.failsAsCheck_iff hentries, hlint.exists_eq_ok_iff hentries,
    hdead.failsAsCheck_iff hreport, hdead.exists_eq_ok_iff hreport, fun patience => ?_⟩
  simp only [patience.retries_eq_true_iff]
  exact hdead.failsAsCheck_iff hreport

/-- A project whose analyzers print a number where the reports have their entries. -/
def Host.withStrayNumber : Host :=
  .ofProject reactManifest (fun _ => .unavailable) fun
    | .linter, _, _ => .finished (some 0) (.text "\x7b\"diagnostics\":[1]\x7d") (.text "")
    | .deadCode, _, _ => .finished (some 0) (.text "\x7b\"issues\":[1]\x7d") (.text "")

/-- Neither check fails by itself on such reports, and the dead-code tool is started only once. -/
theorem parseReport_withStrayNumber :
    let fault : Fault := .shape (.noOperation "int" "get")
    let run := DeadCode.check (some ["knip"]) DeadCode.usualPatience ⟨.root, default, default, none⟩
      Host.withStrayNumber
    Lint.parseReport "\x7b\"diagnostics\":[1]\x7d" = .error fault ∧
      ¬ FailsAsCheck (Lint.parseReport "\x7b\"diagnostics\":[1]\x7d") ∧
      DeadCode.parseReport "\x7b\"issues\":[1]\x7d" = .error fault ∧
      ¬ FailsAsCheck (DeadCode.parseReport "\x7b\"issues\":[1]\x7d") ∧
      run.1 = .error fault ∧ run.2.events.length = 1 := by
  intro fault run
  have hno {result : Except Fault (List Diagnostic)} (hfault : result = .error fault) :
      ¬ FailsAsCheck result := fun hfails => (hfails fault hfault).elim nofun
  have hlint : Lint.parseReport "\x7b\"diagnostics\":[1]\x7d" = .error fault :=
    eq_error_of_faultOf (by decide +kernel)
  have hdead : DeadCode.parseReport "\x7b\"issues\":[1]\x7d" = .error fault :=
    eq_error_of_faultOf (by decide +kernel)
  exact ⟨hlint, hno hlint, hdead, hno hdead, eq_error_of_faultOf (by decide +kernel),
    by decide +kernel⟩

end Checkup
