import Mathlib.Data.List.TakeWhile
import Checkup.Proofs.Changes
import Checkup.Proofs.Files
import Checkup.Proofs.Questions

/-!
# Workspace files that are read back

A workspace file lists patterns as items under a header. However the list is written, with whatever
indentation and quotes, with blank lines and comments between the items and with other sections
around it, the patterns are read back in order (`listedIn_of_isListing`): the reader is inside the
list exactly from the header to the first line that belongs to something else.
-/

namespace Checkup

open Run (IsQuestion)

/-! ### Lines -/

namespace Text

variable {cs line rest pending : List Char} {lines : List (List Char)}

/-- What ends a line in front of the rest of a text: a carriage return together with a line feed, or
any one line break, where a carriage return is not one of such a pair. -/
inductive IsLineEnd (rest : List Char) : List Char → Prop
  | pair : IsLineEnd rest ['\r', '\n']
  | single {c : Char} (hbreak : isLineBreak c = true) (halone : c = '\r' → rest.head? ≠ some '\n') :
      IsLineEnd rest [c]

/-- The text is made of these lines, each with what ends it. The last one may go without, unless it is
empty. -/
inductive IsDivided : List Char → List (List Char) → Prop
  | nil : IsDivided [] []
  | last {line : List Char} (hsome : line ≠ []) (hfree : ∀ c ∈ line, isLineBreak c = false) :
      IsDivided line [line]
  | cons {line ending rest : List Char} {lines : List (List Char)}
      (hfree : ∀ c ∈ line, isLineBreak c = false) (hends : IsLineEnd rest ending)
      (hrest : IsDivided rest lines) : IsDivided (line ++ ending ++ rest) (line :: lines)

theorem linesFrom_append (hfree : ∀ c ∈ line, isLineBreak c = false) (pending rest : List Char) :
    linesFrom pending (line ++ rest) = linesFrom (line.reverse ++ pending) rest := by
  induction line generalizing pending with
  | nil => rfl
  | cons c line ih =>
    obtain ⟨hc, hline⟩ := List.forall_mem_cons.1 hfree
    have hpair : c ≠ '\r' := by
      rintro rfl
      cases hc
    rw [List.cons_append, linesFrom, if_neg (by simp [hc]), ih hline, List.reverse_cons,
      List.append_assoc, List.singleton_append]
    intro more heq _
    exact hpair heq

theorem linesFrom_ending {ending : List Char} (hends : IsLineEnd rest ending) (pending : List Char) :
    linesFrom pending (ending ++ rest) = pending.reverse :: linesFrom [] rest := by
  cases hends with
  | pair => rfl
  | @single c hbreak halone =>
    rw [List.singleton_append, linesFrom, if_pos hbreak]
    intro more heq hmore
    exact halone heq (by rw [hmore]; rfl)

theorem isDivided_linesFrom (hpending : ∀ c ∈ pending, isLineBreak c = false) (cs : List Char) :
    IsDivided (pending.reverse ++ cs) (linesFrom pending cs) := by
  have hreverse {pending : List Char} (hpending : ∀ c ∈ pending, isLineBreak c = false) :
      ∀ c ∈ pending.reverse, isLineBreak c = false :=
    fun c hc => hpending c (List.mem_reverse.1 hc)
  fun_induction linesFrom pending cs with
  | case1 pending hempty =>
    rw [List.isEmpty_iff.1 hempty]
    exact .nil
  | case2 pending hempty =>
    rw [List.append_nil]
    exact .last (by simpa using hempty) (hreverse hpending)
  | case3 pending cs ih =>
    have hrest := ih (List.forall_mem_nil _)
    simpa using hrest.cons (hreverse hpending) .pair
  | case4 pending c cs hpair hbreak ih =>
    have hrest := ih (List.forall_mem_nil _)
    have hends : IsLineEnd cs [c] := by
      refine .single hbreak fun hc hhead => ?_
      obtain ⟨more, rfl⟩ := List.head?_eq_some_iff.1 hhead
      exact hpair more hc rfl
    simpa using hrest.cons (hreverse hpending) hends
  | case5 pending c cs hpair hbreak ih =>
    have hc : isLineBreak c = false := by simpa using hbreak
    simpa using ih (List.forall_mem_cons.2 ⟨hc, hpending⟩)

theorem isDivided_iff : IsDivided cs lines ↔ linesFrom [] cs = lines := by
  constructor
  · intro hdivided
    induction hdivided with
    | nil => rfl
    | @last line hsome hfree =>
      have hline := linesFrom_append hfree [] []
      rw [List.append_nil, List.append_nil] at hline
      rw [hline, linesFrom, if_neg (by simpa using hsome), List.reverse_reverse]
    | @cons line ending rest lines hfree hends hrest ih =>
      rw [List.append_assoc, linesFrom_append hfree, linesFrom_ending hends, ih]
      simp
  · rintro rfl
    exact isDivided_linesFrom (List.forall_mem_nil _) cs

/-! ### Blanks around a text -/

variable {before after : List Char} {c : Char}

theorem trimEnd_append (hafter : ∀ c ∈ after, isBlank c = true) (cs : List Char) :
    trimEnd (cs ++ after) = trimEnd cs := by
  unfold trimEnd
  rw [List.reverse_append, List.dropWhile_append_of_pos]
  simpa using hafter

theorem trim_surrounded (hbefore : ∀ c ∈ before, isBlank c = true)
    (hafter : ∀ c ∈ after, isBlank c = true) (cs : List Char) :
    trim (before ++ cs ++ after) = trim cs := by
  unfold trim
  rw [List.append_assoc, List.dropWhile_append_of_pos hbefore, List.dropWhile_append]
  split
  · rename_i hnone
    have hblank : after.dropWhile isBlank = [] := List.dropWhile_eq_nil_iff.2 hafter
    rw [hblank, List.isEmpty_iff.1 hnone]
  · exact trimEnd_append hafter _

theorem trim_cons (hc : isBlank c = false) (cs : List Char) : trim (c :: cs) = c :: trimEnd cs := by
  unfold trim
  rw [List.dropWhile_cons_of_neg (by simp [hc]), trimEnd_cons hc]

theorem trim_trimEnd (cs : List Char) : trim (trimEnd cs) = trim cs := by
  have hsplit : cs = trimEnd cs ++ (cs.reverse.takeWhile isBlank).reverse := by
    unfold trimEnd
    rw [← List.reverse_append, List.takeWhile_append_dropWhile, List.reverse_reverse]
  have hblank : ∀ c ∈ (cs.reverse.takeWhile isBlank).reverse, isBlank c = true :=
    fun c hc => List.mem_takeWhile_imp (List.mem_reverse.1 hc)
  have htrim := trim_surrounded (List.forall_mem_nil _) hblank (trimEnd cs)
  rw [List.nil_append, ← hsplit] at htrim
  exact htrim.symm

/-- Between two characters that are no blanks nothing is trimmed. -/
theorem trim_enclosed (hc : isBlank c = false) (cs : List Char) :
    trim (c :: cs ++ [c]) = c :: cs ++ [c] := by
  have hlast : trimEnd (cs ++ [c]) = cs ++ [c] := by
    unfold trimEnd
    rw [List.reverse_append, List.reverse_singleton, List.singleton_append,
      List.dropWhile_cons_of_neg (by simp [hc])]
    simp
  rw [List.cons_append, trim_cons hc, hlast]

end Text

namespace Workspace

variable {pattern line : List Char} {patterns lines rest : List (List Char)}

/-! ### Items -/

inductive Quoting
  | bare
  | single
  | double
  deriving DecidableEq, Repr

def Quoting.mark : Quoting → List Char
  | bare => []
  | single => ['\'']
  | double => ['"']

/-- The text can stand for itself as an item: it has no quotes, and no blanks around it. -/
structure IsWritable (pattern : List Char) : Prop where
  single : '\'' ∉ pattern
  double : '"' ∉ pattern
  trimmed : Text.trim pattern = pattern

/-- The line lists the pattern, under any indentation. -/
inductive IsItem (pattern line : List Char) : Prop
  | intro (indentation gap trailing : List Char) (quoting : Quoting)
      (hindentation : ∀ c ∈ indentation, Text.isBlank c = true)
      (hgap : ∀ c ∈ gap, Text.isBlank c = true)
      (htrailing : ∀ c ∈ trailing, Text.isBlank c = true)
      (hline : line =
        indentation ++ '-' :: (gap ++ (quoting.mark ++ pattern ++ quoting.mark) ++ trailing))

def IsSkipped (line : List Char) : Prop :=
  Text.trim line = [] ∨ (Text.trim line).head? = some '#'
  deriving Decidable

def IsHeader (line : List Char) : Prop :=
  Text.trim line = "packages:".toList
  deriving Decidable

/-- The lines list the patterns in order, with blank lines and comments among them. -/
inductive AreItems : List (List Char) → List (List Char) → Prop
  | nil : AreItems [] []
  | item {pattern line : List Char} {patterns lines : List (List Char)} (hwritable : IsWritable pattern)
      (hitem : IsItem pattern line) (hrest : AreItems patterns lines) :
      AreItems (pattern :: patterns) (line :: lines)
  | skipped {line : List Char} {patterns lines : List (List Char)} (hline : IsSkipped line)
      (hrest : AreItems patterns lines) : AreItems patterns (line :: lines)

/-- The lines do not go on with a list: there are none, or the first one is neither an item nor to be
skipped, and no list is opened. -/
inductive AreBeyond : List (List Char) → Prop
  | nil : AreBeyond []
  | cons {line : List Char} {lines : List (List Char)} (hskipped : ¬ IsSkipped line)
      (hitem : (Text.trim line).head? ≠ some '-') (hheader : ¬ IsHeader line)
      (hrest : ∀ other ∈ lines, ¬ IsHeader other) : AreBeyond (line :: lines)

/-- The lines of a workspace file that lists the patterns under its one header. -/
inductive IsListing (patterns : List (List Char)) : List (List Char) → Prop
  | intro {before items beyond : List (List Char)} {header : List Char}
      (hbefore : ∀ line ∈ before, ¬ IsHeader line) (hheader : IsHeader header)
      (hitems : AreItems patterns items) (hbeyond : AreBeyond beyond) :
      IsListing patterns (before ++ header :: (items ++ beyond))

/-! ### Reading -/

theorem unquoted_of_notMem (hsingle : '\'' ∉ pattern) (hdouble : '"' ∉ pattern) :
    unquoted pattern = pattern := by
  unfold unquoted Text.without
  rw [List.filter_eq_self.2, List.filter_eq_self.2]
  · intro c hc
    simpa using fun heq : c = '"' => hdouble (heq ▸ hc)
  · intro c hc
    have hmem := (List.mem_filter.1 hc).1
    simpa using fun heq : c = '\'' => hsingle (heq ▸ hmem)

theorem unquoted_quoted (hwritable : IsWritable pattern) (quoting : Quoting) :
    unquoted (Text.trim (quoting.mark ++ pattern ++ quoting.mark)) = pattern := by
  have hplain := unquoted_of_notMem hwritable.single hwritable.double
  cases quoting with
  | bare =>
    rw [Quoting.mark, List.nil_append, List.append_nil, hwritable.trimmed, hplain]
  | single =>
    rw [Quoting.mark, List.singleton_append, Text.trim_enclosed (by decide)]
    unfold unquoted Text.without at *
    simpa using hplain
  | double =>
    rw [Quoting.mark, List.singleton_append, Text.trim_enclosed (by decide)]
    unfold unquoted Text.without at *
    simpa using hplain

theorem IsItem.exists_trim_eq (hitem : IsItem pattern line) (hwritable : IsWritable pattern) :
    ∃ item, Text.trim line = '-' :: item ∧ unquoted (Text.trim item) = pattern := by
  cases hitem with
  | intro indentation gap trailing quoting hindentation hgap htrailing hline =>
    subst hline
    refine ⟨Text.trimEnd (gap ++ (quoting.mark ++ pattern ++ quoting.mark) ++ trailing), ?_, ?_⟩
    · have htrim := Text.trim_surrounded hindentation (List.forall_mem_nil _)
        ('-' :: (gap ++ (quoting.mark ++ pattern ++ quoting.mark) ++ trailing))
      rw [List.append_nil] at htrim
      rw [htrim, Text.trim_cons (by decide)]
    · rw [Text.trim_trimEnd, Text.trim_surrounded hgap htrailing, unquoted_quoted hwritable]

theorem listedIn_header (hheader : IsHeader line) (inside : Bool) (rest : List (List Char)) :
    listedIn inside (line :: rest) = listedIn true rest := by
  rw [listedIn]
  exact if_pos (beq_iff_eq.2 hheader)

theorem listedIn_item (hitem : IsItem pattern line) (hwritable : IsWritable pattern)
    (rest : List (List Char)) : listedIn true (line :: rest) = pattern :: listedIn true rest := by
  obtain ⟨item, htrim, hpattern⟩ := hitem.exists_trim_eq hwritable
  rw [listedIn]
  simp only [htrim]
  rw [if_neg (by simp), if_pos trivial, hpattern]

theorem listedIn_skipped (hline : IsSkipped line) (rest : List (List Char)) :
    listedIn true (line :: rest) = listedIn true rest := by
  rw [listedIn]
  rcases hline with hblank | hcomment
  · simp only [hblank]
    rw [if_neg (by simp), if_pos trivial]
  · obtain ⟨comment, htrim⟩ := List.head?_eq_some_iff.1 hcomment
    simp only [htrim]
    rw [if_neg (by simp), if_pos trivial]

theorem listedIn_beyond (hskipped : ¬ IsSkipped line) (hitem : (Text.trim line).head? ≠ some '-')
    (hheader : ¬ IsHeader line) (rest : List (List Char)) :
    listedIn true (line :: rest) = listedIn false rest := by
  unfold IsSkipped at hskipped
  rw [listedIn]
  refine (if_neg (mt beq_iff_eq.1 hheader)).trans ((if_pos rfl).trans ?_)
  split
  · rename_i htrim
    exact absurd (by rw [htrim]; rfl) hitem
  · rename_i htrim
    exact absurd (.inr (by rw [htrim]; rfl)) hskipped
  · rename_i htrim
    exact absurd (.inl htrim) hskipped
  · rfl

/-- Outside of the list every line is passed over, up to a header. -/
theorem listedIn_outside {before : List (List Char)} (hbefore : ∀ line ∈ before, ¬ IsHeader line)
    (rest : List (List Char)) : listedIn false (before ++ rest) = listedIn false rest := by
  induction before with
  | nil => rfl
  | cons line before ih =>
    obtain ⟨hline, hbefore⟩ := List.forall_mem_cons.1 hbefore
    rw [List.cons_append, listedIn]
    exact (if_neg (mt beq_iff_eq.1 hline)).trans (ih hbefore)

/-- The items of the list are read in order, and the reader is still inside the list after them. -/
theorem listedIn_items (hitems : AreItems patterns lines) (rest : List (List Char)) :
    listedIn true (lines ++ rest) = patterns ++ listedIn true rest := by
  induction hitems with
  | nil => rfl
  | item hwritable hitem hrest ih =>
    rw [List.cons_append, listedIn_item hitem hwritable, ih, List.cons_append]
  | skipped hline hrest ih => rw [List.cons_append, listedIn_skipped hline, ih]

theorem AreBeyond.listedIn_eq (hbeyond : AreBeyond lines) : listedIn true lines = [] := by
  cases hbeyond with
  | nil => rfl
  | @cons line lines hskipped hitem hheader hrest =>
    have hnone := listedIn_outside hrest []
    rw [List.append_nil] at hnone
    rw [listedIn_beyond hskipped hitem hheader, hnone]
    rfl

theorem listedIn_of_isListing (hlisting : IsListing patterns lines) :
    listedIn false lines = patterns := by
  cases hlisting with
  | intro hbefore hheader hitems hbeyond =>
    rw [listedIn_outside hbefore, listedIn_header hheader, listedIn_items hitems,
      hbeyond.listedIn_eq, List.append_nil]

end Workspace

/-! ### Files -/

theorem Content.lossy_of_text? {content : Content} {text : String}
    (htext : content.text? = some text) : content.lossy = text := by
  cases content with
  | text value => exact Option.some.inj htext
  | bytes value =>
    obtain ⟨cs, hcs, rfl⟩ := Option.map_eq_some_iff.1 htext
    have hall := option_mapM_eq_some.1 hcs
    rw [List.map_id] at hall
    rw [Content.lossy, Text.Utf8.decodeLossy, hall, List.map_map]
    exact congrArg String.ofList (List.map_id cs)

namespace Workspace

variable {root : Path} {host : Host} {content : Content} {text : String} {patterns : List String}
  {lines : List (List Char)}

theorem isQuestion_listFilePatterns (root : Path) : IsQuestion (listFilePatterns root) :=
  .bind (.isFile _) fun _ => .ite (.bind (.readLossy _) fun _ => .pure _) (.pure _)

theorem fst_listFilePatterns (hcontent : host.content (root / listFile) = .ok content) :
    (listFilePatterns root host).1 = .ok (listed content.lossy) := by
  have hquestion : IsQuestion (do return listed (← Run.readLossy (root / listFile))) :=
    (IsQuestion.readLossy _).bind fun _ => .pure _
  unfold listFilePatterns
  rw [(IsQuestion.isFile _).fst_bind fun _ => .ite hquestion (.pure _), Run.fst_isFile, hcontent]
  refine (hquestion.reads rfl).trans ?_
  unfold Run.readLossy Run.content Run.access
  simp only [Run.bind_apply, Run.get_apply, hcontent]
  rfl

/-- The patterns of a workspace file are read as they were written, and go before those of any
manifest. -/
theorem patterns_of_isListing (hcontent : host.content (root / listFile) = .ok content)
    (htext : content.text? = some text) (hdivided : Text.IsDivided text.toList lines)
    (hlisting : IsListing (patterns.map (·.toList)) lines) (hsome : patterns ≠ []) :
    (listFilePatterns root host).1 = .ok patterns ∧
      ∀ manifest, (Workspace.patterns root manifest host).1 = .ok patterns := by
  have hlisted : listed content.lossy = patterns := by
    rw [Content.lossy_of_text? htext, listed, Text.isDivided_iff.1 hdivided,
      listedIn_of_isListing hlisting, List.map_map]
    exact (List.map_congr_left fun pattern _ => String.ofList_toList).trans (List.map_id patterns)
  have hfile : (listFilePatterns root host).1 = .ok patterns := by
    rw [fst_listFilePatterns hcontent, hlisted]
  refine ⟨hfile, fun manifest => ?_⟩
  unfold Workspace.patterns
  rw [(isQuestion_listFilePatterns root).fst_bind fun _ => .pure _, hfile]
  exact congrArg Except.ok (if_neg (by simpa using hsome))

/-- A workspace file whose list stands between two other sections, with both kinds of line ends. -/
def sections : String :=
  "catalog:\r\n  - left\r\n\tpackages:\n  - 'apps/*'\n\n # tools\n- tools\r\n  -\t\"libs/**\" \n" ++
    "hoisted:\n  - right"

def itemLines : List String :=
  ["  - 'apps/*'", "", " # tools", "- tools", "  -\t\"libs/**\" "]

theorem areItems_itemLines :
    AreItems (["apps/*", "tools", "libs/**"].map (·.toList)) (itemLines.map (·.toList)) := by
  have hblank {cs : List Char} (hall : cs.all Text.isBlank = true) : ∀ c ∈ cs, Text.isBlank c = true :=
    List.all_eq_true.1 hall
  refine .item ⟨by decide, by decide, by decide⟩ ?_ (.skipped (by decide) (.skipped (by decide)
    (.item ⟨by decide, by decide, by decide⟩ ?_ (.item ⟨by decide, by decide, by decide⟩ ?_ .nil))))
  · exact .intro [' ', ' '] [' '] [] .single (hblank (by decide)) (hblank (by decide))
      (hblank (by decide)) (by decide)
  · exact .intro [] [' '] [] .bare (hblank (by decide)) (hblank (by decide)) (hblank (by decide))
      (by decide)
  · exact .intro [' ', ' '] ['\t'] [' '] .double (hblank (by decide)) (hblank (by decide))
      (hblank (by decide)) (by decide)

theorem isListing_sections :
    IsListing (["apps/*", "tools", "libs/**"].map (·.toList))
      (Text.linesFrom [] sections.toList) := by
  have hlines : Text.linesFrom [] sections.toList =
      ["catalog:", "  - left"].map (·.toList) ++ "\tpackages:".toList ::
        (itemLines.map (·.toList) ++ ["hoisted:", "  - right"].map (·.toList)) := by
    decide +kernel
  rw [hlines]
  exact .intro (by decide) (by decide) areItems_itemLines
    (.cons (by decide) (by decide) (by decide) (by decide))

end Workspace

def Host.withSections : Host :=
  { Host.ofProject "" (fun _ => .unavailable) (fun _ _ _ => .hangs) with
    tree := .directory [(Workspace.listFile, .file (.text Workspace.sections))] }

theorem Workspace.patterns_withSections :
    (listFilePatterns .root Host.withSections).1 = .ok ["apps/*", "tools", "libs/**"] ∧
      ∀ manifest, (Workspace.patterns .root manifest Host.withSections).1 =
        .ok ["apps/*", "tools", "libs/**"] := by
  have hcontent : Host.withSections.content (Path.root / listFile) = .ok (.text sections) := rfl
  exact patterns_of_isListing hcontent rfl (Text.isDivided_iff.2 rfl) isListing_sections (by decide)

end Checkup
