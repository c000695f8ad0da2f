import Checkup.Proofs.Run
import Checkup.Git

/-!
# The names of changed files

Git answers in lines, so the name of a changed file has no line feed in it, and whether it names a
source file or a component file is a matter of how it ends.
-/

namespace Checkup

namespace Text

theorem isLineBreak_eq_false_of_mem_linesFrom {pending cs line : List Char}
    (hpending : ∀ c ∈ pending, isLineBreak c = false) (hline : line ∈ linesFrom pending cs) :
    ∀ c ∈ line, isLineBreak c = false := by
  have hreverse {pending : List Char} (hpending : ∀ c ∈ pending, isLineBreak c = false) :
      ∀ c ∈ pending.reverse, isLineBreak c = false :=
    fun c hc => hpending c (List.mem_reverse.1 hc)
  fun_induction linesFrom pending cs with
  | case1 pending hempty => cases hline
  | case2 pending hempty =>
    rw [List.mem_singleton.1 hline]
    exact hreverse hpending
  | case3 pending cs ih =>
    rcases List.mem_cons.1 hline with rfl | hline
    · exact hreverse hpending
    · exact ih (List.forall_mem_nil _) hline
  | case4 pending c cs hpair hbreak ih =>
    rcases List.mem_cons.1 hline with rfl | hline
    · exact hreverse hpending
    · exact ih (List.forall_mem_nil _) hline
  | case5 pending c cs hpair hbreak ih =>
    have hc : isLineBreak c = false := by simpa using hbreak
    exact ih (List.forall_mem_cons.2 ⟨hc, hpending⟩) hline

theorem lineFeed_notMem_of_mem_lines {s line : String} (hline : line ∈ lines s) :
    '\n' ∉ line.toList := by
  obtain ⟨cs, hcs, rfl⟩ := List.mem_map.1 hline
  rw [String.toList_ofList]
  intro hfeed
  have hno := isLineBreak_eq_false_of_mem_linesFrom (List.forall_mem_nil _) hcs '\n' hfeed
  exact absurd hno (by decide)

end Text

/-! ### Extensions -/

namespace SourceFile

/-- Whether the path ends with one of the extensions, and with nothing after it. -/
def hasExtension (extensions : List String) (path : String) : Bool :=
  extensions.any fun e => e.toList.isSuffixOf path.toList

theorem endsWithAny_eq_hasExtension (extensions : List String) {path : String}
    (hline : '\n' ∉ path.toList) : endsWithAny extensions path = hasExtension extensions path := by
  unfold endsWithAny
  split
  · rename_i reversed hreversed
    have hfeed : '\n' ∈ path.toList.reverse := by simp [hreversed]
    exact absurd (List.mem_reverse.1 hfeed) hline
  · rfl

end SourceFile

/-! ### Answers of git -/

namespace Git

open Run (Yields)

def AreLines (files : List String) : Prop :=
  ∀ f ∈ files, '\n' ∉ f.toList

theorem AreLines.append {files more : List String} (hfiles : AreLines files)
    (hmore : AreLines more) : AreLines (files ++ more) :=
  List.forall_mem_append.2 ⟨hfiles, hmore⟩

theorem mem_of_mem_distinct {f : String} {files : List String} (hmem : f ∈ distinct files) :
    f ∈ files := by
  induction files with
  | nil => exact hmem
  | cons first rest ih =>
    rcases List.mem_cons.1 hmem with rfl | hmem
    · exact List.mem_cons_self
    · exact List.mem_cons_of_mem _ (ih (List.mem_filter.1 hmem).1)

theorem yields_lines? (directory : Path) (arguments : List String) :
    Yields (fun found => ∀ files ∈ found, AreLines files) (lines? directory arguments) := by
  refine .bind_right fun output => .pure fun files hfiles => ?_
  obtain ⟨text, -, rfl⟩ := Option.map_eq_some_iff.1 hfiles
  intro f hf
  exact Text.lineFeed_notMem_of_mem_lines (List.mem_filter.1 hf).1

theorem areLines_getD {found : Option (List String)} (hfound : ∀ files ∈ found, AreLines files) :
    AreLines (found.getD []) := by
  cases found with
  | none => exact List.forall_mem_nil _
  | some files => exact hfound files rfl

theorem yields_trackedChanges (directory : Path) : Yields AreLines (trackedChanges directory) := by
  refine .bind (yields_lines? directory _) fun found hfound => ?_
  cases found with
  | some files => exact .pure (hfound files rfl)
  | none => exact .bind (yields_lines? directory _) fun staged hstaged => .pure (areLines_getD hstaged)

theorem yields_uncommitted (directory : Path) : Yields AreLines (uncommitted directory) := by
  refine .bind (yields_trackedChanges directory) fun tracked htracked => ?_
  refine .bind (yields_lines? directory _) fun untracked huntracked => .pure fun f hf => ?_
  exact htracked.append (areLines_getD huntracked) f (mem_of_mem_distinct hf)

theorem yields_changesSince? (directory : Path) (current : Option String) (base : String) :
    Yields (fun changes => ∀ c ∈ changes, AreLines c.files)
      (changesSince? directory current base) := by
  have hsince : Yields (fun found => ∀ files ∈ found, AreLines files)
      (changedSince? directory base) := by
    refine .bind_right fun output => ?_
    cases output with
    | some output => exact yields_lines? directory _
    | none => exact .pure nofun
  unfold changesSince?
  split
  · exact .pure nofun
  · refine .bind hsince fun found hfound => .pure fun c hc => ?_
    obtain ⟨files, hfiles, rfl⟩ := Option.map_eq_some_iff.1 hc
    exact hfound files hfiles

theorem yields_changes? (directory : Path) (requested : Option String) :
    Yields (fun changes => ∀ c ∈ changes, AreLines c.files) (changes? directory requested) := by
  refine .bind_right fun isThere => ?_
  split
  · exact .pure nofun
  refine .bind_right fun current => .bind (yields_uncommitted directory) fun files hfiles => ?_
  split
  · exact .pure fun c hc => Option.some.inj hc ▸ hfiles
  refine .bind_right fun base => ?_
  cases base with
  | none => exact .pure nofun
  | some base => exact yields_changesSince? directory current base

theorem sourceFiles_filter_isComponent (files : List String) :
    (sourceFiles files).filter SourceFile.isComponent = files.filter SourceFile.isComponent := by
  unfold sourceFiles
  rw [List.filter_filter]
  refine List.filter_congr fun f _ => ?_
  cases hcomponent : SourceFile.isComponent f with
  | false => rfl
  | true => simp [SourceFile.isSource_of_isComponent hcomponent]

theorem filter_isComponent_eq {files : List String} (hfiles : AreLines files) :
    files.filter SourceFile.isComponent =
      files.filter (SourceFile.hasExtension SourceFile.componentExtensions) :=
  List.filter_congr fun f hf => SourceFile.endsWithAny_eq_hasExtension _ (hfiles f hf)

end Git

end Checkup
