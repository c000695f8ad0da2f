import Checkup.Proofs.Requests

/-!
# A package under its own name

A name in a list of projects means a package by its own name, or by that of its directory, and the
first package that is meant is taken. So the name of a package takes that package, unless a package
that stands before it lies in another directory of that name: names and directories are looked at
together, package by package, and a name that fits has nothing over a directory that fits.
-/

namespace Checkup.Cli

variable {packages before after : List Package} {package : Package} {name : String}

/-! ### A list of one name -/

/-- The text is the one name of a list: it is not empty, has no comma and no blanks around it. -/
structure StandsAlone (name : String) : Prop where
  nonempty : name ≠ ""
  comma : ',' ∉ name.toList
  trimmed : Text.strip name = name

theorem StandsAlone.namesIn_eq (halone : StandsAlone name) : namesIn name = [name] := by
  have hcut : Text.cutText ',' name = [name] := by
    rw [Text.cutText, Text.cut_of_notMem halone.comma, List.map_singleton, String.ofList_toList]
  rw [namesIn, hcut, List.map_singleton, halone.trimmed]
  simp [halone.nonempty]

/-! ### The first package that is meant -/

/-- The first of the packages whose directory has the name. -/
def inDirectory? (packages : List Package) (name : String) : Option Package :=
  packages.find? (·.directory.name == name)

/-- The name takes another directory than that of the package: the first of the packages before it
whose directory is called so lies elsewhere. -/
def IsCaptured (before : List Package) (name : String) (package : Package) : Prop :=
  ∃ other, inDirectory? before name = some other ∧ other.directory ≠ package.directory

theorem inDirectory?_eq_some {other : Package} (hfound : inDirectory? packages name = some other) :
    other ∈ packages ∧ other.directory.name = name := by
  unfold inDirectory? at hfound
  have hcalled := List.find?_some hfound
  exact ⟨List.mem_of_find?_eq_some hfound, beq_iff_eq.1 hcalled⟩

theorem exists_inDirectory?_eq_some :
    (∃ other, inDirectory? packages name = some other) ↔
      ∃ other ∈ packages, other.directory.name = name := by
  rw [inDirectory?, ← Option.isSome_iff_exists, List.find?_isSome]
  simp only [beq_iff_eq]

/-- Where packages lie in directories of their own, any directory of the name before the package takes
the name. -/
theorem isCaptured_iff (hown : ∀ other ∈ before, other.directory ≠ package.directory) :
    IsCaptured before name package ↔ ∃ other ∈ before, other.directory.name = name := by
  rw [← exists_inDirectory?_eq_some]
  constructor
  · rintro ⟨other, hfound, -⟩
    exact ⟨other, hfound⟩
  · rintro ⟨other, hfound⟩
    exact ⟨other, hfound, hown other (inDirectory?_eq_some hfound).1⟩

/-- Of packages of which none before the named one has its name, that one is taken or one before it
by its directory. -/
theorem find?_isMeant (hname : package.name = .text name)
    (hown : ∀ other ∈ before, other.name ≠ .text name) (after : List Package) :
    (before ++ package :: after).find? (isMeant name) =
      some ((inDirectory? before name).getD package) := by
  induction before with
  | nil => exact List.find?_cons_of_pos (isMeant_iff.2 (.inl hname))
  | cons other rest ih =>
    obtain ⟨hother, hrest⟩ := List.forall_mem_cons.1 hown
    have hmeant : isMeant name other = true ↔ other.directory.name = name :=
      isMeant_iff.trans (or_iff_right hother)
    rw [List.cons_append, inDirectory?]
    by_cases hcalled : other.directory.name = name
    · rw [List.find?_cons_of_pos (hmeant.2 hcalled)]
      simp [hcalled]
    · rw [List.find?_cons_of_neg (mt hmeant.1 hcalled), ih hrest]
      simp [inDirectory?, hcalled]

theorem requested_eq_ok (hname : package.name = .text name) (halone : StandsAlone name)
    (hown : ∀ other ∈ before, other.name ≠ .text name) (after : List Package) :
    requested name (before ++ package :: after) =
      .ok [((inDirectory? before name).getD package).directory] := by
  rw [requested, halone.namesIn_eq, List.mapM_cons, List.mapM_nil, directoryOf,
    find?_isMeant hname hown]
  rfl

/-- The name of a package, that no package before it has, takes one directory: that of the package, or
the first before it that is called so. It takes the package exactly when it is not captured in this
way, that is, when no directory before it is called so, where packages lie in directories of their
own. -/
theorem requested_ownName_iff (hlist : packages = before ++ package :: after)
    (hname : package.name = .text name) (halone : StandsAlone name)
    (hown : ∀ other ∈ before, other.name ≠ .text name) :
    (∃ found ∈ before ++ [package], requested name packages = .ok [found.directory] ∧
      found.IsCalled name) ∧
    (requested name packages = .ok [package.directory] ↔ ¬ IsCaptured before name package) ∧
    ((packages.map (·.directory)).Nodup →
      (requested name packages = .ok [package.directory] ↔
        ∀ other ∈ before, other.directory.name ≠ name)) := by
  subst hlist
  have hrequested := requested_eq_ok hname halone hown after
  have hiff : requested name (before ++ package :: after) = .ok [package.directory] ↔
      ¬ IsCaptured before name package := by
    rw [hrequested, Except.ok.injEq, List.cons.injEq, and_iff_left rfl, IsCaptured]
    cases hfound : inDirectory? before name with
    | none => simp
    | some other => simp
  refine ⟨?_, hiff, fun hnodup => ?_⟩
  · cases hfound : inDirectory? before name with
    | none =>
      rw [hfound] at hrequested
      exact ⟨package, by simp, hrequested, .inl hname⟩
    | some other =>
      rw [hfound] at hrequested
      obtain ⟨hmem, hcalled⟩ := inDirectory?_eq_some hfound
      exact ⟨other, List.mem_append_left _ hmem, hrequested, .inr hcalled⟩
  · have hdirectories : ∀ other ∈ before, other.directory ≠ package.directory := by
      intro other hother
      rw [List.map_append, List.map_cons] at hnodup
      exact (List.nodup_append.1 hnodup).2.2 _ (List.mem_map_of_mem hother) _ List.mem_cons_self
    rw [hiff, isCaptured_iff hdirectories]
    simp only [not_exists, not_and]

/-- Three packages, of which the last two are named after other directories than their own. -/
def crossNamed : List Package :=
  [⟨.text "@acme/web", ⟨.root, ["apps", "web"]⟩⟩, ⟨.text "web", ⟨.root, ["packages", "site"]⟩⟩,
    ⟨.text "docs", ⟨.root, ["packages", "guide"]⟩⟩]

/-- The last package is taken by its name. -/
theorem requested_crossNamed_docs :
    crossNamed = crossNamed.take 2 ++ ⟨.text "docs", ⟨.root, ["packages", "guide"]⟩⟩ :: [] ∧
    StandsAlone "docs" ∧ (∀ other ∈ crossNamed.take 2, other.name ≠ .text "docs") ∧
    requested "docs" crossNamed = .ok [⟨.root, ["packages", "guide"]⟩] := by
  have halone : StandsAlone "docs" := ⟨by decide, by decide, by decide +kernel⟩
  have hown : ∀ other ∈ crossNamed.take 2, other.name ≠ .text "docs" := by
    simp [crossNamed]
  have hlist : crossNamed =
      crossNamed.take 2 ++ ⟨.text "docs", ⟨.root, ["packages", "guide"]⟩⟩ :: [] := by
    rfl
  obtain ⟨-, -, htaken⟩ := requested_ownName_iff hlist rfl halone hown
  exact ⟨hlist, halone, hown, (htaken (by decide)).2 (by decide)⟩

/-- The package named `web` is not taken by its name, although no other package is named so: the
directory of the first one is. -/
theorem requested_crossNamed_web :
    StandsAlone "web" ∧
    (∀ other ∈ crossNamed, other.name = .text "web" ↔ other.directory = ⟨.root, ["packages", "site"]⟩) ∧
    requested "web" crossNamed = .ok [⟨.root, ["apps", "web"]⟩] ∧
    requested "web" crossNamed ≠ .ok [⟨.root, ["packages", "site"]⟩] := by
  have hrequested : requested "web" crossNamed = .ok [⟨.root, ["apps", "web"]⟩] := by
    rfl
  refine ⟨⟨by decide, by decide, by decide +kernel⟩, ?_, hrequested, ?_⟩
  · simp [crossNamed]
  · rw [hrequested]
    simp

end Checkup.Cli
