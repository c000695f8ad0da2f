import Checkup.Proofs.EntryPoints
import Checkup.Proofs.SearchOrder

/-!
# Spellings of a place

Two paths can spell the same place: a walk through the tree leads to the same names with either. What
is asked about such a path, or about a path below it, is answered alike (`Run.Matches`), save that a
longer spelling may be refused for its length alone. The ancestors of a path are another matter: they
are read off its names, so two spellings of one place need not have the same ones.
-/

namespace Checkup

open Run (IsQuestion)
open List (Forall₂)

/-! ### Walks -/

namespace Node

variable {root : Node} {reached names target : List String}

theorem walk_append (root : Node) (reached names more : List String) :
    root.walk reached (names ++ more) = (root.walk reached names).bind (root.walk · more) := by
  induction names generalizing reached with
  | nil => rfl
  | cons name rest ih =>
    rw [List.cons_append, walk_cons, walk_cons]
    split
    · rfl
    · rfl
    · split
      · exact ih _
      · split
        · rfl
        · exact ih _

theorem eq_climb_of_walk (hwalk : root.walk reached names = .ok target) :
    target = names.foldl Path.climb reached := by
  induction names generalizing reached with
  | nil => exact (Except.ok.inj hwalk).symm
  | cons name rest ih =>
    rw [List.foldl_cons]
    rw [walk_cons] at hwalk
    split at hwalk
    · cases hwalk
    · cases hwalk
    · split at hwalk
      · rename_i hdots
        rw [ih hwalk, Path.climb, if_pos hdots]
      · rename_i hdots
        split at hwalk
        · cases hwalk
        · rw [ih hwalk, Path.climb, if_neg hdots]

/-- The names lead to themselves: there is no double dot among them, and all but the last are
directories. -/
def LeadsHome (root : Node) (names : List String) : Prop :=
  ".." ∉ names ∧ root.walk [] names = .ok names

theorem LeadsHome.dropLast (hhome : root.LeadsHome names) : root.LeadsHome names.dropLast := by
  obtain ⟨hdots, hwalk⟩ := hhome
  induction names using List.reverseRecOn with
  | nil => exact ⟨hdots, hwalk⟩
  | append_singleton init last _ =>
    rw [List.dropLast_concat]
    have hinit : ".." ∉ init := fun hmem => hdots (List.mem_append_left _ hmem)
    rw [walk_append] at hwalk
    obtain ⟨between, hbetween, -⟩ := except_bind_eq_ok.1 hwalk
    have hclimb := eq_climb_of_walk hbetween
    rw [Path.foldl_climb hinit, List.nil_append] at hclimb
    rw [hclimb] at hbetween
    exact ⟨hinit, hbetween⟩

/-- Wherever a walk arrives from home, the names that it arrives at lead there as well. -/
theorem LeadsHome.of_walk (hhome : root.LeadsHome reached)
    (hwalk : root.walk reached names = .ok target) : root.LeadsHome target := by
  induction names generalizing reached with
  | nil =>
    obtain rfl := Except.ok.inj hwalk
    exact hhome
  | cons name rest ih =>
    rw [walk_cons] at hwalk
    split at hwalk
    · cases hwalk
    · cases hwalk
    · rename_i hdirectory
      split at hwalk
      · exact ih hhome.dropLast hwalk
      · rename_i hdots
        split at hwalk
        · cases hwalk
        · rename_i hshort
          apply ih _ hwalk
          refine ⟨by simpa using ⟨hhome.1, Ne.symm (by simpa using hdots)⟩, ?_⟩
          rw [walk_append, hhome.2]
          change root.walk reached [name] = _
          rw [walk_cons, hdirectory]
          dsimp only
          rw [if_neg hdots, if_neg hshort]
          rfl

theorem leadsHome_of_walk (hwalk : root.walk [] names = .ok target) : root.LeadsHome target :=
  LeadsHome.of_walk ⟨by simp, rfl⟩ hwalk

end Node

/-! ### The same place -/

namespace Path

variable {p q : Path}

theorem names_join_join (directory p : Path) (hrelative : q.isAbsolute = false) :
    (directory.join (p.join q)).names = (directory.join p).names ++ q.names := by
  rw [join_of_relative hrelative]
  cases hanchor : p.isAbsolute with
  | true =>
    have hbelow : isAbsolute ⟨p.anchor, p.names ++ q.names⟩ = true := hanchor
    rw [join_of_isAbsolute hanchor, join_of_isAbsolute hbelow]
  | false =>
    have hbelow : isAbsolute ⟨p.anchor, p.names ++ q.names⟩ = false := hanchor
    rw [join_of_relative hanchor, join_of_relative hbelow, List.append_assoc]

theorem hasNul_join (hrelative : q.isAbsolute = false) :
    (p.join q).hasNul = (p.hasNul || q.hasNul) := by
  rw [join_of_relative hrelative, hasNul, hasNul, hasNul, List.any_append]

def IsTooLong (p : Path) : Prop :=
  Host.pathLimit < Text.Utf8.size p.text

end Path

namespace Host

structure SamePlace (host : Host) (p q : Path) : Prop where
  walk : host.tree.walk [] (host.workingDirectory.join p).names =
    host.tree.walk [] (host.workingDirectory.join q).names
  hasNul : p.hasNul = q.hasNul

variable {host : Host} {p q : Path}

theorem SamePlace.refl (host : Host) (p : Path) : host.SamePlace p p := ⟨rfl, rfl⟩

theorem SamePlace.join (hsame : host.SamePlace p q) (below : Path) :
    host.SamePlace (p.join below) (q.join below) := by
  cases hanchor : below.isAbsolute with
  | true =>
    rw [Path.join_of_isAbsolute hanchor, Path.join_of_isAbsolute hanchor]
    exact .refl host below
  | false =>
    constructor
    · rw [Path.names_join_join _ _ hanchor, Path.names_join_join _ _ hanchor, Node.walk_append,
        Node.walk_append, hsame.walk]
    · rw [Path.hasNul_join hanchor, Path.hasNul_join hanchor, hsame.hasNul]

/-- Looking at a place finds the same under every spelling that is not too long. -/
theorem SamePlace.node (hsame : host.SamePlace p q) :
    host.node p = host.node q ∨ (p.IsTooLong ∧ host.node p = .error .nameTooLong) ∨
      (q.IsTooLong ∧ host.node q = .error .nameTooLong) := by
  by_cases hnul : p.hasNul = true
  · have hnul' : q.hasNul = true := hsame.hasNul ▸ hnul
    left
    rw [node_eq_error (if_pos hnul), node_eq_error (if_pos hnul')]
  · have hnul' : ¬ q.hasNul = true := hsame.hasNul ▸ hnul
    by_cases hlong : p.IsTooLong
    · right; left
      exact ⟨hlong, node_eq_error ((if_neg hnul).trans (if_pos hlong))⟩
    · by_cases hlong' : q.IsTooLong
      · right; right
        exact ⟨hlong', node_eq_error ((if_neg hnul').trans (if_pos hlong'))⟩
      · left
        have hlocate : host.locate p = host.locate q := by
          unfold Path.IsTooLong at hlong hlong'
          unfold locate
          rw [if_neg hnul, if_neg hnul', if_neg hlong, if_neg hlong', hsame.walk]
        unfold Host.node
        rw [hlocate]

end Host

/-! ### Results that agree -/

/-- The kind of a refusal is read off the beginning of its wording. -/
theorem refusalKind_append (start rest : String) (hlength : 10 ≤ start.toList.length) :
    refusalKind (start ++ rest) = refusalKind start := by
  have hstart (found : List Char) (hfound : found.length ≤ 10) :
      found.isPrefixOf (start ++ rest).toList = found.isPrefixOf start.toList := by
    rw [String.toList_append, Bool.eq_iff_iff, List.isPrefixOf_iff_prefix,
      List.isPrefixOf_iff_prefix]
    constructor
    · intro hlong
      exact List.prefix_of_prefix_length_le hlong (List.prefix_append _ _)
        (Nat.le_trans hfound hlength)
    · intro hshort
      exact hshort.trans (List.prefix_append _ _)
  unfold refusalKind refusalKinds
  simp only [List.find?]
  rw [hstart _ (by decide), hstart _ (by decide), hstart _ (by decide), hstart _ (by decide)]

theorem AccessFault.kind_toFault (fault : AccessFault) (p q : Path) :
    (fault.toFault p).kind = (fault.toFault q).kind := by
  have hkind (start : String) (hlength : 10 ≤ start.toList.length) (s t : String) :
      refusalKind (start ++ s ++ "'") = refusalKind (start ++ t ++ "'") := by
    rw [String.append_assoc, String.append_assoc, refusalKind_append _ _ hlength,
      refusalKind_append _ _ hlength]
  cases fault with
  | nulCharacter => rfl
  | _ => exact hkind _ (by decide) _ _

/-- Two results are as they should be for two spellings of one thing: related, or faults of one kind,
unless one of them is a refusal of a path for its length. -/
inductive Agree {α β : Type} (R : α → β → Prop) : Except Fault α → Except Fault β → Prop
  | ok {a : α} {b : β} (hrelated : R a b) : Agree R (.ok a) (.ok b)
  | error {fault fault' : Fault} (hkind : fault.kind = fault'.kind) :
      Agree R (.error fault) (.error fault')
  | tooLong {p : Path} (hlong : p.IsTooLong) (result : Except Fault β) :
      Agree R (.error (AccessFault.nameTooLong.toFault p)) result
  | tooLong' {p : Path} (hlong : p.IsTooLong) (result : Except Fault α) :
      Agree R result (.error (AccessFault.nameTooLong.toFault p))

namespace Agree

variable {α β α' β' : Type} {R R' : α → β → Prop} {S : α' → β' → Prop}
  {result : Except Fault α} {result' : Except Fault β}

theorem refl {R : α → α → Prop} (hrefl : ∀ a, R a a) (result : Except Fault α) :
    Agree R result result := by
  cases result with
  | ok a => exact .ok (hrefl a)
  | error fault => exact .error rfl

theorem mono (hagree : Agree R result result') (himp : ∀ a b, R a b → R' a b) :
    Agree R' result result' := by
  cases hagree with
  | ok hrelated => exact .ok (himp _ _ hrelated)
  | error hkind => exact .error hkind
  | tooLong hlong => exact .tooLong hlong _
  | tooLong' hlong => exact .tooLong' hlong _

theorem bind {next : α → Except Fault α'} {next' : β → Except Fault β'}
    (hagree : Agree R result result') (hnext : ∀ a b, R a b → Agree S (next a) (next' b)) :
    Agree S (result >>= next) (result' >>= next') := by
  cases hagree with
  | ok hrelated => exact hnext _ _ hrelated
  | error hkind => exact .error hkind
  | tooLong hlong => exact .tooLong hlong _
  | tooLong' hlong => exact .tooLong' hlong _

theorem related (hagree : Agree R result result') {a : α} {b : β} (hresult : result = .ok a)
    (hresult' : result' = .ok b) : R a b := by
  cases hagree with
  | ok hrelated =>
    cases hresult
    cases hresult'
    exact hrelated
  | error hkind => cases hresult
  | tooLong hlong => cases hresult
  | tooLong' hlong => cases hresult'

theorem answered (hagree : Agree R result result') :
    Agree (fun a b => R a b ∧ result = .ok a ∧ result' = .ok b) result result' := by
  cases hagree with
  | ok hrelated => exact .ok ⟨hrelated, rfl, rfl⟩
  | error hkind => exact .error hkind
  | tooLong hlong => exact .tooLong hlong _
  | tooLong' hlong => exact .tooLong' hlong _

end Agree

namespace Run

/-- What a step gives, with the host that it leaves. -/
def ending {α : Type} (step : Run α) (host : Host) : Except Fault (α × Host) := do
  let a ← (step host).1
  return (a, (step host).2)

theorem ending_bind {α β : Type} (step : Run α) (next : α → Run β) (host : Host) :
    ending (step >>= next) host = (do
      let (a, after) ← ending step host
      ending (next a) after) := by
  unfold ending
  rw [bind_apply]
  rcases step host with ⟨_ | _, _⟩ <;> rfl

/-- Two steps that only ask, with answers that agree wherever the surface is that of the host. -/
def Matches {α β : Type} (host : Host) (R : α → β → Prop) (step : Run α) (step' : Run β) : Prop :=
  ∀ h h' : Host, h.surface = host.surface → h'.surface = host.surface →
    Agree (fun found found' => R found.1 found'.1 ∧
      found.2.surface = host.surface ∧ found'.2.surface = host.surface)
      (ending step h) (ending step' h')

namespace Matches

variable {α β α' β' : Type} {host : Host} {R R' : α → β → Prop} {S : α' → β' → Prop}
  {step : Run α} {step' : Run β}

theorem of_isQuestion (hstep : IsQuestion step) (hstep' : IsQuestion step')
    (hagree : Agree R (step host).1 (step' host).1) : Matches host R step step' := by
  intro h h' hsurface hsurface'
  unfold ending
  rw [hstep.reads hsurface, hstep'.reads hsurface']
  apply hagree.bind
  intro a b hrelated
  exact .ok ⟨hrelated, (hstep.surface_eq h).trans hsurface, (hstep'.surface_eq h').trans hsurface'⟩

theorem refl {R : α → α → Prop} (hrefl : ∀ a, R a a) {step : Run α} (hstep : IsQuestion step) :
    Matches host R step step :=
  of_isQuestion hstep hstep (.refl hrefl _)

theorem agree (hmatches : Matches host R step step') : Agree R (step host).1 (step' host).1 := by
  have hfound : Agree R (do return (← ending step host).1) (do return (← ending step' host).1) :=
    (hmatches host host rfl rfl).bind fun _ _ hrelated => .ok hrelated.1
  have hfst {γ : Type} (step : Run γ) : (do return (← ending step host).1) = (step host).1 := by
    unfold ending
    rcases (step host).1 with _ | _ <;> rfl
  rw [hfst, hfst] at hfound
  exact hfound

theorem mono (hmatches : Matches host R step step') (himp : ∀ a b, R a b → R' a b) :
    Matches host R' step step' := by
  intro h h' hsurface hsurface'
  apply (hmatches h h' hsurface hsurface').mono
  intro found found' hrelated
  exact ⟨himp _ _ hrelated.1, hrelated.2⟩

theorem answered (hstep : IsQuestion step) (hstep' : IsQuestion step')
    (hmatches : Matches host R step step') :
    Matches host (fun a b => R a b ∧ (step host).1 = .ok a ∧ (step' host).1 = .ok b) step step' :=
  of_isQuestion hstep hstep' hmatches.agree.answered

theorem pure {a : α} {b : β} (hrelated : R a b) : Matches host R (Pure.pure a) (Pure.pure b) :=
  of_isQuestion (.pure a) (.pure b) (.ok hrelated)

theorem throw {fault fault' : Fault} (hkind : fault.kind = fault'.kind) :
    Matches host R (MonadExcept.throw fault : Run α) (MonadExcept.throw fault' : Run β) :=
  of_isQuestion (.throw fault) (.throw fault') (.error hkind)

theorem bind {next : α → Run α'} {next' : β → Run β'} (hstep : Matches host R step step')
    (hnext : ∀ a b, R a b → Matches host S (next a) (next' b)) :
    Matches host S (step >>= next) (step' >>= next') := by
  intro h h' hsurface hsurface'
  rw [ending_bind, ending_bind]
  apply (hstep h h' hsurface hsurface').bind
  intro found found' hrelated
  exact hnext _ _ hrelated.1 _ _ hrelated.2.1 hrelated.2.2

/-- Lists filtered by tests that agree on related items keep related items, as far as the tests
show. -/
theorem filterM {Q : α → β → Prop} {test : α → Run Bool} {test' : β → Run Bool}
    {items : List α} {items' : List β} (hitems : Forall₂ R items items')
    (htest : ∀ a b, R a b →
      Matches host (fun keep keep' => keep = keep' ∧ (keep = true → Q a b)) (test a) (test' b)) :
    Matches host (Forall₂ Q) (items.filterM test) (items'.filterM test') := by
  have haux (kept : List α) (kept' : List β) (hkept : Forall₂ Q kept kept') :
      Matches host (Forall₂ Q) (items.filterAuxM test kept) (items'.filterAuxM test' kept') := by
    induction hitems generalizing kept kept' with
    | nil => exact .pure hkept
    | @cons a b _ _ hrelated _ ih =>
      apply (htest a b hrelated).bind
      rintro keep _ ⟨rfl, hkeep⟩
      apply ih
      cases keep with
      | false => exact hkept
      | true => exact .cons (hkeep rfl) hkept
  apply (haux [] [] .nil).bind
  intro kept kept' hkept
  exact .pure (List.rel_reverse hkept)

end Matches

end Run

/-! ### Questions about a place -/

section Questions

variable {host : Host} {p q : Path}

theorem Host.content_eq_of_node_eq (hnode : host.node p = host.node q) :
    host.content p = host.content q := by
  unfold content
  rw [hnode]

namespace Run

theorem matches_access {α : Type} {look look' : Host → Except AccessFault α}
    (hlook : ∀ {h h' : Host}, h.surface = h'.surface → look h = look h')
    (hlook' : ∀ {h h' : Host}, h.surface = h'.surface → look' h = look' h')
    (hsame : look host = look' host) :
    Matches host (fun found found' => found = found' ∧ look host = .ok found)
      (access p look) (access q look') := by
  apply Matches.of_isQuestion (.access p hlook) (.access q hlook')
  rw [access_apply, access_apply, ← hsame]
  cases look host with
  | error fault => exact .error (fault.kind_toFault p q)
  | ok found => exact .ok ⟨rfl, rfl⟩

theorem matches_node? (hsame : host.SamePlace p q) :
    Matches host (fun found found' => found = found' ∧ host.node p = host.node q)
      (node? p) (node? q) := by
  apply Matches.of_isQuestion (.node? p) (.node? q)
  unfold node?
  rw [get_bind, get_bind]
  rcases hsame.node with heq | ⟨hlong, herror⟩ | ⟨hlong, herror⟩
  · rw [heq]
    rcases host.node q with fault | node
    · cases fault with
      | nameTooLong => exact .error (AccessFault.nameTooLong.kind_toFault p q)
      | _ => exact .ok ⟨rfl, rfl⟩
    · exact .ok ⟨rfl, rfl⟩
  · rw [herror]
    exact .tooLong hlong _
  · rw [herror]
    exact .tooLong' hlong _

theorem matches_isFile (hsame : host.SamePlace p q) :
    Matches host (fun found found' => found = found' ∧ host.node p = host.node q)
      (isFile p) (isFile q) := by
  apply (matches_node? hsame).bind
  rintro found _ ⟨rfl, hnode⟩
  exact .pure ⟨rfl, hnode⟩

theorem matches_isDirectory (hsame : host.SamePlace p q) :
    Matches host (fun found found' => found = found' ∧ host.node p = host.node q)
      (isDirectory p) (isDirectory q) := by
  apply (matches_node? hsame).bind
  rintro found _ ⟨rfl, hnode⟩
  exact .pure ⟨rfl, hnode⟩

theorem matches_readLossy (hnode : host.node p = host.node q) :
    Matches host (· = ·) (readLossy p) (readLossy q) := by
  apply (matches_access (fun hsurface => Host.content_eq_of_surface_eq hsurface p)
    (fun hsurface => Host.content_eq_of_surface_eq hsurface q) (Host.content_eq_of_node_eq hnode)).bind
  rintro content _ ⟨rfl, -⟩
  exact .pure rfl

theorem matches_listNames (hnode : host.node p = host.node q) :
    Matches host (· = ·) (listNames p) (listNames q) := by
  apply (matches_access (fun hsurface => Host.node_eq_of_surface_eq hsurface p)
    (fun hsurface => Host.node_eq_of_surface_eq hsurface q) hnode).bind
  rintro node _ ⟨rfl, -⟩
  cases node with
  | directory entries => exact .pure rfl
  | file content => exact .throw (AccessFault.notDirectory.kind_toFault p q)

end Run

open Run (Matches)

/-- Two spellings of the directory of a package: neither is too long for its manifest. -/
def Host.SamePackage (host : Host) (p q : Path) : Prop :=
  host.SamePlace p q ∧ host.node (Manifest.file p) = host.node (Manifest.file q)

namespace Manifest

theorem matches_isIn (hsame : host.SamePlace p q) :
    Matches host (fun found found' => found = found' ∧ host.SamePackage p q) (isIn p) (isIn q) :=
  (Run.matches_isFile (hsame.join _)).mono fun _ _ hfound => ⟨hfound.1, hsame, hfound.2⟩

theorem matches_readIn (hsame : host.SamePackage p q) :
    Matches host (fun found found' => found = found' ∧ (readIn p host).1 = .ok found)
      (readIn p) (readIn q) := by
  have hread : (readIn p host).1 = (readIn q host).1 := by
    unfold readIn
    rw [read_apply, read_apply, Host.content_eq_of_node_eq hsame.2]
    rfl
  apply Matches.of_isQuestion (isQuestion_readIn p) (isQuestion_readIn q)
  rw [← hread]
  cases (readIn p host).1 with
  | error fault => exact .error rfl
  | ok manifest => exact .ok ⟨rfl, rfl⟩

end Manifest

namespace Workspace

theorem matches_isRoot (hsame : host.SamePlace p q) :
    Matches host (· = ·) (isRoot p) (isRoot q) := by
  unfold isRoot
  apply (Run.matches_isFile (hsame.join _)).bind
  rintro hasList _ ⟨rfl, -⟩
  cases hasList with
  | true => exact .pure rfl
  | false =>
    apply (Run.matches_isFile (hsame.join _)).bind
    rintro hasMarker _ ⟨rfl, -⟩
    cases hasMarker with
    | true => exact .pure rfl
    | false =>
      apply (Manifest.matches_isIn hsame).bind
      rintro isIn _ ⟨rfl, hpackage⟩
      cases isIn with
      | false => exact .pure rfl
      | true =>
        apply (Manifest.matches_readIn hpackage).bind
        rintro manifest _ ⟨rfl, -⟩
        exact .pure rfl

theorem matches_patterns (hsame : host.SamePlace p q) (manifest : Manifest) :
    Matches host (· = ·) (patterns p manifest) (patterns q manifest) := by
  have hlisted : Matches host (· = ·) (listFilePatterns p) (listFilePatterns q) := by
    unfold listFilePatterns
    apply (Run.matches_isFile (hsame.join _)).bind
    rintro hasList _ ⟨rfl, hnode⟩
    cases hasList with
    | false => exact .pure rfl
    | true =>
      apply (Run.matches_readLossy hnode).bind
      rintro text _ rfl
      exact .pure rfl
  apply hlisted.bind
  rintro fromFile _ rfl
  exact .pure rfl

theorem matches_isPackage (hsame : host.SamePlace p q) :
    Matches host (fun keep keep' => keep = keep' ∧ (keep = true → host.SamePackage p q))
      (isPackage p) (isPackage q) := by
  apply (Run.matches_isDirectory hsame).bind
  rintro isThere _ ⟨rfl, -⟩
  cases isThere with
  | false => exact .pure ⟨rfl, nofun⟩
  | true => exact (Manifest.matches_isIn hsame).mono fun _ _ hfound => ⟨hfound.1, fun _ => hfound.2⟩

theorem matches_packagesAmong {directories directories' : List Path}
    (hsame : Forall₂ host.SamePlace directories directories') :
    Matches host (Forall₂ host.SamePackage) (packagesAmong directories)
      (packagesAmong directories') :=
  .filterM hsame fun _ _ => matches_isPackage

theorem matches_directories (hsame : host.SamePlace p q) (pattern : String) :
    Matches host (Forall₂ host.SamePackage) (directories p pattern) (directories q pattern) := by
  unfold directories
  cases Pattern.ofText pattern with
  | literal path => exact matches_packagesAmong (.cons (hsame.join _) .nil)
  | wildcard base suffix =>
    have hbase : host.SamePlace (p / base) (q / base) := hsame.join _
    unfold expand
    apply (Run.matches_isDirectory hbase).bind
    rintro isThere _ ⟨rfl, hnode⟩
    cases isThere with
    | false => exact .pure .nil
    | true =>
      apply (Run.matches_listNames hnode).bind
      rintro names _ rfl
      apply matches_packagesAmong
      rw [List.forall₂_map_left_iff, List.forall₂_map_right_iff, List.forall₂_same]
      intro name _
      have hentry := hbase.join ⟨.relative, [name]⟩
      dsimp only
      split
      · exact hentry
      · exact hentry.join _

end Workspace

namespace ReactFacts

theorem matches_ofPackages {directories directories' : List Path} (facts : ReactFacts)
    (hsame : Forall₂ host.SamePackage directories directories') :
    Matches host (· = ·) (ofPackages facts directories) (ofPackages facts directories') := by
  induction hsame generalizing facts with
  | nil => exact .pure rfl
  | @cons directory directory' _ _ hpackage _ ih =>
    unfold ofPackages
    apply (Manifest.matches_readIn hpackage).bind
    rintro manifest _ ⟨rfl, -⟩
    dsimp only
    split
    · exact .pure rfl
    · exact ih _

theorem matches_ofPatterns (hsame : host.SamePlace p q) (facts : ReactFacts)
    (patterns : List String) :
    Matches host (· = ·) (ofPatterns p facts patterns) (ofPatterns q facts patterns) := by
  induction patterns generalizing facts with
  | nil => exact .pure rfl
  | cons pattern rest ih =>
    unfold ofPatterns
    apply (Workspace.matches_directories hsame pattern).bind
    intro directories directories' hdirectories
    apply (matches_ofPackages facts hdirectories).bind
    rintro found _ rfl
    split
    · exact .pure rfl
    · exact ih found

/-- The own facts of a manifest are the same under every spelling of its directory. -/
theorem matches_ofOwn (hsame : host.SamePlace p q) (manifest : Manifest) :
    Matches host (· = ·) (ofOwn p manifest) (ofOwn q manifest) := by
  have hworkspaces : Matches host (· = ·) (ofWorkspaces p manifest) (ofWorkspaces q manifest) := by
    apply (Workspace.matches_patterns hsame manifest).bind
    rintro patterns _ rfl
    exact matches_ofPatterns hsame empty patterns
  unfold ofOwn
  dsimp only
  split
  · exact .pure rfl
  · apply hworkspaces.bind
    rintro others _ rfl
    exact .pure rfl

end ReactFacts

/-! ### The root around a place -/

/-- Nothing about React depends on the spelling of a place any more: its own manifest and workspaces
settle it, it is a workspace root itself, or the nearest roots above both spellings are one place. -/
inductive Host.SettledAlike (host : Host) (p q : Path) : Prop
  | own {manifest : Manifest} {facts : ReactFacts}
      (hmanifest : (Manifest.readIn p host).1 = .ok manifest)
      (hfacts : (ReactFacts.ofOwn p manifest host).1 = .ok facts)
      (hcomplete : facts.isComplete = true) : SettledAlike host p q
  | root (hroot : (Workspace.isRoot p host).1 = .ok true) : SettledAlike host p q
  | rootless
      (hnone : ∀ other : Path, other.IsAbove p → (Workspace.isRoot other host).1 = .ok false)
      (hnone' : ∀ other : Path, other.IsAbove q → (Workspace.isRoot other host).1 = .ok false) :
      SettledAlike host p q
  | nearest {root root' : Path} (hroot : IsNearestRoot host p root)
      (hroot' : IsNearestRoot host q root') (hsame : host.SamePlace root root') :
      SettledAlike host p q

namespace ReactFacts

theorem matches_ofEnclosingRoot_of_rootless
    (hnone : ∀ other : Path, other.IsAbove p → (Workspace.isRoot other host).1 = .ok false)
    (hnone' : ∀ other : Path, other.IsAbove q → (Workspace.isRoot other host).1 = .ok false) :
    Matches host (· = ·) (ofEnclosingRoot p) (ofEnclosingRoot q) := by
  have hroots : Matches host (fun root root' => root = none ∧ root' = none)
      (Workspace.enclosingRoot? p) (Workspace.enclosingRoot? q) := by
    apply Matches.of_isQuestion (Workspace.isQuestion_firstRoot? _)
      (Workspace.isQuestion_firstRoot? _)
    change Agree _ (Workspace.enclosingRoot? p host).1 (Workspace.enclosingRoot? q host).1
    rw [Workspace.enclosingRoot?_of_rootless hnone, Workspace.enclosingRoot?_of_rootless hnone']
    exact .ok ⟨rfl, rfl⟩
  apply hroots.bind
  rintro _ _ ⟨rfl, rfl⟩
  exact .pure rfl

theorem matches_ofEnclosingRoot_of_nearest {root root' : Path} (hroot : IsNearestRoot host p root)
    (hroot' : IsNearestRoot host q root') (hsame : host.SamePlace root root') :
    Matches host (· = ·) (ofEnclosingRoot p) (ofEnclosingRoot q) := by
  have hroots : Matches host (fun found found' => found = some root ∧ found' = some root')
      (Workspace.enclosingRoot? p) (Workspace.enclosingRoot? q) := by
    apply Matches.of_isQuestion (Workspace.isQuestion_firstRoot? _)
      (Workspace.isQuestion_firstRoot? _)
    change Agree _ (Workspace.enclosingRoot? p host).1 (Workspace.enclosingRoot? q host).1
    rw [Workspace.enclosingRoot?_of_isNearestRoot hroot,
      Workspace.enclosingRoot?_of_isNearestRoot hroot']
    exact .ok ⟨rfl, rfl⟩
  apply hroots.bind
  rintro _ _ ⟨rfl, rfl⟩
  apply (Manifest.matches_isIn hsame).bind
  rintro isIn _ ⟨rfl, hpackage⟩
  cases isIn with
  | false => exact .pure rfl
  | true =>
    apply (Manifest.matches_readIn hpackage).bind
    rintro manifest _ ⟨rfl, -⟩
    exact matches_ofOwn hsame manifest

theorem matches_resolve (hsame : host.SamePlace p q) (hsettled : host.SettledAlike p q)
    {manifest : Manifest} (hmanifest : (Manifest.readIn p host).1 = .ok manifest) :
    Matches host (· = ·) (resolve p manifest) (resolve q manifest) := by
  unfold resolve
  apply ((matches_ofOwn hsame manifest).answered (isQuestion_ofOwn _ _) (isQuestion_ofOwn _ _)).bind
  rintro facts _ ⟨rfl, hfacts, -⟩
  by_cases hcomplete : facts.isComplete = true
  · rw [if_pos hcomplete, if_pos hcomplete]
    exact .pure rfl
  · rw [if_neg hcomplete, if_neg hcomplete]
    apply ((Workspace.matches_isRoot hsame).answered (Workspace.isQuestion_isRoot _)
      (Workspace.isQuestion_isRoot _)).bind
    rintro isRoot _ ⟨rfl, hisRoot, -⟩
    cases isRoot with
    | true => exact .pure rfl
    | false =>
      have haround : Matches host (· = ·) (ofEnclosingRoot p) (ofEnclosingRoot q) := by
        cases hsettled with
        | own hread hown hsettled =>
          obtain rfl := Except.ok.inj (hmanifest.symm.trans hread)
          obtain rfl := Except.ok.inj (hfacts.symm.trans hown)
          exact absurd hsettled hcomplete
        | root hroot => cases hisRoot.symm.trans hroot
        | rootless hnone hnone' => exact matches_ofEnclosingRoot_of_rootless hnone hnone'
        | nearest hroot hroot' hsame => exact matches_ofEnclosingRoot_of_nearest hroot hroot' hsame
      apply haround.bind
      rintro around _ rfl
      exact .pure rfl

end ReactFacts

end Questions

end Checkup
