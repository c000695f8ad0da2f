import Mathlib.Data.String.Basic
import Checkup.Proofs.Directories
import Checkup.Proofs.Installations
import Checkup.Proofs.Links
import Checkup.Proofs.Listings
import Checkup.Proofs.Messages
import Checkup.Proofs.Repeats

/-!
# What a workspace pattern expands to

A pattern with a wildcard expands to the packages among the entries of a directory, or below them,
in the order of the names of the entries, and a pattern without one to the package of that path.
Nothing is left out and nothing else is in it, save that a path which is longer than the system
allows ends the expansion (`directories_of_isPlainPath`).
-/

namespace Checkup

open Run (IsQuestion)

/-! ### Names in order -/

theorem Text.precedes_iff {cs ds : List Char} : precedes cs ds = true ↔ ¬ ds < cs := by
  induction cs generalizing ds with
  | nil => simp [precedes]
  | cons c cs ih =>
    cases ds with
    | nil => simp [precedes]
    | cons d ds =>
      rw [precedes, List.cons_lt_cons_iff, not_or, not_and, ← ih]
      by_cases heq : c = d
      · simp [heq]
      · have hne : c.toNat ≠ d.toNat := mt Char.toNat_inj.1 heq
        rw [if_neg (by simpa using hne), decide_eq_true_eq]
        exact ⟨fun hlt => ⟨Nat.not_lt.2 (Nat.le_of_lt hlt), fun hdc => absurd hdc.symm heq⟩,
          fun hle => Nat.lt_of_le_of_ne (Nat.not_lt.1 hle.1) hne⟩

theorem Text.precedes_toList_iff {s t : String} : precedes s.toList t.toList = true ↔ s ≤ t := by
  rw [precedes_iff, ← String.lt_iff_toList_lt, not_lt]

/-- The names of the entries of a directory are listed in strictly increasing order. -/
theorem Node.IsProper.pairwise_listing {entries : List (String × Node)}
    (hproper : (Node.directory entries).IsProper) :
    ((Node.directory entries).listing.map (·.1)).Pairwise (· < ·) := by
  have hle : ((Node.directory entries).listing.map (·.1)).Pairwise (· ≤ ·) := by
    refine List.pairwise_map.2 (List.Pairwise.imp (fun {a b} hprecedes => ?_)
      (List.pairwise_mergeSort (fun a b c => ?_) (fun a b => ?_) entries))
    · exact Text.precedes_toList_iff.1 hprecedes
    · simp only [Text.precedes_toList_iff]
      exact le_trans
    · simp only [Bool.or_eq_true, Text.precedes_toList_iff]
      exact le_total _ _
  exact hle.imp₂ (fun _ _ => lt_of_le_of_ne) hproper.nodup_listing

/-! ### Names that are short enough -/

/-- The names of the entries are as short as the system asks for, in every directory of the node. -/
inductive Node.HasShortNames : Node → Prop
  | file (content : Content) : HasShortNames (.file content)
  | directory {entries : List (String × Node)}
      (hnames : ∀ entry ∈ entries, Text.Utf8.size entry.1 ≤ nameLimit)
      (hentries : ∀ entry ∈ entries, HasShortNames entry.2) : HasShortNames (.directory entries)

theorem Node.HasShortNames.at? {node found : Node} {names : List String} (hshort : node.HasShortNames)
    (hfound : node.at? names = some found) : found.HasShortNames := by
  induction names generalizing node with
  | nil =>
    cases hfound
    exact hshort
  | cons name rest ih =>
    obtain ⟨child, hchild, hrest⟩ := Option.bind_eq_some_iff.1 hfound
    apply ih _ hrest
    cases hshort with
    | file content => cases hchild
    | directory _ hentries => exact hentries _ (Named.mem_of_get?_eq_some hchild)

theorem Node.walk_ne_nameTooLong (root : Node) (reached : List String) {names : List String}
    (hshort : ∀ name ∈ names, Text.Utf8.size name ≤ nameLimit) :
    root.walk reached names ≠ .error .nameTooLong := by
  induction names generalizing reached with
  | nil => exact nofun
  | cons name rest ih =>
    obtain ⟨hname, hrest⟩ := List.forall_mem_cons.1 hshort
    rw [walk_cons]
    split
    · exact nofun
    · exact nofun
    · split
      · exact ih _ hrest
      · rw [if_neg (Nat.not_lt.2 hname)]
        exact ih _ hrest

namespace Host

variable {host : Host} {p q : Path}

/-- The path leads through names that are as short as the system asks for. -/
def LeadsThroughShort (host : Host) (p : Path) : Prop :=
  ∀ name ∈ (host.workingDirectory.join p).names, Text.Utf8.size name ≤ Node.nameLimit

theorem LeadsThroughShort.join (hshort : host.LeadsThroughShort p) (hrelative : q.isAbsolute = false)
    (hnames : ∀ name ∈ q.names, Text.Utf8.size name ≤ Node.nameLimit) :
    host.LeadsThroughShort (p.join q) := by
  unfold LeadsThroughShort
  rw [Path.names_join_join _ _ hrelative]
  exact List.forall_mem_append.2 ⟨hshort, hnames⟩

/-- Where the names are short, only the length of the path itself is refused. -/
theorem isTooLong_of_node (hshort : host.LeadsThroughShort p)
    (hnode : host.node p = .error .nameTooLong) : p.IsTooLong := by
  by_contra hlong
  have hlocate : host.locate p = .error .nameTooLong := by
    cases htarget : host.locate p with
    | error fault =>
      cases (node_eq_error htarget).symm.trans hnode
      rfl
    | ok target =>
      unfold node at hnode
      rw [htarget] at hnode
      dsimp only [bind, Except.bind] at hnode
      split at hnode
      · cases hnode
      · split at hnode <;> cases hnode
  unfold locate at hlocate
  split at hlocate
  · cases hlocate
  · rw [if_neg (show ¬ pathLimit < Text.Utf8.size p.text from hlong)] at hlocate
    exact Node.walk_ne_nameTooLong _ _ hshort hlocate

theorem isTooLong_or {root : Path} (hnode : host.node p = .error .nameTooLong)
    (hshort : host.LeadsThroughShort root → host.LeadsThroughShort p) :
    p.IsTooLong ∨ ¬ host.LeadsThroughShort root := by
  by_cases hroot : host.LeadsThroughShort root
  · exact .inl (isTooLong_of_node (hshort hroot) hnode)
  · exact .inr hroot

/-! ### Packages -/

/-- There is a directory at the path with a manifest of its own. -/
def HasPackage (host : Host) (p : Path) : Prop :=
  host.HasDirectory p ∧ host.HasFile (Manifest.file p)

/-- There is a directory at the path with an entry of the name. -/
def HasEntry (host : Host) (directory : Path) (name : String) : Prop :=
  ∃ entries, host.node directory = .ok (.directory entries) ∧ name ∈ entries.map (·.1)

/-- The paths that are looked at to find out whether there is a package: the directory, and its
manifest if it is one. -/
inductive AsksAbout (host : Host) (p : Path) : Path → Prop
  | itself : AsksAbout host p p
  | manifest (hdirectory : host.HasDirectory p) : AsksAbout host p (Manifest.file p)

instance (host : Host) (p : Path) : Decidable (host.HasPackage p) :=
  inferInstanceAs (Decidable (_ ∧ _))

theorem AsksAbout.leadsThroughShort (hasks : host.AsksAbout p q) (hshort : host.LeadsThroughShort p) :
    host.LeadsThroughShort q := by
  cases hasks with
  | itself => exact hshort
  | manifest => exact hshort.join (by decide) (by decide)

end Host

namespace Workspace

variable {host : Host} {root : Path}

/-- Either one of the answers is a fault, which is that of the whole then, or what is kept of the
list is what the question is answered with yes for. -/
theorem fst_filterM_cases {α : Type} {test : α → Run Bool} (htest : ∀ a, IsQuestion (test a))
    {P : α → Prop} [DecidablePred P] {items : List α}
    (hanswer : ∀ a ∈ items, ∀ passes, (test a host).1 = .ok passes → passes = decide (P a)) :
    (∃ a ∈ items, ∃ fault, (test a host).1 = .error fault ∧
      (items.filterM test host).1 = .error fault) ∨
    (∀ a ∈ items, (test a host).1 = .ok (decide (P a))) ∧
      (items.filterM test host).1 = .ok (items.filter fun a => decide (P a)) := by
  have hquestion (items kept : List α) : IsQuestion (List.filterAuxM test items kept) := by
    induction items generalizing kept with
    | nil => exact .pure kept
    | cons item rest ih => exact .bind (htest item) fun _ => ih _
  -- what was kept before stands behind what is kept from here on, the last one first
  have haux (kept : List α) :
      (∃ a ∈ items, ∃ fault, (test a host).1 = .error fault ∧
        (List.filterAuxM test items kept host).1 = .error fault) ∨
      (∀ a ∈ items, (test a host).1 = .ok (decide (P a))) ∧
        (List.filterAuxM test items kept host).1 =
          .ok ((items.filter fun a => decide (P a)).reverse ++ kept) := by
    induction items generalizing kept with
    | nil => exact .inr ⟨nofun, rfl⟩
    | cons item rest ih =>
      obtain ⟨hitem, hrest⟩ := List.forall_mem_cons.1 hanswer
      rw [List.filterAuxM, (htest item).fst_bind fun _ => hquestion _ _]
      cases hfirst : (test item host).1 with
      | error fault => exact .inl ⟨item, List.mem_cons_self, fault, hfirst, rfl⟩
      | ok passes =>
        obtain rfl := hitem passes hfirst
        obtain ⟨a, ha, fault, hfault, hresult⟩ | ⟨hpass, hresult⟩ :=
          ih hrest (bif decide (P item) then item :: kept else kept)
        · exact .inl ⟨a, List.mem_cons_of_mem item ha, fault, hfault, hresult⟩
        · refine .inr ⟨List.forall_mem_cons.2 ⟨hfirst, hpass⟩, hresult.trans ?_⟩
          by_cases hp : P item <;> simp [hp]
  rw [List.filterM, (hquestion items []).fst_bind fun _ => .pure _]
  obtain ⟨a, ha, fault, hfault, hresult⟩ | ⟨hpass, hresult⟩ := haux []
  · rw [hresult]
    exact .inl ⟨a, ha, fault, hfault, rfl⟩
  · rw [hresult]
    refine .inr ⟨hpass, ?_⟩
    change Except.ok (List.reverse _) = _
    rw [List.append_nil, List.reverse_reverse]

/-- A look for a package meets a path that is refused, or finds out whether there is one. -/
theorem fst_isPackage_cases (p : Path) (host : Host) :
    (∃ q, host.AsksAbout p q ∧ host.node q = .error .nameTooLong ∧
      (isPackage p host).1 = .error (AccessFault.nameTooLong.toFault q)) ∨
    (∀ q, host.AsksAbout p q → host.node q ≠ .error .nameTooLong) ∧
      (isPackage p host).1 = .ok (decide (host.HasPackage p)) := by
  unfold isPackage
  rw [(IsQuestion.isDirectory p).fst_bind fun _ => .ite (Manifest.isQuestion_isIn p) (.pure _)]
  obtain ⟨hlong, hfault⟩ | ⟨hshort, hanswer⟩ := Run.fst_isDirectory_cases p host
  · rw [hfault]
    exact .inl ⟨p, .itself, hlong, rfl⟩
  by_cases hdirectory : host.HasDirectory p
  · rw [hanswer, decide_eq_true hdirectory]
    obtain ⟨hlong, hfault⟩ | ⟨hshort', hanswer'⟩ := Run.fst_isFile_cases (Manifest.file p) host
    · exact .inl ⟨_, .manifest hdirectory, hlong, hfault⟩
    · refine .inr ⟨fun q hasks => ?_, hanswer'.trans ?_⟩
      · cases hasks with
        | itself => exact hshort
        | manifest => exact hshort'
      · simp [Host.HasPackage, hdirectory]
  · rw [hanswer, decide_eq_false hdirectory]
    refine .inr ⟨fun q hasks => ?_, ?_⟩
    · cases hasks with
      | itself => exact hshort
      | manifest hthere => exact absurd hthere hdirectory
    · simp [Host.HasPackage, hdirectory]
      rfl

theorem fst_packagesAmong_cases (places : List Path) (host : Host) :
    (∃ p ∈ places, ∃ q, host.AsksAbout p q ∧ host.node q = .error .nameTooLong ∧
      (packagesAmong places host).1 = .error (AccessFault.nameTooLong.toFault q)) ∨
    (∀ p ∈ places, ∀ q, host.AsksAbout p q → host.node q ≠ .error .nameTooLong) ∧
      (packagesAmong places host).1 = .ok (places.filter fun p => decide (host.HasPackage p)) := by
  have hanswer : ∀ p ∈ places, ∀ passes, (isPackage p host).1 = .ok passes →
      passes = decide (host.HasPackage p) := by
    intro p _ passes hpasses
    obtain ⟨q, -, -, hfault⟩ | ⟨-, hanswer⟩ := fst_isPackage_cases p host
    · cases hpasses.symm.trans hfault
    · exact Except.ok.inj (hpasses.symm.trans hanswer)
  obtain ⟨p, hp, fault, hfault, hresult⟩ | ⟨hall, hresult⟩ :=
    fst_filterM_cases isQuestion_isPackage hanswer
  · obtain ⟨q, hasks, hlong, hrefused⟩ | ⟨-, hanswer⟩ := fst_isPackage_cases p host
    · cases hfault.symm.trans hrefused
      exact .inl ⟨p, hp, q, hasks, hlong, hresult⟩
    · cases hfault.symm.trans hanswer
  · refine .inr ⟨fun p hp => ?_, hresult⟩
    obtain ⟨q, -, -, hrefused⟩ | ⟨hshort, -⟩ := fst_isPackage_cases p host
    · cases (hall p hp).symm.trans hrefused
    · exact hshort

/-! ### Expansions -/

/-- An expansion finds what it should, unless one of the paths that it asks about is longer than the
system allows, or the root has too long a name in it. -/
inductive Yields (host : Host) (root : Path) (Asks : Path → Prop) (IsFound : List Path → Prop) :
    Except Fault (List Path) → Prop
  | found {found : List Path} (hasks : ∀ p, Asks p → host.node p ≠ .error .nameTooLong)
      (hfound : IsFound found) : Yields host root Asks IsFound (.ok found)
  | refused {p : Path} (hasks : Asks p) (hnode : host.node p = .error .nameTooLong)
      (hlong : p.IsTooLong ∨ ¬ host.LeadsThroughShort root) :
      Yields host root Asks IsFound (.error (AccessFault.nameTooLong.toFault p))

/-- The paths that are asked about for a wildcard: the directory, and what its entries stand for. -/
inductive AsksUnder (host : Host) (base : Path) (place : String → Path) : Path → Prop
  | base : AsksUnder host base place base
  | entry {name : String} {p : Path} (hentry : host.HasEntry base name)
      (hasks : host.AsksAbout (place name) p) : AsksUnder host base place p

/-- The paths are those of the entries that stand for packages, in the order of the names. -/
structure AreMatches (host : Host) (base : Path) (place : String → Path) (names : List String)
    (found : List Path) : Prop where
  placed : found = names.map place
  increasing : names.Pairwise (· < ·)
  nodup : found.Nodup
  mem_iff : ∀ name, name ∈ names ↔ host.HasEntry base name ∧ host.HasPackage (place name)
  missing : ¬ host.HasDirectory base → found = []

theorem yields_literal (path : String)
    (hshort : host.LeadsThroughShort root →
      ∀ p, host.AsksAbout (root / path) p → host.LeadsThroughShort p) :
    Yields host root (host.AsksAbout (root / path))
      (fun found => found = if host.HasPackage (root / path) then [root / path] else [])
      (expand root (.literal path) host).1 := by
  obtain ⟨p, hp, q, hasks, hlong, hresult⟩ | ⟨hasks, hresult⟩ :=
    fst_packagesAmong_cases [root / path] host
  · obtain rfl := List.mem_singleton.1 hp
    rw [expand, hresult]
    exact .refused hasks hlong (Host.isTooLong_or hlong fun hroot => hshort hroot q hasks)
  · rw [expand, hresult]
    refine .found (hasks _ (List.mem_singleton_self _)) ?_
    rw [List.filter_singleton]
    split <;> simp_all

theorem areMatches_nil {base : Path} (hmissing : ¬ host.HasDirectory base) (place : String → Path) :
    AreMatches host base place [] [] := by
  refine ⟨rfl, .nil, .nil, fun name => ⟨nofun, ?_⟩, fun _ => rfl⟩
  rintro ⟨⟨entries, hentries, -⟩, -⟩
  exact (hmissing ⟨entries, hentries⟩).elim

section Directory

variable {base : Path} {entries : List (String × Node)}

theorem mem_listing_iff (hentries : host.node base = .ok (.directory entries)) {name : String} :
    name ∈ (Node.directory entries).listing.map (·.1) ↔ host.HasEntry base name := by
  have hperm := (List.mergeSort_perm entries
    fun a b => Text.precedes a.1.toList b.1.toList).map (·.1)
  unfold Host.HasEntry
  rw [Node.listing, Node.entries, hperm.mem_iff, hentries]
  simp

theorem fst_listNames (hentries : host.node base = .ok (.directory entries)) :
    (Run.listNames base host).1 = .ok ((Node.directory entries).listing.map (·.1)) := by
  unfold Run.listNames Run.access
  simp only [Run.bind_apply, Run.get_apply, hentries]
  rfl

theorem areMatches_filter (hproper : host.tree.IsProper) {place : String → Path}
    (hinjective : Function.Injective place)
    (hentries : host.node base = .ok (.directory entries)) :
    AreMatches host base place
      (((Node.directory entries).listing.map (·.1)).filter fun name =>
        decide (host.HasPackage (place name)))
      ((((Node.directory entries).listing.map (·.1)).map place).filter fun p =>
        decide (host.HasPackage p)) := by
  have hincreasing := (Host.isProper_node hproper hentries).pairwise_listing.filter
    fun name => decide (host.HasPackage (place name))
  have hplaced : (((Node.directory entries).listing.map (·.1)).map place).filter
      (fun p => decide (host.HasPackage p)) = (((Node.directory entries).listing.map (·.1)).filter
        fun name => decide (host.HasPackage (place name))).map place := List.filter_map
  refine
    { placed := hplaced
      increasing := hincreasing
      nodup := ?_
      mem_iff := fun name => ?_
      missing := fun hmissing => (hmissing ⟨entries, hentries⟩).elim }
  · rw [hplaced]
    exact List.Nodup.map hinjective (hincreasing.imp ne_of_lt)
  · rw [List.mem_filter, mem_listing_iff hentries, decide_eq_true_iff]

end Directory

/-- The path that an entry stands for under a wildcard. -/
def placeOf (directory : Path) (suffix name : String) : Path :=
  if suffix == "" then Package.entryIn directory name else Package.entryIn directory name / suffix

theorem isQuestion_packagesAmong (places : List Path) : IsQuestion (packagesAmong places) :=
  .filterM isQuestion_isPackage _

theorem fst_expand_wildcard (base suffix : String) :
    (expand root (.wildcard base suffix) host).1 =
      (Run.isDirectory (root / base) host).1.bind fun isDirectory =>
        if isDirectory then (Run.listNames (root / base) host).1.bind fun names =>
          (packagesAmong (names.map (placeOf (root / base) suffix)) host).1
        else .ok [] := by
  have hamong (names : List String) :
      IsQuestion (packagesAmong (names.map (placeOf (root / base) suffix))) :=
    isQuestion_packagesAmong _
  have hexpand : expand root (.wildcard base suffix) = do
      if ← Run.isDirectory (root / base) then
        packagesAmong ((← Run.listNames (root / base)).map (placeOf (root / base) suffix))
      else return [] := rfl
  rw [hexpand, (IsQuestion.isDirectory _).fst_bind
    fun _ => .ite (.bind (.listNames _) hamong) (.pure _)]
  congr 1
  funext isDirectory
  cases isDirectory with
  | false => rfl
  | true => exact (IsQuestion.listNames _).fst_bind hamong host

theorem fst_expand_of_node {base : String} {entries : List (String × Node)}
    (hentries : host.node (root / base) = .ok (.directory entries)) (suffix : String) :
    (expand root (.wildcard base suffix) host).1 =
      (packagesAmong (((Node.directory entries).listing.map (·.1)).map
        (placeOf (root / base) suffix)) host).1 := by
  have hdirectory : host.HasDirectory (root / base) := ⟨entries, hentries⟩
  obtain ⟨hlong, -⟩ | ⟨-, hanswer⟩ := Run.fst_isDirectory_cases (root / base) host
  · cases hentries.symm.trans hlong
  · rw [fst_expand_wildcard, hanswer, decide_eq_true hdirectory, fst_listNames hentries]
    rfl

theorem yields_wildcard (hproper : host.tree.IsProper) {base suffix : String}
    (hinjective : Function.Injective (placeOf (root / base) suffix))
    (hshort : host.LeadsThroughShort root →
      ∀ p, AsksUnder host (root / base) (placeOf (root / base) suffix) p → host.LeadsThroughShort p) :
    Yields host root (AsksUnder host (root / base) (placeOf (root / base) suffix))
      (fun found => ∃ names,
        AreMatches host (root / base) (placeOf (root / base) suffix) names found)
      (expand root (.wildcard base suffix) host).1 := by
  obtain ⟨hlong, hfault⟩ | ⟨hbase, hanswer⟩ := Run.fst_isDirectory_cases (root / base) host
  · rw [fst_expand_wildcard, hfault]
    exact .refused .base hlong (Host.isTooLong_or hlong fun hroot => hshort hroot _ .base)
  by_cases hdirectory : host.HasDirectory (root / base)
  · obtain ⟨entries, hentries⟩ := hdirectory
    rw [fst_expand_of_node hentries]
    obtain ⟨p, hp, q, hasks, hlong, hresult⟩ | ⟨hasks, hresult⟩ := fst_packagesAmong_cases
      (((Node.directory entries).listing.map (·.1)).map (placeOf (root / base) suffix)) host
    · obtain ⟨name, hname, rfl⟩ := List.mem_map.1 hp
      have hunder : AsksUnder host (root / base) (placeOf (root / base) suffix) q :=
        .entry ((mem_listing_iff hentries).1 hname) hasks
      rw [hresult]
      exact .refused hunder hlong (Host.isTooLong_or hlong fun hroot => hshort hroot q hunder)
    · rw [hresult]
      refine .found (fun p hp => ?_) ⟨_, areMatches_filter hproper hinjective hentries⟩
      cases hp with
      | base => exact hbase
      | entry hentry habout =>
        exact hasks _ (List.mem_map_of_mem ((mem_listing_iff hentries).2 hentry)) p habout
  · rw [fst_expand_wildcard, hanswer, decide_eq_false hdirectory]
    refine .found (fun p hp => ?_) ⟨[], areMatches_nil hdirectory _⟩
    cases hp with
    | base => exact hbase
    | entry hentry =>
      obtain ⟨entries, hentries, -⟩ := hentry
      exact absurd ⟨entries, hentries⟩ hdirectory

end Workspace

/-! ### Patterns that are written -/

theorem Text.cut_concat (separator : Char) (cs : List Char) :
    cut separator (cs ++ [separator]) = cut separator cs ++ [[]] := by
  induction cs with
  | nil => simp [cut]
  | cons c cs ih =>
    rw [List.cons_append, cut, cut, ih]
    split
    · rfl
    · obtain ⟨piece, pieces, hpieces⟩ := List.exists_cons_of_ne_nil (cut_ne_nil separator cs)
      rw [hpieces]
      rfl

namespace Workspace.Pattern

/-- The text is a path that leads on from the root, through names that are short enough, and has
neither stars nor quotes in it. -/
structure IsPlainPath (path : String) : Prop where
  given : path ≠ ""
  relative : path.toList.head? ≠ some '/'
  short : ∀ name ∈ Path.namesOf path, Text.Utf8.size name ≤ Node.nameLimit
  star : '*' ∉ path.toList
  single : '\'' ∉ path.toList
  double : '"' ∉ path.toList

namespace IsPlainPath

variable {path base suffix : String}

theorem exists_cons (hplain : IsPlainPath path) : ∃ c cs, path.toList = c :: cs ∧ c ≠ '/' := by
  obtain ⟨c, cs, hpath⟩ := List.exists_cons_of_ne_nil (mt String.toList_eq_nil_iff.1 hplain.given)
  refine ⟨c, cs, hpath, fun hslash => hplain.relative ?_⟩
  rw [hpath, hslash]
  rfl

theorem anchorOf_append (hplain : IsPlainPath path) (cs : List Char) :
    Path.anchorOf (path.toList ++ cs) = .relative := by
  obtain ⟨c, rest, hpath, hslash⟩ := hplain.exists_cons
  rw [hpath, Path.anchorOf, List.cons_append, List.takeWhile_cons_of_neg (by simpa using hslash)]
  rfl

theorem isAbsolute (hplain : IsPlainPath path) : (Path.ofText path).isAbsolute = false := by
  have hanchor := hplain.anchorOf_append []
  rw [List.append_nil] at hanchor
  rw [Path.isAbsolute, Path.ofText, hanchor]
  rfl

theorem ofText_slash (hplain : IsPlainPath path) : Path.ofText (path ++ "/") = Path.ofText path := by
  have hanchor := hplain.anchorOf_append []
  rw [List.append_nil] at hanchor
  have hslash : (path ++ "/").toList = path.toList ++ ['/'] := String.toList_append
  rw [Path.ofText, Path.ofText, hanchor, hslash, hplain.anchorOf_append, Path.namesOf, Path.namesOf,
    Text.cutText, hslash, Text.cut_concat, List.map_append, List.filter_append]
  exact congrArg _ (List.append_nil _)

end IsPlainPath

/-! ### Patterns that are read -/

theorem shallow_of_getLast? {cs : List Char} (hlast : cs.getLast? ≠ some '*') : shallow cs = cs := by
  unfold shallow
  split
  · rename_i rest hreverse
    rw [← List.head?_reverse, hreverse] at hlast
    exact absurd rfl hlast
  · rfl

/-- The text up to the first star is the directory, and what is left without the slashes in front of
it goes on from the entries. -/
theorem ofText_of_shallow {pattern : String} {base rest : List Char} (hsingle : '\'' ∉ pattern.toList)
    (hdouble : '"' ∉ pattern.toList) (hshallow : shallow pattern.toList = base ++ '*' :: rest)
    (hbase : '*' ∉ base) : ofText pattern =
      .wildcard (String.ofList base) (String.ofList (rest.dropWhile (· == '/'))) := by
  have hfree : ∀ c ∈ base, (c != '*') = true := fun c hc => by
    simpa using fun heq : c = '*' => hbase (heq ▸ hc)
  unfold ofText
  rw [unquoted_of_notMem hsingle hdouble, hshallow]
  dsimp only
  rw [Lint.span_append hfree rfl]

theorem ofText_of_isPlainPath {path : String} (hplain : IsPlainPath path) :
    ofText path = .literal path := by
  have hlast : path.toList.getLast? ≠ some '*' := fun hlast =>
    hplain.star (List.mem_of_getLast? hlast)
  have hfree : ∀ c ∈ path.toList, (c != '*') = true := fun c hc => by
    simpa using fun heq : c = '*' => hplain.star (heq ▸ hc)
  unfold ofText
  rw [unquoted_of_notMem hplain.single hplain.double, shallow_of_getLast? hlast]
  dsimp only
  rw [List.span_eq_takeWhile_dropWhile, List.takeWhile_eq_self_iff.2 hfree,
    List.dropWhile_eq_nil_iff.2 hfree]
  dsimp only
  rw [String.ofList_toList]

section Wildcard

variable {base suffix : String}

theorem ofText_wildcard (hbase : IsPlainPath base) (cs rest : List Char)
    (hquotes : '\'' ∉ cs ∧ '"' ∉ cs)
    (hshallow : shallow (base.toList ++ cs) = base.toList ++ '/' :: '*' :: rest) :
    ofText (base ++ String.ofList cs) =
      .wildcard (base ++ "/") (String.ofList (rest.dropWhile (· == '/'))) := by
  have htoList : (base ++ String.ofList cs).toList = base.toList ++ cs := by
    rw [String.toList_append, String.toList_ofList]
  have hstar : '*' ∉ base.toList ++ ['/'] := by
    rw [List.mem_append, not_or]
    exact ⟨hbase.star, by decide⟩
  have hlong : shallow (base ++ String.ofList cs).toList = (base.toList ++ ['/']) ++ '*' :: rest := by
    rw [htoList, hshallow, List.append_assoc]
    rfl
  have hsingle : '\'' ∉ (base ++ String.ofList cs).toList := by
    rw [htoList, List.mem_append, not_or]
    exact ⟨hbase.single, hquotes.1⟩
  have hdouble : '"' ∉ (base ++ String.ofList cs).toList := by
    rw [htoList, List.mem_append, not_or]
    exact ⟨hbase.double, hquotes.2⟩
  rw [ofText_of_shallow hsingle hdouble hlong hstar, String.ofList_append, String.ofList_toList]

theorem ofText_star (hbase : IsPlainPath base) :
    ofText (base ++ "/*") = .wildcard (base ++ "/") "" := by
  refine ofText_wildcard hbase ['/', '*'] [] (by decide) ?_
  unfold shallow
  simp

theorem ofText_doubleStar (hbase : IsPlainPath base) :
    ofText (base ++ "/**") = .wildcard (base ++ "/") "" := by
  refine ofText_wildcard hbase ['/', '*', '*'] [] (by decide) ?_
  unfold shallow
  simp

theorem ofText_suffix (hbase : IsPlainPath base) (hsuffix : IsPlainPath suffix) :
    ofText (base ++ "/*/" ++ suffix) = .wildcard (base ++ "/") suffix := by
  obtain ⟨c, cs, htext, hslash⟩ := hsuffix.exists_cons
  have hquotes : '\'' ∉ '/' :: '*' :: '/' :: suffix.toList ∧
      '"' ∉ '/' :: '*' :: '/' :: suffix.toList := by
    simpa using ⟨hsuffix.single, hsuffix.double⟩
  have hshallow : shallow (base.toList ++ '/' :: '*' :: '/' :: suffix.toList) =
      base.toList ++ '/' :: '*' :: '/' :: suffix.toList := by
    apply shallow_of_getLast?
    have hsome : suffix.toList ≠ [] := by simp [htext]
    have happend : base.toList ++ '/' :: '*' :: '/' :: suffix.toList =
        (base.toList ++ ['/', '*', '/']) ++ suffix.toList := by simp
    rw [happend, List.getLast?_append_of_ne_nil _ hsome]
    exact fun hstar => hsuffix.star (List.mem_of_getLast? hstar)
  have hdrop : ('/' :: suffix.toList).dropWhile (· == '/') = suffix.toList := by
    rw [htext]
    simp [hslash]
  have hread := ofText_wildcard hbase _ _ hquotes hshallow
  rw [hdrop, String.ofList_toList] at hread
  have htext : base ++ "/*/" ++ suffix =
      base ++ String.ofList ('/' :: '*' :: '/' :: suffix.toList) := by
    rw [String.append_assoc, ← String.toList_inj]
    simp
  rw [htext, hread]

end Wildcard

end Workspace.Pattern

/-! ### What is found -/

theorem Package.entryIn_injective (directory : Path) : Function.Injective (entryIn directory) := by
  intro name other heq
  simpa [entryIn] using heq

namespace Workspace

open Package (entryIn entryIn_injective)
open Pattern (IsPlainPath)

variable {host : Host} {root : Path} {path : String}

theorem AsksUnder.leadsThroughShort {base p : Path} {place : String → Path}
    (hasks : AsksUnder host base place p) (hnames : host.tree.HasShortNames)
    (hbase : host.LeadsThroughShort base)
    (hplace : ∀ name, host.LeadsThroughShort (entryIn base name) →
      host.LeadsThroughShort (place name)) : host.LeadsThroughShort p := by
  cases hasks with
  | base => exact hbase
  | entry hentry hasks =>
    obtain ⟨entries, hentries, hname⟩ := hentry
    obtain ⟨target, -, hat⟩ := Host.node_eq_ok hentries
    obtain ⟨entry, hmem, rfl⟩ := List.mem_map.1 hname
    have hentry : Text.Utf8.size entry.1 ≤ Node.nameLimit := by
      cases hnames.at? hat with
      | directory hshort _ => exact hshort entry hmem
    refine hasks.leadsThroughShort (hplace entry.1 ?_)
    exact hbase.join (q := ⟨.relative, [entry.1]⟩) rfl (List.forall_mem_singleton.2 hentry)

/-- A pattern expands to the packages that it stands for: without a wildcard to the directory of
that path, and with one to the directories that the entries stand for, in strictly increasing order
of their names, whether one star is written or two. Only a path that is longer than the system
allows ends an expansion. -/
theorem directories_of_isPlainPath (hproper : host.tree.IsProper) (hnames : host.tree.HasShortNames)
    (hplain : IsPlainPath path) :
    Yields host root (host.AsksAbout (root / path))
        (fun found => found = if host.HasPackage (root / path) then [root / path] else [])
        (directories root path host).1 ∧
      Yields host root (AsksUnder host (root / path) (entryIn (root / path)))
        (fun found => ∃ names, AreMatches host (root / path) (entryIn (root / path)) names found)
        (directories root (path ++ "/*") host).1 ∧
      directories root (path ++ "/**") = directories root (path ++ "/*") ∧
      ∀ suffix, IsPlainPath suffix →
        Yields host root (AsksUnder host (root / path) (entryIn (root / path) · / suffix))
          (fun found => ∃ names,
            AreMatches host (root / path) (entryIn (root / path) · / suffix) names found)
          (directories root (path ++ "/*/" ++ suffix) host).1 := by
  have hbase : root / (path ++ "/") = root / path := congrArg root.join hplain.ofText_slash
  have hshort (hroot : host.LeadsThroughShort root) : host.LeadsThroughShort (root / path) :=
    hroot.join hplain.isAbsolute hplain.short
  refine ⟨?_, ?_, ?_, fun suffix hsuffix => ?_⟩
  · rw [directories, Pattern.ofText_of_isPlainPath hplain]
    exact yields_literal path fun hroot p hasks => hasks.leadsThroughShort (hshort hroot)
  · rw [directories, Pattern.ofText_star hplain, ← hbase]
    rw [← hbase] at hshort
    have hplace : placeOf (root / (path ++ "/")) "" = entryIn (root / (path ++ "/")) := rfl
    rw [← hplace]
    refine yields_wildcard hproper (entryIn_injective _) fun hroot p hasks => ?_
    exact hasks.leadsThroughShort hnames (hshort hroot) fun name hname => hname
  · rw [directories, directories, Pattern.ofText_star hplain, Pattern.ofText_doubleStar hplain]
  · rw [directories, Pattern.ofText_suffix hplain hsuffix, ← hbase]
    rw [← hbase] at hshort
    have hplace : placeOf (root / (path ++ "/")) suffix = (entryIn (root / (path ++ "/")) · / suffix) :=
      funext fun name => if_neg (by simpa using hsuffix.given)
    have hbelow (p : Path) : p / suffix = ⟨p.anchor, p.names ++ (Path.ofText suffix).names⟩ :=
      Path.join_of_relative hsuffix.isAbsolute
    rw [← hplace]
    refine yields_wildcard hproper ?_ ?_ <;> rw [hplace]
    · intro name other heq
      dsimp only at heq
      rw [hbelow, hbelow] at heq
      simpa [entryIn] using heq
    · intro hroot p hasks
      exact hasks.leadsThroughShort hnames (hshort hroot) fun name hname =>
        hname.join hsuffix.isAbsolute hsuffix.short

end Workspace

/-! ### Patterns that are too long -/

theorem Text.Utf8.length_le_size (s : String) : s.toList.length ≤ size s := by
  unfold size encode
  induction s.toList with
  | nil => exact Nat.le_refl 0
  | cons c cs ih =>
    have hchar : 0 < (encodeChar c).length := by
      unfold encodeChar
      dsimp only
      split_ifs <;> simp
    rw [List.flatMap_cons, List.length_append, List.length_cons]
    omega

theorem Text.length_le_length_intercalate (separator : Char) (pieces : List (List Char)) :
    pieces.length ≤ ([separator].intercalate pieces).length + 1 := by
  induction pieces with
  | nil => exact Nat.zero_le _
  | cons piece pieces ih =>
    cases pieces with
    | nil => simp
    | cons next rest =>
      rw [List.intercalate_cons_cons, List.length_append, List.length_append, List.length_cons]
      have hone : [separator].length = 1 := rfl
      omega

/-- A path of so many directories, one in the other. -/
def Workspace.nested (depth : Nat) : String :=
  String.intercalate "/" (List.replicate depth "a")

namespace Workspace

open Pattern (IsPlainPath)

variable {depth : Nat}

theorem toList_nested (depth : Nat) :
    (nested depth).toList = ['/'].intercalate (List.replicate depth ['a']) := by
  rw [nested, String.toList_intercalate, List.map_replicate]
  rfl

theorem namesOf_nested (hdepth : depth ≠ 0) :
    Path.namesOf (nested depth) = List.replicate depth "a" := by
  rw [Path.namesOf, Text.cutText, toList_nested, Text.cut_intercalate (by simpa using hdepth) (by simp),
    List.map_replicate, List.filter_eq_self.2]
  intro name hname
  rw [List.eq_of_mem_replicate hname]
  decide

theorem isPlainPath_nested (hdepth : depth ≠ 0) : IsPlainPath (nested depth) := by
  have hfree {c : Char} (hslash : c ≠ '/') (hname : c ≠ 'a') : c ∉ (nested depth).toList := by
    rw [toList_nested]
    exact Text.notMem_intercalate hslash (by simp [hname])
  refine
    { given := fun hempty => ?_
      relative := ?_
      short := fun name hname => ?_
      star := hfree (by decide) (by decide)
      single := hfree (by decide) (by decide)
      double := hfree (by decide) (by decide) }
  · have hnames := namesOf_nested hdepth
    rw [hempty, show Path.namesOf "" = [] by decide] at hnames
    exact hdepth ((List.replicate_eq_nil_iff _).1 hnames.symm)
  · obtain ⟨n, rfl⟩ := Nat.exists_eq_succ_of_ne_zero hdepth
    rw [toList_nested]
    cases n <;> simp [List.replicate_succ]
  · rw [namesOf_nested hdepth] at hname
    rw [List.eq_of_mem_replicate hname]
    decide

theorem root_div_nested (hdepth : depth ≠ 0) :
    Path.root / nested depth = ⟨.root, List.replicate depth "a"⟩ := by
  refine (Path.join_of_relative (isPlainPath_nested hdepth).isAbsolute).trans ?_
  rw [Path.ofText, namesOf_nested hdepth]
  rfl

theorem hasNul_nested (hdepth : depth ≠ 0) : (Path.root / nested depth).hasNul = false := by
  rw [root_div_nested hdepth, Path.hasNul, List.any_eq_false]
  intro name hname
  rw [List.eq_of_mem_replicate hname]
  decide

theorem isTooLong_nested (hdepth : Host.pathLimit < depth) : (Path.root / nested depth).IsTooLong := by
  have hpath : Path.root / nested depth = ⟨.root, List.replicate depth "a"⟩ :=
    root_div_nested (by omega)
  have htext : (Path.root / nested depth).text = "/" ++ nested depth := by
    rw [hpath]
    rfl
  have hslashes := Text.length_le_length_intercalate '/' (List.replicate depth ['a'])
  have hsize := Text.Utf8.length_le_size (nested depth)
  rw [List.length_replicate, ← toList_nested] at hslashes
  rw [Path.IsTooLong, htext, Text.Utf8.size_append]
  have hone : Text.Utf8.size "/" = 1 := by decide
  omega

end Workspace

def Host.packageEntries : List (String × Node) :=
  [("web", .directory [("package.json", .file (.text ""))]), ("notes", .file (.text "")),
    ("api", .directory [("package.json", .file (.text ""))]), ("docs", .directory [])]

/-- A root with a directory of packages and other things. -/
def Host.withPackages : Host :=
  { ofProject "" (fun _ => .unavailable) fun _ _ _ => .hangs with
    tree := .directory [("packages", .directory packageEntries)] }

theorem Host.isProper_withPackages : Host.withPackages.tree.IsProper := by
  have hpackage : (Node.directory [("package.json", .file (.text ""))]).IsProper :=
    .directory (by simp) (List.forall_mem_singleton.2 (.file _))
  refine .directory (by simp) (List.forall_mem_singleton.2 (.directory (by decide) ?_))
  simpa [packageEntries] using ⟨hpackage, .file _, hpackage, .directory (by simp) nofun⟩

theorem Host.hasShortNames_withPackages : Host.withPackages.tree.HasShortNames := by
  have hpackage : (Node.directory [("package.json", .file (.text ""))]).HasShortNames :=
    .directory (List.forall_mem_singleton.2 (by decide)) (List.forall_mem_singleton.2 (.file _))
  refine .directory (List.forall_mem_singleton.2 (by decide))
    (List.forall_mem_singleton.2 (.directory ?_ ?_))
  · simp only [packageEntries, List.forall_mem_cons]
    decide
  · simpa [packageEntries] using ⟨hpackage, .file _, hpackage, .directory nofun nofun⟩

namespace Workspace

open Package (entryIn)
open Pattern (IsPlainPath)

/-- The two packages are found, in the order of their names. -/
theorem directories_withPackages :
    (directories .root ("packages" ++ "/*") Host.withPackages).1 =
      .ok [⟨.root, ["packages", "api"]⟩, ⟨.root, ["packages", "web"]⟩] ∧
    ∃ names, AreMatches Host.withPackages (Path.root / "packages")
      (entryIn (Path.root / "packages")) names
      [⟨.root, ["packages", "api"]⟩, ⟨.root, ["packages", "web"]⟩] := by
  have hplain : IsPlainPath "packages" :=
    ⟨by decide, by decide, by decide, by decide, by decide, by decide⟩
  have hlisting : (Node.directory Host.packageEntries).listing.map (·.1) =
      ["api", "docs", "notes", "web"] := by
    simp [Node.listing, Node.entries, Host.packageEntries, List.mergeSort,
      List.MergeSort.Internal.splitInTwo, Text.precedes]
  have hfound : (directories .root ("packages" ++ "/*") Host.withPackages).1 =
      .ok [⟨.root, ["packages", "api"]⟩, ⟨.root, ["packages", "web"]⟩] := by
    have hentries : Host.withPackages.node (Path.root / ("packages" ++ "/")) =
        .ok (.directory Host.packageEntries) := rfl
    rw [directories, Pattern.ofText_star hplain, fst_expand_of_node hentries, hlisting]
    exact eq_ok_of_toOption (by decide +kernel)
  obtain ⟨-, hyields, -, -⟩ := @directories_of_isPlainPath Host.withPackages .root "packages"
    Host.isProper_withPackages Host.hasShortNames_withPackages hplain
  rw [hfound] at hyields
  cases hyields with
  | found _ hmatches => exact ⟨hfound, hmatches⟩

/-- Where the directory of a wildcard cannot be looked at, nothing is found and nothing is left out. -/
theorem fst_directories_of_isTooLong {host : Host} {root : Path} {base : String}
    (hplain : IsPlainPath base) (hnul : (root / base).hasNul = false)
    (hlong : (root / base).IsTooLong) :
    ¬ host.HasDirectory (root / base) ∧ (directories root (base ++ "/*") host).1 =
      .error (AccessFault.nameTooLong.toFault (root / base)) := by
  have hlocate : host.locate (root / base) = .error .nameTooLong :=
    (if_neg (by simp [hnul])).trans (if_pos hlong)
  have hnode := Host.node_eq_error hlocate
  have hbase : root / (base ++ "/") = root / base := congrArg root.join hplain.ofText_slash
  constructor
  · rintro ⟨entries, hentries⟩
    cases hnode.symm.trans hentries
  · obtain ⟨-, hfault⟩ | ⟨hreached, -⟩ := Run.fst_isDirectory_cases (root / base) host
    · rw [directories, Pattern.ofText_star hplain, fst_expand_wildcard, hbase, hfault]
      rfl
    · exact absurd hnode hreached

/-- There is nothing at a path that is too long, and yet the pattern below it does not expand to
nothing. -/
theorem directories_nested : IsPlainPath (nested 4096) ∧
    ¬ Host.withPackages.HasDirectory (Path.root / nested 4096) ∧
    (directories .root (nested 4096 ++ "/*") Host.withPackages).1 =
      .error (AccessFault.nameTooLong.toFault (Path.root / nested 4096)) :=
  have hdepth : Host.pathLimit < 4096 := by decide
  ⟨isPlainPath_nested (by decide), fst_directories_of_isTooLong (isPlainPath_nested (by decide))
    (hasNul_nested (by decide)) (isTooLong_nested hdepth)⟩

end Workspace

end Checkup
