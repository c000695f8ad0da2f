import Mathlib.Data.List.Induction
import Checkup.Node
import Checkup.Proofs.Questions

/-!
# Versions of Node under nvm

Of the versions under nvm the newest suitable one is chosen first, and only then it is looked
whether it has a Node. So what is found is the Node of the newest version that can be used, whenever the
newest suitable version can be; when that one is a leftover directory, nothing is found, however many
older versions work.
-/

namespace Checkup

/-! ### Versions in order -/

namespace NodeVersion

variable {u v w : NodeVersion}

/-- The version is no newer: of the parts of the two the first ones that differ decide. -/
def AtMost (v w : NodeVersion) : Prop :=
  v.major < w.major ∨ v.major = w.major ∧
    (v.minor < w.minor ∨ v.minor = w.minor ∧ v.patch ≤ w.patch)

theorem AtMost.refl (v : NodeVersion) : v.AtMost v := by
  unfold AtMost
  omega

theorem AtMost.trans (huv : u.AtMost v) (hvw : v.AtMost w) : u.AtMost w := by
  unfold AtMost at *
  omega

theorem AtMost.of_not (hnot : ¬ w.AtMost v) : v.AtMost w := by
  unfold AtMost at *
  omega

theorem notAfter_iff : v.notAfter w = true ↔ v.AtMost w := by
  rw [notAfter, AtMost]
  by_cases hmajor : v.major = w.major
  · by_cases hminor : v.minor = w.minor <;> simp [hmajor, hminor]
  · simp [hmajor]

/-- The version satisfies `^20.19.0 || >=22.12.0`. Both bounds ask for a patch of zero, so that the
patch decides nothing. -/
def InRange (v : NodeVersion) : Prop :=
  v.major = 20 ∧ 19 ≤ v.minor ∨ 22 < v.major ∨ v.major = 22 ∧ 12 ≤ v.minor

instance (v : NodeVersion) : Decidable v.InRange :=
  inferInstanceAs (Decidable (_ ∨ _ ∨ _))

theorem isSuitable_iff : v.isSuitable = true ↔ v.InRange := by
  rw [isSuitable, InRange]
  by_cases htwenty : v.major = 20
  · simp [htwenty]
  by_cases htwentyTwo : v.major = 22
  · simp [htwentyTwo]
  · simp [htwenty, htwentyTwo]

end NodeVersion

namespace NodeProgram

/-! ### The newest of several versions -/

section Foremost

variable {names : List String} {name : String}

/-- The name is that of the newest version, and of equal versions that of the first. -/
def IsForemost (names : List String) (name : String) : Prop :=
  ∃ before after, names = before ++ name :: after ∧
    (∀ other ∈ before, ¬ (NodeVersion.ofText name).AtMost (NodeVersion.ofText other)) ∧
    ∀ other ∈ after, (NodeVersion.ofText other).AtMost (NodeVersion.ofText name)

theorem IsForemost.mem (hforemost : IsForemost names name) : name ∈ names := by
  obtain ⟨before, after, rfl, -⟩ := hforemost
  simp

theorem IsForemost.atMost (hforemost : IsForemost names name) {other : String}
    (hother : other ∈ names) : (NodeVersion.ofText other).AtMost (NodeVersion.ofText name) := by
  obtain ⟨before, after, rfl, hbefore, hafter⟩ := hforemost
  rw [List.mem_append, List.mem_cons] at hother
  rcases hother with hother | rfl | hother
  · exact .of_not (hbefore other hother)
  · exact .refl _
  · exact hafter other hother

theorem IsForemost.notMem_of_append {before after : List String} {other : String}
    (hforemost : IsForemost names name) (hnames : names = before ++ other :: after)
    (hbefore : ∀ earlier ∈ before,
      ¬ (NodeVersion.ofText other).AtMost (NodeVersion.ofText earlier)) : name ∉ before := by
  intro hname
  exact hbefore name hname (hforemost.atMost (by simp [hnames]))

theorem IsForemost.unique {other : String} (hforemost : IsForemost names name)
    (hother : IsForemost names other) : name = other := by
  obtain ⟨before, after, hnames, hbefore, -⟩ := id hforemost
  obtain ⟨before', after', hnames', hbefore', -⟩ := id hother
  -- Whichever stands first would be older than the other one.
  obtain ⟨more, rfl, hrest⟩ | ⟨more, rfl, hrest⟩ :=
    List.append_eq_append_iff.1 (hnames.symm.trans hnames')
  · cases more with
    | nil => exact (List.cons.inj hrest).1
    | cons first more =>
      obtain ⟨rfl, -⟩ := List.cons.inj hrest
      exact absurd (by simp) (hforemost.notMem_of_append hnames' hbefore')
  · cases more with
    | nil => exact (List.cons.inj hrest).1.symm
    | cons first more =>
      obtain ⟨rfl, -⟩ := List.cons.inj hrest
      exact absurd (by simp) (hother.notMem_of_append hnames hbefore)

theorem foldl_newer (names : List String) :
    let found := (names.map fun name => (NodeVersion.ofText name, name)).foldl newer none
    names = [] ∧ found = none ∨
      ∃ name, IsForemost names name ∧ found = some (NodeVersion.ofText name, name) := by
  induction names using List.reverseRecOn with
  | nil => exact .inl ⟨rfl, rfl⟩
  | append_singleton names last ih =>
    dsimp only at ih ⊢
    rw [List.map_append, List.foldl_append]
    refine .inr ?_
    obtain ⟨rfl, hnone⟩ | ⟨name, hforemost, hsome⟩ := ih
    · exact ⟨last, ⟨[], [], rfl, nofun, nofun⟩, rfl⟩
    rw [hsome]
    by_cases hlast : (NodeVersion.ofText last).AtMost (NodeVersion.ofText name)
    · obtain ⟨before, after, rfl, hbefore, hafter⟩ := hforemost
      refine ⟨name, ⟨before, after ++ [last], by simp, hbefore, ?_⟩,
        if_pos (NodeVersion.notAfter_iff.2 hlast)⟩
      simpa [or_imp, forall_and, hlast] using hafter
    · refine ⟨last, ⟨names, [], rfl, fun other hother hle => ?_, nofun⟩,
        if_neg (mt NodeVersion.notAfter_iff.1 hlast)⟩
      exact hlast (hle.trans (hforemost.atMost hother))

end Foremost

variable {nvm : Path} {host : Host} {name : String}

/-! ### What stands under nvm -/

/-- The names under nvm's directory of versions, in the order in which they are listed. -/
def versionNames (nvm : Path) (host : Host) : List String :=
  match host.node (versionsDirectory nvm) with
  | .ok found => found.entries.map (·.1)
  | .error _ => []

def binaryOf (nvm : Path) (name : String) : Path :=
  ⟨(versionsDirectory nvm).anchor, (versionsDirectory nvm).names ++ [name, "bin", "node"]⟩

/-- There is a version of the name under nvm that the linter runs on, and it has a Node. -/
structure IsUsable (nvm : Path) (host : Host) (name : String) : Prop where
  listed : name ∈ versionNames nvm host
  marked : name.toList.head? = some 'v'
  inRange : (NodeVersion.ofText name).InRange
  binary : ∃ found, host.node (binaryOf nvm name) = .ok found

/-- The versions of a suitable name, in the order in which they are listed. -/
def suitableNames (nvm : Path) (host : Host) : List String :=
  (versionNames nvm host).filter fun name =>
    name.toList.head? == some 'v' && (NodeVersion.ofText name).isSuitable

/-- The newest usable version is what is found, by its Node, and nothing is found where no version is
usable. -/
def FindsNewest (nvm : Path) (host : Host) : Option String → Prop
  | some binary => ∃ name, IsUsable nvm host name ∧ binary = (binaryOf nvm name).text ∧
      ∀ other, IsUsable nvm host other →
        (NodeVersion.ofText other).AtMost (NodeVersion.ofText name)
  | none => ∀ name, ¬ IsUsable nvm host name

theorem mem_suitableNames : name ∈ suitableNames nvm host ↔
    name ∈ versionNames nvm host ∧ name.toList.head? = some 'v' ∧
      (NodeVersion.ofText name).InRange := by
  rw [suitableNames, List.mem_filter, Bool.and_eq_true, beq_iff_eq, NodeVersion.isSuitable_iff]

theorem isUsable_iff : IsUsable nvm host name ↔
    name ∈ suitableNames nvm host ∧ ∃ found, host.node (binaryOf nvm name) = .ok found := by
  rw [mem_suitableNames]
  constructor
  · rintro ⟨hlisted, hmarked, hrange, hbinary⟩
    exact ⟨⟨hlisted, hmarked, hrange⟩, hbinary⟩
  · rintro ⟨⟨hlisted, hmarked, hrange⟩, hbinary⟩
    exact ⟨hlisted, hmarked, hrange, hbinary⟩

theorem IsForemost.usable_atMost {other : String} (hforemost : IsForemost (suitableNames nvm host) name)
    (hother : IsUsable nvm host other) :
    (NodeVersion.ofText other).AtMost (NodeVersion.ofText name) :=
  hforemost.atMost (isUsable_iff.1 hother).1

/-- What is chosen among the names is the foremost of the suitable ones. -/
theorem newestSuitable?_cases (nvm : Path) (host : Host) :
    suitableNames nvm host = [] ∧ newestSuitable? (versionNames nvm host) = none ∨
      ∃ name, IsForemost (suitableNames nvm host) name ∧
        newestSuitable? (versionNames nvm host) = some name := by
  have hsuitable : (((versionNames nvm host).filter fun name => name.toList.head? == some 'v').map
        fun name => (NodeVersion.ofText name, name)).filter (·.1.isSuitable) =
      (suitableNames nvm host).map fun name => (NodeVersion.ofText name, name) := by
    rw [List.filter_map, List.filter_filter, suitableNames]
    simp only [Function.comp_def, Bool.and_comm]
  have hchosen : newestSuitable? (versionNames nvm host) = (((suitableNames nvm host).map fun name =>
      (NodeVersion.ofText name, name)).foldl newer none).map (·.2) := by
    unfold newestSuitable?
    dsimp only
    rw [hsuitable]
  rw [hchosen]
  obtain ⟨hnil, hnone⟩ | ⟨name, hforemost, hsome⟩ := foldl_newer (suitableNames nvm host)
  · exact .inl ⟨hnil, congrArg _ hnone⟩
  · exact .inr ⟨name, hforemost, congrArg _ hsome⟩

theorem newestSuitable?_eq_some_iff : newestSuitable? (versionNames nvm host) = some name ↔
    IsForemost (suitableNames nvm host) name := by
  obtain ⟨hnil, hnone⟩ | ⟨chosen, hforemost, hsome⟩ := newestSuitable?_cases nvm host
  · rw [hnone]
    exact ⟨nofun, fun hforemost => (List.not_mem_nil (hnil ▸ hforemost.mem)).elim⟩
  · rw [hsome, Option.some.injEq]
    exact ⟨fun heq => heq ▸ hforemost, fun hname => hforemost.unique hname⟩

theorem newestSuitable?_eq_none_iff :
    newestSuitable? (versionNames nvm host) = none ↔ suitableNames nvm host = [] := by
  obtain ⟨hnil, hnone⟩ | ⟨chosen, hforemost, hsome⟩ := newestSuitable?_cases nvm host
  · exact ⟨fun _ => hnil, fun _ => hnone⟩
  · rw [hsome]
    exact ⟨nofun, fun hnil => (List.not_mem_nil (hnil ▸ hforemost.mem)).elim⟩

/-! ### What is found -/

end NodeProgram

/-- What a look at a path sees: the node there, if there is one. Only a path that is too long is a
fault. -/
def Host.seen (host : Host) (p : Path) : Except Fault (Option Node) :=
  match host.node p with
  | .ok found => .ok (some found)
  | .error .nameTooLong => .error (AccessFault.nameTooLong.toFault p)
  | .error _ => .ok none

theorem Run.node?_apply (p : Path) (host : Host) : node? p host = (host.seen p, host) := by
  unfold node? Host.seen
  rw [get_bind]
  rcases host.node p with fault | found
  · cases fault <;> rfl
  · rfl

theorem Host.seen_eq_error_iff {host : Host} {p : Path} {fault : Fault} :
    host.seen p = .error fault ↔
      host.node p = .error .nameTooLong ∧ fault = AccessFault.nameTooLong.toFault p := by
  unfold seen
  rcases host.node p with cause | found
  · cases cause <;> simp [eq_comm]
  · simp

theorem Host.seen_eq_some_iff {host : Host} {p : Path} {found : Node} :
    host.seen p = .ok (some found) ↔ host.node p = .ok found := by
  unfold seen
  rcases host.node p with cause | found
  · cases cause <;> simp
  · simp

namespace NodeProgram

variable {nvm : Path} {host : Host} {name : String}

theorem installedNames_apply {found : Node} (hfound : host.node (versionsDirectory nvm) = .ok found) :
    installedNames nvm host = (.ok (versionNames nvm host), host) := by
  unfold installedNames versionNames Run.access
  rw [hfound]
  dsimp only
  rw [Run.bind_apply, Run.get_bind, hfound]
  rfl

/-- Only the directory of versions is looked at, and the Node of the foremost version. -/
theorem nvmBinary?_apply (nvm : Path) (host : Host) : nvmBinary? (some nvm) host = (do
    discard (host.seen (versionsDirectory nvm))
    match newestSuitable? (versionNames nvm host) with
    | none => return none
    | some name => return (← host.seen (binaryOf nvm name)).map fun _ => (binaryOf nvm name).text,
    host) := by
  have hlook := Run.node?_apply (versionsDirectory nvm) host
  unfold nvmBinary? Run.isDirectory
  dsimp only
  rw [Run.bind_apply, Run.bind_apply, hlook]
  cases hseen : host.seen (versionsDirectory nvm) with
  | error fault => rfl
  | ok there =>
    match there with
    | none =>
      have hnames : versionNames nvm host = [] := by
        unfold versionNames
        split
        · rename_i found hfound
          cases hseen.symm.trans (Host.seen_eq_some_iff.2 hfound)
        · rfl
      rw [hnames]
      rfl
    | some (.file content) =>
      have hnames : versionNames nvm host = [] := by
        rw [versionNames, Host.seen_eq_some_iff.1 hseen]
        rfl
      rw [hnames]
      rfl
    | some (.directory entries) =>
      have hnames := installedNames_apply (Host.seen_eq_some_iff.1 hseen)
      change (installedNames nvm >>= _) host = _
      rw [Run.bind_of_ok hnames]
      cases hchosen : newestSuitable? (versionNames nvm host) with
      | none => rfl
      | some name =>
        have hbinary := Run.node?_apply (binaryOf nvm name) host
        change ((Run.node? (binaryOf nvm name) >>= fun found => pure found.isSome) >>= _) host =
          (do return (← host.seen (binaryOf nvm name)).map fun _ => (binaryOf nvm name).text, host)
        rw [Run.bind_apply, Run.bind_apply, hbinary]
        rcases host.seen (binaryOf nvm name) with fault | _ | found <;> rfl

/-- Only a path that is too long is a fault: that of the directory of versions, or that of the foremost
one's Node. -/
theorem nvmBinary?_eq_error_iff {fault : Fault} : (nvmBinary? (some nvm) host).1 = .error fault ↔
    ∃ p, host.node p = .error .nameTooLong ∧ fault = AccessFault.nameTooLong.toFault p ∧
      (p = versionsDirectory nvm ∨
        ∃ name, IsForemost (suitableNames nvm host) name ∧ p = binaryOf nvm name) := by
  simp only [nvmBinary?_apply, ← newestSuitable?_eq_some_iff]
  cases hversions : host.seen (versionsDirectory nvm) with
  | error cause =>
    obtain ⟨hlong, hcause⟩ := Host.seen_eq_error_iff.1 hversions
    have hnone : newestSuitable? (versionNames nvm host) = none := by
      rw [versionNames, hlong]
      rfl
    constructor
    · rintro ⟨⟩
      exact ⟨_, hlong, hcause, .inl rfl⟩
    · rintro ⟨p, -, rfl, rfl | ⟨name, hname, -⟩⟩
      · rw [hcause]
        rfl
      · cases hnone.symm.trans hname
  | ok there =>
    have hreadable : host.node (versionsDirectory nvm) ≠ .error .nameTooLong := fun hlong =>
      nomatch hversions.symm.trans (Host.seen_eq_error_iff.2 ⟨hlong, rfl⟩)
    cases hforemost : newestSuitable? (versionNames nvm host) with
    | none =>
      refine ⟨nofun, ?_⟩
      rintro ⟨p, hlong, -, rfl | ⟨name, ⟨⟩, -⟩⟩
      exact absurd hlong hreadable
    | some name =>
      dsimp only
      cases hbinary : host.seen (binaryOf nvm name) with
      | error cause =>
        obtain ⟨hlong, hcause⟩ := Host.seen_eq_error_iff.1 hbinary
        constructor
        · rintro ⟨⟩
          exact ⟨_, hlong, hcause, .inr ⟨name, rfl, rfl⟩⟩
        · rintro ⟨p, hp, rfl, rfl | ⟨_, ⟨⟩, rfl⟩⟩
          · exact absurd hp hreadable
          · rw [hcause]
            rfl
      | ok found =>
        refine ⟨nofun, ?_⟩
        rintro ⟨p, hp, -, rfl | ⟨_, ⟨⟩, rfl⟩⟩
        · exact absurd hp hreadable
        · exact nomatch hbinary.symm.trans (Host.seen_eq_error_iff.2 ⟨hp, rfl⟩)

theorem nvmBinary?_eq_ok_cases {found : Option String}
    (hfound : (nvmBinary? (some nvm) host).1 = .ok found) :
    suitableNames nvm host = [] ∧ found = none ∨ ∃ name, IsForemost (suitableNames nvm host) name ∧
      (IsUsable nvm host name ∧ found = some (binaryOf nvm name).text ∨
        ¬ IsUsable nvm host name ∧ found = none) := by
  rw [nvmBinary?_apply] at hfound
  dsimp only at hfound
  cases hversions : host.seen (versionsDirectory nvm) with
  | error cause =>
    rw [hversions] at hfound
    cases hfound
  | ok there =>
    rw [hversions] at hfound
    cases hforemost : newestSuitable? (versionNames nvm host) with
    | none =>
      rw [hforemost] at hfound
      cases hfound
      exact .inl ⟨newestSuitable?_eq_none_iff.1 hforemost, rfl⟩
    | some name =>
      rw [hforemost] at hfound
      dsimp only at hfound
      have hname := newestSuitable?_eq_some_iff.1 hforemost
      refine .inr ⟨name, hname, ?_⟩
      cases hbinary : host.seen (binaryOf nvm name) with
      | error cause =>
        rw [hbinary] at hfound
        cases hfound
      | ok there =>
        rw [hbinary] at hfound
        cases hfound
        cases there with
        | none =>
          refine .inr ⟨?_, rfl⟩
          rintro ⟨-, -, -, there, hthere⟩
          cases hbinary.symm.trans (Host.seen_eq_some_iff.2 hthere)
        | some there =>
          refine .inl ⟨isUsable_iff.2 ⟨hname.mem, there, ?_⟩, rfl⟩
          exact Host.seen_eq_some_iff.1 hbinary

/-- What is found under nvm is the Node of the newest version that can be used. To find it when there
is one is to find that the foremost of the suitable versions, the first of the newest ones, can be used;
where it cannot, nothing is found. And only a path that is too long is a fault. -/
theorem nvmBinary?_settles (nvm : Path) (host : Host) :
    (∀ fault, (nvmBinary? (some nvm) host).1 = .error fault ↔
      ∃ p, host.node p = .error .nameTooLong ∧ fault = AccessFault.nameTooLong.toFault p ∧
        (p = versionsDirectory nvm ∨
          ∃ name, IsForemost (suitableNames nvm host) name ∧ p = binaryOf nvm name)) ∧
    (∀ found, (nvmBinary? (some nvm) host).1 = .ok found →
      (∀ binary, found = some binary → FindsNewest nvm host found) ∧
      (FindsNewest nvm host found ↔ ((∃ name, IsUsable nvm host name) →
        ∃ name, IsForemost (suitableNames nvm host) name ∧ IsUsable nvm host name))) := by
  refine ⟨fun fault => nvmBinary?_eq_error_iff, fun found hfound => ?_⟩
  obtain ⟨hnone, rfl⟩ | ⟨name, hforemost, ⟨husable, rfl⟩ | ⟨hleftover, rfl⟩⟩ :=
    nvmBinary?_eq_ok_cases hfound
  · have hunusable : ∀ name, ¬ IsUsable nvm host name := by
      intro name hname
      exact List.not_mem_nil (hnone ▸ (isUsable_iff.1 hname).1)
    exact ⟨nofun, fun _ hsome => (hunusable _ hsome.choose_spec).elim, fun _ => hunusable⟩
  · have hnewest : FindsNewest nvm host (some (binaryOf nvm name).text) :=
      ⟨name, husable, rfl, fun _ => hforemost.usable_atMost⟩
    exact ⟨fun _ _ => hnewest, fun _ _ => ⟨name, hforemost, husable⟩, fun _ => hnewest⟩
  · -- An older version that can be used is there in vain.
    refine ⟨nofun, fun hnone hsome => (hnone _ hsome.choose_spec).elim, ?_⟩
    intro hforward other hother
    obtain ⟨_, hname, husable⟩ := hforward ⟨other, hother⟩
    exact hleftover (hforemost.unique hname ▸ husable)

end NodeProgram

/-- A host with two suitable versions under nvm, of which the newer one is an empty directory. -/
def Host.withLeftover : Host :=
  { ofProject "" (fun _ => .unavailable) fun _ _ _ => .hangs with
    tree := .directory [("nvm", .directory [("versions", .directory [("node", .directory [
      ("v24.0.0", .directory []),
      ("v22.12.0", .directory [("bin", .directory [("node", .file (.text ""))])])])])])] }

/-- A version of Node can be used, and nothing is found. -/
theorem NodeProgram.nvmBinary?_withLeftover :
    IsUsable ⟨.root, ["nvm"]⟩ Host.withLeftover "v22.12.0" ∧
    (nvmBinary? (some ⟨.root, ["nvm"]⟩) Host.withLeftover).1 = .ok none ∧
    ¬ FindsNewest ⟨.root, ["nvm"]⟩ Host.withLeftover none := by
  have husable : IsUsable ⟨.root, ["nvm"]⟩ Host.withLeftover "v22.12.0" :=
    { listed := by decide +kernel
      marked := by decide
      inRange := by decide +kernel
      binary := exists_eq_ok_of_isOk (by decide +kernel) }
  exact ⟨husable, eq_ok_of_toOption (by decide +kernel), fun hnone => hnone _ husable⟩

end Checkup
