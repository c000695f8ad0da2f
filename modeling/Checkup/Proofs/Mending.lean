import Checkup.Proofs.Footprint

/-!
# Manifests that cannot be read

`Host.mended` is the host with an empty object for every manifest that is no text, no JSON or no
object. It has the same files and directories, and all other files say the same. A mended manifest
reads as what it was read as before, so that whatever sees files only through these looks cannot tell
the two hosts apart.
-/

namespace Checkup

/-! ### Contents -/

namespace Content

def manifest (content : Content) : Except Fault Manifest :=
  match content.text?.map Json.read with
  | some (.ok value) => .ok (Manifest.ofJson value)
  | some (.error (.tooManyDigits count)) => .error (.shape (.tooManyDigits count))
  | _ => .ok []

/-- The content, or an empty object in place of what is no text, no JSON or no object. -/
def mended (content : Content) : Content :=
  match content.text?.map Json.read with
  | some (.ok (.object _)) => content
  | some (.error (.tooManyDigits _)) => content
  | _ => .text "\x7b\x7d"

/-- What cannot be read as a manifest is read like an empty object. -/
theorem manifest_mended (content : Content) : content.mended.manifest = content.manifest := by
  have hempty : (text "\x7b\x7d").manifest = .ok [] := by
    have hread : Json.read "\x7b\x7d" = .ok (.object []) := by rfl
    simp only [manifest, text?, Option.map_some, hread]
    rfl
  unfold mended
  split
  · rfl
  · rfl
  · rename_i hobject hdigits
    rw [hempty, manifest]
    split
    · rename_i value hread
      cases value with
      | object members => exact absurd hread (hobject members)
      | null | bool _ | number _ | text _ | array _ => rfl
    · rename_i count hread
      exact absurd hread (hdigits count)
    · rfl

theorem manifest_of_tooManyDigits {content : Content} {text : String} {count : Nat}
    (htext : content.text? = some text) (hread : Json.read text = .error (.tooManyDigits count)) :
    content.manifest = .error (.shape (.tooManyDigits count)) := by
  simp only [manifest, htext, Option.map_some, hread]

/-- The one thing that keeps a content from being read as a manifest. -/
theorem manifest_eq_error {content : Content} {fault : Fault}
    (hfault : content.manifest = .error fault) : ∃ text count, content.text? = some text ∧
      Json.read text = .error (.tooManyDigits count) ∧ fault = .shape (.tooManyDigits count) := by
  unfold manifest at hfault
  split at hfault
  · cases hfault
  · rename_i count hread
    obtain ⟨text, htext, hread⟩ := Option.map_eq_some_iff.1 hread
    exact ⟨text, count, htext, hread, (Except.error.inj hfault).symm⟩
  · cases hfault

end Content

theorem Manifest.fst_read {file : Path} {host : Host} {content : Content}
    (hcontent : host.content file = .ok content) : (read file host).1 = content.manifest := by
  rw [read_apply, hcontent]
  rfl

/-! ### Trees -/

namespace Node

mutual

/-- The node under a name, with what cannot be read as a manifest mended. -/
def mended (name : String) : Node → Node
  | .file content => .file (if name = Manifest.fileName then content.mended else content)
  | .directory entries => .directory (mendedEntries entries)

def mendedEntries : List (String × Node) → List (String × Node)
  | [] => []
  | (name, node) :: rest => (name, node.mended name) :: mendedEntries rest

end

variable {root node : Node} {name : String} {names reached : List String}

@[simp] theorem mended_directory (name : String) (entries : List (String × Node)) :
    (directory entries).mended name = directory (mendedEntries entries) := by
  rw [mended]

theorem mendedEntries_eq_map (entries : List (String × Node)) :
    mendedEntries entries = entries.map fun entry => (entry.1, entry.2.mended entry.1) := by
  induction entries with
  | nil => simp [mendedEntries]
  | cons entry rest ih => simp [mendedEntries, ih]

theorem child?_mended (node : Node) (own name : String) :
    (node.mended own).child? name = (node.child? name).map (·.mended name) := by
  cases node with
  | file content => simp [mended, child?, entries]
  | directory found =>
    simp only [mended, child?, entries]
    induction found with
    | nil => simp [mendedEntries, Named.get?]
    | cons entry rest ih =>
      simp only [mendedEntries, Named.get?]
      split
      · rename_i hname
        simp_all
      · exact ih

theorem at?_mended (node : Node) (own : String) (names : List String) :
    (node.mended own).at? names = (node.at? names).map (·.mended (names.getLast?.getD own)) := by
  induction names generalizing node own with
  | nil => rfl
  | cons name rest ih =>
    simp only [at?, child?_mended]
    cases node.child? name with
    | none => rfl
    | some child =>
      simp only [Option.map_some, Option.bind_some, ih]
      cases rest with
      | nil => rfl
      | cons second more => rw [List.getLast?_cons_cons]; rfl

theorem walk_mended (root : Node) (own : String) (reached names : List String) :
    (root.mended own).walk reached names = root.walk reached names := by
  induction names generalizing reached with
  | nil => rfl
  | cons name rest ih =>
    simp only [walk, at?_mended, ih]
    rcases root.at? reached with _ | _ | _ <;> simp [mended]

theorem map_fst_listing_mended (node : Node) (name : String) :
    (node.mended name).listing.map (·.1) = node.listing.map (·.1) := by
  cases node with
  | file content => rfl
  | directory found =>
    unfold listing
    simp only [mended, entries, mendedEntries_eq_map]
    rw [← List.map_mergeSort, List.map_map]
    · rfl
    · intros; rfl

end Node

mutual

theorem Project.countNode_mended (directory name own : String) (node : Node) :
    countNode directory name (node.mended own) = countNode directory name node := by
  cases node with
  | file content => simp [Node.mended, countNode]
  | directory entries => simp [Node.mended, countNode, Project.countEntries_mended _ entries]

theorem Project.countEntries_mended (directory : String) (entries : List (String × Node)) :
    countEntries directory (Node.mendedEntries entries) = countEntries directory entries := by
  cases entries with
  | nil => simp [Node.mendedEntries]
  | cons entry rest =>
    simp [Node.mendedEntries, countEntries, Project.countNode_mended,
      Project.countEntries_mended directory rest]

end

/-! ### Hosts -/

namespace Host

variable {host : Host} {p : Path} {target : List String} {last : String}

/-- The host with every manifest mended that cannot be read as one. -/
def mended (host : Host) : Host :=
  { host with tree := host.tree.mended "" }

theorem locate_mended (host : Host) (p : Path) : host.mended.locate p = host.locate p := by
  simp only [locate, mended, Node.walk_mended]

theorem node_mended_of_locate (hlocate : host.locate p = .ok target) :
    host.mended.node p = (host.node p).map (·.mended (target.getLast?.getD "")) := by
  have hlocate' := (host.locate_mended p).trans hlocate
  have hat (names : List String) : host.mended.tree.at? names =
      (host.tree.at? names).map (·.mended (names.getLast?.getD "")) := Node.at?_mended _ _ _
  unfold node
  rw [hlocate, hlocate']
  dsimp only [bind, Except.bind]
  rw [hat, hat]
  cases host.tree.at? target with
  | some node => rfl
  | none => rcases host.tree.at? target.dropLast with _ | _ | _ <;> simp [Node.mended, Except.map]

theorem exists_node_mended (host : Host) (p : Path) :
    ∃ name, host.mended.node p = (host.node p).map (·.mended name) := by
  cases hlocate : host.locate p with
  | ok target => exact ⟨_, node_mended_of_locate hlocate⟩
  | error fault =>
    refine ⟨"", ?_⟩
    rw [node_eq_error hlocate, node_eq_error ((host.locate_mended p).trans hlocate)]
    rfl

theorem content_mended (hends : p.EndsIn last) : host.mended.content p =
    (host.content p).map fun content =>
      if last = Manifest.fileName then content.mended else content := by
  unfold content
  cases hlocate : host.locate p with
  | error fault =>
    rw [node_eq_error hlocate, node_eq_error ((host.locate_mended p).trans hlocate)]
    rfl
  | ok target =>
    obtain ⟨parent, rfl, -⟩ := locate_eq_ok hends hlocate
    rw [node_mended_of_locate hlocate, List.getLast?_concat]
    rcases host.node p with _ | _ | _ <;>
      simp [Except.map, Node.mended, bind, Except.bind]

end Host

end Checkup
