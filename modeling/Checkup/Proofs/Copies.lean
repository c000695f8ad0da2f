import Checkup.Report.Directory
import Checkup.Proofs.Restoration
import Checkup.Proofs.RoundTrip

/-!
# The copy of all findings

A report has a file with the records of all findings. When the report was written, the file holds
what was printed, since it is written last; what was printed is read as the records, and a finding
can be rebuilt from its record. So the file of a report tells which findings there were, in which
order.
-/

namespace Checkup

namespace Diagnostic

def ofJson? (record : Json) : Option Diagnostic := do
  let text (name : String) := (record.member? name).bind Json.text?
  let whole (name : String) := match record.member? name with
    | some (.number (.whole n)) => some n
    | _ => none
  return {
    file := ← record.member? "filePath"
    plugin := ← text "plugin"
    rule := ← text "rule"
    severity := .ofLabel (← text "severity")
    message := ← text "message"
    help := ← record.member? "help"
    line := ← whole "line"
    column := ← whole "column"
    category := .ofLabel (← text "category") }

/-- A finding of which nothing is lost in its record: no real number is in it, no whole number is too
long to be read, and its severity and its category are the ones with their labels. -/
structure IsExact (d : Diagnostic) : Prop where
  file : d.file.IsExact
  help : d.help.IsExact
  line : d.line.natAbs < 10 ^ Decimal.digitLimit
  column : d.column.natAbs < 10 ^ Decimal.digitLimit
  severity : Severity.ofLabel d.severity.label = d.severity
  category : Category.ofLabel d.category.label = d.category

variable {d : Diagnostic}

theorem ofJson?_toJson (hd : d.IsExact) : ofJson? d.toJson = some d := by
  unfold ofJson? toJson
  simp [Json.member?, Json.lookup?, Named.get?, Json.text?, Json.int, hd.severity, hd.category]

theorem IsExact.toJson (hd : d.IsExact) : d.toJson.IsExact := by
  refine .object (by simp) ?_
  simp only [List.forall_mem_cons]
  exact ⟨hd.file, .text _, .text _, .text _, .text _, hd.help, .whole hd.line, .whole hd.column,
    .text _, nofun⟩

end Diagnostic

namespace Run

variable {host after : Host} {p : Path} {text : String}

theorem write_of_writeText (hwrite : writeText p text host = (.ok (), after)) :
    host.write p (.text text) = .ok after := by
  unfold writeText at hwrite
  rw [bind_apply, access_apply] at hwrite
  cases hdone : host.write p (.text text) with
  | error fault =>
    rw [hdone] at hwrite
    cases hwrite
  | ok done =>
    rw [hdone] at hwrite
    cases hwrite
    rfl

theorem readText_of_content (hcontent : host.content p = .ok (.text text)) :
    readText p host = (.ok text, host) := by
  unfold readText content
  rw [bind_apply, access_apply, hcontent]
  rfl

end Run

namespace Report

variable {diagnostics : List Diagnostic} {parent : Option Path} {host after : Host}
  {directory : Path}

theorem writeInto_of_write (hwrite : write diagnostics parent host = (.ok (some directory), after)) :
    ∃ counted, writeInto directory diagnostics counted = (.ok (), after) := by
  obtain ⟨place, counted, -, hrest⟩ := Run.bind_eq_ok.1 hwrite
  rw [Run.bind_of_ok (Run.attempt_apply _ _)] at hrest
  refine ⟨counted, ?_⟩
  rcases hinto : writeInto place diagnostics counted with ⟨_ | _, done⟩
  · rename_i fault
    rw [hinto] at hrest
    cases fault <;> cases hrest
  · rw [hinto] at hrest
    cases hrest
    exact hinto

/-- A report that was written has the file of all findings: nothing is written after it. -/
theorem content_of_writeInto (hwrite : writeInto directory diagnostics host = (.ok (), after)) :
    after.content (fileIn directory findingsName) = .ok (.text (findingsText diagnostics)) := by
  have hends : (fileIn directory findingsName).EndsIn findingsName :=
    Path.endsIn_div directory (by decide) (by decide) (by decide) (by decide)
  obtain ⟨_, made, -, hrest⟩ := Run.bind_eq_ok.1 hwrite
  cases hgroups : Group.ofDiagnostics diagnostics with
  | error fault =>
    rw [hgroups] at hrest
    cases hrest
  | ok groups =>
    rw [hgroups] at hrest
    obtain ⟨_, full, -, hfindings⟩ := Run.bind_eq_ok.1 hrest
    exact Host.content_of_write hends (Run.write_of_writeText hfindings)

theorem readText_of_write (hwrite : write diagnostics parent host = (.ok (some directory), after)) :
    (Run.readText (fileIn directory findingsName) after).1 = .ok (findingsText diagnostics) := by
  obtain ⟨counted, hinto⟩ := writeInto_of_write hwrite
  rw [Run.readText_of_content (content_of_writeInto hinto)]

theorem read_findingsText (hexact : ∀ d ∈ diagnostics, d.IsExact) :
    Json.read (findingsText diagnostics) = .ok (.array (diagnostics.map (·.toJson))) := by
  refine (Json.IsExact.array fun record hrecord => ?_).read_pretty
  obtain ⟨d, hd, rfl⟩ := List.mem_map.1 hrecord
  exact (hexact d hd).toJson

theorem mapM_ofJson?_toJson (hexact : ∀ d ∈ diagnostics, d.IsExact) :
    (diagnostics.map (·.toJson)).mapM Diagnostic.ofJson? = some diagnostics := by
  rw [option_mapM_eq_some, List.map_map]
  exact List.map_congr_left fun d hd => Diagnostic.ofJson?_toJson (hexact d hd)

/-- When a report was written, its file of all findings is read as their records, in their order, and
the findings can be rebuilt from the records. So two reports have the same file only if they are about
the same findings. -/
theorem exists_readText_write (hexact : ∀ d ∈ diagnostics, d.IsExact)
    (hwrite : write diagnostics parent host = (.ok (some directory), after)) :
    ∃ text, (Run.readText (fileIn directory findingsName) after).1 = .ok text ∧
      Json.read text = .ok (.array (diagnostics.map (·.toJson))) ∧
      (diagnostics.map (·.toJson)).mapM Diagnostic.ofJson? = some diagnostics ∧
      ∀ others parent' host' directory' after', (∀ d ∈ others, d.IsExact) →
        write others parent' host' = (.ok (some directory'), after') →
        (Run.readText (fileIn directory' findingsName) after').1 = .ok text →
        others = diagnostics := by
  refine ⟨_, readText_of_write hwrite, read_findingsText hexact, mapM_ofJson?_toJson hexact, ?_⟩
  intro others parent' host' directory' after' hothers hwrite' hsame
  have htexts : findingsText others = findingsText diagnostics :=
    Except.ok.inj ((readText_of_write hwrite').symm.trans hsame)
  have hrecords := read_findingsText hothers
  rw [htexts, read_findingsText hexact, Except.ok.injEq, Json.array.injEq] at hrecords
  have hrebuilt := mapM_ofJson?_toJson hothers
  rw [← hrecords, mapM_ofJson?_toJson hexact] at hrebuilt
  exact (Option.some.inj hrebuilt).symm

end Report

/-- A finding with quotes, a backslash, control characters, a character beyond the basic plane and a
number below zero in it. -/
def Diagnostic.withEscapes : Diagnostic where
  file := .text "src\\App \"é\".tsx"
  plugin := "react"
  rule := "jsx-key"
  severity := .error
  message := "Missing key:\n\t\x01\x7f 😀"
  help := .text ""
  line := -12
  column := 0
  category := .custom "Lists"

theorem Diagnostic.isExact_withEscapes : Diagnostic.withEscapes.IsExact where
  file := .text _
  help := .text _
  line := by decide +kernel
  column := by decide +kernel
  severity := by decide +kernel
  category := by decide +kernel

/-- The file with that finding is read as its record. -/
theorem Report.exists_readText_withEscapes : ∃ directory after text,
    (∀ d ∈ [Diagnostic.withEscapes], d.IsExact) ∧
    write [Diagnostic.withEscapes] none (.ofProject "" (fun _ => .unavailable) fun _ _ _ => .hangs) =
      (.ok (some directory), after) ∧
    (Run.readText (fileIn directory findingsName) after).1 = .ok text ∧
    Json.read text = .ok (.array [Diagnostic.withEscapes.toJson]) := by
  have hexact : ∀ d ∈ [Diagnostic.withEscapes], d.IsExact := by
    simp [Diagnostic.isExact_withEscapes]
  obtain ⟨written, after, hwrite, hsome⟩ := Run.exists_of_returnsWith
    (show Run.returnsWith (write [Diagnostic.withEscapes] none)
      (.ofProject "" (fun _ => .unavailable) fun _ _ _ => .hangs)
      (fun written _ => written.isSome) = true by decide +kernel)
  obtain ⟨directory, rfl⟩ := Option.isSome_iff_exists.1 hsome
  obtain ⟨text, htext, hread, -⟩ := exists_readText_write hexact hwrite
  exact ⟨directory, after, text, hexact, hwrite, htext, hread⟩

end Checkup
