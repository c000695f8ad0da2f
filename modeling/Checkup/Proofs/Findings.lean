import Checkup.Proofs.Isolation

/-!
# What the checks find

A finding is made in one of three ways: of an entry in the linter's report, as an issue in that of
the dead-code tool, or by the built-in check, which has one finding only. What holds of all findings
is shown of the three ways in which they are made; that every finding is made so is shown once, by
going through the reading of the reports and the running of the tools.
-/

namespace Checkup

namespace Diagnostic

def HasTextFile (d : Diagnostic) : Prop :=
  ∃ path, d.file = .text path

/-- The severity is one of the two that are counted, and the category is on the list. -/
structure IsWellFormed (d : Diagnostic) : Prop where
  severity : d.severity = .error ∨ d.severity = .warning
  category : d.category ∈ Category.all

end Diagnostic

/-! ### The linter -/

namespace Lint

theorem Catalogue.category_mem_all {rule : Rule} (hrule : rule ∈ all) :
    rule.category ∈ Category.all := by
  have hall : ∀ rule ∈ all, rule.category ∈ Category.all := by decide +kernel
  exact hall rule hrule

theorem pluginCategory_mem_all {plugin : String} {category : Category}
    (hplugin : Named.get? plugin pluginCategories = some category) : category ∈ Category.all := by
  have hall : ∀ entry ∈ pluginCategories, entry.2 ∈ Category.all := by decide +kernel
  exact hall _ (Named.mem_of_get?_eq_some hplugin)

/-- Whatever rule and plugin a report names, the category is on the list. -/
theorem categoryOf_mem_all (plugin rule : String) : categoryOf plugin rule ∈ Category.all := by
  unfold categoryOf
  cases hentry : Catalogue.entry? plugin rule with
  | some known =>
    unfold Catalogue.entry? at hentry
    split at hentry
    · exact Catalogue.category_mem_all (List.mem_of_find?_eq_some hentry)
    · cases hentry
  | none =>
    cases hplugin : Named.get? plugin pluginCategories with
    | some category => exact pluginCategory_mem_all hplugin
    | none => decide

/-- The finding is made of an entry of a report, about a component file. -/
def IsOfEntry (d : Diagnostic) : Prop :=
  ∃ entry code file, SourceFile.isComponent file = true ∧ entryDiagnostic entry code file = .ok d

theorem gives_entryDiagnostic (entry code : Json) (file : String) :
    Gives (fun d => d.file = .text file ∧ d.IsWellFormed) (entryDiagnostic entry code file) := by
  refine .bind_right fun text => .bind_right fun said => .bind_right fun help => ?_
  refine .bind_right fun span => .bind_right fun severity => ?_
  refine .bind_right fun line => .bind_right fun lineCount => ?_
  refine .bind_right fun column => .bind_right fun columnCount => .pure ⟨rfl, ?_, ?_⟩
  -- a severity that is no error passes for a warning, whatever it says
  · dsimp only
    split
    · exact .inl rfl
    · exact .inr rfl
  · exact categoryOf_mem_all _ _

theorem IsOfEntry.exists_file {d : Diagnostic} :
    IsOfEntry d → ∃ file, SourceFile.isComponent file = true ∧ d.file = .text file := by
  rintro ⟨entry, code, file, hcomponent, hd⟩
  exact ⟨file, hcomponent, (gives_entryDiagnostic entry code file d hd).1⟩

theorem IsOfEntry.hasTextFile {d : Diagnostic} (hentry : IsOfEntry d) : d.HasTextFile := by
  obtain ⟨file, -, hfile⟩ := hentry.exists_file
  exact ⟨file, hfile⟩

theorem IsOfEntry.isWellFormed {d : Diagnostic} : IsOfEntry d → d.IsWellFormed := by
  rintro ⟨entry, code, file, -, hd⟩
  exact (gives_entryDiagnostic entry code file d hd).2

theorem gives_entry (entry : Json) :
    Gives (fun found => ∀ d ∈ found, IsOfEntry d) <| entry? entry := by
  refine .bind_right fun code => .bind_right fun file => ?_
  split
  · exact .pure fun _ hd => nomatch hd
  have hpath (path : String) : Gives (fun found => ∀ d ∈ found, IsOfEntry d)
      (if !SourceFile.isComponent path then pure none
        else do return some (← entryDiagnostic entry code path)) := by
    split
    · exact .pure fun _ hd => nomatch hd
    case isFalse hcomponent =>
      have hmade : Gives IsOfEntry (entryDiagnostic entry code path) :=
        fun d hd => ⟨entry, code, path, by simpa using hcomponent, hd⟩
      refine .bind hmade fun d hd => .pure ?_
      simpa using hd
  dsimp only
  split <;> exact .bind_right hpath

theorem gives_entries (reported : List Json) :
    Gives (fun found => ∀ d ∈ found, IsOfEntry d) (entries reported) := by
  induction reported with
  | nil => exact .pure (List.forall_mem_nil _)
  | cons entry rest ih =>
    refine .bind (gives_entry entry) fun first hfirst => .bind ih fun others hothers => .pure ?_
    intro d hd
    rcases List.mem_append.1 hd with hd | hd
    · exact hfirst d (Option.mem_toList.1 hd)
    · exact hothers d hd

theorem gives_parseReport (output : String) :
    Gives (fun found => ∀ d ∈ found, IsOfEntry d) (parseReport output) := by
  unfold parseReport
  dsimp only
  split
  · exact .pure (List.forall_mem_nil _)
  refine .bind_right fun value => ?_
  split
  · exact fun found hfound => gives_entries _ found (except_mapError_eq_ok.1 hfound)
  · exact .error _

theorem yields_lintBatch (arguments : List String) (root : Path)
    (environment : Option Variables) :
    Run.Yields (fun found => ∀ d ∈ found, IsOfEntry d) (lintBatch arguments root environment) := by
  refine .bind_right fun result => ?_
  split
  · exact .throw _
  · split
    · rename_i found hfound
      exact .pure (gives_parseReport _ found hfound)
    · exact .throw _

theorem yields_lintBatches (base : List String) (root : Path) (environment : Option Variables)
    (batches : List (List String)) :
    Run.Yields (fun found => ∀ d ∈ found, IsOfEntry d)
      (lintBatches base root environment batches) := by
  induction batches with
  | nil => exact .pure (List.forall_mem_nil _)
  | cons batch rest ih =>
    refine .bind (yields_lintBatch _ _ _) fun found hfound => .bind ih fun more hmore => .pure ?_
    intro d hd
    exact (List.mem_append.1 hd).elim (hfound d) (hmore d)

theorem yields_check (fixed : Option (List String)) (context : CheckContext) :
    Run.Yields (fun found => ∀ d ∈ found, IsOfEntry d) (check fixed context) := by
  unfold check
  split
  · exact .pure (List.forall_mem_nil _)
  refine .bind_right fun command => .bind_right fun host => .withLast ?_ _
  exact .bind_right fun _ => yields_lintBatches _ _ _ _

end Lint

/-! ### The dead-code tool -/

namespace RetryPolicy

variable {α : Type} {P : α → Prop} {step : Run α}

theorem yields_retryFrom (hstep : Run.Yields P step) (policy : RetryPolicy) (tried left : Nat) :
    Run.Yields P (policy.retryFrom Run.wait step tried left) := by
  induction left generalizing tried with
  | zero => exact hstep
  | succ left ih =>
    rw [retryFrom_succ]
    refine .bind hstep.attempt fun result hresult => ?_
    cases result with
    | ok a => exact .pure (hresult a rfl)
    | error fault => exact .ite (.bind_right fun _ => ih _) (.throw _)

theorem yields_retry (hstep : Run.Yields P step) (policy : RetryPolicy) :
    Run.Yields P (policy.retry Run.wait step) :=
  .ite (.throw _) (yields_retryFrom hstep policy _ _)

end RetryPolicy

namespace DeadCode

def Issue.IsAbout (file : Json) (d : Diagnostic) : Prop :=
  ∃ (issue : Issue) (names : String) (line column : Int), d = issue.diagnostic file names line column

open Issue (IsAbout)

theorem Issue.isAbout (issue : Issue) (file : Json) (names : String) (line column : Int) :
    IsAbout file (issue.diagnostic file names line column) :=
  ⟨issue, names, line, column, rfl⟩

theorem Issue.IsAbout.isWellFormed {file : Json} {d : Diagnostic} :
    IsAbout file d → d.IsWellFormed := by
  rintro ⟨issue, names, line, column, rfl⟩
  have hlisted : Category.deadCode ∈ Category.all := by decide
  exact ⟨.inr rfl, hlisted⟩

theorem gives_symbols (issue : Issue) (file : Json) (items : List Json) :
    Gives (fun found => ∀ d ∈ found, IsAbout file d) (symbols issue file items) := by
  induction items with
  | nil => exact .pure (List.forall_mem_nil _)
  | cons item rest ih =>
    unfold symbols
    cases item with
    | object members =>
      refine .bind_right fun place => .bind ih fun others hothers => .pure ?_
      exact List.forall_mem_cons.2 ⟨issue.isAbout _ _ _ _, hothers⟩
    | _ => exact ih

theorem gives_duplicate (file : Json) (group : List Json) :
    Gives (IsAbout file) (duplicate file group) :=
  .bind_right fun _ => .bind_right fun _ => .pure (Issue.duplicate.isAbout _ _ _ _)

theorem gives_duplicates (file : Json) (groups : List Json) :
    Gives (fun found => ∀ d ∈ found, IsAbout file d) (duplicates file groups) := by
  induction groups with
  | nil => exact .pure (List.forall_mem_nil _)
  | cons group rest ih =>
    have hrest : Gives (fun found => ∀ d ∈ found, IsAbout file d) (duplicates file rest) := ih
    unfold duplicates
    split
    · exact .pure (List.forall_mem_nil _)
    · rename_i first others more heq
      cases heq
      refine .bind (gives_duplicate file (first :: others)) fun d hd => ?_
      exact .bind hrest fun found hfound => .pure (List.forall_mem_cons.2 ⟨hd, hfound⟩)
    · rename_i heq
      cases heq
      exact hrest

theorem gives_issueEntries (issue file : Json) :
    Gives (fun found => ∀ d ∈ found, IsAbout file d) (issueEntries issue file) := by
  refine .bind_right fun given => .bind_right fun items => ?_
  refine .bind (gives_symbols _ _ _) fun exported hexported => ?_
  refine .bind_right fun given => .bind_right fun items => ?_
  refine .bind (gives_symbols _ _ _) fun types htypes => ?_
  refine .bind_right fun given => .bind_right fun items => ?_
  refine .bind (gives_duplicates _ _) fun groups hgroups => .pure fun d hd => ?_
  rcases List.mem_append.1 hd with hd | hd
  · exact (List.mem_append.1 hd).elim (hexported d) (htypes d)
  · exact hgroups d hd

theorem gives_issueFile (seen : List Json) (issue file : Json) :
    Gives (fun found => ∀ key ∈ found, key = file) (issueFile seen issue file) := by
  refine .bind_right fun given => ?_
  split
  · have hkey : Gives (fun key => key = file) file.asKey := by
      unfold Json.asKey
      split
      · exact .error _
      · exact .error _
      · exact .pure rfl
    refine .bind hkey fun key heq => ?_
    split
    · exact .pure (List.forall_mem_nil _)
    · exact .pure fun other hother => (List.mem_singleton.1 hother).trans heq
  · exact .pure (List.forall_mem_nil _)

/-- The findings of the issues are about the files that the issues give. -/
theorem gives_issues (seen reported : List Json) :
    Gives (fun found => ∀ d ∈ found,
        ∃ issue ∈ reported, ∃ file, issue.get "file" = .ok file ∧ IsAbout file d)
      (issues seen reported) := by
  induction reported generalizing seen with
  | nil => exact .pure (List.forall_mem_nil _)
  | cons issue rest ih =>
    have hrest (seen : List Json) : Gives (fun found => ∀ d ∈ found,
        ∃ other ∈ issue :: rest, ∃ file, other.get "file" = .ok file ∧ IsAbout file d)
        (issues seen rest) := by
      intro found hfound d hd
      obtain ⟨other, hother, hfile⟩ := ih seen found hfound d hd
      exact ⟨other, List.mem_cons_of_mem _ hother, hfile⟩
    have hfile : Gives (fun file => issue.get "file" = .ok file) (issue.get "file") :=
      fun _ hfile => hfile
    refine .bind hfile fun file hfile => ?_
    split
    · exact hrest seen
    refine .bind (gives_issueFile _ _ _) fun unused hunused => ?_
    refine .bind (gives_issueEntries _ _) fun found hfound => ?_
    refine .bind (hrest _) fun more hmore => .pure fun d hd => ?_
    have hown (habout : IsAbout file d) : ∃ other ∈ issue :: rest,
        ∃ file, other.get "file" = .ok file ∧ IsAbout file d :=
      ⟨issue, List.mem_cons_self, file, hfile, habout⟩
    rcases List.mem_append.1 hd with hd | hd
    · rcases List.mem_append.1 hd with hd | hd
      · obtain ⟨key, hkey, rfl⟩ := List.mem_map.1 hd
        obtain rfl := hunused key hkey
        exact hown (Issue.unusedFile.isAbout _ _ _ _)
      · exact hown (hfound d hd)
    · exact hmore d hd

theorem exists_text_of_mem_listedFiles (seen listed : List Json) :
    ∀ key ∈ listedFiles seen listed, ∃ path, key = .text path := by
  induction listed generalizing seen with
  | nil => exact List.forall_mem_nil _
  | cons item rest ih =>
    unfold listedFiles
    split
    · exact List.forall_mem_nil _
    · rename_i name others heq
      cases heq
      split
      · exact ih _
      · exact List.forall_mem_cons.2 ⟨⟨name, rfl⟩, ih _⟩
    · rename_i heq
      cases heq
      exact ih _

/-- The findings of a report are about listed files, which are texts, or about what an issue gives
for its file, which may be anything. -/
theorem gives_ofReport (report : List (String × Json)) :
    Gives (fun found => ∀ d ∈ found, ∃ file, IsAbout file d ∧
        ((∃ path, file = .text path) ∨ ∃ reported,
          (Json.lookup report "issues").eachGiven = .ok reported ∧
          ∃ issue ∈ reported, issue.get "file" = .ok file)) (ofReport report) := by
  have hreported : Gives (fun reported => (Json.lookup report "issues").eachGiven = .ok reported)
      (Json.lookup report "issues").eachGiven := fun _ hreported => hreported
  refine .bind_right fun listed => .bind hreported fun reported hreported => ?_
  refine .bind (gives_issues _ _) fun found hfound => .pure fun d hd => ?_
  rcases List.mem_append.1 hd with hd | hd
  · obtain ⟨key, hkey, rfl⟩ := List.mem_map.1 hd
    exact ⟨key, Issue.unusedFile.isAbout _ _ _ _, .inl (exists_text_of_mem_listedFiles _ _ key hkey)⟩
  · obtain ⟨issue, hissue, file, hfile, habout⟩ := hfound d hd
    exact ⟨file, habout, .inr ⟨reported, hreported, issue, hissue, hfile⟩⟩

theorem gives_parseReport (output : String) :
    Gives (fun found => ∀ d ∈ found, ∃ file, IsAbout file d) (parseReport output) := by
  unfold parseReport
  dsimp only
  split
  · exact .pure (List.forall_mem_nil _)
  refine .bind_right fun value => ?_
  split
  · intro found hfound d hd
    obtain ⟨file, habout, -⟩ := gives_ofReport _ found (except_mapError_eq_ok.1 hfound) d hd
    exact ⟨file, habout⟩
  · exact .error _

theorem yields_runOnce (arguments : List String) (root : Path) :
    Run.Yields (fun found => ∀ d ∈ found, ∃ file, IsAbout file d) (runOnce arguments root) := by
  refine .bind_right fun result => .ite (.bind_right fun _ => ?_) ?_ <;>
  · cases hfound : parseReport result.output with
    | ok found => exact .pure (gives_parseReport _ found hfound)
    | error fault => exact .throw _

theorem yields_check (fixed : Option (List String)) (patience : Patience)
    (context : CheckContext) :
    Run.Yields (fun found => ∀ d ∈ found, ∃ file, IsAbout file d)
      (check fixed patience context) := by
  refine .bind_right fun command => ?_
  cases command with
  | none => exact .throw _
  | some words => exact RetryPolicy.yields_retry (yields_runOnce _ _) _

end DeadCode

/-! ### The built-in check -/

theorem ReducedMotion.yields_check (root : Path) :
    Run.Yields (fun found => ∀ d ∈ found, d = finding) (check root) := by
  refine .bind_right fun isThere => ?_
  split
  · exact .pure (List.forall_mem_nil _)
  refine .bind_right fun manifest => ?_
  split
  · exact .pure (List.forall_mem_nil _)
  refine .bind_right fun mentioned => ?_
  split
  · exact .pure (List.forall_mem_nil _)
  · exact .pure fun d hd => List.mem_singleton.1 hd

theorem ReducedMotion.isWellFormed_finding : finding.IsWellFormed :=
  ⟨.inl rfl, by decide⟩

/-! ### Scans -/

section Scan

variable {lint deadCode : Option (List String)} {first : Tool} {prospect : Prospect} {host : Host}

/-- What a check yields is true of all that it comes to in a scan, for it comes to nothing when it
fails or is not wanted. -/
theorem Checks.forall_mem_outcome {checks : Checks} {tool : Tool} {P : Diagnostic → Prop}
    (hcheck : Run.Yields (fun found => ∀ d ∈ found, P d) (checks.of tool prospect.context)) :
    ∀ d ∈ (checks.outcome prospect tool host).diagnostics, P d := by
  unfold outcome
  split
  · cases hresult : (checks.of tool prospect.context host).1 with
    | ok found => exact hcheck host found hresult
    | error fault =>
      obtain ⟨why, hwhy⟩ := CheckOutcome.ofResult_error fault
      rw [hwhy]
      exact List.forall_mem_nil _
  · exact List.forall_mem_nil _

theorem Checks.isOfEntry_of_mem_outcome :
    ∀ d ∈ ((inOrder lint deadCode first).outcome prospect .linter host).diagnostics,
      Lint.IsOfEntry d :=
  forall_mem_outcome (Lint.yields_check lint prospect.context)

theorem Checks.isAbout_of_mem_outcome :
    ∀ d ∈ ((inOrder lint deadCode first).outcome prospect .deadCode host).diagnostics,
      ∃ file, DeadCode.Issue.IsAbout file d :=
  forall_mem_outcome (DeadCode.yields_check deadCode DeadCode.usualPatience prospect.context)

theorem Prospect.eq_finding_of_mem_own {own : List Diagnostic}
    (hown : (prospect.own host).1 = .ok own) : ∀ d ∈ own, d = ReducedMotion.finding := by
  unfold Prospect.own at hown
  split at hown
  · cases hown
    exact List.forall_mem_nil _
  · exact ReducedMotion.yields_check prospect.directory host own hown

end Scan

end Checkup
