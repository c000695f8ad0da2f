import Checkup.Proofs.Totality
import Checkup.Report.Gate

/-!
# What suppression leaves

Suppression is a filter: of each finding, in turn, it asks whether the rule is listed or a pattern
matches the path of the file. So what is left of several lists is what is left of each of them, a
second suppression finds nothing to do, and settings that list more leave less. The score and the
gate count findings, and so settings that list more never cost points and never fail a run.
-/

namespace Checkup

namespace Suppression

/-- The rules that the settings list, if there are settings. -/
def rulesOf (settings : Option Settings) : List String :=
  (settings.map (·.ignoredRules)).getD []

/-- The file patterns that the settings list, if there are settings. -/
def patternsOf (settings : Option Settings) : List String :=
  (settings.map (·.ignoredFiles)).getD []

/-- Whether the settings list the rule of the finding or a pattern for the path of its file. -/
def suppresses (settings : Option Settings) (d : Diagnostic) : Bool :=
  (rulesOf settings).contains d.ruleKey ||
    match d.file with
    | .text path => coversPath (patternsOf settings) path
    | _ => false

def kept (settings : Option Settings) (found : List Diagnostic) : List Diagnostic :=
  found.filter fun d => !suppresses settings d

theorem kept_append (settings : Option Settings) (found more : List Diagnostic) :
    kept settings (found ++ more) = kept settings found ++ kept settings more :=
  List.filter_append ..

theorem kept_kept (settings : Option Settings) (found : List Diagnostic) :
    kept settings (kept settings found) = kept settings found := by
  unfold kept
  simp

theorem kept_of_eq_nil {settings : Option Settings} (hrules : rulesOf settings = [])
    (hpatterns : patternsOf settings = []) (found : List Diagnostic) :
    kept settings found = found := by
  refine List.filter_eq_self.2 fun d _ => ?_
  unfold suppresses
  rw [hrules, hpatterns]
  cases d.file <;> rfl

/-! ### Suppression as a filter -/

theorem covers_eq_ok {settings : Settings} {d : Diagnostic} {covered : Bool}
    (hcovers : covers settings d = .ok covered) : suppresses (some settings) d = covered := by
  unfold covers at hcovers
  unfold suppresses
  change (settings.ignoredRules.contains d.ruleKey || _) = covered
  split at hcovers
  · rename_i hrule
    rw [hrule, Bool.true_or]
    exact Except.ok.inj hcovers
  · rename_i hrule
    rw [Bool.eq_false_iff.2 hrule, Bool.false_or]
    unfold coversFile at hcovers
    revert hcovers
    cases d.file with
    | text path =>
      intro hcovers
      exact Except.ok.inj hcovers
    | _ => exact nofun

theorem remaining_eq_ok {settings : Settings} {found left : List Diagnostic}
    (hleft : remaining settings found = .ok left) : left = kept (some settings) found := by
  induction found generalizing left with
  | nil => exact (Except.ok.inj hleft).symm
  | cons d rest ih =>
    obtain ⟨covered, hcovered, hleft⟩ := except_bind_eq_ok.1 hleft
    obtain ⟨others, hothers, hleft⟩ := except_bind_eq_ok.1 hleft
    have hrest := ih hothers
    have hd := covers_eq_ok hcovered
    cases hleft
    unfold kept at *
    cases covered with
    | true => simp [hd, hrest]
    | false => simp [hd, hrest]

end Suppression

open Suppression (kept rulesOf patternsOf suppresses)

theorem unsuppressed_eq_ok {settings : Option Settings} {found left : List Diagnostic}
    (hleft : unsuppressed settings found = .ok left) : left = kept settings found := by
  cases settings with
  | none =>
    cases hleft
    exact (Suppression.kept_of_eq_nil rfl rfl _).symm
  | some settings => exact Suppression.remaining_eq_ok hleft

/-- Findings whose files are texts can be kept or suppressed, each of them. -/
theorem Suppression.remaining_eq_kept {found : List Diagnostic}
    (hfiles : ∀ d ∈ found, d.HasTextFile) (settings : Settings) :
    remaining settings found = .ok (kept (some settings) found) := by
  obtain ⟨left, hleft⟩ : ∃ left, unsuppressed (some settings) found = .ok left :=
    exists_unsuppressed_eq_ok.2 fun _ _ d hd => .inr (hfiles d hd)
  exact hleft.trans (congrArg Except.ok (unsuppressed_eq_ok hleft))

/-- What is left of findings is left of them once more, also together with others. -/
theorem unsuppressed_of_sublist {settings : Option Settings} {found left some : List Diagnostic}
    (hleft : unsuppressed settings found = .ok left) (hsome : some.Sublist found) :
    unsuppressed settings some = .ok (kept settings some) := by
  have hall := exists_unsuppressed_eq_ok.1 ⟨left, hleft⟩
  obtain ⟨kept, hkept⟩ := exists_unsuppressed_eq_ok.2
    fun s hs d hd => hall s hs d (hsome.subset hd)
  rw [hkept, unsuppressed_eq_ok hkept]

/-! ### Settings that list more -/

/-- The second settings list what the first ones list, and maybe more. -/
structure Suppression.ListsMore (settings more : Option Settings) : Prop where
  rules : rulesOf settings ⊆ rulesOf more
  patterns : patternsOf settings ⊆ patternsOf more

namespace Suppression

variable {settings more : Option Settings}

theorem ListsMore.suppresses (hmore : ListsMore settings more) {d : Diagnostic}
    (hd : suppresses settings d = true) : suppresses more d = true := by
  unfold Suppression.suppresses at *
  rw [Bool.or_eq_true] at *
  rcases hd with hrule | hfile
  · left
    rw [List.contains_iff_mem] at *
    exact hmore.rules hrule
  · right
    cases hpath : d.file with
    | text path =>
      rw [hpath] at hfile
      obtain ⟨pattern, hpattern, haccepts⟩ := List.any_eq_true.1 hfile
      exact List.any_eq_true.2 ⟨pattern, hmore.patterns hpattern, haccepts⟩
    | _ =>
      rw [hpath] at hfile
      cases hfile

theorem ListsMore.kept_sublist (hmore : ListsMore settings more) (found : List Diagnostic) :
    (kept more found).Sublist (kept settings found) := by
  have hkept : kept more found = kept more (kept settings found) := by
    unfold kept
    rw [List.filter_filter]
    refine List.filter_congr fun d _ => ?_
    cases hd : Suppression.suppresses settings d with
    | false => simp
    | true => simp [hmore.suppresses hd]
  rw [hkept]
  exact List.filter_sublist

end Suppression

/-! ### Fewer findings -/

theorem total_le_of_sublist {α : Type} (measure : α → Nat) {items more : List α}
    (hless : items.Sublist more) : total measure items ≤ total measure more := by
  induction hless with
  | slnil => exact Nat.le_refl _
  | cons a _ ih =>
    rw [total_cons]
    omega
  | cons_cons a _ ih =>
    rw [total_cons, total_cons]
    omega

theorem Score.le_of_sublist {less more : List Diagnostic} (hless : less.Sublist more) :
    (ofDiagnostics more).score ≤ (ofDiagnostics less).score := by
  have htotal := total_le_of_sublist penalty hless
  change (roundQuarters (quarters more) : Int) ≤ roundQuarters (quarters less)
  unfold roundQuarters quarters
  omega

theorem FailOn.fails_of_sublist (level : FailOn) {less more : List Diagnostic}
    (hless : less.Sublist more) (hfails : level.fails less = true) : level.fails more = true := by
  cases level with
  | error =>
    obtain ⟨d, hd, herror⟩ := List.any_eq_true.1 hfails
    exact List.any_eq_true.2 ⟨d, hless.subset hd, herror⟩
  | warning =>
    cases more with
    | nil =>
      rw [List.sublist_nil.1 hless] at hfails
      exact hfails
    | cons d rest => rfl
  | never => exact hfails

/-! ### Putting the findings together -/

/-- The findings of all checks in their order; a limited run leaves the built-in one out. -/
def gathered (lint deadCode own : List Diagnostic) (limited : Bool) : List Diagnostic :=
  lint ++ deadCode ++ if limited then [] else own

section Combine

variable {lint deadCode own : List Diagnostic} {directory : Path} {limited : Bool}
  {builtin : Path → Run (List Diagnostic)} {host : Host}

/-- With the findings of the built-in check, where it is run, all depends on the suppression. -/
theorem fst_combine (hown : limited = false → (builtin directory host).1 = .ok own)
    (settings : Option Settings) :
    (combine lint deadCode directory limited settings builtin host).1 =
      (unsuppressed settings (gathered lint deadCode own limited)).mapError .shape := by
  unfold combine gathered
  cases limited with
  | true =>
    rw [if_pos rfl, if_pos rfl, pure_bind]
    dsimp only
    cases unsuppressed settings (lint ++ deadCode ++ []) <;> rfl
  | false =>
    rcases hrun : builtin directory host with ⟨result, after⟩
    have hresult := hown rfl
    rw [hrun] at hresult
    rw [if_neg (by decide), if_neg (by decide),
      Run.bind_of_ok (hrun.trans (congrArg (·, after) hresult))]
    dsimp only
    cases unsuppressed settings (lint ++ deadCode ++ own) <;> rfl

/-- Putting the findings together returns when each of them can be suppressed or kept: always where
the files are texts, and then the findings that are not suppressed are left, each in its place. It
is the same to suppress the findings of each check by themselves, or to suppress twice. Settings
that list more leave fewer of them, with no fewer points and no more failures, and settings that
list nothing leave all. -/
theorem combine_of_settings (hown : limited = false → (builtin directory host).1 = .ok own)
    (settings : Option Settings) :
    ((∀ d ∈ gathered lint deadCode own limited, d.HasTextFile) →
      ∃ left, (combine lint deadCode directory limited settings builtin host).1 = .ok left) ∧
    ∀ left, (combine lint deadCode directory limited settings builtin host).1 = .ok left →
      left = (gathered lint deadCode own limited).filter (fun d => !suppresses settings d) ∧
      left.Sublist (gathered lint deadCode own limited) ∧
      (∃ ofLint ofDeadCode ofOwn,
        unsuppressed settings lint = .ok ofLint ∧
        unsuppressed settings deadCode = .ok ofDeadCode ∧
        unsuppressed settings (if limited then [] else own) = .ok ofOwn ∧
        left = ofLint ++ ofDeadCode ++ ofOwn) ∧
      unsuppressed settings left = .ok left ∧
      (∀ more less, Suppression.ListsMore settings more →
        (combine lint deadCode directory limited more builtin host).1 = .ok less →
        less.Sublist left ∧
        (Score.ofDiagnostics left).score ≤ (Score.ofDiagnostics less).score ∧
        ∀ level : FailOn, level.fails less = true → level.fails left = true) ∧
      (rulesOf settings = [] → patternsOf settings = [] →
        left = gathered lint deadCode own limited) := by
  have hleft {settings : Option Settings} {left : List Diagnostic}
      (hcombine : (combine lint deadCode directory limited settings builtin host).1 = .ok left) :
      unsuppressed settings (gathered lint deadCode own limited) = .ok left := by
    rw [fst_combine hown] at hcombine
    exact except_mapError_eq_ok.1 hcombine
  constructor
  · intro htexts
    obtain ⟨left, hunsuppressed⟩ :=
      exists_unsuppressed_eq_ok.2 fun s (_ : s ∈ settings) d hd => .inr (htexts d hd)
    refine ⟨left, ?_⟩
    rw [fst_combine hown]
    exact except_mapError_eq_ok.2 hunsuppressed
  intro left hcombine
  have hunsuppressed := hleft hcombine
  obtain rfl := unsuppressed_eq_ok hunsuppressed
  have hsublist : (kept settings (gathered lint deadCode own limited)).Sublist
      (gathered lint deadCode own limited) := List.filter_sublist
  refine ⟨rfl, hsublist, ?_, ?_, ?_, ?_⟩
  · have hboth : (lint ++ deadCode).Sublist (gathered lint deadCode own limited) :=
      List.sublist_append_left ..
    refine ⟨_, _, _,
      unsuppressed_of_sublist hunsuppressed ((List.sublist_append_left ..).trans hboth),
      unsuppressed_of_sublist hunsuppressed ((List.sublist_append_right ..).trans hboth),
      unsuppressed_of_sublist hunsuppressed (List.sublist_append_right ..), ?_⟩
    rw [gathered, Suppression.kept_append, Suppression.kept_append]
  · rw [unsuppressed_of_sublist hunsuppressed hsublist, Suppression.kept_kept]
  · intro more less hmore hless
    obtain rfl := unsuppressed_eq_ok (hleft hless)
    have hfewer := hmore.kept_sublist (gathered lint deadCode own limited)
    exact ⟨hfewer, Score.le_of_sublist hfewer, fun level => level.fails_of_sublist hfewer⟩
  · intro hrules hpatterns
    exact Suppression.kept_of_eq_nil hrules hpatterns _

end Combine

/-- A component without a key, and an export that nothing uses. -/
def Diagnostic.examples : List Diagnostic :=
  [{ (default : Diagnostic) with
      file := .text "src/App.tsx", plugin := "react", rule := "jsx-key", severity := .error },
    { (default : Diagnostic) with
      file := .text "src/old.ts", plugin := "knip", rule := "exports", severity := .warning }]

/-- Without the rule on exports one of the two is left, and fails a run; without the files below
`src` as well, none is, and the run passes. -/
theorem combine_withoutSources : ∃ left less,
    (combine (Diagnostic.examples.take 1) (Diagnostic.examples.drop 1) .root false
      (some { ignoredRules := ["knip/exports"] }) ReducedMotion.check
      Host.withNumberedFile).1 = .ok left ∧
    (combine (Diagnostic.examples.take 1) (Diagnostic.examples.drop 1) .root false
      (some { ignoredRules := ["knip/exports"], ignoredFiles := ["src/*"] }) ReducedMotion.check
      Host.withNumberedFile).1 = .ok less ∧
    left.length = 1 ∧ FailOn.error.fails left = true ∧ less.Sublist left ∧ less = [] := by
  obtain ⟨own, hown, hnone⟩ := exists_eq_ok_of_any
    (show (ReducedMotion.check .root Host.withNumberedFile).1.toOption.any List.isEmpty = true by
      decide +kernel)
  obtain rfl := List.isEmpty_iff.1 hnone
  have htexts : ∀ d ∈ gathered (Diagnostic.examples.take 1) (Diagnostic.examples.drop 1) [] false,
      d.HasTextFile := by
    intro d hd
    rcases List.mem_cons.1 hd with rfl | hd
    · exact ⟨"src/App.tsx", rfl⟩
    · exact ⟨"src/old.ts", congrArg Diagnostic.file (List.mem_singleton.1 hd)⟩
  have hmore : Suppression.ListsMore (some { ignoredRules := ["knip/exports"] })
      (some { ignoredRules := ["knip/exports"], ignoredFiles := ["src/*"] }) :=
    ⟨List.Subset.refl _, List.nil_subset _⟩
  obtain ⟨hreturns, hsettings⟩ :=
    combine_of_settings (fun _ => hown) (some { ignoredRules := ["knip/exports"] })
  obtain ⟨left, hleft⟩ := hreturns htexts
  obtain ⟨hreturns', hsettings'⟩ := combine_of_settings (fun _ => hown)
    (some { ignoredRules := ["knip/exports"], ignoredFiles := ["src/*"] })
  obtain ⟨less, hless⟩ := hreturns' htexts
  obtain ⟨hfilter, -, -, -, hfewer, -⟩ := hsettings left hleft
  refine ⟨left, less, hleft, hless, ?_, ?_, (hfewer _ less hmore hless).1, ?_⟩
  · rw [hfilter]
    decide +kernel
  · rw [hfilter]
    decide +kernel
  · rw [(hsettings' less hless).1]
    exact List.isEmpty_iff.1 (by decide +kernel)

end Checkup
