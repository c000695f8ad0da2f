import Checkup.Proofs.Totality

/-!
# Which settings count

The settings of a project are those that its settings file says, and otherwise those under the key of
its manifest. A file that is missing, is no JSON or says something else is passed over. Three things
are not, and end the run (`Settings.Stops`): a name that is too long for the system, bytes that are no
text, and a number of too many digits. They do so in the settings file, and in the manifest where the
settings file has not decided.
-/

namespace Checkup

open Run (IsQuestion)

/-- The value that a content says; none when it is no JSON. -/
def Content.json? (content : Content) : Option Json :=
  content.text?.bind fun text => (Json.read text).toOption

/-- The value that the file at a path says; none when there is no file, or no JSON in it. -/
def Host.json? (host : Host) (p : Path) : Option Json :=
  (host.content p).toOption.bind (·.json?)

inductive Content.Stops (content : Content) : Fault → Prop
  | bytes (htext : content.text? = none) : Stops content .undecodable
  | digits {text : String} {count : Nat} (htext : content.text? = some text)
      (hread : Json.read text = .error (.tooManyDigits count)) :
      Stops content (.shape (.tooManyDigits count))

namespace Settings

variable {root file : Path} {host : Host} {content : Content} {fault : Fault}

/-- What about a file stops the run that looks for settings there. -/
inductive Stops (file : Path) (host : Host) : Fault → Prop
  | name (hcontent : host.content file = .error .nameTooLong) :
      Stops file host (AccessFault.nameTooLong.toFault file)
  | content {content : Content} {fault : Fault} (hcontent : host.content file = .ok content)
      (hstops : content.Stops fault) : Stops file host fault

def own? (root : Path) (host : Host) : Option Settings :=
  (host.json? (root / fileName)).bind ofJson?

def embedded? (root : Path) (host : Host) : Option Settings :=
  ((host.json? (Manifest.file root)).bind (·.member? manifestKey)).bind ofJson?

/-- The step is stopped by the file, or nothing about the file stops it and it gives the settings. -/
def LooksAt (file : Path) (host : Host) (found : Option Settings) (step : Run (Option Settings)) :
    Prop :=
  (∃ fault, Stops file host fault ∧ (step host).1 = .error fault) ∨
    (∀ fault, ¬ Stops file host fault) ∧ (step host).1 = .ok found

theorem not_stops_of_error {access : AccessFault} (hcontent : host.content file = .error access)
    (haccess : access ≠ .nameTooLong) : ¬ Stops file host fault := by
  rintro (hname | ⟨hok, -⟩)
  · exact haccess (Except.error.inj (hcontent.symm.trans hname))
  · cases hcontent.symm.trans hok

theorem stops_iff (hcontent : host.content file = .ok content) :
    Stops file host fault ↔ content.Stops fault := by
  refine ⟨?_, .content hcontent⟩
  rintro (hname | ⟨hok, hstops⟩)
  · cases hcontent.symm.trans hname
  · exact Except.ok.inj (hcontent.symm.trans hok) ▸ hstops

theorem fst_valueIn (hcontent : host.content file = .ok content) :
    (valueIn file host).1 = match content.text?.map Json.read with
      | none => .error .undecodable
      | some (.ok value) => .ok (some value)
      | some (.error .malformed) => .ok none
      | some (.error (.tooManyDigits count)) => .error (.shape (.tooManyDigits count)) := by
  unfold valueIn Run.readText Run.content Run.access
  simp only [Run.bind_apply, Run.get_apply, Run.attempt_apply, hcontent]
  dsimp only [Run.pure_apply]
  rcases content.text? with _ | text
  · rfl
  · dsimp only [Run.pure_apply, Option.map_some]
    rcases Json.read text with (_ | count) | value <;> rfl

/-- The value in a file is what its content says, unless that stops the run. -/
theorem fst_valueIn_cases (hcontent : host.content file = .ok content) :
    (∃ fault, content.Stops fault ∧ (valueIn file host).1 = .error fault) ∨
      (∀ fault, ¬ content.Stops fault) ∧ (valueIn file host).1 = .ok content.json? := by
  rw [fst_valueIn hcontent]
  unfold Content.json?
  cases htext : content.text? with
  | none => exact .inl ⟨_, .bytes htext, rfl⟩
  | some text =>
    cases hread : Json.read text with
    | error read =>
      cases read with
      | malformed =>
        refine .inr ⟨fun fault => ?_, by simp [hread, Except.toOption]⟩
        rintro (hnone | ⟨hsome, hdigits⟩) <;> simp_all
      | tooManyDigits count => exact .inl ⟨_, .digits htext hread, by simp [hread]⟩
    | ok value =>
      refine .inr ⟨fun fault => ?_, by simp [hread, Except.toOption]⟩
      rintro (hnone | ⟨hsome, hdigits⟩) <;> simp_all

/-- A step that is about the value in a file, where the file is there, looks at the file. -/
theorem looksAt_of_valueIn {step : Run (Option Settings)} {choose : Option Json → Option Settings}
    (hstep : (step host).1 = (valueIn file host).1.map choose) (hquestion : IsQuestion step)
    (hnone : choose none = none) :
    LooksAt file host (choose (host.json? file))
      (do if ← Run.isFile file then step else return none) := by
  unfold LooksAt
  rw [(IsQuestion.isFile file).fst_bind fun _ => .ite hquestion (.pure _), Run.fst_isFile,
    Host.json?]
  cases hcontent : host.content file with
  | error access =>
    cases access with
    | nameTooLong => exact .inl ⟨_, .name hcontent, rfl⟩
    | missing | notDirectory | isDirectory | occupied | nulCharacter =>
      exact .inr ⟨fun _ => not_stops_of_error hcontent nofun, congrArg Except.ok hnone.symm⟩
  | ok content =>
    dsimp only [Except.bind, Except.toOption, Option.bind_some]
    rw [if_pos rfl, hstep]
    rcases fst_valueIn_cases hcontent with ⟨fault, hstops, hvalue⟩ | ⟨hfree, hvalue⟩ <;> rw [hvalue]
    · exact .inl ⟨fault, .content hcontent hstops, rfl⟩
    · exact .inr ⟨fun fault => mt (stops_iff hcontent).1 (hfree fault), rfl⟩

theorem fst_ofFile (file : Path) (host : Host) :
    (ofFile file host).1 = (valueIn file host).1.map (·.bind ofJson?) := by
  unfold ofFile
  rw [Run.bind_apply]
  rcases valueIn file host with ⟨fault | _ | value, mid⟩
  · rfl
  · rfl
  · cases value with
    | object members =>
      dsimp only [Except.map, Option.bind_some]
      cases ofJson? (.object members) <;> rfl
    | null | bool _ | number _ | text _ | array _ => rfl

theorem fst_ofManifestFile (file : Path) (host : Host) :
    (ofManifestFile file host).1 =
      (valueIn file host).1.map fun value => (value.bind (·.member? manifestKey)).bind ofJson? := by
  unfold ofManifestFile
  rw [Run.bind_apply]
  rcases valueIn file host with ⟨fault | _ | manifest, mid⟩
  · rfl
  · rfl
  · dsimp only [Except.map, Option.bind_some]
    rcases manifest.member? manifestKey with _ | embedded
    · rfl
    · cases embedded with
      | object members =>
        dsimp only [Option.bind_some]
        cases ofJson? (.object members) <;> rfl
      | null | bool _ | number _ | text _ | array _ => rfl

def lookOwn (root : Path) : Run (Option Settings) := do
  if ← Run.isFile (root / fileName) then ofFile (root / fileName) else return none

def lookEmbedded (root : Path) : Run (Option Settings) := do
  if ← Manifest.isIn root then ofManifestFile (Manifest.file root) else return none

theorem looksAt_lookOwn (root : Path) (host : Host) :
    LooksAt (root / fileName) host (own? root host) (lookOwn root) :=
  looksAt_of_valueIn (fst_ofFile _ host) (isQuestion_ofFile _) rfl

theorem looksAt_lookEmbedded (root : Path) (host : Host) :
    LooksAt (Manifest.file root) host (embedded? root host) (lookEmbedded root) :=
  looksAt_of_valueIn (fst_ofManifestFile _ host) (isQuestion_ofManifestFile _) rfl

theorem isQuestion_lookOwn (root : Path) : IsQuestion (lookOwn root) :=
  .bind (.isFile _) fun _ => .ite (isQuestion_ofFile _) (.pure _)

theorem isQuestion_lookEmbedded (root : Path) : IsQuestion (lookEmbedded root) :=
  .bind (Manifest.isQuestion_isIn root) fun _ => .ite (isQuestion_ofManifestFile _) (.pure _)

/-- The manifest is looked at where the settings file says no settings. -/
theorem fst_load (root : Path) (host : Host) :
    (load root host).1 = (lookOwn root host).1.bind fun
      | some settings => .ok (some settings)
      | none => (lookEmbedded root host).1 := by
  have hload : load root = (do
      match ← lookOwn root with
      | some settings => return some settings
      | none => lookEmbedded root) := by
    funext host
    unfold load lookOwn
    rw [Run.bind_apply, Run.bind_apply, Run.bind_apply]
    rcases Run.isFile (root / fileName) host with ⟨fault | _ | _, mid⟩
    · rfl
    · rfl
    · dsimp only
      rw [if_pos rfl, if_pos rfl, Run.bind_apply]
      rcases ofFile (root / fileName) mid with ⟨fault | _ | settings, after⟩ <;> rfl
  rw [hload, (isQuestion_lookOwn root).fst_bind fun found => ?_]
  · congr 1
    funext found
    cases found <;> rfl
  · cases found with
    | none => exact isQuestion_lookEmbedded root
    | some settings => exact .pure _

theorem Stops.eq {other : Fault} (hstops : Stops file host fault) (hother : Stops file host other) :
    fault = other := by
  rcases hstops with hname | ⟨hcontent, hstops⟩
  · rcases hother with - | ⟨hcontent, -⟩
    · rfl
    · cases hcontent.symm.trans hname
  · have hsame := (stops_iff hcontent).1 hother
    rcases hstops with hnone | ⟨htext, hread⟩ <;> rcases hsame with hnone' | ⟨htext', hread'⟩ <;>
      simp_all

theorem LooksAt.eq_ok_iff {step : Run (Option Settings)} {found result : Option Settings}
    (hlooks : LooksAt file host found step) :
    (step host).1 = .ok result ↔ (∀ fault, ¬ Stops file host fault) ∧ result = found := by
  rcases hlooks with ⟨fault, hstops, hstep⟩ | ⟨hfree, hstep⟩ <;> rw [hstep]
  · exact ⟨nofun, fun ⟨hfree, _⟩ => absurd hstops (hfree fault)⟩
  · exact ⟨fun hok => ⟨hfree, (Except.ok.inj hok).symm⟩, fun ⟨_, hfound⟩ => by rw [hfound]⟩

theorem LooksAt.eq_error_iff {step : Run (Option Settings)} {found : Option Settings}
    (hlooks : LooksAt file host found step) :
    (step host).1 = .error fault ↔ Stops file host fault := by
  rcases hlooks with ⟨other, hstops, hstep⟩ | ⟨hfree, hstep⟩ <;> rw [hstep]
  · exact ⟨fun hfault => Except.error.inj hfault ▸ hstops, fun hfault => by rw [hstops.eq hfault]⟩
  · exact ⟨nofun, fun hstops => absurd hstops (hfree fault)⟩

/-- Loading gives settings, or none, exactly when nothing stops the run, in the settings file or, where
that one says no settings, in the manifest. The settings are those of the settings file, else those
that the manifest says. Both are read to any depth, and without surrogates that stand alone. -/
theorem load_settles (root : Path) (host : Host) :
    (∀ result, (load root host).1 = .ok result ↔
      (∀ fault, ¬ Stops (root / fileName) host fault) ∧
      (own? root host = none → ∀ fault, ¬ Stops (Manifest.file root) host fault) ∧
      result = (own? root host).or (embedded? root host)) ∧
    ∀ fault, (load root host).1 = .error fault ↔
      Stops (root / fileName) host fault ∨
      (∀ other, ¬ Stops (root / fileName) host other) ∧ own? root host = none ∧
        Stops (Manifest.file root) host fault := by
  have hembedded := looksAt_lookEmbedded root host
  rw [fst_load]
  rcases looksAt_lookOwn root host with ⟨found, hstops, hlook⟩ | ⟨hfree, hlook⟩ <;> rw [hlook]
  · refine ⟨fun result => ⟨nofun, fun ⟨hfree, _⟩ => absurd hstops (hfree found)⟩, fun fault => ?_⟩
    constructor
    · rintro ⟨⟩
      exact .inl hstops
    · rintro (hfault | ⟨hfree, -⟩)
      · exact congrArg Except.error (hstops.eq hfault)
      · exact absurd hstops (hfree found)
  cases hown : own? root host with
  | some settings =>
    refine ⟨fun result => ?_, fun fault => ⟨nofun, ?_⟩⟩
    · exact ⟨fun hok => ⟨hfree, nofun, (Except.ok.inj hok).symm⟩,
        fun ⟨_, _, hresult⟩ => congrArg Except.ok hresult.symm⟩
    · rintro (hfault | ⟨-, hnone, -⟩)
      · exact absurd hfault (hfree fault)
      · cases hnone
  | none =>
    dsimp only [Except.bind]
    refine ⟨fun result => ?_, fun fault => ?_⟩
    · rw [hembedded.eq_ok_iff, Option.none_or]
      exact ⟨fun ⟨hfree', hresult⟩ => ⟨hfree, fun _ => hfree', hresult⟩,
        fun ⟨_, hfree', hresult⟩ => ⟨hfree' rfl, hresult⟩⟩
    · rw [hembedded.eq_error_iff]
      exact ⟨fun hstops => .inr ⟨hfree, rfl, hstops⟩,
        fun hcases => hcases.elim (absurd · (hfree fault)) (·.2.2)⟩

end Settings

/-- A project with settings in its manifest, and a settings file that begins with a byte order mark of
another encoding. -/
def Host.withForeignSettings : Host :=
  { ofProject "" (fun _ => .unavailable) fun _ _ _ => .hangs with
    tree := .directory [
      ("package.json", .file (.text "\x7b\"reactDoctor\":\x7b\"lint\":false\x7d\x7d")),
      ("react-doctor.config.json", .file (.bytes [0xff, 0xfe]))] }

/-- The manifest says settings, and loading them stops at the settings file. -/
theorem Settings.load_withForeignSettings :
    embedded? .root Host.withForeignSettings = some { lint := some false } ∧
    (load .root Host.withForeignSettings).1 = .error .undecodable :=
  ⟨by decide +kernel, eq_error_of_faultOf (by decide +kernel)⟩

end Checkup
