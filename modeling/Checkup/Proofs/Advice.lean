import Checkup.Estimate
import Checkup.Proofs.Run

/-!
# When the score service advises

An estimate is had from a successful response whose body is an object with both scores, and from no
other reply. A reply that cannot be understood gives none, and so does a run that is offline, which
asks for nothing. Three things stop a run (`Estimate.Breaks`): a proxy that the library makes no
connection through, another failure of the library than that of the connection, and a score that is
a number without end. Bodies are read to any depth, and surrogates that stand alone as one character.
-/

namespace Checkup

/-- The reply is a successful response, and its body is an object with the members. -/
inductive Reply.Carries (members : List (String × Json)) : Reply → Prop
  | response {status : Int} {body : Content} {text : String} (hlow : 200 ≤ status)
      (hhigh : status ≤ 299) (htext : Text.Encoding.decode? body.toBytes = some text)
      (hread : Json.read text = .ok (.object members)) : Carries members (.response status body)

/-- Only a number without end fails to be a whole number for having none. -/
theorem Json.asWhole_eq_infinite {value : Json} :
    value.asWhole = .error (.notFinite .infinite) ↔
      ∃ x negative, value = .number (.real x) ∧ Decimal.Exact.ofFloat x = .infinite negative := by
  constructor
  · intro hinfinite
    cases value with
    | number number =>
      cases number with
      | whole n => cases hinfinite
      | real x =>
        refine ⟨x, ?_⟩
        obtain ⟨found, htruncate, hfound⟩ := except_mapError_eq_error.1 hinfinite
        obtain rfl := ShapeFault.notFinite.inj hfound
        unfold Decimal.truncate at htruncate
        cases hexact : Decimal.Exact.ofFloat x with
        | infinite negative => exact ⟨negative, rfl, rfl⟩
        | finite negative mantissa exponent => simp [hexact] at htruncate
        | undefined => simp [hexact] at htruncate
    | text s =>
      unfold asWhole at hinfinite
      rcases hread : Decimal.readWhole s with (_ | count) | n <;> simp [hread] at hinfinite
    | null | bool _ | array _ | object _ => cases hinfinite
  · rintro ⟨x, negative, rfl, hexact⟩
    have htruncate : Decimal.truncate x = .error .infinite := by
      simp [Decimal.truncate, hexact]
    exact except_mapError_eq_error.2 ⟨_, htruncate, rfl⟩

namespace Estimate

variable {members : List (String × Json)} {name : String} {n : Int} {estimate : Estimate}
  {reply : Reply} {fault : ShapeFault}

/-- The member of the name stands for the whole number. -/
def Tells (members : List (String × Json)) (name : String) (n : Int) : Prop :=
  ∃ value, Json.lookup? members name = some value ∧ value.asWhole = .ok n

def IsEndless (members : List (String × Json)) (name : String) : Prop :=
  ∃ x negative, Json.lookup? members name = some (.number (.real x)) ∧
    Decimal.Exact.ofFloat x = .infinite negative

/-- The members tell both scores; a label that is not given says what its score means. -/
structure IsToldBy (estimate : Estimate) (members : List (String × Json)) : Prop where
  score : Tells members "score" estimate.score
  label : estimate.label = labelIn members "label" estimate.score
  fixedScore : Tells members "estimatedScore" estimate.fixedScore
  fixedLabel : estimate.fixedLabel = labelIn members "estimatedLabel" estimate.fixedScore

/-- One of the scores is a number without end, and the one before it is understood. -/
def IsOverflowing (members : List (String × Json)) : Prop :=
  IsEndless members "score" ∨ (∃ n, Tells members "score" n) ∧ IsEndless members "estimatedScore"

theorem scoreIn_eq_some_iff : scoreIn members name = .ok (some n) ↔ Tells members name n := by
  unfold scoreIn Tells
  cases Json.lookup? members name with
  | none => simp
  | some value =>
    dsimp only
    split <;> simp_all

theorem scoreIn_eq_error_iff :
    scoreIn members name = .error fault ↔ fault = .notFinite .infinite ∧ IsEndless members name := by
  have hendless : IsEndless members name ↔
      ∃ value, Json.lookup? members name = some value ∧
        value.asWhole = .error (.notFinite .infinite) := by
    unfold IsEndless
    simp only [Json.asWhole_eq_infinite]
    exact ⟨fun ⟨x, negative, hlookup, hexact⟩ => ⟨_, hlookup, x, negative, rfl, hexact⟩,
      fun ⟨_, hlookup, x, negative, hvalue, hexact⟩ => ⟨x, negative, hvalue ▸ hlookup, hexact⟩⟩
  rw [hendless]
  unfold scoreIn
  cases Json.lookup? members name with
  | none => simp
  | some value =>
    dsimp only
    split
    · rename_i hwhole
      simp [hwhole]
    · rename_i hinfinite
      simp [hinfinite, eq_comm]
    · rename_i hfinite hother
      simpa [hother] using fun _ => hfinite

/-- What the members come to: both scores are told, one of them stops the run, or there is none. -/
theorem ofJson_object (members : List (String × Json)) :
    ofJson (.object members) = (scoreIn members "score").bind fun
      | none => .ok none
      | some score => (scoreIn members "estimatedScore").map fun fixed => fixed.map fun fixedScore =>
        ⟨score, labelIn members "label" score, fixedScore,
          labelIn members "estimatedLabel" fixedScore⟩ := by
  unfold ofJson
  dsimp only
  rcases scoreIn members "score" with _ | _ | score
  · rfl
  · rfl
  · rcases scoreIn members "estimatedScore" with _ | _ | fixedScore <;>
      simp [bind, Except.bind, Except.map, pure, Except.pure]

theorem ofJson_object_eq_some_iff :
    ofJson (.object members) = .ok (some estimate) ↔ estimate.IsToldBy members := by
  rw [ofJson_object]
  constructor
  · intro hsome
    obtain ⟨_ | score, hscore, hsome⟩ := except_bind_eq_ok.1 hsome
    · cases hsome
    obtain ⟨_ | fixedScore, hfixed, hestimate⟩ := except_map_eq_ok.1 hsome
    · cases hestimate
    cases hestimate
    exact ⟨scoreIn_eq_some_iff.1 hscore, rfl, scoreIn_eq_some_iff.1 hfixed, rfl⟩
  · intro htold
    refine except_bind_eq_ok.2 ⟨_, scoreIn_eq_some_iff.2 htold.score, ?_⟩
    refine except_map_eq_ok.2 ⟨_, scoreIn_eq_some_iff.2 htold.fixedScore, ?_⟩
    rw [Option.map_some, ← htold.label, ← htold.fixedLabel]

theorem ofJson_object_eq_error_iff :
    ofJson (.object members) = .error fault ↔
      fault = .notFinite .infinite ∧ IsOverflowing members := by
  rw [ofJson_object]
  constructor
  · intro hfault
    rcases except_bind_eq_error.1 hfault with hscore | ⟨_ | score, hscore, hfixed⟩
    · obtain ⟨rfl, hendless⟩ := scoreIn_eq_error_iff.1 hscore
      exact ⟨rfl, .inl hendless⟩
    · cases hfixed
    · obtain ⟨rfl, hendless⟩ := scoreIn_eq_error_iff.1 (except_map_eq_error.1 hfixed)
      exact ⟨rfl, .inr ⟨⟨score, scoreIn_eq_some_iff.1 hscore⟩, hendless⟩⟩
  · rintro ⟨rfl, hendless | ⟨⟨score, hscore⟩, hendless⟩⟩
    · exact except_bind_eq_error.2 (.inl (scoreIn_eq_error_iff.2 ⟨rfl, hendless⟩))
    · refine except_bind_eq_error.2 (.inr ⟨_, scoreIn_eq_some_iff.2 hscore, ?_⟩)
      exact except_map_eq_error.2 (scoreIn_eq_error_iff.2 ⟨rfl, hendless⟩)

theorem ofReply_of_carries (hcarries : reply.Carries members) :
    ofReply reply = (ofJson (.object members)).mapError .shape := by
  obtain ⟨hlow, hhigh, htext, hread⟩ := hcarries
  simp only [ofReply, ofBody, htext, hread]
  rw [if_pos (by simp [hlow, hhigh])]

theorem ofReply_of_not_carries (hnone : ∀ members, ¬ reply.Carries members)
    (hworks : ∀ fault, reply ≠ .failed fault) : ofReply reply = .ok none := by
  cases reply with
  | unreachable => rfl
  | failed fault => exact absurd rfl (hworks fault)
  | response status body =>
    unfold ofReply
    dsimp only
    split
    · rename_i hsuccess
      obtain ⟨hlow, hhigh⟩ : 200 ≤ status ∧ status ≤ 299 := by simpa using hsuccess
      unfold ofBody
      cases htext : Text.Encoding.decode? body.toBytes with
      | none => rfl
      | some text =>
        cases hread : Json.read text with
        | error fault =>
          simp only [hread]
          rfl
        | ok payload =>
          simp only [hread]
          cases payload with
          | object members => exact absurd ⟨hlow, hhigh, htext, hread⟩ (hnone members)
          | null | bool _ | number _ | text _ | array _ => rfl
    · rfl

theorem ofReply_eq_some_iff : ofReply reply = .ok (some estimate) ↔
    ∃ members, reply.Carries members ∧ estimate.IsToldBy members := by
  constructor
  · intro hsome
    by_cases hcarries : ∃ members, reply.Carries members
    · obtain ⟨members, hcarries⟩ := hcarries
      rw [ofReply_of_carries hcarries, except_mapError_eq_ok] at hsome
      exact ⟨members, hcarries, ofJson_object_eq_some_iff.1 hsome⟩
    · cases hreply : reply with
      | failed fault =>
        rw [hreply] at hsome
        cases hsome
      | unreachable | response status body =>
        rw [ofReply_of_not_carries (not_exists.1 hcarries) (by simp [hreply])] at hsome
        cases hsome
  · rintro ⟨members, hcarries, htold⟩
    rw [ofReply_of_carries hcarries, except_mapError_eq_ok]
    exact ofJson_object_eq_some_iff.2 htold

theorem ofReply_eq_error_iff {fault : Fault} : ofReply reply = .error fault ↔
    (∃ failure, reply = .failed failure ∧ fault = .library failure) ∨
      fault = .shape (.notFinite .infinite) ∧
        ∃ members, reply.Carries members ∧ IsOverflowing members := by
  constructor
  · intro hfault
    by_cases hcarries : ∃ members, reply.Carries members
    · obtain ⟨members, hcarries⟩ := hcarries
      rw [ofReply_of_carries hcarries, except_mapError_eq_error] at hfault
      obtain ⟨found, hfound, rfl⟩ := hfault
      obtain ⟨rfl, hoverflowing⟩ := ofJson_object_eq_error_iff.1 hfound
      exact .inr ⟨rfl, members, hcarries, hoverflowing⟩
    · cases hreply : reply with
      | failed failure =>
        rw [hreply] at hfault
        cases hfault
        exact .inl ⟨failure, rfl, rfl⟩
      | unreachable | response status body =>
        rw [ofReply_of_not_carries (not_exists.1 hcarries) (by simp [hreply])] at hfault
        cases hfault
  · rintro (⟨failure, rfl, rfl⟩ | ⟨rfl, members, hcarries, hoverflowing⟩)
    · rfl
    · rw [ofReply_of_carries hcarries, except_mapError_eq_error]
      exact ⟨_, ofJson_object_eq_error_iff.2 ⟨rfl, hoverflowing⟩, rfl⟩

section Ask

variable {diagnostics : List Diagnostic} {settings : RuntimeSettings} {ownConnection : Bool}
  {host : Host}

/-- A connection is there, or the library makes one. -/
def Connects (settings : RuntimeSettings) (ownConnection : Bool) (host : Host) : Prop :=
  ownConnection = true → host.surroundings.refusal settings.proxy = none

inductive Breaks (settings : RuntimeSettings) (ownConnection : Bool) (host : Host) : Fault → Prop
  | refused {failure : LibraryFault} (hown : ownConnection = true)
      (hrefusal : host.surroundings.refusal settings.proxy = some failure) :
      Breaks settings ownConnection host (.library failure)
  | failed {failure : LibraryFault} (hconnects : Connects settings ownConnection host)
      (hreply : host.surroundings.score = .failed failure) :
      Breaks settings ownConnection host (.library failure)
  | endless {members : List (String × Json)} (hconnects : Connects settings ownConnection host)
      (hcarries : host.surroundings.score.Carries members) (hoverflowing : IsOverflowing members) :
      Breaks settings ownConnection host (.shape (.notFinite .infinite))

theorem ask_of_offline (hoffline : settings.offline = true) :
    ask diagnostics settings ownConnection host = (.ok none, host) := by
  unfold ask
  rw [hoffline]
  rfl

theorem connect_apply (settings : RuntimeSettings) (host : Host) : connect settings host =
    match host.surroundings.refusal settings.proxy with
      | none => (.ok (), host.record (.connect settings.fetchTimeout settings.proxy))
      | some fault => (.error (.library fault), host) := by
  rw [connect, Run.get_bind]
  cases host.surroundings.refusal settings.proxy <;> rfl

theorem fst_ask_of_connects (honline : settings.offline = false)
    (hconnects : Connects settings ownConnection host) :
    (ask diagnostics settings ownConnection host).1 = ofReply host.surroundings.score := by
  unfold ask
  cases ownConnection with
  | false =>
    simp only [honline, Bool.false_eq_true, if_false, Run.bind_apply, Run.modify_apply,
      Run.get_apply, Host.record]
    cases ofReply host.surroundings.score <;> rfl
  | true =>
    simp only [honline, Bool.false_eq_true, if_false, if_true, Run.bind_apply, connect_apply,
      hconnects rfl, Run.modify_apply, Run.get_apply, Host.record]
    cases ofReply host.surroundings.score <;> rfl

theorem ask_of_refused {failure : LibraryFault} (honline : settings.offline = false)
    (hrefusal : host.surroundings.refusal settings.proxy = some failure) :
    ask diagnostics settings true host = (.error (.library failure), host) := by
  unfold ask
  simp only [honline, Bool.false_eq_true, if_false, if_true, Run.bind_apply, connect_apply, hrefusal]

theorem connects_or_exists_refusal (settings : RuntimeSettings) (ownConnection : Bool) (host : Host) :
    Connects settings ownConnection host ∨ ownConnection = true ∧ ∃ failure, host.surroundings.refusal settings.proxy = some failure := by
  cases ownConnection with
  | false => exact .inl nofun
  | true =>
    cases hrefusal : host.surroundings.refusal settings.proxy with
    | none => exact .inl fun _ => hrefusal
    | some failure => exact .inr ⟨rfl, failure, rfl⟩

/-- Whether an estimate is had, whether the run is stopped, or neither: offline there is none, and
nothing is asked for; online there is one exactly where there is a connection and the reply carries
both scores, and the run is stopped exactly by what is listed in `Breaks`. -/
theorem ask_settles (diagnostics : List Diagnostic) (settings : RuntimeSettings)
    (ownConnection : Bool) (host : Host) :
    (settings.offline = true →
      ask diagnostics settings ownConnection host = (.ok none, host)) ∧
    (∀ estimate, (ask diagnostics settings ownConnection host).1 = .ok (some estimate) ↔
      settings.offline = false ∧ Connects settings ownConnection host ∧
        ∃ members, host.surroundings.score.Carries members ∧ estimate.IsToldBy members) ∧
    ∀ fault, (ask diagnostics settings ownConnection host).1 = .error fault ↔
      settings.offline = false ∧ Breaks settings ownConnection host fault := by
  refine ⟨ask_of_offline, ?_⟩
  cases honline : settings.offline with
  | true => simp [ask_of_offline honline]
  | false =>
    rcases connects_or_exists_refusal settings ownConnection host with
      hconnects | ⟨rfl, failure, hrefusal⟩
    · rw [fst_ask_of_connects honline hconnects]
      refine ⟨fun estimate => ?_, fun fault => ?_⟩
      · rw [ofReply_eq_some_iff]
        exact ⟨fun hcarried => ⟨rfl, hconnects, hcarried⟩, fun hall => hall.2.2⟩
      · rw [ofReply_eq_error_iff]
        constructor
        · rintro (⟨failure, hreply, rfl⟩ | ⟨rfl, members, hcarries, hoverflowing⟩)
          · exact ⟨rfl, .failed hconnects hreply⟩
          · exact ⟨rfl, .endless hconnects hcarries hoverflowing⟩
        · rintro ⟨-, ⟨hown, hrefusal⟩ | ⟨-, hreply⟩ | ⟨-, hcarries, hoverflowing⟩⟩
          · cases hrefusal.symm.trans (hconnects hown)
          · exact .inl ⟨_, hreply, rfl⟩
          · exact .inr ⟨rfl, _, hcarries, hoverflowing⟩
    · have hnone : ¬ Connects settings true host := fun hconnects => by
        cases hrefusal.symm.trans (hconnects rfl)
      rw [ask_of_refused honline hrefusal]
      refine ⟨fun estimate => ⟨nofun, fun hall => absurd hall.2.1 hnone⟩, fun fault => ?_⟩
      constructor
      · rintro ⟨⟩
        exact ⟨rfl, .refused rfl hrefusal⟩
      · rintro ⟨-, ⟨-, hother⟩ | ⟨hconnects, -⟩ | ⟨hconnects, -, -⟩⟩
        · rw [Option.some.inj (hrefusal.symm.trans hother)]
        · exact absurd hconnects hnone
        · exact absurd hconnects hnone

end Ask

end Estimate

/-- A host whose score service answers with a score without end. -/
def Host.withEndlessScore : Host :=
  let host := ofProject reactManifest (fun _ => .unavailable) fun _ _ _ => .hangs
  { host with
    surroundings := { host.surroundings with
      score := .response 200 (.text "\x7b\"score\":1e999,\"estimatedScore\":90\x7d") } }

/-- The payload is of no use, and the run is stopped instead of going on without an estimate. -/
theorem Estimate.ask_withEndlessScore :
    (ask [] default true Host.withEndlessScore).1 = .error (.shape (.notFinite .infinite)) :=
  eq_error_of_faultOf (by decide +kernel)

end Checkup
