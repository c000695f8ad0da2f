import Checkup.Host

/-!
# Runs as functions of a host

How a run is taken apart: what a sequence of steps gives on a host, and which steps are *questions*.
A question looks at the files, the variables and the programs of a host and may note what it asked;
it changes nothing that a later step can see, and its answer does not depend on processes. Nearly
everything that a check-up does before and after its checks is a question, so most facts about two
hosts, or about one host before and after, are read off `IsQuestion`.
-/

namespace Checkup

structure Surface where
  tree : Node
  workingDirectory : Path
  temporary : Path
  processId : Nat
  environment : Variables
  git : Path → List String → Answer
  nodeVersion : String → Answer
  program : String → Option String → Option String
  accountHome : Option String
  console : Console

namespace Event

def spawn? : Event → Option Spawn
  | spawn started => some started
  | _ => none

def isSearch : Event → Bool
  | git _ arguments => arguments.head? == some "grep"
  | _ => false

/-- Whether the event is more than a question: a process, or a search through files. -/
def isDeed (event : Event) : Bool :=
  event.spawn?.isSome || event.isSearch

/-- Whether the event is a question to git that is no search, or a message for the log. -/
def isInquiry (event : Event) : Bool :=
  match event with
  | git _ _ => !event.isSearch
  | notice _ => true
  | _ => false

/-- Whether the event reaches beyond the machine, over the network. -/
def isTraffic : Event → Bool
  | connect _ _ | post _ _ => true
  | _ => false

def isLocal (event : Event) : Bool :=
  !event.isTraffic

variable {event : Event}

theorem isLocal_of_isInquiry (hinquiry : event.isInquiry = true) : event.isLocal = true := by
  cases event <;> first | rfl | cases hinquiry

theorem isDeed_of_isInquiry (hinquiry : event.isInquiry = true) : event.isDeed = false := by
  cases event with
  | git directory arguments => simpa [isInquiry, isDeed, spawn?] using hinquiry
  | notice notice => rfl
  | _ => cases hinquiry

end Event

theorem Answer.eq_of_received {words : List String} {answer given : Answer}
    (hreceived : answer.received words = .ok given) : answer = given := by
  unfold received at hreceived
  split at hreceived
  · cases hreceived
  · cases answer <;> first | exact Except.ok.inj hreceived | cases hreceived

theorem Answer.output?_eq_some_iff {answer : Answer} {output : String} :
    answer.output? = some output ↔ answer = .finished 0 output := by
  unfold output?
  split <;> simp_all

theorem Answer.received_eq_error {words : List String} {answer : Answer} {fault : Fault}
    (hreceived : answer.received words = .error fault) :
    words.any (·.toList.contains '\x00') = true ∧ fault = .embeddedNul ∨
      answer = .undecodable ∧ fault = .undecodable := by
  unfold received at hreceived
  split at hreceived
  case isTrue hnul => exact .inl ⟨hnul, (Except.error.inj hreceived).symm⟩
  case isFalse =>
    split at hreceived
    · exact .inr ⟨rfl, (Except.error.inj hreceived).symm⟩
    · cases hreceived

theorem Answer.isOk_received {words : List String} {answer : Answer} :
    (answer.received words).isOk = true ↔
      words.any (·.toList.contains '\x00') = false ∧ answer ≠ .undecodable := by
  unfold received
  cases words.any (·.toList.contains '\x00') with
  | true => simp [Except.isOk, Except.toBool]
  | false => cases answer <;> simp [Except.isOk, Except.toBool]

/-- What a host is apart from its console and the record of questions. -/
structure Machine where
  surface : Surface
  clock : List Number
  process : Tool → Nat → List String → Outcome
  score : Reply
  refusal : Option String → Option LibraryFault
  started : Tool → Nat
  waited : Tool → Nat
  deeds : List Event

namespace Host

def surface (host : Host) : Surface where
  tree := host.tree
  workingDirectory := host.workingDirectory
  temporary := host.temporary
  processId := host.processId
  environment := host.environment
  git := host.surroundings.git
  nodeVersion := host.surroundings.nodeVersion
  program := host.surroundings.program
  accountHome := host.surroundings.accountHome
  console := host.surroundings.console

def deeds (host : Host) : List Event :=
  host.events.filter (·.isDeed)

/-- The processes that were started on a host, in order. -/
def spawns (host : Host) : List Spawn :=
  host.events.filterMap (·.spawn?)

def machine (host : Host) : Machine where
  surface := host.surface
  clock := host.clock
  process := host.surroundings.process
  score := host.surroundings.score
  refusal := host.surroundings.refusal
  started := host.started
  waited := host.waited
  deeds := host.deeds

variable {h h' : Host}

theorem surface_eq_of_machine_eq (hmachine : h.machine = h'.machine) : h.surface = h'.surface :=
  congrArg Machine.surface hmachine

theorem spawns_eq_deeds (host : Host) : host.spawns = host.deeds.filterMap (·.spawn?) := by
  unfold spawns deeds
  rw [List.filterMap_filter]
  congr 1
  funext event
  cases hspawn : event.spawn? <;> simp [Event.isDeed, hspawn]

theorem tree_eq_of_surface_eq (hsurface : h.surface = h'.surface) : h.tree = h'.tree :=
  congrArg Surface.tree hsurface

theorem workingDirectory_eq_of_surface_eq (hsurface : h.surface = h'.surface) :
    h.workingDirectory = h'.workingDirectory :=
  congrArg Surface.workingDirectory hsurface

theorem environment_eq_of_surface_eq (hsurface : h.surface = h'.surface) :
    h.environment = h'.environment :=
  congrArg Surface.environment hsurface

theorem git_eq_of_surface_eq (hsurface : h.surface = h'.surface) :
    h.surroundings.git = h'.surroundings.git :=
  congrArg Surface.git hsurface

theorem nodeVersion_eq_of_surface_eq (hsurface : h.surface = h'.surface) :
    h.surroundings.nodeVersion = h'.surroundings.nodeVersion :=
  congrArg Surface.nodeVersion hsurface

theorem program_eq_of_surface_eq (hsurface : h.surface = h'.surface) :
    h.surroundings.program = h'.surroundings.program :=
  congrArg Surface.program hsurface

theorem accountHome_eq_of_surface_eq (hsurface : h.surface = h'.surface) :
    h.surroundings.accountHome = h'.surroundings.accountHome :=
  congrArg Surface.accountHome hsurface

theorem console_eq_of_surface_eq (hsurface : h.surface = h'.surface) :
    h.surroundings.console = h'.surroundings.console :=
  congrArg Surface.console hsurface

theorem gitSays_eq_of_surface_eq (hsurface : h.surface = h'.surface) (directory : Path)
    (arguments : List String) : h.gitSays directory arguments = h'.gitSays directory arguments := by
  simp only [gitSays, git_eq_of_surface_eq hsurface]

theorem nodeSays_eq_of_surface_eq (hsurface : h.surface = h'.surface) (binary : String) :
    h.nodeSays binary = h'.nodeSays binary := by
  simp only [nodeSays, nodeVersion_eq_of_surface_eq hsurface]

theorem locate_eq_of_surface_eq (hsurface : h.surface = h'.surface) (p : Path) :
    h.locate p = h'.locate p := by
  simp only [locate, tree_eq_of_surface_eq hsurface, workingDirectory_eq_of_surface_eq hsurface]

theorem node_eq_of_surface_eq (hsurface : h.surface = h'.surface) (p : Path) :
    h.node p = h'.node p := by
  simp only [node, locate_eq_of_surface_eq hsurface, tree_eq_of_surface_eq hsurface]

theorem content_eq_of_surface_eq (hsurface : h.surface = h'.surface) (p : Path) :
    h.content p = h'.content p := by
  simp only [content, node_eq_of_surface_eq hsurface]

/-- A host with a project in its root directory, and room for temporary files. -/
def ofProject (manifest : String) (git : List String → Answer)
    (process : Tool → Nat → List String → Outcome) : Host where
  tree := .directory [("package.json", .file (.text manifest)), ("tmp", .directory [])]
  workingDirectory := .root
  temporary := ⟨.root, ["tmp"]⟩
  processId := 1
  environment := []
  surroundings :=
    { git := fun _ => git, nodeVersion := fun _ => .unavailable, program := fun _ _ => none,
      process, score := .unreachable, accountHome := some "/root" }
  clock := []
  reports := 0
  started := fun _ => 0
  waited := fun _ => 0
  input := []
  output := ""
  errors := ""
  events := []

def reactManifest : String := "\x7b\"dependencies\":\x7b\"react\":\"19\"\x7d\x7d"

theorem machine_record {event : Event} (hquestion : event.isDeed = false) (host : Host) :
    (host.record event).machine = host.machine := by
  simp [machine, record, surface, deeds, hquestion]

/-- The second host has all events of the first one, and after them only such as pass the test. -/
def Recorded (test : Event → Bool) (before after : Host) : Prop :=
  ∃ added, after.events = before.events ++ added ∧ ∀ event ∈ added, test event = true

namespace Recorded

variable {test wider : Event → Bool} {before mid after : Host}

theorem of_events_eq (hevents : after.events = before.events) : Recorded test before after :=
  ⟨[], by simp [hevents], by simp⟩

theorem record {event : Event} (hevent : test event = true) (host : Host) :
    Recorded test host (host.record event) :=
  ⟨[event], rfl, by simpa using hevent⟩

theorem trans (hfirst : Recorded test before mid) (hsecond : Recorded test mid after) :
    Recorded test before after := by
  obtain ⟨added, hadded, hpass⟩ := hfirst
  obtain ⟨more, hmore, hpass'⟩ := hsecond
  refine ⟨added ++ more, by rw [hmore, hadded, List.append_assoc], fun event hevent => ?_⟩
  exact (List.mem_append.1 hevent).elim (hpass event) (hpass' event)

theorem mono (hrecorded : Recorded test before after)
    (hwider : ∀ event, test event = true → wider event = true) : Recorded wider before after := by
  obtain ⟨added, hadded, hpass⟩ := hrecorded
  exact ⟨added, hadded, fun event hevent => hwider event (hpass event hevent)⟩

/-- Of the events that fail the test there are no more than before. -/
theorem filter_eq (hrecorded : Recorded test before after) {other : Event → Bool}
    (hother : ∀ event, test event = true → other event = false) :
    after.events.filter other = before.events.filter other := by
  obtain ⟨added, hadded, hpass⟩ := hrecorded
  have hnone : added.filter other = [] :=
    List.filter_eq_nil_iff.2 fun event hevent => by simp [hother event (hpass event hevent)]
  rw [hadded, List.filter_append, hnone, List.append_nil]

end Recorded

end Host

/-! ### Results -/

section Results

variable {ε ε' α β : Type} {b : β}

theorem except_bind_eq_ok {result : Except ε α} {next : α → Except ε β} :
    (result >>= next) = .ok b ↔ ∃ a, result = .ok a ∧ next a = .ok b := by
  cases result with
  | error fault => exact ⟨nofun, nofun⟩
  | ok a => exact ⟨fun hnext => ⟨a, rfl, hnext⟩, fun ⟨_, ha, hnext⟩ => Except.ok.inj ha ▸ hnext⟩

theorem except_map_eq_ok {result : Except ε α} {f : α → β} :
    result.map f = .ok b ↔ ∃ a, result = .ok a ∧ f a = b := by
  cases result with
  | error fault => exact ⟨nofun, nofun⟩
  | ok a => simp [Except.map]

theorem except_bind_eq_error {result : Except ε α} {next : α → Except ε β} {fault : ε} :
    (result >>= next) = .error fault ↔
      result = .error fault ∨ ∃ a, result = .ok a ∧ next a = .error fault := by
  cases result with
  | error found =>
    exact ⟨fun hfound => .inl (congrArg Except.error (Except.error.inj hfound)),
      fun hcases => hcases.elim (congrArg (Except.error ·) <| Except.error.inj ·) nofun⟩
  | ok a =>
    exact ⟨fun hnext => .inr ⟨a, rfl, hnext⟩,
      fun hcases => hcases.elim nofun fun ⟨_, ha, hnext⟩ => Except.ok.inj ha ▸ hnext⟩

theorem except_map_eq_error {result : Except ε α} {f : α → β} {fault : ε} :
    result.map f = .error fault ↔ result = .error fault := by
  cases result <;> simp [Except.map]

theorem exists_eq_ok_of_isOk {result : Except ε α} (hok : result.isOk = true) :
    ∃ a, result = .ok a := by
  cases result with
  | error fault => cases hok
  | ok a => exact ⟨a, rfl⟩

theorem eq_ok_of_toOption {result : Except ε β} (hsome : result.toOption = some b) :
    result = .ok b := by
  cases result with
  | error fault => cases hsome
  | ok a => exact congrArg Except.ok (Option.some.inj hsome)

def faultOf : Except ε α → Option ε
  | .error fault => some fault
  | .ok _ => none

theorem eq_error_of_faultOf {result : Except ε α} {fault : ε} (hfault : faultOf result = some fault) :
    result = .error fault := by
  cases result with
  | error found => exact congrArg Except.error (Option.some.inj hfault)
  | ok a => cases hfault

theorem exists_eq_ok_of_any {result : Except ε α} {p : α → Bool}
    (hany : result.toOption.any p = true) : ∃ a, result = .ok a ∧ p a = true := by
  cases result with
  | error fault => cases hany
  | ok a => exact ⟨a, rfl, hany⟩

theorem exists_except_map_eq_ok {result : Except ε α} {f : α → β} :
    (∃ b, result.map f = .ok b) ↔ ∃ a, result = .ok a := by
  cases result with
  | error fault => exact ⟨nofun, nofun⟩
  | ok a => exact ⟨fun _ => ⟨a, rfl⟩, fun _ => ⟨f a, rfl⟩⟩

theorem exists_except_bind_eq_ok {result : Except ε α} {next : α → Except ε β} :
    (∃ b, (result >>= next) = .ok b) ↔ ∃ a, result = .ok a ∧ ∃ b, next a = .ok b := by
  simp only [except_bind_eq_ok]
  exact ⟨fun ⟨b, a, ha, hb⟩ => ⟨a, ha, b, hb⟩, fun ⟨a, ha, b, hb⟩ => ⟨b, a, ha, hb⟩⟩

theorem except_mapM_eq_ok {f : α → Except ε β} {items : List α} {found : List β} :
    items.mapM f = .ok found ↔ items.map f = found.map .ok := by
  induction items generalizing found with
  | nil => cases found <;> simp [pure, Except.pure]
  | cons item rest ih =>
    rw [List.mapM_cons, except_bind_eq_ok, List.map_cons]
    constructor
    · rintro ⟨b, hb, hrest⟩
      obtain ⟨others, hothers, hfound⟩ := except_bind_eq_ok.1 hrest
      cases hfound
      rw [hb, ih.1 hothers, List.map_cons]
    · intro hmap
      cases found with
      | nil => cases hmap
      | cons b others =>
        obtain ⟨hb, hothers⟩ := List.cons.inj hmap
        exact ⟨b, hb, except_bind_eq_ok.2 ⟨others, ih.2 hothers, rfl⟩⟩

theorem option_mapM_eq_some {f : α → Option β} {items : List α} {found : List β} :
    items.mapM f = some found ↔ items.map f = found.map some := by
  induction items generalizing found with
  | nil => cases found <;> simp
  | cons item rest ih =>
    rw [List.mapM_cons, List.map_cons]
    constructor
    · intro hfound
      obtain ⟨b, hb, hfound⟩ := Option.bind_eq_some_iff.1 hfound
      obtain ⟨others, hothers, hfound⟩ := Option.bind_eq_some_iff.1 hfound
      cases hfound
      rw [hb, ih.1 hothers, List.map_cons]
    · intro hmap
      cases found with
      | nil => cases hmap
      | cons b others =>
        obtain ⟨hb, hothers⟩ := List.cons.inj hmap
        rw [hb, ih.2 hothers]
        rfl

theorem except_mapError_eq_ok {result : Except ε β} {f : ε → ε'} :
    result.mapError f = .ok b ↔ result = .ok b := by
  cases result with
  | error fault => exact ⟨nofun, nofun⟩
  | ok a =>
    exact ⟨fun hok => congrArg Except.ok (Except.ok.inj hok),
      fun hok => congrArg Except.ok (Except.ok.inj hok)⟩

theorem except_mapError_eq_error {result : Except ε β} {f : ε → ε'} {fault : ε'} :
    result.mapError f = .error fault ↔ ∃ found, result = .error found ∧ f found = fault := by
  cases result with
  | error found =>
    constructor
    · intro hfault
      exact ⟨found, rfl, Except.error.inj hfault⟩
    · rintro ⟨_, ⟨⟩, rfl⟩
      rfl
  | ok a =>
    constructor
    · intro hfault
      cases hfault
    · rintro ⟨_, ⟨⟩, _⟩

end Results

def Gives {ε α : Type} (P : α → Prop) (result : Except ε α) : Prop :=
  ∀ a, result = .ok a → P a

namespace Gives

variable {ε α β : Type} {P : α → Prop} {Q : β → Prop} {result : Except ε α}

theorem pure {a : α} (ha : P a) : Gives P (Pure.pure a : Except ε α) := by
  rintro _ ⟨⟩
  exact ha

theorem error (fault : ε) : Gives P (.error fault) := nofun

theorem bind {next : α → Except ε β} (hresult : Gives P result)
    (hnext : ∀ a, P a → Gives Q (next a)) : Gives Q (result >>= next) := by
  intro b hb
  obtain ⟨a, ha, hb⟩ := except_bind_eq_ok.1 hb
  exact hnext a (hresult a ha) b hb

theorem bind_right {next : α → Except ε β} (hnext : ∀ a, Gives Q (next a)) :
    Gives Q (result >>= next) := by
  intro b hb
  obtain ⟨a, -, hb⟩ := except_bind_eq_ok.1 hb
  exact hnext a b hb

end Gives

namespace Run

variable {α β : Type}

/-! ### Steps on a host -/

@[simp] theorem pure_apply (a : α) (host : Host) : (pure a : Run α) host = (.ok a, host) := rfl

@[simp] theorem throw_apply (fault : Fault) (host : Host) :
    (throw fault : Run α) host = (.error fault, host) := rfl

@[simp] theorem get_apply (host : Host) : (get : Run Host) host = (.ok host, host) := rfl

@[simp] theorem set_apply (new host : Host) : (set new : Run PUnit) host = (.ok ⟨⟩, new) := rfl

@[simp] theorem modify_apply (change : Host → Host) (host : Host) :
    (modify change : Run PUnit) host = (.ok ⟨⟩, change host) := rfl

@[simp] theorem attempt_apply (step : Run α) (host : Host) :
    attempt step host = (.ok (step host).1, (step host).2) := rfl

theorem bind_apply (step : Run α) (next : α → Run β) (host : Host) :
    (step >>= next) host = match step host with
      | (.ok a, after) => next a after
      | (.error fault, after) => (.error fault, after) := by
  change (StateT.bind step (ExceptT.bindCont next)) host = _
  unfold StateT.bind
  rcases step host with ⟨_ | _, after⟩ <;> rfl

/-- A last step leaves its host, and its fault goes before the first step's result. -/
theorem withLast_apply (step : Run α) (last : Run Unit) (host : Host) :
    withLast step last host = match (last (step host).2).1 with
      | .ok _ => ((step host).1, (last (step host).2).2)
      | .error fault => (.error fault, (last (step host).2).2) := by
  unfold withLast
  rcases step host with ⟨result, after⟩
  dsimp only
  rcases last after with ⟨_ | _, done⟩ <;> rfl

@[simp] theorem get_bind (next : Host → Run β) (host : Host) :
    ((get : Run Host) >>= next) host = next host host := rfl

theorem git_apply (directory : Path) (arguments : List String) (host : Host) :
    git directory arguments host =
      (host.gitSays directory arguments, host.record (.git directory arguments)) := by
  unfold git
  rw [get_bind, bind_apply, modify_apply]
  dsimp only
  cases host.gitSays directory arguments <;> rfl

variable {step : Run α} {next : α → Run β} {host mid after : Host}

theorem bind_of_ok {a : α} (hstep : step host = (.ok a, mid)) :
    (step >>= next) host = next a mid := by
  rw [bind_apply, hstep]

theorem bind_of_error {fault : Fault} (hstep : step host = (.error fault, mid)) :
    (step >>= next) host = (.error fault, mid) := by
  rw [bind_apply, hstep]

theorem bind_congr {next' : α → Run β}
    (hnext : ∀ a mid, step host = (.ok a, mid) → next a mid = next' a mid) :
    (step >>= next) host = (step >>= next') host := by
  rw [bind_apply, bind_apply]
  rcases hstep : step host with ⟨_ | a, mid⟩
  · rfl
  · exact hnext a mid hstep

/-- Two steps in turn return when the first one does and then the second one does. -/
theorem exists_fst_bind_eq_ok : (∃ b, ((step >>= next) host).1 = .ok b) ↔
    ∃ a, (step host).1 = .ok a ∧ ∃ b, (next a (step host).2).1 = .ok b := by
  rw [bind_apply]
  rcases step host with ⟨fault | a, mid⟩
  · exact ⟨nofun, nofun⟩
  · exact ⟨fun hnext => ⟨a, rfl, hnext⟩, fun ⟨_, ha, hnext⟩ => Except.ok.inj ha ▸ hnext⟩

theorem bind_pure_apply (f : α → β) (step : Run α) (host : Host) :
    (step >>= fun a => pure (f a)) host = ((step host).1.map f, (step host).2) := by
  rw [bind_apply]
  rcases step host with ⟨_ | a, mid⟩ <;> rfl

theorem snd_bind_pure (f : α → β) (step : Run α) (host : Host) :
    ((step >>= fun a => pure (f a)) host).2 = (step host).2 := by
  rw [bind_apply]
  rcases step host with ⟨_ | a, mid⟩ <;> rfl

theorem bind_eq_ok {b : β} : (step >>= next) host = (.ok b, after) ↔
    ∃ a mid, step host = (.ok a, mid) ∧ next a mid = (.ok b, after) := by
  rw [bind_apply]
  constructor
  · intro hrun
    rcases hstep : step host with ⟨_ | a, mid⟩ <;> rw [hstep] at hrun
    · cases hrun
    · exact ⟨a, mid, rfl, hrun⟩
  · rintro ⟨a, mid, hstep, hnext⟩
    rw [hstep]
    exact hnext

/-- Whether a run returns, and what it gives and leaves passes a test. -/
def returnsWith (step : Run α) (host : Host) (test : α → Host → Bool) : Bool :=
  match step host with
  | (.ok a, after) => test a after
  | (.error _, _) => false

theorem exists_of_returnsWith {test : α → Host → Bool} (hreturns : returnsWith step host test = true) :
    ∃ a after, step host = (.ok a, after) ∧ test a after = true := by
  unfold returnsWith at hreturns
  rcases hstep : step host with ⟨_ | a, after⟩ <;> rw [hstep] at hreturns
  · cases hreturns
  · exact ⟨a, after, rfl, hreturns⟩

/-! ### What a step gives -/

/-- Whatever the step gives on a host has the property. -/
def Yields (P : α → Prop) (step : Run α) : Prop :=
  ∀ host, Gives P (step host).1

namespace Yields

variable {P : α → Prop} {Q : β → Prop}

theorem pure {a : α} (ha : P a) : Yields P (Pure.pure a) := fun _ => .pure ha

theorem throw (fault : Fault) : Yields P (MonadExcept.throw fault : Run α) := fun _ => .error _

theorem bind (hstep : Yields P step) (hnext : ∀ a, P a → Yields Q (next a)) :
    Yields Q (step >>= next) := by
  intro host b hb
  have ha := hstep host
  rw [bind_apply] at hb
  rcases hrun : step host with ⟨fault | a, mid⟩ <;> rw [hrun] at hb ha
  · cases hb
  · exact hnext a (ha a rfl) mid b hb

theorem bind_right (hnext : ∀ a, Yields Q (next a)) : Yields Q (step >>= next) :=
  bind (P := fun _ => True) (fun _ _ _ => .intro) fun a _ => hnext a

theorem ite {c : Prop} [Decidable c] {yes no : Run α} (hyes : Yields P yes) (hno : Yields P no) :
    Yields P (if c then yes else no) := by
  split
  · exact hyes
  · exact hno

theorem attempt (hstep : Yields P step) : Yields (Gives P) (attempt step) :=
  fun host => .pure (hstep host)

theorem withLast (hstep : Yields P step) (last : Run Unit) : Yields P (withLast step last) := by
  intro host
  rw [withLast_apply]
  split
  · exact hstep host
  · exact .error _

end Yields

/-! ### What a step keeps -/

/-- A step that ends in a host related to the one it began in. -/
def Keeps (R : Host → Host → Prop) (step : Run α) : Prop :=
  ∀ host, R host (step host).2

namespace Keeps

variable {R : Host → Host → Prop}

theorem bind (htrans : ∀ {a b c}, R a b → R b c → R a c) (hstep : Keeps R step)
    (hnext : ∀ a, Keeps R (next a)) : Keeps R (step >>= next) := by
  intro host
  have hfirst := hstep host
  rw [bind_apply]
  rcases hrun : step host with ⟨_ | a, mid⟩ <;> rw [hrun] at hfirst
  · exact hfirst
  · exact htrans hfirst (hnext a mid)

theorem ite {c : Prop} [Decidable c] {yes no : Run α} (hyes : Keeps R yes) (hno : Keeps R no) :
    Keeps R (if c then yes else no) := by
  split
  · exact hyes
  · exact hno

theorem snd_bind (hrefl : ∀ host, R host host) (hnext : ∀ a, Keeps R (next a)) (host : Host) :
    R (step host).2 ((step >>= next) host).2 := by
  rw [bind_apply]
  rcases step host with ⟨_ | a, mid⟩
  · exact hrefl mid
  · exact hnext a mid

theorem withLast {last : Run Unit} (htrans : ∀ {a b c}, R a b → R b c → R a c)
    (hstep : Keeps R step) (hlast : Keeps R last) : Keeps R (withLast step last) := by
  intro host
  have hafter := htrans (hstep host) (hlast (step host).2)
  rw [withLast_apply]
  split <;> exact hafter

end Keeps

abbrev Records (test : Event → Bool) (step : Run α) : Prop :=
  Keeps (Host.Recorded test) step

namespace Records

variable {test wider : Event → Bool}

theorem pure (a : α) : Records test (Pure.pure a) := fun _ => .of_events_eq rfl

theorem throw (fault : Fault) : Records test (MonadExcept.throw fault : Run α) :=
  fun _ => .of_events_eq rfl

theorem bind (hstep : Records test step) (hnext : ∀ a, Records test (next a)) :
    Records test (step >>= next) :=
  Keeps.bind .trans hstep hnext

theorem attempt (hstep : Records test step) : Records test (attempt step) := hstep

theorem ite {c : Prop} [Decidable c] {yes no : Run α} (hyes : Records test yes)
    (hno : Records test no) : Records test (if c then yes else no) :=
  Keeps.ite hyes hno

theorem withLast {last : Run Unit} (hstep : Records test step) (hlast : Records test last) :
    Records test (withLast step last) :=
  Keeps.withLast .trans hstep hlast

theorem get_bind {next : Host → Run β} (hnext : ∀ host, Records test (next host)) :
    Records test (get >>= next) := fun host => hnext host host

theorem record {event : Event} (hevent : test event = true) :
    Records test (modify (·.record event)) := fun host => .record hevent host

theorem modify {change : Host → Host} (hchange : ∀ host, (change host).events = host.events) :
    Records test (modify change) := fun host => .of_events_eq (hchange host)

theorem mono (hstep : Records test step)
    (hwider : ∀ event, test event = true → wider event = true) : Records wider step :=
  fun host => (hstep host).mono hwider

/-- After a step whose events pass the test, either all of a run's events do, or the run has gone
through the step. -/
theorem exists_of_bind {result : Except Fault β} (hstep : Records test step)
    (hrun : (step >>= next) host = (result, after)) :
    host.Recorded test after ∨
      ∃ a mid, step host = (.ok a, mid) ∧ host.Recorded test mid ∧ next a mid = (result, after) := by
  have hfirst := hstep host
  rw [bind_apply] at hrun
  rcases hbegin : step host with ⟨fault | a, mid⟩ <;> rw [hbegin] at hrun hfirst
  · cases hrun
    exact .inl hfirst
  · exact .inr ⟨a, mid, rfl, hfirst, hrun⟩

theorem recorded_of_eq {result : Except Fault α} (hstep : Records test step)
    (hrun : step host = (result, after)) : host.Recorded test after := by
  have hafter := hstep host
  rwa [hrun] at hafter

/-- What passes the test after a step does so from where the step has ended. -/
theorem recorded_of_bind {result : Except Fault β} (hnext : ∀ a, Records test (next a))
    (hrun : (step >>= next) host = (result, after)) : (step host).2.Recorded test after := by
  have hrest : (step host).2.Recorded test ((step >>= next) host).2 :=
    Keeps.snd_bind (fun _ => .of_events_eq rfl) hnext host
  rwa [hrun] at hrest

end Records

abbrev IsLocal (step : Run α) : Prop :=
  Records Event.isLocal step

/-! ### Steps that take related hosts to related hosts -/

/-- A step that gives the same on related hosts and leaves related hosts. -/
def Respects (R : Host → Host → Prop) (step : Run α) : Prop :=
  ∀ h h', R h h' → (step h).1 = (step h').1 ∧ R (step h).2 (step h').2

/-- A relation between hosts that looks at their machines only. -/
def OfMachine (R : Host → Host → Prop) : Prop :=
  ∀ {h h' k k' : Host}, R h h' → k.machine = h.machine → k'.machine = h'.machine → R k k'

namespace Respects

variable {R : Host → Host → Prop}

theorem pure (a : α) : Respects R (Pure.pure a) := fun _ _ hrelated => ⟨rfl, hrelated⟩

theorem throw (fault : Fault) : Respects R (MonadExcept.throw fault : Run α) :=
  fun _ _ hrelated => ⟨rfl, hrelated⟩

theorem bind (hstep : Respects R step) (hnext : ∀ a, Respects R (next a)) :
    Respects R (step >>= next) := by
  intro h h' hrelated
  obtain ⟨hresult, hafter⟩ := hstep h h' hrelated
  rw [bind_apply, bind_apply]
  rcases hrun : step h with ⟨result, mid⟩
  rcases hrun' : step h' with ⟨result', mid'⟩
  rw [hrun, hrun'] at hresult hafter
  subst hresult
  cases result with
  | error fault => exact ⟨rfl, hafter⟩
  | ok a => exact hnext a mid mid' hafter

theorem attempt (hstep : Respects R step) : Respects R (attempt step) := by
  intro h h' hrelated
  obtain ⟨hresult, hafter⟩ := hstep h h' hrelated
  exact ⟨congrArg Except.ok hresult, hafter⟩

theorem ite {c : Prop} [Decidable c] {yes no : Run α} (hyes : Respects R yes)
    (hno : Respects R no) : Respects R (if c then yes else no) := by
  split
  · exact hyes
  · exact hno

/-- A look at the host respects a relation when what follows is the same on related hosts. -/
theorem get_bind {next : Host → Run β} (hnext : ∀ host, Respects R (next host))
    (hsame : ∀ {h h' : Host}, R h h' → next h = next h') : Respects R (get >>= next) := by
  intro h h' hrelated
  rw [Run.get_bind, Run.get_bind, hsame hrelated]
  exact hnext h' h h' hrelated

theorem withLast {last : Run Unit} (hstep : Respects R step) (hlast : Respects R last) :
    Respects R (withLast step last) := by
  intro h h' hrelated
  obtain ⟨hresult, hafter⟩ := hstep h h' hrelated
  obtain ⟨hresult', hafter'⟩ := hlast _ _ hafter
  simp only [withLast_apply]
  rw [hresult, hresult']
  cases (last (step h').2).1 <;> exact ⟨rfl, hafter'⟩

end Respects

/-! ### Questions -/

abbrev IsQuiet (step : Run α) : Prop :=
  Keeps (fun before after => after.machine = before.machine) step

namespace IsQuiet

theorem pure (a : α) : IsQuiet (Pure.pure a) := fun _ => rfl

theorem throw (fault : Fault) : IsQuiet (MonadExcept.throw fault : Run α) := fun _ => rfl

theorem bind (hstep : IsQuiet step) (hnext : ∀ a, IsQuiet (next a)) : IsQuiet (step >>= next) :=
  Keeps.bind (fun hfirst hsecond => hsecond.trans hfirst) hstep hnext

theorem get_bind {next : Host → Run β} (hnext : ∀ host, IsQuiet (next host)) :
    IsQuiet (get >>= next) := fun host => hnext host host

theorem modify {change : Host → Host} (hchange : ∀ host, (change host).machine = host.machine) :
    IsQuiet (modify change) := hchange

end IsQuiet

/-- A step that starts no process and searches through no files. -/
abbrev IsIdle (step : Run α) : Prop :=
  Keeps (fun before after => after.deeds = before.deeds) step

namespace IsIdle

theorem of_isQuiet (hstep : IsQuiet step) : IsIdle step :=
  fun host => congrArg Machine.deeds (hstep host)

theorem of_records (hstep : Records Event.isInquiry step) : IsIdle step :=
  fun host => (hstep host).filter_eq fun _ => Event.isDeed_of_isInquiry

theorem bind (hstep : IsIdle step) (hnext : ∀ a, IsIdle (next a)) : IsIdle (step >>= next) :=
  Keeps.bind (fun hfirst hsecond => hsecond.trans hfirst) hstep hnext

end IsIdle

/-- A step that keeps the machine and whose result depends on the surface alone. All that it
leaves in the record is what it asked git, and messages for the log. -/
structure IsQuestion (step : Run α) : Prop where
  quiet : IsQuiet step
  reads : ∀ {h h' : Host}, h.surface = h'.surface → (step h).1 = (step h').1
  records : Records Event.isInquiry step

namespace IsQuestion

theorem surface_eq (hstep : IsQuestion step) (host : Host) :
    (step host).2.surface = host.surface :=
  Host.surface_eq_of_machine_eq (hstep.quiet host)

theorem pure (a : α) : IsQuestion (Pure.pure a) := ⟨.pure a, fun _ => rfl, .pure a⟩

theorem throw (fault : Fault) : IsQuestion (MonadExcept.throw fault : Run α) :=
  ⟨.throw fault, fun _ => rfl, .throw fault⟩

theorem bind (hstep : IsQuestion step) (hnext : ∀ a, IsQuestion (next a)) :
    IsQuestion (step >>= next) := by
  refine ⟨.bind hstep.quiet fun a => (hnext a).quiet, fun {h h'} hsurface => ?_,
    .bind hstep.records fun a => (hnext a).records⟩
  have hresult := hstep.reads hsurface
  have hafter : (step h).2.surface = (step h').2.surface := by
    rw [hstep.surface_eq, hstep.surface_eq, hsurface]
  rw [bind_apply, bind_apply]
  rcases hrun : step h with ⟨result, mid⟩
  rcases hrun' : step h' with ⟨result', mid'⟩
  rw [hrun, hrun'] at hresult hafter
  subst hresult
  cases result with
  | error fault => rfl
  | ok a => exact (hnext a).reads hafter

theorem isLocal (hstep : IsQuestion step) : IsLocal step :=
  hstep.records.mono fun _ => Event.isLocal_of_isInquiry

/-- The answer to two questions in turn is found by asking both of the first host. -/
theorem fst_bind (hstep : IsQuestion step) (hnext : ∀ a, IsQuestion (next a)) (host : Host) :
    ((step >>= next) host).1 = (step host).1.bind fun a => (next a host).1 := by
  have hafter := hstep.surface_eq host
  rw [bind_apply]
  rcases hrun : step host with ⟨fault | a, mid⟩ <;> rw [hrun] at hafter
  · rfl
  · exact (hnext a).reads hafter

/-- Two questions in turn are answered when both are, each asked of the first host. -/
theorem fst_bind_eq_ok {b : β} (hstep : IsQuestion step) (hnext : ∀ a, IsQuestion (next a)) :
    ((step >>= next) host).1 = .ok b ↔ ∃ a, (step host).1 = .ok a ∧ (next a host).1 = .ok b := by
  rw [hstep.fst_bind hnext]
  exact except_bind_eq_ok

/-- What two questions in turn give, from what the second one gives for each answer to the first. -/
theorem gives_bind {P : β → Prop} (hstep : IsQuestion step) (hnext : ∀ a, IsQuestion (next a))
    (hgives : ∀ a, (step host).1 = .ok a → Gives P (next a host).1) :
    Gives P ((step >>= next) host).1 := by
  intro b hb
  obtain ⟨a, ha, hb⟩ := (hstep.fst_bind_eq_ok hnext).1 hb
  exact hgives a ha b hb

/-- A run that returns has had its first question answered, on the machine it began on. -/
theorem exists_of_bind_eq_ok {b : β} (hstep : IsQuestion step)
    (hrun : (step >>= next) host = (.ok b, after)) :
    ∃ a mid, (step host).1 = .ok a ∧ mid.machine = host.machine ∧ next a mid = (.ok b, after) := by
  obtain ⟨a, mid, hfirst, hnext⟩ := bind_eq_ok.1 hrun
  have hquiet := hstep.quiet host
  rw [hfirst] at hquiet
  exact ⟨a, mid, congrArg Prod.fst hfirst, hquiet, hnext⟩

theorem attempt (hstep : IsQuestion step) : IsQuestion (attempt step) :=
  ⟨hstep.quiet, fun hsurface => congrArg Except.ok (hstep.reads hsurface), hstep.records⟩

/-- A look at the host is a question when only the surface matters for what follows. -/
theorem get_bind {next : Host → Run β} (hnext : ∀ host, IsQuestion (next host))
    (hsame : ∀ {h h' : Host}, h.surface = h'.surface → next h = next h') :
    IsQuestion (get >>= next) := by
  refine ⟨.get_bind fun host => (hnext host).quiet, fun {h h'} hsurface => ?_,
    .get_bind fun host => (hnext host).records⟩
  rw [Run.get_bind, Run.get_bind, hsame hsurface]
  exact (hnext h').reads hsurface

theorem record {event : Event} (hinquiry : event.isInquiry = true) :
    IsQuestion (modify (·.record event)) :=
  ⟨Host.machine_record (Event.isDeed_of_isInquiry hinquiry), fun _ => rfl, .record hinquiry⟩

theorem ite {c : Prop} [Decidable c] {yes no : Run α} (hyes : IsQuestion yes)
    (hno : IsQuestion no) : IsQuestion (if c then yes else no) := by
  split
  · exact hyes
  · exact hno

/-- A question that is answered alike on related hosts respects the relation, if that looks at
their machines only. -/
theorem respects_of_reads {R : Host → Host → Prop} (hstep : IsQuestion step)
    (hreads : ∀ {h h'}, R h h' → (step h).1 = (step h').1) (hmachine : OfMachine R) :
    Respects R step :=
  fun h h' hrelated =>
    ⟨hreads hrelated, hmachine hrelated (hstep.quiet h) (hstep.quiet h')⟩

/-- A question respects every relation that implies equal surfaces. -/
theorem respects {R : Host → Host → Prop} (hstep : IsQuestion step)
    (hsurface : ∀ {h h'}, R h h' → h.surface = h'.surface) (hmachine : OfMachine R) :
    Respects R step :=
  hstep.respects_of_reads (fun hrelated => hstep.reads (hsurface hrelated)) hmachine

end IsQuestion

end Run

end Checkup
