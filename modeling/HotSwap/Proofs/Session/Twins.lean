/-
# HotSwap.Proofs.Session.Twins -- sessions that differ in names only

A session that runs among others gets other numbers for its connections, its registries and
its tokens than it gets when it runs alone.  `Names` lists which numbers mean the same, each
list in the order in which the names were given.

Two procedures are twins (`Twin`) if they ask the same questions up to these names, whatever
alike answers come back, and end alike.  The names are those known when a question is asked; they
may become more before the answer comes, for other sessions of the same process go on.
`Agent.attach_twin` says that a session is its own twin, and `redefineParked_twin` that the call
back with a token is.  This speaks of procedures alone: that alike questions are answered alike is
a matter of the two worlds they are asked in.
-/
import HotSwap.Proofs.Files.PayloadName
import HotSwap.Proofs.Session.Questions
import HotSwap.Proofs.Session.Stage
import Mathlib.Data.List.Forall2

namespace HotSwap

set_option autoImplicit false

open Procedure Session

/-! ## Names -/

/-- Which numbers mean the same, and whether the agent's natives are known to be bound. -/
structure Names where
  links : List (LinkId × LinkId) := []
  registries : List (Nat × Nat) := []
  tokens : List (Int × Int) := []
  bound : Bool := false

/-- What belongs to a process for good: its number, the directories in which its agents put
payloads, and the places where its controllers dial in. -/
structure Tenant where
  pid : UInt32
  dirs : String → Prop
  exchanges : Nat → Prop

namespace Names

variable {ν ν' ν'' : Names}

/-- More names may be known. -/
structure Within (ν ν' : Names) : Prop where
  links : ν.links ⊆ ν'.links
  registries : ν.registries ⊆ ν'.registries
  tokens : ν.tokens ⊆ ν'.tokens
  bound : ν.bound = true → ν'.bound = true

theorem Within.refl (ν : Names) : ν.Within ν :=
  ⟨List.Subset.refl _, List.Subset.refl _, List.Subset.refl _, id⟩

theorem Within.trans (first : ν.Within ν') (second : ν'.Within ν'') : ν.Within ν'' where
  links := List.Subset.trans first.links second.links
  registries := List.Subset.trans first.registries second.registries
  tokens := List.Subset.trans first.tokens second.tokens
  bound := second.bound ∘ first.bound

/-- Connections that were met alike. -/
def Met (ν : Names) (a a' : Except TransportError LinkId) : Prop :=
  (∃ e, a = .error e ∧ a' = .error e) ∨ ∃ link link', a = .ok link ∧ a' = .ok link' ∧
    (link, link') ∈ ν.links

/-- Parked swaps that are the same but for the numbers of their connections. -/
structure SameSwap (x : Tenant) (ν : Names) (swap swap' : PendingSwap) : Prop where
  own : swap.pid = x.pid
  pid : swap'.pid = swap.pid
  request : swap'.request = swap.request
  link : (swap.link, swap'.link) ∈ ν.links

theorem SameSwap.mono {x : Tenant} {swap swap' : PendingSwap} (same : ν.SameSwap x swap swap')
    (within : ν.Within ν') : ν'.SameSwap x swap swap' :=
  { same with link := within.links same.link }

end Names

/-! ## Questions -/

/-- A call in which no name occurs. -/
def HostCall.Plain : HostCall → Prop
  | .setLoadHook hook => hook = none
  | .callStatic className _ _ => className = markerClass
  | .appendToBootstrapSearch _ | .registerNatives _ | .processId => False
  | _ => True

/-- A question in which no name occurs. -/
def Nameless (q : Question) : Prop := ∃ call : HostCall, q = .host call ∧ call.Plain

/-- Questions that are the same up to names, and what makes their answers alike. -/
inductive Alike (x : Tenant) (ν : Names) :
    (q q' : Question) → (Names → q.Answer → q'.Answer → Prop) → Prop where
  | plain {call : HostCall} (plain : call.Plain) :
      Alike x ν (.host call) (.host call) fun _ a a' => a' = a
  | processId :
      Alike x ν (.host .processId) (.host .processId) fun _ a a' => a = x.pid ∧ a' = x.pid
  | bindNatives :
      Alike x ν (.host (.registerNatives nativeBindings)) (.host (.registerNatives nativeBindings))
        fun ν a a' => a' = a ∧ (a = .ok () → ν.bound = true)
  | giveToken {token token' : Int} (known : (token, token') ∈ ν.tokens) (bound : ν.bound = true) :
      Alike x ν (.host (.callStatic handlerClass prepareForHotSwap [.long token]))
        (.host (.callStatic handlerClass prepareForHotSwap [.long token'])) fun _ a a' => a' = a
  | setHook {registry registry' : Nat} (known : (registry, registry') ∈ ν.registries) :
      Alike x ν (.host (.setLoadHook (some (.registry registry))))
        (.host (.setLoadHook (some (.registry registry')))) fun _ a a' => a' = a
  | inject {dir : String} (own : x.dirs dir) (payload : Payload) :
      Alike x ν (.host (.appendToBootstrapSearch (Depot.target dir payload)))
        (.host (.appendToBootstrapSearch (Depot.target dir payload))) fun _ a a' => a' = a
  | connect : Alike x ν .connect .connect Names.Met
  | receive {link link' : LinkId} (known : (link, link') ∈ ν.links) :
      Alike x ν (.receive link) (.receive link') fun _ a a' => a' = a
  | send {link link' : LinkId} (known : (link, link') ∈ ν.links) (frame : ByteArray) :
      Alike x ν (.send link frame) (.send link' frame) fun _ a a' => a' = a
  | hangUp {link link' : LinkId} (known : (link, link') ∈ ν.links) :
      Alike x ν (.hangUp link) (.hangUp link') fun _ a a' => a' = a
  | deposit {dir : String} (own : x.dirs dir) (payload : Payload) :
      Alike x ν (.deposit dir payload) (.deposit dir payload)
        fun _ a a' => a' = a ∧ ∀ path, a = .ok path → path = Depot.target dir payload
  | openRegistry (className : String) (transform : Transform) :
      Alike x ν (.openRegistry className transform) (.openRegistry className transform)
        fun ν a a' => (a, a') ∈ ν.registries
  | emptyRegistry {registry registry' : Nat} (known : (registry, registry') ∈ ν.registries) :
      Alike x ν (.emptyRegistry registry) (.emptyRegistry registry') fun _ a a' => a' = a
  | park {swap swap' : PendingSwap} (same : ν.SameSwap x swap swap') :
      Alike x ν (.park swap) (.park swap') fun ν a a' => (a, a') ∈ ν.tokens
  | take {token token' : Int} (known : (token, token') ∈ ν.tokens) :
      Alike x ν (.take token) (.take token') fun ν a a' => Option.Rel (ν.SameSwap x) a a'
  | takeSuperseded {token token' : Int} (known : (token, token') ∈ ν.tokens) :
      Alike x ν (.takeSuperseded x.pid token) (.takeSuperseded x.pid token')
        fun ν a a' => List.Forall₂ (ν.SameSwap x) a a'

variable {x : Tenant} {ν ν' : Names} {α α' β β' ε : Type}

/-- Questions that are alike are so whatever else gets a name. -/
theorem Alike.mono {q q' : Question} {S : Names → q.Answer → q'.Answer → Prop}
    (alike : Alike x ν q q' S) (within : ν.Within ν') : Alike x ν' q q' S := by
  cases alike with
  | plain plain => exact .plain plain
  | processId => exact .processId
  | bindNatives => exact .bindNatives
  | giveToken known bound => exact .giveToken (within.tokens known) (within.bound bound)
  | setHook known => exact .setHook (within.registries known)
  | inject own payload => exact .inject own payload
  | connect => exact .connect
  | receive known => exact .receive (within.links known)
  | send known frame => exact .send (within.links known) frame
  | hangUp known => exact .hangUp (within.links known)
  | deposit own payload => exact .deposit own payload
  | openRegistry className transform => exact .openRegistry className transform
  | emptyRegistry known => exact .emptyRegistry (within.registries known)
  | park same => exact .park (same.mono within)
  | take known => exact .take (within.tokens known)
  | takeSuperseded known => exact .takeSuperseded (within.tokens known)

/-! ## Procedures -/

/-- Procedures that ask alike whatever alike answers come, and end in what a relation says. -/
def Twin (x : Tenant) (rel : Names → α → β → Prop) : Names → Procedure α → Procedure β → Prop
  | ν, done a, done b => rel ν a b
  | ν, ask q next, ask q' next' =>
      ∃ S, Alike x ν q q' S ∧ ∀ ν', ν.Within ν' → ∀ a a', S ν' a a' →
        Twin x rel ν' (next a) (next' a')
  | _, _, _ => False

namespace Twin

variable {rel : Names → α → β → Prop} {rel' : Names → α' → β' → Prop}

/-- Twins stay twins whatever else gets a name. -/
theorem mono (kept : ∀ ν ν' a b, ν.Within ν' → rel ν a b → rel ν' a b) {p : Procedure α}
    {p' : Procedure β} (twin : Twin x rel ν p p') (within : ν.Within ν') :
    Twin x rel ν' p p' := by
  cases p with
  | done a =>
      cases p' with
      | done b => exact kept _ _ _ _ within twin
      | ask q' next' => exact twin
  | ask q next =>
      cases p' with
      | done b => exact twin
      | ask q' next' =>
          obtain ⟨S, alike, later⟩ := twin
          exact ⟨S, alike.mono within, fun ν'' more => later ν'' (within.trans more)⟩

/-- Twins behind twins are twins. -/
theorem bind {p : Procedure α} {p' : Procedure β} {f : α → Procedure α'} {f' : β → Procedure β'}
    (first : Twin x rel ν p p')
    (second : ∀ ν', ν.Within ν' → ∀ a b, rel ν' a b → Twin x rel' ν' (f a) (f' b)) :
    Twin x rel' ν (p.bind f) (p'.bind f') := by
  induction p generalizing ν p' with
  | done a =>
      cases p' with
      | done b => exact second ν (.refl ν) a b first
      | ask q' next' => exact first.elim
  | ask q next ih =>
      cases p' with
      | done b => exact first.elim
      | ask q' next' =>
          obtain ⟨S, alike, later⟩ := first
          refine ⟨S, alike, fun ν₁ within a a' answered => ?_⟩
          exact ih a (later ν₁ within a a' answered) fun ν₂ more => second ν₂ (within.trans more)

theorem weaken {rel' : Names → α → β → Prop} {p : Procedure α} {p' : Procedure β}
    (twin : Twin x rel ν p p')
    (weaker : ∀ ν', ν.Within ν' → ∀ a b, rel ν' a b → rel' ν' a b) :
    Twin x rel' ν p p' := by
  have ends : Twin x rel' ν (p.bind done) (p'.bind done) := bind twin weaker
  rwa [bind_done, bind_done] at ends

/-- A question alike, and what comes behind it. -/
theorem ask {q q' : Question} {S : Names → q.Answer → q'.Answer → Prop}
    {next : q.Answer → Procedure α} {next' : q'.Answer → Procedure β} (alike : Alike x ν q q' S)
    (later : ∀ ν', ν.Within ν' → ∀ a a', S ν' a a' → Twin x rel ν' (next a) (next' a')) :
    Twin x rel ν (.ask q next) (.ask q' next') :=
  ⟨S, alike, later⟩

/-- A call in which no name occurs, and what comes behind it. -/
theorem call {call : HostCall} {next : call.Answer → Procedure α} {next' : call.Answer → Procedure β}
    (plain : call.Plain) (later : ∀ ν', ν.Within ν' → ∀ a, Twin x rel ν' (next a) (next' a)) :
    Twin x rel ν (.ask (.host call) next) (.ask (.host call) next') :=
  ask (.plain plain) fun ν' within a _ same => same ▸ later ν' within a

/-- A procedure in which no name occurs is its own twin. -/
theorem of_asks {p : Procedure α} (asks : p.Asks Nameless) :
    Twin x (fun _ a b => b = a) ν p p := by
  induction p generalizing ν with
  | done a => rfl
  | ask q next ih =>
      obtain ⟨⟨one, rfl, plain⟩, later⟩ := asks
      exact call plain fun ν' _ a => ih a (later a)

end Twin

/-! ## Stages -/

/-- Results that are alike: both fail with the same error, or neither does. -/
def Results (rel : Names → α → β → Prop) (ν : Names) : Except ε α → Except ε β → Prop
  | .ok a, .ok b => rel ν a b
  | .error e, .error e' => e' = e
  | _, _ => False

/-- Results that are the same are alike. -/
theorem Twin.results {p p' : Procedure (Except ε α)} (twin : Twin x (fun _ a b => b = a) ν p p') :
    Twin x (Results fun _ a b => b = a) ν p p' := by
  refine twin.weaken fun ν' _ r r' same => ?_
  subst same
  cases r' <;> rfl

/-- Stages that are twins come to the same phases and fail with the same errors. -/
def StageTwin (x : Tenant) (rel : Names → α → β → Prop) (ν : Names) (stage : Stage α)
    (stage' : Stage β) : Prop :=
  ∀ progress, Twin x (fun ν r r' => r'.2 = r.2 ∧ Results rel ν r.1 r'.1) ν (stage progress)
    (stage' progress)

namespace StageTwin

variable {rel : Names → α → β → Prop} {rel' : Names → α' → β' → Prop} {stage : Stage α}
  {stage' : Stage β}

theorem bind {f : α → Stage α'} {f' : β → Stage β'} (first : StageTwin x rel ν stage stage')
    (second : ∀ ν', ν.Within ν' → ∀ a b, rel ν' a b → StageTwin x rel' ν' (f a) (f' b)) :
    StageTwin x rel' ν (stage >>= f) (stage' >>= f') := by
  intro progress
  rw [stage_bind, stage_bind]
  refine (first progress).bind fun ν' within r r' alike => ?_
  obtain ⟨r, progress₁⟩ := r
  obtain ⟨r', progress₂⟩ := r'
  obtain ⟨rfl, alike⟩ := alike
  cases r with
  | ok a =>
      cases r' with
      | ok b => exact second ν' within a b alike _
      | error e' => exact alike.elim
  | error e =>
      cases r' with
      | ok b => exact alike.elim
      | error e' => exact ⟨rfl, alike⟩

/-- A stage that asks nothing is its own twin. -/
theorem done {a : α} {b : β} (alike : rel ν a b) :
    StageTwin x rel ν (pure a) (pure b) := fun _ => ⟨rfl, alike⟩

theorem fail (e : AttachError) :
    StageTwin x rel ν (throw e : Stage α) (throw e : Stage β) := fun _ => ⟨rfl, rfl⟩

theorem attempt {wrap : ε → AttachError} {p : Procedure (Except ε α)} {p' : Procedure (Except ε β)}
    (twin : Twin x (Results rel) ν p p') :
    StageTwin x rel ν (Session.attempt wrap p) (Session.attempt wrap p') := by
  intro progress
  refine twin.bind fun ν' _ r r' alike => ?_
  cases r with
  | ok a =>
      cases r' with
      | ok b => exact ⟨rfl, alike⟩
      | error e' => exact alike.elim
  | error e =>
      cases r' with
      | ok b => exact alike.elim
      | error e' => exact ⟨rfl, congrArg wrap alike⟩

theorem perform {p : Procedure α} {p' : Procedure β} (twin : Twin x rel ν p p') :
    StageTwin x rel ν (Session.perform p) (Session.perform p') :=
  fun _ => twin.bind fun _ _ _ _ alike => ⟨rfl, alike⟩

/-- Moving on is the same for all. -/
theorem advance (target : Phase) :
    StageTwin x (fun _ _ _ => True) ν (Session.advance target) (Session.advance target) := by
  intro progress
  unfold Session.advance
  cases progress.phase.advance target with
  | error move => exact ⟨rfl, rfl⟩
  | ok phase => exact ⟨rfl, trivial⟩

theorem hangingUpOnFailure {link link' : LinkId} (known : (link, link') ∈ ν.links)
    (twin : StageTwin x rel ν stage stage') :
    StageTwin x rel ν (Session.hangingUpOnFailure link stage)
      (Session.hangingUpOnFailure link' stage') := by
  intro progress
  refine (twin progress).bind fun ν' within r r' alike => ?_
  obtain ⟨r, progress₁⟩ := r
  obtain ⟨r', progress₂⟩ := r'
  obtain ⟨rfl, alike⟩ := alike
  cases r with
  | ok a =>
      cases r' with
      | ok b => exact ⟨rfl, alike⟩
      | error e' => exact alike.elim
  | error e =>
      cases r' with
      | ok b => exact alike.elim
      | error e' => exact .ask (.hangUp (within.links known)) fun _ _ _ _ _ => ⟨rfl, alike⟩

theorem hangingUp (kept : ∀ ν ν' a b, ν.Within ν' → rel ν a b → rel ν' a b) {link link' : LinkId}
    (known : (link, link') ∈ ν.links) (twin : StageTwin x rel ν stage stage') :
    StageTwin x rel ν (Session.hangingUp link stage) (Session.hangingUp link' stage') := by
  intro progress
  refine (twin progress).bind fun ν' within r r' alike => ?_
  refine .ask (.hangUp (within.links known)) fun ν'' more _ _ _ => ⟨alike.1, ?_⟩
  obtain ⟨r, progress₁⟩ := r
  obtain ⟨r', progress₂⟩ := r'
  obtain ⟨rfl, alike⟩ := alike
  cases r with
  | ok a =>
      cases r' with
      | ok b => exact kept _ _ _ _ more alike
      | error e' => exact alike.elim
  | error e =>
      cases r' with
      | ok b => exact alike.elim
      | error e' => exact alike

end StageTwin

/-! ## The parts of a session -/

namespace Session

theorem negotiate_nameless : negotiate.Asks Nameless :=
  negotiate_questions.mono (by simp [Nameless, HostCall.Plain])

theorem checkBuild_nameless (build : Fingerprint) : (checkBuild build).Asks Nameless :=
  (checkBuild_questions build).mono (by rintro _ rfl; exact ⟨_, rfl, rfl⟩)

theorem checkInstrumented_nameless (marker : VerifiedMarker) :
    (checkInstrumented marker).Asks Nameless :=
  (checkInstrumented_questions marker).mono (by rintro _ rfl; exact ⟨_, rfl, rfl⟩)

theorem retransformHooked_nameless (target : String) : (retransformHooked target).Asks Nameless :=
  (retransformHooked_questions target).mono (by simp [Nameless, HostCall.Plain])

theorem markInstrumented_nameless (marker : VerifiedMarker) :
    marker.markInstrumented.Asks Nameless :=
  (markInstrumented_questions marker).mono (by rintro _ rfl; exact ⟨_, rfl, rfl⟩)

theorem install_twin {dir : String} (own : x.dirs dir) (payload : Payload) :
    Twin x (fun _ a b => b = a) ν (install payload dir) (install payload dir) := by
  refine .ask (.deposit own payload) ?_
  rintro _ _ _ stored ⟨rfl, target⟩
  rcases stored with cause | path
  · rfl
  obtain rfl := target path rfl
  refine .call trivial fun _ _ resident => ?_
  rcases resident with _ | _
  · refine .ask (.inject own payload) ?_
    rintro _ _ _ injected rfl
    rcases injected with cause | _
    · rfl
    · exact .call trivial fun _ _ resident => by rcases resident with _ | _ <;> rfl
  · rfl

theorem instrument_twin (plan : Plan) (marker : VerifiedMarker) :
    Twin x (fun _ a b => b = a) ν (instrument plan marker) (instrument plan marker) := by
  refine .ask (.openRegistry plan.target plan.transform) fun _ _ registry registry' known => ?_
  refine .ask (.setHook known) ?_
  rintro _ within _ hooked rfl
  rcases hooked with cause | _
  · rfl
  refine (Twin.of_asks (retransformHooked_nameless plan.target)).bind ?_
  rintro _ more _ outcome rfl
  refine .ask (.emptyRegistry (more.registries (within.registries known))) fun _ _ _ _ _ => ?_
  refine .call rfl fun _ _ _ => ?_
  rcases outcome with e | cause | _
  · rfl
  · rfl
  · refine (Twin.of_asks (markInstrumented_nameless marker)).bind ?_
    rintro _ _ _ noted rfl
    rcases noted with cause | _ <;> rfl

theorem bindNatives_twin :
    Twin x (Results fun ν _ _ => ν.bound = true) ν bindNatives bindNatives := by
  refine .ask .bindNatives ?_
  rintro _ _ _ answer ⟨rfl, bound⟩
  rcases answer with cause | _
  · rfl
  · exact bound rfl

theorem execute_twin (request : Request) :
    Twin x (fun _ a b => b = a) ν (execute request) (execute request) := by
  refine .ask .processId ?_
  rintro _ _ _ _ ⟨rfl, rfl⟩
  exact .call trivial fun _ _ applied => by rcases applied with cause | _ <;> rfl

/-! ## Swaps that wait -/

section Waiting

variable {swap swap' : PendingSwap} {token token' : Int} {link link' : LinkId}

theorem complete_twin (same : ν.SameSwap x swap swap') :
    Twin x (fun _ a b => b = a) ν (complete swap) (complete swap') := by
  have responded : Twin x (fun _ a b => b = a) ν (executeAndRespond swap.request swap.link)
      (executeAndRespond swap'.request swap'.link) := by
    rw [same.request]
    refine (execute_twin swap.request).bind ?_
    rintro _ within _ response rfl
    refine .ask (.send (within.links same.link) _) ?_
    rintro _ _ _ sent rfl
    rcases sent with e | _ <;> rfl
  refine responded.bind ?_
  rintro _ within _ result rfl
  refine .ask (.hangUp (within.links same.link)) fun _ _ _ _ _ => ?_
  rcases result with e | response <;> rfl

theorem abandon_twin (same : ν.SameSwap x swap swap') (detail : ErrorDetail) :
    Twin x (fun _ _ _ => True) ν (abandon swap detail) (abandon swap' detail) := by
  unfold abandon
  rw [same.pid]
  exact .ask (.send same.link _) fun _ within _ _ _ =>
    .ask (.hangUp (within.links same.link)) fun _ _ _ _ _ => trivial

theorem abandonAll_twin {swaps swaps' : List PendingSwap}
    (same : List.Forall₂ (ν.SameSwap x) swaps swaps') :
    Twin x (fun _ _ _ => True) ν (abandonAll swaps) (abandonAll swaps') := by
  induction swaps generalizing ν swaps' with
  | nil =>
      cases same
      trivial
  | cons swap rest ih =>
      cases same with
      | cons first later =>
          exact (abandon_twin first superseded).bind fun _ within _ _ _ =>
            ih (later.imp fun _ _ same => same.mono within)

theorem takeBack_twin (known : (token, token') ∈ ν.tokens) (cause : Host.Error) :
    Twin x (fun _ _ _ => True) ν (takeBack token cause) (takeBack token' cause) := by
  refine .ask (.take known) fun _ _ taken taken' same => ?_
  cases same with
  | none => trivial
  | some same => exact abandon_twin same _

theorem redefineParked_twin (known : (token, token') ∈ ν.tokens) :
    Twin x (fun _ a b => b = a) ν (redefineParked [.long token])
      (redefineParked [.long token']) := by
  refine .ask (.take known) fun _ _ taken taken' same => ?_
  cases same with
  | none => rfl
  | some same =>
      refine (complete_twin same).bind ?_
      rintro _ _ _ completed rfl
      rfl

/-- A transfer ends with tokens of the same swap, if the agent's natives are bound. -/
theorem transfer_twin (request : Request) (known : (link, link') ∈ ν.links)
    (bound : ν.bound = true) :
    Twin x (Results fun ν token token' => (token, token') ∈ ν.tokens) ν (transfer request link)
      (transfer request link') := by
  refine .ask .processId ?_
  rintro _ within _ _ ⟨rfl, rfl⟩
  have known := within.links known
  have bound := within.bound bound
  refine .ask (.send known _) ?_
  rintro _ within _ sent rfl
  have known := within.links known
  have bound := within.bound bound
  rcases sent with e | _
  · exact .ask (.hangUp known) fun _ _ _ _ _ => rfl
  refine .ask (.park ⟨rfl, rfl, rfl, known⟩) fun _ within token token' parked => ?_
  refine .ask (.giveToken parked (within.bound bound)) ?_
  rintro _ within _ accepted rfl
  have parked := within.tokens parked
  rcases accepted with cause | _
  · exact (takeBack_twin parked cause).bind fun _ _ _ _ _ => rfl
  · refine .ask (.takeSuperseded parked) fun _ within taken taken' same => ?_
    exact (abandonAll_twin same).bind fun _ more _ _ _ =>
      more.tokens (within.tokens parked)

end Waiting

/-! ## Whole sessions -/

/-- An agent that puts its payload only where the process's payloads belong. -/
def KeepsTo (x : Tenant) (agent : Agent) : Prop :=
  ∀ package dir, agent.payloadDir.resolve package = some dir → x.dirs dir

variable {agent : Agent} {link link' : LinkId}

theorem bindAndPart_twin (request : Request) :
    StageTwin x (fun ν a b => b = a ∧ ν.bound = true) ν (bindAndPart request)
      (bindAndPart request) :=
  (StageTwin.attempt bindNatives_twin).bind fun _ _ _ _ bound =>
    (StageTwin.advance _).bind fun _ within _ _ _ => .done ⟨rfl, within.bound bound⟩

theorem checkAndHook_twin (agent : Agent) (request : Request) :
    StageTwin x (fun ν a b => b = a ∧ ν.bound = true) ν (checkAndHook agent request)
      (checkAndHook agent request) := by
  refine (StageTwin.advance _).bind fun _ _ _ _ _ => ?_
  refine (StageTwin.attempt (Twin.of_asks (checkBuild_nameless _)).results).bind ?_
  rintro _ _ _ marker rfl
  refine (StageTwin.attempt (Twin.of_asks (checkInstrumented_nameless _)).results).bind ?_
  rintro _ _ _ instrumented rfl
  cases instrumented with
  | true => exact (StageTwin.advance _).bind fun _ _ _ _ _ => bindAndPart_twin request
  | false =>
      refine (StageTwin.advance _).bind fun _ _ _ _ _ => ?_
      exact (StageTwin.attempt (instrument_twin _ _).results).bind fun _ _ _ _ _ =>
        bindAndPart_twin request

theorem prepare_twin (keeps : KeepsTo x agent) (known : (link, link') ∈ ν.links) :
    StageTwin x (fun ν a b => b = a ∧ ν.bound = true) ν (prepare agent link)
      (prepare agent link') := by
  refine (StageTwin.advance _).bind fun _ within _ _ _ => ?_
  have received : Twin x (fun _ a b => b = a) _ (receive link) (receive link') :=
    .ask (.receive (within.links known)) fun _ _ _ _ same => same
  refine (StageTwin.attempt received.results).bind ?_
  rintro ν₂ _ _ frame rfl
  have decoded : Twin x (fun _ a b => b = a) ν₂ (done (Request.decode frame))
      (done (Request.decode frame)) := rfl
  refine (StageTwin.attempt decoded.results).bind ?_
  rintro _ _ _ request rfl
  refine (StageTwin.advance _).bind fun _ _ _ _ _ => ?_
  refine (StageTwin.attempt (Twin.of_asks negotiate_nameless).results).bind fun _ _ _ _ _ => ?_
  refine (StageTwin.advance _).bind fun _ _ _ _ _ => ?_
  cases resolved : agent.payloadDir.resolve request.packageName with
  | none => exact .fail _
  | some dir =>
      refine (StageTwin.attempt (install_twin (keeps _ _ resolved) _).results).bind
        fun _ _ _ _ _ => ?_
      exact checkAndHook_twin agent request

/-- Sessions that went well alike: at once with the same response, or later with tokens of the same
swap. -/
def SameCompletion (ν : Names) : Completion → Completion → Prop
  | .immediate response, .immediate response' => response' = response
  | .deferred token, .deferred token' => (token, token') ∈ ν.tokens
  | _, _ => False

/-- Reports that are the same but for the token of a swap that was parked. -/
structure SameReport (ν : Names) (report report' : SessionReport) : Prop where
  phase : report'.phase = report.phase
  history : report'.history = report.history
  outcome : Results SameCompletion ν report.outcome report'.outcome

theorem SameCompletion.mono (within : ν.Within ν') {c c' : Completion}
    (same : SameCompletion ν c c') : SameCompletion ν' c c' := by
  cases c <;> cases c' <;> first | exact same | exact within.tokens same

theorem swapNow_twin (request : Request) (known : (link, link') ∈ ν.links) :
    StageTwin x SameCompletion ν (swapNow request link) (swapNow request link') := by
  refine (StageTwin.advance _).bind fun _ within _ _ _ => ?_
  refine (StageTwin.perform (execute_twin request)).bind ?_
  rintro _ more _ response rfl
  refine (StageTwin.advance _).bind fun _ further _ _ _ => ?_
  have known := further.links (more.links (within.links known))
  have sent : Twin x (fun _ a b => b = a) _ (send link response.encode)
      (send link' response.encode) := .ask (.send known _) fun _ _ _ _ same => same
  refine (StageTwin.attempt sent.results).bind fun _ _ _ _ _ => ?_
  exact (StageTwin.advance _).bind fun _ _ _ _ _ => .done rfl

theorem swapLater_twin (request : Request) (known : (link, link') ∈ ν.links)
    (bound : ν.bound = true) :
    StageTwin x SameCompletion ν (swapLater request link) (swapLater request link') := by
  refine (StageTwin.advance _).bind fun _ within _ _ _ => ?_
  refine (StageTwin.advance _).bind fun _ more _ _ _ => ?_
  have within := within.trans more
  refine (StageTwin.attempt (transfer_twin request (within.links known)
    (within.bound bound))).bind fun _ _ token token' parked => ?_
  exact (StageTwin.advance _).bind fun _ within _ _ _ => .done (within.tokens parked)

theorem session_twin (keeps : KeepsTo x agent) :
    StageTwin x SameCompletion ν (session agent) (session agent) := by
  have met : Twin x (Results fun ν link link' => (link, link') ∈ ν.links) ν connect connect := by
    refine .ask .connect ?_
    rintro _ _ _ _ (⟨e, rfl, rfl⟩ | ⟨link, link', rfl, rfl, known⟩)
    · rfl
    · exact known
  refine (StageTwin.attempt met).bind fun _ _ link link' known => ?_
  refine (StageTwin.hangingUpOnFailure known (prepare_twin keeps known)).bind ?_
  rintro _ within _ request ⟨rfl, bound⟩
  have known := within.links known
  cases request.restartActivity with
  | true => exact swapLater_twin request known bound
  | false =>
      refine .hangingUp ?_ known (swapNow_twin request known)
      exact fun _ _ _ _ within same => SameCompletion.mono within same

end Session

/-- A session is its own twin, whatever names its questions are answered with. -/
theorem Agent.attach_twin {agent : Agent} (keeps : Session.KeepsTo x agent) :
    Twin x Session.SameReport ν agent.attach agent.attach := by
  refine (session_twin keeps Progress.start).bind fun ν' _ r r' alike => ?_
  obtain ⟨r, progress⟩ := r
  obtain ⟨r', progress'⟩ := r'
  obtain ⟨rfl, alike⟩ := alike
  cases r with
  | ok completion =>
      cases r' with
      | ok completion' => exact ⟨rfl, rfl, alike⟩
      | error e => exact alike.elim
  | error e =>
      cases r' with
      | ok completion => exact alike.elim
      | error e' => exact ⟨rfl, rfl, alike⟩

end HotSwap
