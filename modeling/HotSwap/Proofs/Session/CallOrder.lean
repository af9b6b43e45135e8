/-
# HotSwap.Proofs.Session.CallOrder -- when a session may call its host

`MayCall agent past call` says what must lie behind a session before it makes a call.
Nothing at all is asked of the host before a request was read; the abilities are only
wanted if the host has them; the archive is only injected right after the host said
that the marker does not resolve, and from the path where it was put; the marker is
first asked for the build, and everything behind that waits for it to say yes; the
hooked class is only loaded again if the marker said that this was not done yet; and
nothing is redefined or handed over before the natives are bound.

The main theorem is `attach_callOrder`: every course of an attach, finished or not,
keeps to `CallOrder`, whatever the host, the connection and the file system answered.

Some calls are made at most once.  They have a `Rank` here, in the order in which a
session comes to them, and each part of a session is shown to ask for nothing above its
own rank (`Below`); so when a session comes to such a call, none like it was made yet.
-/
import HotSwap.Host.Scripted
import HotSwap.Proofs.Course
import HotSwap.Proofs.Session.Stage
import HotSwap.Simulation.Fixture
import Mathlib.Data.List.Induction

namespace HotSwap.Session

set_option autoImplicit false

open Procedure

/-! ## What lies behind a session -/

/-- A frame was read that carries a request. -/
def Accepted (request : Request) (past : List Event) : Prop :=
  ∃ link frame, ⟨.receive link, .ok frame⟩ ∈ past ∧ Request.decode frame = .ok request

/-- The host said that it has every ability that is needed. -/
def Available (past : List Event) : Prop :=
  ∃ potential : Capabilities,
    ⟨.host .potentialCapabilities, potential⟩ ∈ past ∧ potential.Covers .required

/-- The last that happened is that the payload was put at a path, and that the marker did
not resolve. -/
def Absent (agent : Agent) (path : String) (past : List Event) : Prop :=
  ∃ dir, [⟨.deposit dir agent.payload, .ok path⟩, ⟨.host (.findClass markerClass), false⟩] <:+ past

/-- The question of an agent whether the process is its build's. -/
def buildQuestion (agent : Agent) : Question :=
  .host (.callStatic markerClass checkHash [.str agent.payload.fingerprint.hex])

/-- The marker said that the process is the build's. -/
def Verified (agent : Agent) (past : List Event) : Prop :=
  ⟨buildQuestion agent, .ok (.bool true)⟩ ∈ past

/-- The marker said that the one-time hook is not in place. -/
def Unhooked (past : List Event) : Prop :=
  ⟨.host (.callStatic markerClass isFinishedInstrumenting []), .ok (.bool false)⟩ ∈ past

/-- Both natives were bound. -/
def Bound (past : List Event) : Prop := ⟨.host (.registerNatives nativeBindings), .ok ()⟩ ∈ past

/-! ## Calls that are not repeated -/

/-- The calls that a session makes at most once, in the order in which it comes to them;
of the marker's methods each counts for itself. -/
inductive Rank where
  | plain | injection | buildCheck | markerCall | retransform | binding | swap
  deriving DecidableEq

namespace Rank

/-- The place in the order. -/
@[simp] def level : Rank → Nat
  | plain => 0
  | injection => 1
  | buildCheck => 2
  | markerCall => 3
  | retransform => 4
  | binding => 5
  | swap => 6

/-- The rank of a question. -/
@[simp] def of : Question → Rank
  | .host (.appendToBootstrapSearch _) => injection
  | .host (.callStatic className method _) =>
      if className = markerClass then
        if method = checkHash then buildCheck else markerCall
      else swap
  | .host (.retransformClass _) => retransform
  | .host (.registerNatives _) => binding
  | .host (.redefineClasses _) => swap
  | _ => plain

end Rank

/-- Nothing of a rank was asked yet. -/
def Unasked (rank : Rank) (past : List Event) : Prop := ∀ event ∈ past, Rank.of event.question ≠ rank

/-- Nothing of a rank or above was asked yet. -/
def Below (rank : Rank) (past : List Event) : Prop :=
  ∀ event ∈ past, (Rank.of event.question).level < rank.level

/-- How often something of a rank was asked. -/
def timesAsked (rank : Rank) (log : List Event) : Nat :=
  log.countP fun event => Rank.of event.question = rank

/-! ## The order -/

/-- What must lie behind a session that makes a call. -/
def MayCall (agent : Agent) (past : List Event) (call : HostCall) : Prop :=
  (∃ request, Accepted request past) ∧
    match call with
    | .potentialCapabilities | .findClass _ | .processId => True
    | .addCapabilities wanted => wanted = .required ∧ Available past
    | .appendToBootstrapSearch path => Absent agent path past ∧ Unasked .injection past
    | .callStatic className method args =>
        if className = markerClass then
          if method = checkHash then
            args = [.str agent.payload.fingerprint.hex] ∧
              Unasked .buildCheck past ∧ Unasked .markerCall past
          else Verified agent past
        else
          className = handlerClass ∧ method = prepareForHotSwap ∧
            (∃ request, Accepted request past ∧ request.restartActivity = true) ∧
            Verified agent past ∧ Bound past ∧ Unasked .swap past
    | .setLoadHook _ | .setLoadNotification _ => Verified agent past ∧ Unhooked past
    | .retransformClass name =>
        name = agent.plan.target ∧ Verified agent past ∧ Unhooked past ∧ Unasked .retransform past
    | .registerNatives bindings =>
        bindings = nativeBindings ∧ Verified agent past ∧ Unasked .binding past ∧ Unasked .swap past
    | .redefineClasses changes =>
        (∃ request, Accepted request past ∧ request.restartActivity = false ∧
          request.changes = changes) ∧
          Verified agent past ∧ Bound past ∧ Unasked .swap past

/-- The order of the calls of a session. -/
structure CallOrder (agent : Agent) (log : List Event) : Prop where
  /-- Every call has behind it what it needs. -/
  mayCall : ∀ before call answer after,
    log = before ++ ⟨.host call, answer⟩ :: after → MayCall agent before call
  /-- The archive is injected at most once. -/
  injection : timesAsked .injection log ≤ 1
  /-- The marker is asked for the build at most once. -/
  buildCheck : timesAsked .buildCheck log ≤ 1
  /-- The hooked class is loaded again at most once. -/
  retransform : timesAsked .retransform log ≤ 1
  /-- The natives are bound at most once. -/
  binding : timesAsked .binding log ≤ 1
  /-- Classes are redefined or a token is handed over, and that at most once. -/
  swap : timesAsked .swap log ≤ 1

/-! ## Facts that stay -/

section Stays

variable {agent : Agent} {past now : List Event} {rank higher : Rank}

theorem Accepted.mono {request : Request} (accepted : Accepted request past) (grown : past <+: now) :
    Accepted request now := by
  obtain ⟨link, frame, received, decoded⟩ := accepted
  exact ⟨link, frame, grown.subset received, decoded⟩

theorem Verified.mono (verified : Verified agent past) (grown : past <+: now) :
    Verified agent now := grown.subset verified

theorem Unhooked.mono (unhooked : Unhooked past) (grown : past <+: now) : Unhooked now :=
  grown.subset unhooked

theorem Below.unasked (below : Below rank past) (le : rank.level ≤ higher.level) :
    Unasked higher past := by
  intro event member same
  have := below event member
  rw [same] at this
  omega

theorem Below.mono (below : Below rank past) (le : rank.level ≤ higher.level) :
    Below higher past := fun event member => Nat.lt_of_lt_of_le (below event member) le

/-- What lies behind stays below a rank if what is asked next is below it. -/
theorem Below.step (below : Below rank past) {q : Question} {answer : q.Answer}
    (lower : (Rank.of q).level < rank.level) : Below rank (past ++ [⟨q, answer⟩]) := by
  intro event member
  rcases List.mem_append.1 member with earlier | last
  · exact below event earlier
  · obtain rfl := List.mem_singleton.1 last
    exact lower

end Stays

/-! ## The parts of a session -/

/-- The rules of one who watches over the order of calls. -/
def ordered (agent : Agent) : Rules (List Event) :=
  .past fun past q => ∀ call, q = .host call → MayCall agent past call

/-- What happened since is behind what had happened before, and below a rank. -/
structure Grown (rank : Rank) (past now : List Event) : Prop where
  grown : past <+: now
  below : Below rank now

theorem Grown.refl {rank : Rank} {past : List Event} (below : Below rank past) :
    Grown rank past past := ⟨List.prefix_refl past, below⟩

theorem Grown.lift {rank higher : Rank} {past now : List Event} (grown : Grown rank past now)
    (le : rank.level ≤ higher.level) : Grown higher past now := ⟨grown.grown, grown.below.mono le⟩

theorem Grown.trans {rank higher : Rank} {past middle now : List Event}
    (first : Grown rank past middle) (second : Grown higher middle now) : Grown higher past now :=
  ⟨first.grown.trans second.grown, second.below⟩

theorem Grown.step {rank higher : Rank} {past now : List Event} (grown : Grown rank past now)
    {q : Question} (answer : q.Answer) (lower : (Rank.of q).level < higher.level)
    (le : rank.level ≤ higher.level) : Grown higher past (now ++ [⟨q, answer⟩]) :=
  ⟨grown.grown.trans (List.prefix_append ..), (grown.below.mono le).step lower⟩

section Parts

variable {agent : Agent} {past : List Event} {request : Request}

/-- A call that may be made, and what comes behind it. -/
theorem ordered_call {α : Type} {post : α → List Event → Prop} {call : HostCall}
    {next : call.Answer → Procedure α} (may : MayCall agent past call)
    (later : ∀ answer : call.Answer,
      (next answer).Obeys (ordered agent) post (past ++ [⟨.host call, answer⟩])) :
    (ask (.host call) next).Obeys (ordered agent) post past := by
  refine past_ask.2 ⟨?_, later⟩
  rintro _ ⟨⟩
  exact may

/-- What is not asked of the host may be asked at any time. -/
theorem ordered_other {α : Type} {post : α → List Event → Prop} {q : Question}
    {next : q.Answer → Procedure α} (other : ∀ call, q ≠ .host call)
    (later : ∀ answer, (next answer).Obeys (ordered agent) post (past ++ [⟨q, answer⟩])) :
    (ask q next).Obeys (ordered agent) post past :=
  past_ask.2 ⟨fun call same => absurd same (other call), later⟩

theorem negotiate_ordered (accepted : Accepted request past) (below : Below .injection past) :
    negotiate.Obeys (ordered agent) (fun _ now => Grown .injection past now) past := by
  refine ordered_call ⟨⟨request, accepted⟩, trivial⟩ fun potential => ?_
  have asked := (Grown.refl below).step (q := .host .potentialCapabilities) potential
    (by simp) (Nat.le_refl _)
  cases missing : Capabilities.required.missingFrom potential with
  | cons name names => simpa [missing] using asked
  | nil =>
      have covers := (Capabilities.missingFrom_eq_nil_iff _ _).1 missing
      have available : Available (past ++ [⟨.host .potentialCapabilities, potential⟩]) :=
        ⟨potential, by simp, covers⟩
      simp only [done_bind, missing]
      refine ordered_call ⟨⟨request, accepted.mono asked.grown⟩, rfl, available⟩ fun answer => ?_
      have granted := asked.step (q := .host (.addCapabilities .required)) answer
        (by simp) (Nat.le_refl _)
      rcases answer with cause | _ <;> exact granted

theorem install_ordered {dir : String} (accepted : Accepted request past)
    (below : Below .injection past) :
    (install agent.payload dir).Obeys (ordered agent) (fun _ now => Grown .buildCheck past now)
      past := by
  refine ordered_other (by simp) fun answer => ?_
  have stored := (Grown.refl below).step (q := .deposit dir agent.payload) answer
    (by simp) (Nat.le_refl _)
  rcases answer with cause | path
  · exact stored.lift (by simp)
  refine ordered_call ⟨⟨request, accepted.mono stored.grown⟩, trivial⟩ fun resident => ?_
  have looked := stored.step (q := .host (.findClass markerClass)) resident (by simp) (Nat.le_refl _)
  rcases resident with _ | _
  · have absent : Absent agent path (past ++ [⟨.deposit dir agent.payload, .ok path⟩] ++
        [⟨.host (.findClass markerClass), false⟩]) := ⟨dir, past, by simp⟩
    refine ordered_call ⟨⟨request, accepted.mono looked.grown⟩, absent,
      looked.below.unasked (Nat.le_refl _)⟩ fun answer => ?_
    have injected : Grown .buildCheck past _ :=
      looked.step (q := .host (.appendToBootstrapSearch path)) answer (by simp) (by simp)
    rcases answer with cause | _
    · exact injected
    refine ordered_call ⟨⟨request, accepted.mono injected.grown⟩, trivial⟩ fun resident => ?_
    have again := injected.step (q := .host (.findClass markerClass)) resident
      (by simp) (Nat.le_refl _)
    rcases resident with _ | _ <;> exact again
  · exact looked.lift (by simp)

theorem checkBuild_ordered (accepted : Accepted request past) (below : Below .buildCheck past) :
    (checkBuild agent.payload.fingerprint).Obeys (ordered agent)
      (fun r now => Grown .markerCall past now ∧ ∀ marker, r = .ok marker → Verified agent now)
      past := by
  have first : MayCall agent past
      (.callStatic markerClass checkHash [.str agent.payload.fingerprint.hex]) :=
    ⟨⟨request, accepted⟩, by simpa using
      ⟨below.unasked (Nat.le_refl _), below.unasked (by simp)⟩⟩
  refine ordered_call first fun answer => ?_
  have checked : Grown .markerCall past _ :=
    (Grown.refl below).step (q := buildQuestion agent) answer (by simp [buildQuestion]) (by simp)
  rcases answer with cause | reply
  · exact ⟨checked, by simp⟩
  cases reply with
  | bool agrees =>
      cases agrees with
      | true => exact ⟨checked, fun _ _ => by simp [Verified, buildQuestion]⟩
      | false => exact ⟨checked, by simp⟩
  | void => exact ⟨checked, by simp⟩
  | int n => exact ⟨checked, by simp⟩
  | long n => exact ⟨checked, by simp⟩
  | str text => exact ⟨checked, by simp⟩

/-- The marker's other methods may be called once it agreed. -/
theorem mayCall_marker {method : Host.Method} {args : List Host.Value}
    (accepted : Accepted request past) (verified : Verified agent past) (other : method ≠ checkHash) :
    MayCall agent past (.callStatic markerClass method args) :=
  ⟨⟨request, accepted⟩, by simpa [other] using verified⟩

theorem checkInstrumented_ordered {marker : VerifiedMarker} (accepted : Accepted request past)
    (verified : Verified agent past) (below : Below .retransform past) :
    (checkInstrumented marker).Obeys (ordered agent)
      (fun r now => Grown .retransform past now ∧ (r = .ok false → Unhooked now)) past := by
  refine ordered_call (mayCall_marker accepted verified (by decide)) fun answer => ?_
  have asked := (Grown.refl below).step
    (q := .host (.callStatic markerClass isFinishedInstrumenting [])) answer
    (by decide) (Nat.le_refl _)
  rcases answer with cause | reply
  · exact ⟨asked, by simp⟩
  cases reply with
  | bool hooked =>
      cases hooked with
      | true => exact ⟨asked, by simp⟩
      | false => exact ⟨asked, fun _ => by simp [Unhooked]⟩
  | void => exact ⟨asked, by simp⟩
  | int n => exact ⟨asked, by simp⟩
  | long n => exact ⟨asked, by simp⟩
  | str text => exact ⟨asked, by simp⟩

/-- What lies behind every call of the one-time hook. -/
structure Hooking (agent : Agent) (request : Request) (past : List Event) : Prop where
  accepted : Accepted request past
  verified : Verified agent past
  unhooked : Unhooked past

theorem Hooking.mono {now : List Event} (hooking : Hooking agent request past)
    (grown : past <+: now) : Hooking agent request now :=
  ⟨hooking.accepted.mono grown, hooking.verified.mono grown, hooking.unhooked.mono grown⟩

/-- The load hook and its switch may be moved at any time while the hook is put in place. -/
theorem Hooking.may (hooking : Hooking agent request past) :
    (∀ hook, MayCall agent past (.setLoadHook hook)) ∧
      ∀ enabled, MayCall agent past (.setLoadNotification enabled) :=
  ⟨fun _ => ⟨⟨request, hooking.accepted⟩, hooking.verified, hooking.unhooked⟩,
    fun _ => ⟨⟨request, hooking.accepted⟩, hooking.verified, hooking.unhooked⟩⟩

theorem retransformHooked_ordered (hooking : Hooking agent request past)
    (below : Below .retransform past) :
    (retransformHooked agent.plan.target).Obeys (ordered agent)
      (fun _ now => Grown .binding past now) past := by
  refine ordered_call ⟨⟨request, hooking.accepted⟩, trivial⟩ fun found => ?_
  have looked := (Grown.refl below).step (q := .host (.findClass agent.plan.target)) found
    (by simp) (Nat.le_refl _)
  rcases found with _ | _
  · exact looked.lift (by simp)
  refine ordered_call ((hooking.mono looked.grown).may.2 true) fun answer => ?_
  have opened := looked.step (q := .host (.setLoadNotification true)) answer
    (by simp) (Nat.le_refl _)
  have hooking := hooking.mono opened.grown
  rcases answer with cause | _
  · exact opened.lift (by simp)
  refine ordered_call ⟨⟨request, hooking.accepted⟩, rfl, hooking.verified, hooking.unhooked,
    opened.below.unasked (Nat.le_refl _)⟩ fun retransformed => ?_
  have loaded : Grown .binding past _ := opened.step
    (q := .host (.retransformClass agent.plan.target)) retransformed (by simp) (by simp)
  refine ordered_call ((hooking.mono (List.prefix_append ..)).may.2 false) fun answer => ?_
  exact loaded.step (q := .host (.setLoadNotification false)) answer (by simp) (Nat.le_refl _)

theorem removeHook_ordered {registry : Nat} (hooking : Hooking agent request past)
    (below : Below .binding past) :
    (removeHook registry).Obeys (ordered agent) (fun _ now => Grown .binding past now) past := by
  refine ordered_other (by simp) fun answer => ?_
  have emptied := (Grown.refl below).step (q := .emptyRegistry registry) answer
    (by simp) (Nat.le_refl _)
  refine ordered_call ((hooking.mono emptied.grown).may.1 none) fun answer => ?_
  exact emptied.step (q := .host (.setLoadHook none)) answer (by simp) (Nat.le_refl _)

theorem markInstrumented_ordered {marker : VerifiedMarker} (hooking : Hooking agent request past)
    (below : Below .binding past) :
    marker.markInstrumented.Obeys (ordered agent) (fun _ now => Grown .binding past now) past := by
  refine ordered_call (mayCall_marker hooking.accepted hooking.verified (by decide))
    fun answer => ?_
  have asked := (Grown.refl below).step
    (q := .host (.callStatic markerClass setFinishedInstrumenting [])) answer
    (by decide) (Nat.le_refl _)
  rcases answer with cause | _ <;> exact asked

theorem instrument_ordered {marker : VerifiedMarker} (hooking : Hooking agent request past)
    (below : Below .retransform past) :
    (instrument agent.plan marker).Obeys (ordered agent) (fun _ now => Grown .binding past now)
      past := by
  refine ordered_other (by simp) fun registry => ?_
  have made := (Grown.refl below).step
    (q := .openRegistry agent.plan.target agent.plan.transform) registry (by simp) (Nat.le_refl _)
  refine ordered_call ((hooking.mono made.grown).may.1 _) fun answer => ?_
  have installed := made.step (q := .host (.setLoadHook (some (.registry registry)))) answer
    (by simp) (Nat.le_refl _)
  rcases answer with cause | _
  · exact installed.lift (by simp)
  refine (retransformHooked_ordered (hooking.mono installed.grown)
    installed.below).andThen fun outcome now since => ?_
  have loaded := installed.trans since
  refine (removeHook_ordered (hooking.mono loaded.grown) loaded.below).andThen
    fun _ now since => ?_
  have removed := loaded.trans since
  rcases outcome with e | cause | _
  · exact removed
  · exact removed
  refine (markInstrumented_ordered (hooking.mono removed.grown) removed.below).andThen
    fun answer now since => ?_
  rcases answer with cause | _ <;> exact removed.trans since

theorem bindNatives_ordered (accepted : Accepted request past) (verified : Verified agent past)
    (below : Below .binding past) :
    bindNatives.Obeys (ordered agent)
      (fun r now => Grown .swap past now ∧ (r = .ok () → Bound now)) past := by
  refine ordered_call ⟨⟨request, accepted⟩, rfl, verified, below.unasked (Nat.le_refl _),
    below.unasked (by simp)⟩ fun answer => ?_
  have bound : Grown .swap past _ := (Grown.refl below).step
    (q := .host (.registerNatives nativeBindings)) answer (by simp) (by simp)
  rcases answer with cause | _
  · exact ⟨bound, by simp⟩
  · exact ⟨bound, fun _ => by simp [Bound]⟩

/-- What lies behind the one call that swaps or hands over. -/
structure Ready (agent : Agent) (request : Request) (past : List Event) : Prop where
  accepted : Accepted request past
  verified : Verified agent past
  bound : Bound past
  below : Below .swap past

theorem Ready.step (ready : Ready agent request past) {q : Question} (answer : q.Answer)
    (lower : (Rank.of q).level < Rank.swap.level) :
    Ready agent request (past ++ [⟨q, answer⟩]) :=
  have grown := List.prefix_append past [⟨q, answer⟩]
  ⟨ready.accepted.mono grown, ready.verified.mono grown, grown.subset ready.bound,
    ready.below.step lower⟩

/-- The handler may be given a token by a session that was to wait for the restart. -/
theorem Ready.mayHandOver (ready : Ready agent request past)
    (later : request.restartActivity = true) (args : List Host.Value) :
    MayCall agent past (.callStatic handlerClass prepareForHotSwap args) := by
  refine ⟨⟨request, ready.accepted⟩, ?_⟩
  show if handlerClass = markerClass then _ else _
  rw [if_neg (show handlerClass ≠ markerClass by decide)]
  exact ⟨rfl, rfl, ⟨request, ready.accepted, later⟩, ready.verified, ready.bound,
    ready.below.unasked (Nat.le_refl _)⟩

theorem execute_ordered (ready : Ready agent request past) (now : request.restartActivity = false) :
    (execute request).Obeys (ordered agent) (fun _ _ => True) past := by
  refine ordered_call ⟨⟨request, ready.accepted⟩, trivial⟩ fun pid => ?_
  have ready := ready.step (q := .host .processId) pid (by simp)
  refine ordered_call ⟨⟨request, ready.accepted⟩, ⟨request, ready.accepted, now, rfl⟩,
    ready.verified, ready.bound, ready.below.unasked (Nat.le_refl _)⟩ fun answer => ?_
  rcases answer with cause | _ <;> trivial

/-- Not a call to the host. -/
def Elsewhere (q : Question) : Prop := ∀ call, q ≠ .host call

theorem abandonAll_elsewhere (swaps : List PendingSwap) : (abandonAll swaps).Asks Elsewhere := by
  induction swaps with
  | nil => trivial
  | cons swap rest ih => exact ⟨by simp [Elsewhere], fun _ => ⟨by simp [Elsewhere], fun _ => ih⟩⟩

theorem takeBack_elsewhere (token : Int) (cause : Host.Error) :
    (takeBack token cause).Asks Elsewhere := by
  refine ⟨by simp [Elsewhere], fun swap => ?_⟩
  cases swap with
  | none => trivial
  | some swap => exact ⟨by simp [Elsewhere], fun _ => ⟨by simp [Elsewhere], fun _ => trivial⟩⟩

theorem ordered_of_elsewhere {α : Type} {p : Procedure α} (asks : p.Asks Elsewhere) :
    p.Obeys (ordered agent) (fun _ _ => True) past :=
  Obeys.of_asks asks (fun _ _ other _ call same => absurd same (other call))
    (fun _ _ _ _ _ _ _ => trivial) trivial

theorem transfer_ordered {link : LinkId} (ready : Ready agent request past)
    (later : request.restartActivity = true) :
    (transfer request link).Obeys (ordered agent) (fun _ _ => True) past := by
  refine ordered_call ⟨⟨request, ready.accepted⟩, trivial⟩ fun pid => ?_
  have ready := ready.step (q := .host .processId) pid (by simp)
  refine ordered_other (by simp) fun answer => ?_
  have ready := ready.step (q := .send link (Response.needRestart pid).encode) answer (by simp)
  rcases answer with e | _
  · exact ordered_other (by simp) fun _ => trivial
  refine ordered_other (by simp) fun token => ?_
  have ready := ready.step (q := .park ⟨pid, request, link⟩) token (by simp)
  refine ordered_call (ready.mayHandOver later _) fun answer => ?_
  rcases answer with cause | _
  · exact (ordered_of_elsewhere (takeBack_elsewhere token cause)).andThen fun _ _ _ => trivial
  · refine ordered_other (by simp) fun swaps => ?_
    exact (ordered_of_elsewhere (abandonAll_elsewhere swaps)).andThen fun _ _ _ => trivial

end Parts

/-! ## A whole session -/

section Whole

variable {agent : Agent} {past : List Event} {link : LinkId}

/-- A session that was made ready stands where its ways part; one that failed is done. -/
def Prepared (agent : Agent) (r : Except AttachError Request × Progress) (now : List Event) : Prop :=
  ∀ request, r.1 = .ok request → r.2.phase = .dispatch ∧ Ready agent request now

theorem prepared_error {e : AttachError} {progress : Progress} :
    Prepared agent (.error e, progress) past := by
  rintro _ ⟨⟩

/-- The natives are bound and the session comes to its parting of ways. -/
theorem bindAndPart_ordered {request : Request} {progress : Progress}
    (stage : .dispatch ∈ progress.phase.next) (accepted : Accepted request past)
    (verified : Verified agent past) (below : Below .binding past) :
    (bindAndPart request progress).Obeys (ordered agent) (Prepared agent) past := by
  refine attempt_andThen ((bindNatives_ordered accepted verified below).mono fun r now bound => ?_)
  rcases r with cause | _
  · exact prepared_error
  refine advance_andThen stage ?_
  rintro _ ⟨⟩
  exact ⟨rfl, accepted.mono bound.1.grown, verified.mono bound.1.grown, bound.2 rfl, bound.1.below⟩

/-- From the check of the build on, in a process that has the payload. -/
theorem checkAndHook_ordered {request : Request} {progress : Progress}
    (fresh : progress.phase = .bootstrapCheck) (accepted : Accepted request past)
    (below : Below .buildCheck past) :
    (checkAndHook agent request progress).Obeys (ordered agent) (Prepared agent) past := by
  refine advance_andThen (by simp [fresh, Phase.next]) (attempt_andThen ?_)
  refine (checkBuild_ordered accepted below).mono fun r now checked => ?_
  rcases r with e | marker
  · exact prepared_error
  have accepted := accepted.mono checked.1.grown
  have verified := checked.2 marker rfl
  refine attempt_andThen ?_
  refine (checkInstrumented_ordered accepted verified
    (checked.1.below.mono (by simp))).mono fun r now asked => ?_
  have accepted := accepted.mono asked.1.grown
  have verified := verified.mono asked.1.grown
  rcases r with e | hooked | _
  · exact prepared_error
  · refine advance_andThen (by simp [Phase.next]) (attempt_andThen ?_)
    have hooking : Hooking agent request now := ⟨accepted, verified, asked.2 rfl⟩
    refine (instrument_ordered hooking asked.1.below).mono fun r now done => ?_
    rcases r with e | _
    · exact prepared_error
    exact bindAndPart_ordered (by simp [Phase.next]) (accepted.mono done.grown)
      (verified.mono done.grown) done.below
  · refine advance_andThen (by simp [Phase.next]) ?_
    exact bindAndPart_ordered (by simp [Phase.next]) accepted verified
      (asked.1.below.mono (by simp))

theorem prepare_ordered {progress : Progress} (fresh : progress.phase = .connecting)
    (below : Below .injection past) :
    (prepare agent link progress).Obeys (ordered agent) (Prepared agent) past := by
  refine advance_andThen (by simp [fresh, Phase.next]) (attempt_andThen ?_)
  refine ordered_other (by simp) fun answer => ?_
  have received := (Grown.refl below).step (q := .receive link) answer (by simp) (Nat.le_refl _)
  rcases answer with e | frame
  · exact prepared_error
  refine attempt_andThen ?_
  cases decoded : Request.decode frame with
  | error e => exact prepared_error
  | ok request =>
      have accepted : Accepted request (past ++ [⟨.receive link, .ok frame⟩]) :=
        ⟨link, frame, by simp, decoded⟩
      simp only [Procedure.pure_eq, obeys_done]
      refine advance_andThen (by simp [Phase.next]) (attempt_andThen ?_)
      refine (negotiate_ordered accepted received.below).mono fun r now since => ?_
      rcases r with e | granted
      · exact prepared_error
      have accepted := accepted.mono since.grown
      refine advance_andThen (by simp [Phase.next]) ?_
      cases agent.payloadDir.resolve request.packageName with
      | none => exact prepared_error
      | some dir =>
          refine attempt_andThen ?_
          refine (install_ordered accepted since.below).mono fun r now stored => ?_
          rcases r with e | installed
          · exact prepared_error
          exact checkAndHook_ordered rfl (accepted.mono stored.grown) stored.below

theorem swapNow_ordered {request : Request} {progress : Progress}
    (stage : progress.phase = .dispatch) (ready : Ready agent request past)
    (now : request.restartActivity = false) :
    (swapNow request link progress).Obeys (ordered agent) (fun _ _ => True) past := by
  refine advance_andThen (by simp [stage, Phase.next]) (perform_andThen ?_)
  refine (execute_ordered ready now).mono fun response _ _ => ?_
  refine advance_andThen (by simp [Phase.next]) (attempt_andThen ?_)
  refine ordered_other (by simp) fun answer => ?_
  rcases answer with e | _
  · trivial
  · exact advance_andThen (by simp [Phase.next]) trivial

theorem swapLater_ordered {request : Request} {progress : Progress}
    (stage : progress.phase = .dispatch) (ready : Ready agent request past)
    (later : request.restartActivity = true) :
    (swapLater request link progress).Obeys (ordered agent) (fun _ _ => True) past := by
  refine advance_andThen (by simp [stage, Phase.next]) ?_
  refine advance_andThen (by simp [Phase.next]) (attempt_andThen ?_)
  refine (transfer_ordered ready later).mono fun r _ _ => ?_
  rcases r with e | token
  · trivial
  · exact advance_andThen (by simp [Phase.next]) trivial

/-- An attach asks its host for nothing that the order does not allow. -/
theorem attach_ordered : agent.attach.Obeys (ordered agent) (fun _ _ => True) [] := by
  have nothing : Below .injection [] := by simp [Below]
  refine attach_obeys (attempt_andThen (ordered_other (by simp) fun answer => ?_))
  have opened : Below .injection ([] ++ [⟨.connect, answer⟩]) := Below.step nothing (by simp)
  rcases answer with e | link
  · trivial
  refine stage_andThen (hangingUpOnFailure_obeys ?_)
  refine (prepare_ordered rfl opened).mono fun r now prepared => ?_
  rcases r with ⟨e | request, progress⟩
  · exact ordered_other (by simp) fun _ => trivial
  obtain ⟨stage, ready⟩ := prepared request rfl
  cases restart : request.restartActivity with
  | true =>
      simp only [restart, if_true]
      refine (swapLater_ordered stage ready restart).mono fun r _ _ => ?_
      rcases r with ⟨_ | _, _⟩ <;> trivial
  | false =>
      simp only [restart]
      refine hangingUp_obeys ((swapNow_ordered stage ready restart).mono fun r _ _ => ?_)
      refine ordered_other (by simp) fun _ => ?_
      rcases r with ⟨_ | _, _⟩ <;> trivial

end Whole

/-! ## Every course of a session -/

section Courses

variable {agent : Agent} {past log : List Event} {rank : Rank}

/-- A call of which a session may make only one finds none like it in the past. -/
theorem MayCall.unasked {call : HostCall} (may : MayCall agent past call)
    (ranked : Rank.of (.host call) ≠ .plain) (once : Rank.of (.host call) ≠ .markerCall) :
    Unasked (Rank.of (.host call)) past := by
  cases call with
  | appendToBootstrapSearch path => exact may.2.2
  | retransformClass name => exact may.2.2.2.2
  | registerNatives bindings => exact may.2.2.2.1
  | redefineClasses changes => exact may.2.2.2.2
  | callStatic className method args =>
      by_cases marker : className = markerClass
      · by_cases build : method = checkHash
        · have first := may.2
          simp only [marker, build, if_true] at first
          simpa [marker, build] using first.2.1
        · exact absurd (by simp [marker, build]) once
      · have handed := may.2
        simp only [marker, if_false] at handed
        simpa [marker] using handed.2.2.2.2.2
  | _ => exact absurd rfl ranked

theorem timesAsked_concat (last : Event) :
    timesAsked rank (log ++ [last]) =
      timesAsked rank log + if Rank.of last.question = rank then 1 else 0 := by
  simp only [timesAsked, List.countP_append, List.countP_singleton, decide_eq_true_eq]

theorem timesAsked_eq_zero (unasked : Unasked rank log) : timesAsked rank log = 0 :=
  List.countP_eq_zero.2 fun event member same => unasked event member (of_decide_eq_true same)

/-- What is only asked where nothing of its rank was asked before is asked once at most. -/
theorem timesAsked_le_one
    (first : ∀ before event after, log = before ++ event :: after →
      Rank.of event.question = rank → Unasked rank before) : timesAsked rank log ≤ 1 := by
  induction log using List.reverseRecOn with
  | nil => simp [timesAsked]
  | append_singleton log last ih =>
      have earlier := ih fun before event after split same =>
        first before event (after ++ [last]) (by rw [split, List.append_assoc]; rfl) same
      rw [timesAsked_concat]
      by_cases same : Rank.of last.question = rank
      · have none := timesAsked_eq_zero (first log last [] rfl same)
        rw [if_pos same]
        omega
      · rwa [if_neg same]

/-- Where every call may be made, the calls of a rank that may not be repeated are not. -/
theorem once_of_mayCall
    (may : ∀ before call answer after,
      log = before ++ ⟨.host call, answer⟩ :: after → MayCall agent before call)
    (ranked : rank ≠ .plain) (once : rank ≠ .markerCall) : timesAsked rank log ≤ 1 := by
  refine timesAsked_le_one fun before event after split same => ?_
  obtain ⟨question, answer⟩ := event
  subst same
  cases question with
  | host call => exact (may before call answer after split).unasked ranked once
  | _ => exact absurd rfl ranked

/-- Whatever the host, the connection and the file system answer, what an attach asked of
its host so far keeps to the order of calls. -/
theorem attach_callOrder {rest : Procedure SessionReport} (course : Course agent.attach log rest) :
    CallOrder agent log := by
  have may : ∀ before call answer after,
      log = before ++ ⟨.host call, answer⟩ :: after → MayCall agent before call :=
    fun before call answer after split => course.allowed attach_ordered split call rfl
  exact
    { mayCall := may
      injection := once_of_mayCall may (by simp) (by simp)
      buildCheck := once_of_mayCall may (by simp) (by simp)
      retransform := once_of_mayCall may (by simp) (by simp)
      binding := once_of_mayCall may (by simp) (by simp)
      swap := once_of_mayCall may (by simp) (by simp) }

end Courses

/-! ## A session that makes every call -/

/-- A host without the payload and without the hook, and a controller that wants a swap at once. -/
def sampleScene : Scene ScriptedHost where
  host :=
    { replies :=
        [("find_class", [.truth false]),
          ("call_static", [.value (.bool true), .value (.bool false)])] }
  world := { links := #[.frames { toAgent := [(⟨"app", false, []⟩ : Request).encode] }] }

/-- What the session asks in which the payload is injected, the process hooked and the swap
applied. -/
def sampleLog : List Event :=
  Simulation.Fixture.agent.attach.events (Scene.answer (.ready 0)) sampleScene

theorem sampleLog_callOrder :
    (∀ rank ∈ [Rank.injection, .buildCheck, .retransform, .binding, .swap],
      timesAsked rank sampleLog = 1) ∧ CallOrder Simulation.Fixture.agent sampleLog :=
  ⟨by decide +kernel, attach_callOrder (course_events _ _ _)⟩

end HotSwap.Session
