/-
# HotSwap.Proofs.Simulated.Playthrough -- whole sessions in a willing process

A process to which no session has done anything yet is `Untouched`; one that a session has
been through is `Equipped` with that session's build.  From either, a session whose payload
can be stored prepares the process (`prepare_equips`), and then swaps at once
(`attach_swaps`) or leaves the swap to the next restart (`attach_defers`), which completes
it (`signalRestart_completes`).  Where the payload cannot be stored the session fails and
the process is as untouched as it was (`attach_lacks`).
-/
import HotSwap.Proofs.Message.Codec
import HotSwap.Proofs.Simulated.Willing

namespace HotSwap

set_option autoImplicit false

open Procedure Session

variable {door : Connector} {s : Scene SimulatedHost} {build : Fingerprint} {request : Request}

namespace SimulatedHost

/-- A process to which no session has done anything yet. -/
structure Untouched (h : SimulatedHost) : Prop where
  able : h.potential = .all
  target : h.isLoaded hookTarget = true
  unmarked : h.isLoaded markerClass = false
  unclaimed : h.residentFingerprint = none
  uninstrumented : h.instrumented = false
  unloaded : h.retransforms = []
  archives : h.archives = []
  hook : h.hook = none
  notification : h.notification = false

/-- A process into which the payload was brought, and nothing else. -/
structure Laden (h : SimulatedHost) : Prop where
  granted : h.granted = .all
  able : h.potential = .all
  target : h.isLoaded hookTarget = true
  marked : h.isLoaded markerClass = true
  handled : h.isLoaded handlerClass = true
  unclaimed : h.residentFingerprint = none
  uninstrumented : h.instrumented = false
  unloaded : h.retransforms = []
  archives : h.archives.length = 1

/-- A process that a session of a build has been through. -/
structure Equipped (build : Fingerprint) (h : SimulatedHost) : Prop where
  granted : h.granted = .all
  able : h.potential = .all
  marked : h.isLoaded markerClass = true
  handled : h.isLoaded handlerClass = true
  own : h.residentFingerprint = some build.hex
  instrumented : h.instrumented = true
  hooked : h.hooked = true
  reloaded : h.retransformCount hookTarget = 1
  archives : h.archives.length = 1
  hook : h.hook = none
  notification : h.notification = false

/-- What of a process stays while it is prepared. -/
structure Keeps (h h' : SimulatedHost) : Prop where
  pid : h'.pid = h.pid
  incompatible : h'.incompatible = h.incompatible
  redefinitions : h'.redefinitions = h.redefinitions
  pendingToken : h'.pendingToken = h.pendingToken
  loaded : ∀ name, h.isLoaded name = true → h'.isLoaded name = true

theorem Keeps.refl (h : SimulatedHost) : h.Keeps h := ⟨rfl, rfl, rfl, rfl, fun _ => id⟩

theorem Keeps.trans {h h' h'' : SimulatedHost} (first : h.Keeps h') (second : h'.Keeps h'') :
    h.Keeps h'' where
  pid := second.pid.trans first.pid
  incompatible := second.incompatible.trans first.incompatible
  redefinitions := second.redefinitions.trans first.redefinitions
  pendingToken := second.pendingToken.trans first.pendingToken
  loaded name loaded := second.loaded name (first.loaded name loaded)

/-- What a preparation leaves that a process has nothing against. -/
structure Prepared (build : Fingerprint) (h h' : SimulatedHost) : Prop where
  equipped : h'.Equipped build
  callable : h'.Callable
  keeps : h.Keeps h'

/-- However many calls were made to it, a process is as prepared. -/
theorem Prepared.called {h h' : SimulatedHost} (prepared : h.Prepared build h') (calls : Nat) :
    h.Prepared build { h' with calls := calls } := by
  obtain ⟨equipped, callable, keeps⟩ := prepared
  cases equipped
  cases keeps
  exact ⟨by constructor <;> assumption, callable, by constructor <;> assumption⟩

/-- A process stays equipped however many calls are made to it and whatever is swapped in it. -/
theorem Equipped.swap {h : SimulatedHost} (equipped : h.Equipped build) (request : Request)
    (calls : Nat) : ({ (h.swap request).2 with calls := calls } : SimulatedHost).Equipped build := by
  obtain ⟨classes, redefinitions, loaded, swapped⟩ := h.swap_frame request
  rw [swapped]
  exact ⟨equipped.granted, equipped.able, (loaded _).trans equipped.marked,
    (loaded _).trans equipped.handled, equipped.own, equipped.instrumented, equipped.hooked,
    equipped.reloaded, equipped.archives, equipped.hook, equipped.notification⟩

end SimulatedHost

/-! ## The world around a session -/

/-- The world as a session finds it: the files, the parked swaps, an exchange at which nobody
waits, and the connection of the session. -/
structure Backdrop (files : FileTree) (parked : Parked) (exchange : Nat) (link : LinkId)
    (line : FrameLine) (w : World) : Prop where
  files : w.files = files
  parked : w.parked = parked
  exchange : w.exchanges[exchange]? = some []
  line : w.links[link]? = some (.frames line)

namespace Backdrop

variable {files : FileTree} {parked : Parked} {exchange : Nat} {link : LinkId} {line : FrameLine}
  {w : World}

theorem set (backdrop : Backdrop files parked exchange link line w) (line' : FrameLine) :
    Backdrop files parked exchange link line'
      { w with links := w.links.setIfInBounds link (.frames line') } where
  files := backdrop.files
  parked := backdrop.parked
  exchange := backdrop.exchange
  line := by
    simp [(Array.getElem?_eq_some_iff.1 backdrop.line).1]

theorem store (backdrop : Backdrop files parked exchange link line w) (files' : FileTree) :
    Backdrop files' parked exchange link line { w with files := files' } :=
  ⟨rfl, backdrop.parked, backdrop.exchange, backdrop.line⟩

theorem repark (backdrop : Backdrop files parked exchange link line w) (parked' : Parked) :
    Backdrop files parked' exchange link line { w with parked := parked' } :=
  ⟨backdrop.files, rfl, backdrop.exchange, backdrop.line⟩

variable {α : Type} {post : α → Scene SimulatedHost → Prop}

/-- A frame that was sent is received. -/
theorem receive {frame : ByteArray} {rest : List ByteArray}
    {next : Except TransportError ByteArray → Procedure α}
    (backdrop : Backdrop files parked exchange link line s.world)
    (sent : line.toAgent = frame :: rest)
    (later : ∀ w, Backdrop files parked exchange link { line with toAgent := rest } w →
      (next (.ok frame)).Obeys (playing door) post ⟨s.host, w⟩) :
    (ask (.receive link) next).Obeys (playing door) post s := by
  refine playing_step (t := ⟨s.host, _⟩) ?_ (later _ (backdrop.set _))
  simp only [Scene.answer, World.onLink, backdrop.line, Link.read, FrameLine.read, sent]

/-- A frame is sent where the controller listens. -/
theorem send {frame : ByteArray} {next : Except TransportError Unit → Procedure α}
    (backdrop : Backdrop files parked exchange link line s.world)
    (listens : line.controllerOpen = true) (room : line.room = none)
    (later : ∀ w, Backdrop files parked exchange link
        { line with toController := line.toController ++ [frame] } w →
      (next (.ok ())).Obeys (playing door) post ⟨s.host, w⟩) :
    (ask (.send link frame) next).Obeys (playing door) post s := by
  refine playing_step (t := ⟨s.host, _⟩) ?_ (later _ (backdrop.set _))
  simp [Scene.answer, World.onLink, backdrop.line, Link.write, FrameLine.write, listens, room]

/-- The agent hangs up. -/
theorem hangUp {next : Unit → Procedure α}
    (backdrop : Backdrop files parked exchange link line s.world)
    (later : ∀ w, Backdrop files parked exchange link { line with agentOpen := false } w →
      (next ()).Obeys (playing door) post ⟨s.host, w⟩) :
    (ask (.hangUp link) next).Obeys (playing door) post s := by
  refine playing_step (t := ⟨s.host, _⟩) ?_ (later _ (backdrop.set _))
  simp only [Scene.answer, World.onLink, backdrop.line, Link.close, FrameLine.closeAgent]

end Backdrop

variable {exchange : Nat}

/-! ## The preparation -/

section Prepare

variable {progress : Progress} {agent : Agent}

/-- The natives are bound, and the session comes to where its ways part. -/
theorem bindAndPart_bound (allowed : Phase.dispatch ∈ progress.phase.next)
    (handled : s.host.isLoaded handlerClass = true) :
    (bindAndPart request progress).Obeys (playing door) (fun r s' =>
      (∃ history, r = (.ok request, ⟨.dispatch, history⟩)) ∧
      ∃ calls natives, natives.lookup (handlerClass, tryRedefineClasses) = some .tryRedefineClasses ∧
        s' = ⟨{ s.host with natives := natives, calls := calls }, s.world⟩) s := by
  refine attempt_andThen ((bindNatives_bound handled).mono ?_)
  rintro _ _ ⟨rfl, calls, natives, callable, rfl⟩
  exact advance_andThen allowed ⟨⟨_, rfl⟩, calls, natives, callable, rfl⟩

/-- An equipped process is not hooked again. -/
theorem checkAndHook_equipped (begun : progress.phase = .bootstrapCheck)
    (equipped : s.host.Equipped agent.payload.fingerprint) :
    (checkAndHook agent request progress).Obeys (playing door) (fun r s' =>
      (∃ history, r = (.ok request, ⟨.dispatch, history⟩)) ∧
      s.host.Prepared agent.payload.fingerprint s'.host ∧ s'.world = s.world) s := by
  refine advance_andThen (by rw [begun]; decide) (attempt_andThen ?_)
  refine (checkBuild_own equipped.marked equipped.own).mono ?_
  rintro _ _ ⟨rfl, calls, rfl⟩
  refine attempt_andThen ((checkInstrumented_told _ (by exact equipped.marked)).mono ?_)
  rintro _ _ ⟨rfl, calls, rfl⟩
  simp only [equipped.instrumented, if_true]
  refine advance_andThen (show _ ∈ Phase.versionCheck.next by decide) ?_
  refine (bindAndPart_bound (show _ ∈ Phase.alreadyInstrumented.next by decide)
    (by exact equipped.handled)).mono ?_
  rintro _ _ ⟨parts, calls, natives, callable, rfl⟩
  refine ⟨parts, ⟨?_, callable, ?_⟩, rfl⟩
  · exact ⟨equipped.granted, equipped.able, equipped.marked, equipped.handled, equipped.own,
      rfl, equipped.hooked, equipped.reloaded, equipped.archives, equipped.hook,
      equipped.notification⟩
  · exact ⟨rfl, rfl, rfl, rfl, fun _ => id⟩

/-- A process with the payload in it is claimed and hooked. -/
theorem checkAndHook_laden (begun : progress.phase = .bootstrapCheck)
    (target : agent.plan.target = hookTarget)
    (transforms : ∀ data, agent.plan.transform agent.plan.target data ≠ none)
    (laden : s.host.Laden) :
    (checkAndHook agent request progress).Obeys (playing door) (fun r s' =>
      (∃ history, r = (.ok request, ⟨.dispatch, history⟩)) ∧
      s.host.Prepared agent.payload.fingerprint s'.host ∧
      ∃ registries, s'.world = { s.world with registries := registries }) s := by
  refine advance_andThen (by rw [begun]; decide) (attempt_andThen ?_)
  refine (checkBuild_claims laden.marked laden.unclaimed).mono ?_
  rintro _ _ ⟨rfl, calls, rfl⟩
  refine attempt_andThen ((checkInstrumented_told _ (by exact laden.marked)).mono ?_)
  rintro _ _ ⟨rfl, calls, rfl⟩
  simp only [laden.uninstrumented, Bool.false_eq_true, if_false]
  refine advance_andThen (show _ ∈ Phase.versionCheck.next by decide) (attempt_andThen ?_)
  refine (instrument_hooks _ target transforms (by exact congrArg _ laden.granted)
    (by rw [target]; exact laden.target) (by exact laden.marked)).mono ?_
  rintro _ _ ⟨rfl, calls, transformed, registries, rfl⟩
  have known (name : String) (loaded : s.host.isLoaded name = true) :
      ((assign agent.plan.target transformed s.host.classes).lookup name).isSome = true :=
    (isSome_lookup_assign transformed (by rw [target]; exact laden.target) name).trans loaded
  refine (bindAndPart_bound (show _ ∈ Phase.instrumentOnce.next by decide)
    (by exact known _ laden.handled)).mono ?_
  rintro _ _ ⟨parts, calls, natives, callable, rfl⟩
  refine ⟨parts, ⟨?_, callable, ?_⟩, registries, rfl⟩
  · refine ⟨laden.granted, laden.able, known _ laden.marked, known _ laden.handled, rfl, rfl, rfl, ?_,
      laden.archives, rfl, rfl⟩
    simp [SimulatedHost.retransformCount, target, laden.unloaded, assign]
  · exact ⟨rfl, rfl, rfl, rfl, known⟩

/-- What a preparation needs of an agent: a directory for the payload, and a hook that is one. -/
structure Suits (agent : Agent) (package dir : String) : Prop where
  dir : agent.payloadDir.resolve package = some dir
  target : agent.plan.target = hookTarget
  transforms : ∀ data, agent.plan.transform agent.plan.target data ≠ none

variable {link : LinkId} {dir : String} {files : FileTree} {parked : Parked}

/-- The request is read and the abilities are granted before the payload is put on disk. -/
theorem prepare_begins {post : Except AttachError Request × Progress → Scene SimulatedHost → Prop}
    (begun : progress.phase = .connecting)
    (resolves : agent.payloadDir.resolve request.packageName = some dir)
    (decodes : request.check = .ok request)
    (backdrop : Backdrop files parked exchange link { toAgent := [request.encode] } s.world)
    (able : s.host.potential = .all)
    (later : ∀ w calls history, Backdrop files parked exchange link {} w →
      ((attempt .install (install agent.payload dir) >>= fun _ => checkAndHook agent request)
        ⟨.bootstrapCheck, history⟩).Obeys (playing door) post
          ⟨{ s.host with granted := .all, calls := calls }, w⟩) :
    (prepare agent link progress).Obeys (playing door) post s := by
  refine advance_andThen (by rw [begun]; decide)
    (attempt_andThen (backdrop.receive rfl fun w backdrop => attempt_andThen ?_))
  rw [Request.decode_encode, decodes]
  refine advance_andThen (show _ ∈ Phase.awaitingRequest.next by decide) (attempt_andThen ?_)
  refine (negotiate_granted (by exact able)).mono ?_
  rintro _ _ ⟨rfl, calls, rfl⟩
  refine advance_andThen (show _ ∈ Phase.capabilityAcquisition.next by decide) ?_
  simp only [resolves]
  exact later w calls _ backdrop

/-- A payload that can be stored is brought into a process, which is claimed and hooked; one that
was prepared for this build before is as ready as it was. -/
theorem prepare_equips (begun : progress.phase = .connecting)
    (suits : Suits agent request.packageName dir) (decodes : request.check = .ok request)
    (backdrop : Backdrop files parked exchange link { toAgent := [request.encode] } s.world)
    (stores : Depot.Stores files dir agent.payload)
    (process : s.host.Untouched ∨ s.host.Equipped agent.payload.fingerprint) :
    (prepare agent link progress).Obeys (playing door) (fun r s' =>
      (∃ history, r = (.ok request, ⟨.dispatch, history⟩)) ∧
      s.host.Prepared agent.payload.fingerprint s'.host ∧
      Backdrop (Depot.deposit files dir agent.payload).2 parked exchange link {} s'.world) s := by
  have able : s.host.potential = .all := process.elim (·.able) (·.able)
  refine prepare_begins begun suits.dir decodes backdrop able fun w calls history backdrop => ?_
  obtain ⟨stored, file, -⟩ := stores.again
  have deposited : Depot.deposit w.files dir agent.payload =
      (.ok (Depot.target dir agent.payload), (Depot.deposit files dir agent.payload).2) := by
    rw [backdrop.files, ← stored]
  generalize (Depot.deposit files dir agent.payload).2 = files' at deposited file ⊢
  replace backdrop := backdrop.store files'
  refine attempt_andThen ?_
  rcases process with untouched | equipped
  · refine (install_injected (by exact untouched.unmarked) (by exact deposited) (by exact file)).mono ?_
    rintro _ _ ⟨rfl, calls, classes, loaded, rfl⟩
    replace loaded : ∀ other, (classes.lookup other).isSome =
      (s.host.isLoaded other || other == markerClass || other == handlerClass) := loaded
    have known (name : String) (before : s.host.isLoaded name = true) :
        (classes.lookup name).isSome = true := by simp [loaded, before]
    refine (checkAndHook_laden rfl suits.target suits.transforms ?_).mono ?_
    · refine ⟨rfl, able, known _ untouched.target, ?_, ?_, untouched.unclaimed,
        untouched.uninstrumented, untouched.unloaded, ?_⟩
      · exact (loaded _).trans (by simp)
      · exact (loaded _).trans (by simp)
      · simp [untouched.archives]
    rintro _ s' ⟨parts, ⟨equipped, callable, keeps⟩, registries, world⟩
    have kept := SimulatedHost.Keeps.trans (h := s.host) (by exact ⟨rfl, rfl, rfl, rfl, known⟩) keeps
    refine ⟨parts, ⟨equipped, callable, kept⟩, ?_⟩
    rw [world]
    exact ⟨backdrop.files, backdrop.parked, backdrop.exchange, backdrop.line⟩
  · refine (install_resident (by exact equipped.marked) (by exact deposited)).mono ?_
    rintro _ _ ⟨rfl, calls, rfl⟩
    refine (checkAndHook_equipped rfl ?_).mono ?_
    · exact ⟨rfl, able, equipped.marked, equipped.handled, equipped.own, equipped.instrumented,
        equipped.hooked, equipped.reloaded, equipped.archives, equipped.hook, equipped.notification⟩
    rintro _ s' ⟨parts, ⟨equipped, callable, keeps⟩, world⟩
    have kept := SimulatedHost.Keeps.trans (h := s.host) (by exact ⟨rfl, rfl, rfl, rfl, fun _ => id⟩) keeps
    exact ⟨parts, ⟨equipped, callable, kept⟩, world ▸ backdrop⟩

/-- A payload that cannot be stored is not brought into a process, which stays as it is. -/
theorem prepare_lacks (begun : progress.phase = .connecting)
    (suits : Suits agent request.packageName dir) (decodes : request.check = .ok request)
    (backdrop : Backdrop files parked exchange link { toAgent := [request.encode] } s.world)
    (lacks : ¬ Depot.Stores files dir agent.payload) (untouched : s.host.Untouched) :
    (prepare agent link progress).Obeys (playing door) (fun r s' =>
      (∃ e history, r = (.error e, ⟨.bootstrapCheck, history⟩)) ∧
      s'.host.Untouched ∧ s.host.Keeps s'.host ∧
      Backdrop (Depot.deposit files dir agent.payload).2 parked exchange link {} s'.world) s := by
  refine prepare_begins begun suits.dir decodes backdrop untouched.able fun w calls history backdrop => ?_
  obtain rfl := backdrop.files
  refine attempt_andThen ?_
  refine (install_lacking (by exact untouched.unmarked) (by exact lacks)).mono ?_
  rintro _ _ ⟨⟨e, rfl⟩, calls, rfl⟩
  refine ⟨⟨_, _, rfl⟩, ?_, ⟨rfl, rfl, rfl, rfl, fun _ => id⟩, backdrop.store _⟩
  cases untouched
  constructor <;> assumption

end Prepare

/-! ## The swap -/

section Swap

variable {link : LinkId} {files : FileTree} {parked : Parked}

/-- The swap is tried, and the answer is sent. -/
theorem swapNow_swaps {progress : Progress} (begun : progress.phase = .dispatch)
    (granted : s.host.granted = .all)
    (backdrop : Backdrop files parked exchange link {} s.world) :
    (swapNow request link progress).Obeys (playing door) (fun r s' =>
      (∃ progress, r = (.ok (.immediate (s.host.swap request).1), progress)) ∧
      (∃ calls, s'.host = { (s.host.swap request).2 with calls := calls }) ∧
      Backdrop files parked exchange link { toController := [(s.host.swap request).1.encode] }
        s'.world) s := by
  refine advance_andThen (by rw [begun]; decide) (perform_andThen ?_)
  refine (execute_swaps (by rw [granted]; rfl)).mono ?_
  rintro _ _ ⟨rfl, calls, rfl⟩
  refine advance_andThen (show _ ∈ Phase.immediateSwap.next by decide) (attempt_andThen ?_)
  refine Backdrop.send (by exact backdrop) rfl rfl fun w backdrop => ?_
  refine advance_andThen (show _ ∈ Phase.respond.next by decide) ?_
  exact ⟨⟨_, rfl⟩, ⟨_, rfl⟩, backdrop⟩

/-- The swap is parked with its connection, and the hooked handler takes its token. -/
theorem transfer_parks (handled : s.host.isLoaded handlerClass = true)
    (hooked : s.host.hooked = true) (alone : parked.swaps = [])
    (backdrop : Backdrop files parked exchange link {} s.world) :
    (transfer request link).Obeys (playing door) (fun r s' =>
      r = .ok parked.next ∧
      (∃ calls, s'.host = { s.host with pendingToken := some parked.next, calls := calls }) ∧
      Backdrop files ⟨parked.next + 1, [(parked.next, ⟨s.host.pid, request, link⟩)]⟩ exchange link
        { toController := [(Response.needRestart s.host.pid).encode] } s'.world) s := by
  refine host_step rfl ?_
  refine backdrop.send rfl rfl fun w backdrop => ?_
  have told := SimulatedHost.callStatic_prepareForHotSwap (h := s.host.enter) parked.next handled hooked
  have replaces : Parked.takeSuperseded
      ⟨parked.next + 1, [(parked.next, ⟨s.host.pid, request, link⟩)]⟩ s.host.pid parked.next =
        ([], ⟨parked.next + 1, [(parked.next, ⟨s.host.pid, request, link⟩)]⟩) := by
    simp [Parked.takeSuperseded, Parked.isStale]
  refine playing_step (a := parked.next)
    (t := ⟨s.host, { w with
      parked := ⟨parked.next + 1, [(parked.next, ⟨s.host.pid, request, link⟩)]⟩ }⟩)
    (by simp only [Scene.answer, Parked.park, backdrop.parked, alone, List.nil_append]) ?_
  refine playing_step (by rw [Scene.answer_callStatic, told]) ?_
  refine playing_step (by simp only [Scene.answer, replaces]; rfl) ?_
  exact ⟨rfl, ⟨_, rfl⟩, backdrop.repark _⟩

/-- The swap waits. -/
theorem swapLater_parks {progress : Progress} (begun : progress.phase = .dispatch)
    (handled : s.host.isLoaded handlerClass = true) (hooked : s.host.hooked = true)
    (alone : parked.swaps = []) (backdrop : Backdrop files parked exchange link {} s.world) :
    (swapLater request link progress).Obeys (playing door) (fun r s' =>
      (∃ progress, r = (.ok (.deferred parked.next), progress)) ∧
      (∃ calls, s'.host = { s.host with pendingToken := some parked.next, calls := calls }) ∧
      Backdrop files ⟨parked.next + 1, [(parked.next, ⟨s.host.pid, request, link⟩)]⟩ exchange link
        { toController := [(Response.needRestart s.host.pid).encode] } s'.world) s := by
  refine advance_andThen (by rw [begun]; decide) ?_
  refine advance_andThen (show _ ∈ Phase.deferredHandoff.next by decide) (attempt_andThen ?_)
  refine (transfer_parks handled hooked alone backdrop).mono ?_
  rintro _ s' ⟨rfl, host, backdrop⟩
  refine advance_andThen (show _ ∈ Phase.respondPending.next by decide) ?_
  exact ⟨⟨_, rfl⟩, host, backdrop⟩

end Swap

/-! ## The whole session -/

section Attach

variable {agent : Agent} {link : LinkId} {dir : String} {files : FileTree} {parked : Parked}
  {w : World} (suits : Suits agent request.packageName dir) (decodes : request.check = .ok request)
  (connects : door.connect s.world = (.ok link, w))
  (backdrop : Backdrop files parked exchange link { toAgent := [request.encode] } w)

include suits decodes connects backdrop

/-- A session that prepares the process goes on with the swap. -/
theorem attach_prepares {post : SessionReport → Scene SimulatedHost → Prop}
    (stores : Depot.Stores files dir agent.payload)
    (process : s.host.Untouched ∨ s.host.Equipped agent.payload.fingerprint)
    (later : ∀ s' history, s.host.Prepared agent.payload.fingerprint s'.host →
      Backdrop (Depot.deposit files dir agent.payload).2 parked exchange link {} s'.world →
      ((if request.restartActivity then swapLater request link
        else hangingUp link (swapNow request link)) ⟨.dispatch, history⟩).Obeys (playing door)
          (fun r s =>
            match r with
            | (.ok completion, progress) => post ⟨progress.phase, progress.history, .ok completion⟩ s
            | (.error e, progress) => post ⟨progress.fail.phase, progress.fail.history, .error e⟩ s)
          s') :
    agent.attach.Obeys (playing door) post s := by
  refine attach_obeys (attempt_andThen (playing_step (a := .ok link) (t := ⟨s.host, w⟩)
    (by simp only [Scene.answer, connects]) ?_))
  refine stage_andThen (hangingUpOnFailure_obeys ?_)
  refine (prepare_equips (by rfl) suits decodes (by exact backdrop) stores (by exact process)).mono ?_
  rintro _ s' ⟨⟨history, rfl⟩, prepared, backdrop⟩
  exact later s' history prepared backdrop

/-- A swap that is not to wait is tried at once and answered, and the connection is closed. -/
theorem attach_swaps (now : request.restartActivity = false)
    (stores : Depot.Stores files dir agent.payload)
    (process : s.host.Untouched ∨ s.host.Equipped agent.payload.fingerprint) :
    agent.attach.Obeys (playing door) (fun report s' =>
      ∃ h, s.host.Prepared agent.payload.fingerprint h ∧
        report.outcome = .ok (.immediate (h.swap request).1) ∧
        (∃ calls, s'.host = { (h.swap request).2 with calls := calls }) ∧
        Backdrop (Depot.deposit files dir agent.payload).2 parked exchange link
          { toController := [(h.swap request).1.encode], agentOpen := false } s'.world) s := by
  refine attach_prepares suits decodes connects backdrop stores process fun s' history prepared backdrop => ?_
  rw [now]
  refine hangingUp_obeys ((swapNow_swaps rfl prepared.equipped.granted backdrop).mono ?_)
  rintro _ s'' ⟨⟨progress, rfl⟩, host, backdrop⟩
  refine backdrop.hangUp fun w backdrop => ?_
  exact ⟨_, prepared, rfl, host, backdrop⟩

/-- A swap that is to wait is parked with its connection, and the process holds its token. -/
theorem attach_defers (waits : request.restartActivity = true) (alone : parked.swaps = [])
    (stores : Depot.Stores files dir agent.payload)
    (process : s.host.Untouched ∨ s.host.Equipped agent.payload.fingerprint) :
    agent.attach.Obeys (playing door) (fun report s' =>
      report.outcome = .ok (.deferred parked.next) ∧
      (∃ h, s.host.Prepared agent.payload.fingerprint h ∧
        s'.host = { h with pendingToken := some parked.next }) ∧
      Backdrop (Depot.deposit files dir agent.payload).2
        ⟨parked.next + 1, [(parked.next, ⟨s.host.pid, request, link⟩)]⟩ exchange link
        { toController := [(Response.needRestart s.host.pid).encode] } s'.world) s := by
  refine attach_prepares suits decodes connects backdrop stores process fun s' history prepared backdrop => ?_
  rw [waits]
  refine (swapLater_parks rfl prepared.equipped.handled prepared.equipped.hooked alone backdrop).mono ?_
  rintro _ s'' ⟨⟨progress, rfl⟩, ⟨calls, host⟩, backdrop⟩
  rw [prepared.keeps.pid] at backdrop
  exact ⟨rfl, ⟨_, prepared.called calls, host⟩, backdrop⟩

/-- Where the payload cannot be stored the session fails, writes nothing and hangs up. -/
theorem attach_lacks (lacks : ¬ Depot.Stores files dir agent.payload)
    (untouched : s.host.Untouched) :
    agent.attach.Obeys (playing door) (fun report s' =>
      (∃ e, report.outcome = .error e) ∧ s'.host.Untouched ∧ s.host.Keeps s'.host ∧
      Backdrop (Depot.deposit files dir agent.payload).2 parked exchange link { agentOpen := false }
        s'.world) s := by
  refine attach_obeys (attempt_andThen (playing_step (a := .ok link) (t := ⟨s.host, w⟩)
    (by simp only [Scene.answer, connects]) ?_))
  refine stage_andThen (hangingUpOnFailure_obeys ?_)
  refine (prepare_lacks (by rfl) suits decodes (by exact backdrop) lacks (by exact untouched)).mono ?_
  rintro _ s' ⟨⟨e, history, rfl⟩, untouched, keeps, backdrop⟩
  refine backdrop.hangUp fun w backdrop => ?_
  exact ⟨⟨e, rfl⟩, untouched, keeps, backdrop⟩

end Attach

/-! ## The restart -/

section Restart

variable {link : LinkId} {files : FileTree} {pid : UInt32} {next token : Int}
  {frames : List ByteArray}

/-- A swap that was taken out is tried and answered, and its connection is closed. -/
theorem complete_swaps {parked : Parked} (granted : s.host.granted = .all)
    (backdrop : Backdrop files parked exchange link { toController := frames } s.world) :
    (complete ⟨pid, request, link⟩).Obeys (playing door) (fun completed s' =>
      completed = ((s.host.swap request).1.status == .ok) ∧
      (∃ calls, s'.host = { (s.host.swap request).2 with calls := calls }) ∧
      Backdrop files parked exchange link
        { toController := frames ++ [(s.host.swap request).1.encode], agentOpen := false } s'.world)
      s := by
  refine Obeys.andThen (Obeys.andThen (execute_swaps (by rw [granted]; rfl)) ?_) fun _ _ => id
  rintro _ _ ⟨rfl, calls, rfl⟩
  refine Backdrop.send (by exact backdrop) rfl rfl fun w backdrop => ?_
  refine Backdrop.hangUp (by exact backdrop) fun w backdrop => ?_
  exact ⟨rfl, ⟨_, rfl⟩, backdrop⟩

/-- The call back takes the swap of its token out, tries it and answers it. -/
theorem redefineParked_completes (granted : s.host.granted = .all)
    (backdrop : Backdrop files ⟨next, [(token, ⟨pid, request, link⟩)]⟩ exchange link
      { toController := frames } s.world) :
    (redefineParked [.long token]).Obeys (playing door) (fun value s' =>
      value = .bool ((s.host.swap request).1.status == .ok) ∧
      (∃ calls, s'.host = { (s.host.swap request).2 with calls := calls }) ∧
      Backdrop files ⟨next, []⟩ exchange link
        { toController := frames ++ [(s.host.swap request).1.encode], agentOpen := false } s'.world)
      s := by
  have taken : Parked.take ⟨next, [(token, ⟨pid, request, link⟩)]⟩ token =
      (some ⟨pid, request, link⟩, ⟨next, []⟩) := by simp [Parked.take]
  refine playing_step (a := some ⟨pid, request, link⟩)
    (t := ⟨s.host, { s.world with parked := ⟨next, []⟩ }⟩)
    (by simp only [Scene.answer, backdrop.parked, taken]) ?_
  show ((complete _).bind _).Obeys _ _ _
  refine Obeys.andThen (complete_swaps (by exact granted) (by exact backdrop.repark ⟨next, []⟩)) ?_
  rintro _ s' ⟨rfl, ends⟩
  exact ⟨rfl, ends⟩

/-- The restart of the activity completes the swap that waits. -/
theorem signalRestart_completes {h : SimulatedHost}
    (process : s.host = { h with pendingToken := some token }) (hooked : h.hooked = true)
    (callable : h.Callable) (granted : h.granted = .all) (free : h.pendingToken = none)
    (backdrop : Backdrop files ⟨next, [(token, ⟨pid, request, link⟩)]⟩ exchange link
      { toController := frames } s.world) :
    s.signalRestart.1 = some ((h.swap request).1.status == .ok) ∧
      (∃ calls, s.signalRestart.2.host = { (h.swap request).2 with calls := calls }) ∧
      Backdrop files ⟨next, []⟩ exchange link
        { toController := frames ++ [(h.swap request).1.encode], agentOpen := false }
        s.signalRestart.2.world := by
  have idle : ({ s.host with pendingToken := none } : SimulatedHost) = h := by
    rw [process, ← free]
  rw [SimulatedHost.signalRestart_callable (by rw [process]; exact hooked) (by rw [process])
    (by rw [process]; exact callable), idle]
  obtain ⟨value, ends⟩ := perform_playing (redefineParked_completes (s := ⟨h, s.world⟩) granted
    backdrop)
  refine ⟨?_, ends⟩
  exact congrArg (fun value => (some value).bind Host.Value.bool?) value

end Restart

end HotSwap
