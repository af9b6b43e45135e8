/-
# HotSwap.Proofs.Simulated.ForeignBuild -- an agent of another build

A process belongs to the build that claimed it, for as long as it lives.  An agent of
another build may still attach to it, with whatever request, plan and directory, and is
turned away: the marker tells it so before anything was done that could not be undone.

That the marker speaks at all rests on `Reached.marked`: in a process that a build has
claimed the marker class is loaded, whatever was asked of the process since it was
started.  So the foreign session finds the marker and does not bring its own payload in,
and the first thing that it asks the marker is the last thing that it asks.

`turnedAway_of_foreign` says what is left of such a session: its payload on disk, the abilities
that it was granted, and the number of calls.
-/
import HotSwap.Proofs.Files.Growth
import HotSwap.Proofs.Session.Questions
import HotSwap.Proofs.Simulated.Answers
import HotSwap.Proofs.Simulated.Facts
import HotSwap.Proofs.Text.HexForm
import HotSwap.Simulation.Fixture

namespace HotSwap

set_option autoImplicit false

open Procedure Session

/-! ## Processes that were claimed -/

/-- A process that asks the marker is answered only if the class is there, and no class goes
away; so a claimed process stays one in which the marker is loaded. -/
theorem seeing_claimed {f f' : Facts} {q : Question} {answer : q.Answer}
    (answers : seeing.answers f q answer f') (claimed : f.resident.isSome → f.marked = true) :
    f'.resident.isSome → f'.marked = true := by
  by_cases unmoved : Unmoved q
  · rwa [seeing_unmoved unmoved answers]
  cases q with
  | host call =>
      cases call with
      | addCapabilities wanted =>
          rcases seeing_addCapabilities answers with rfl | ⟨-, rfl⟩ <;> exact claimed
      | setLoadHook hook =>
          obtain ⟨-, rfl⟩ := seeing_setLoadHook answers
          exact claimed
      | setLoadNotification enabled =>
          obtain ⟨-, rfl⟩ := seeing_setLoadNotification answers
          exact claimed
      | retransformClass name =>
          rcases seeing_retransformClass answers with ⟨-, rfl⟩ | ⟨-, rfl⟩ <;> exact claimed
      | appendToBootstrapSearch path =>
          rcases seeing_appendToBootstrapSearch answers with ⟨-, rfl⟩ | ⟨-, rfl⟩
          · exact claimed
          · exact fun _ => rfl
      | callStatic className method args =>
          obtain rfl : className = markerClass := Classical.not_not.1 unmoved
          obtain ⟨door, s, rfl, -, rfl⟩ := answers
          show (s.host.enter.callStatic markerClass method args).2.facts.resident.isSome →
            (s.host.enter.callStatic markerClass method args).2.facts.marked = true
          cases loaded : s.host.isLoaded markerClass with
          | true =>
              obtain ⟨resident, instrumented, called⟩ :=
                s.host.enter.callStatic_marker_cases method args
              rw [called]
              exact fun _ => loaded
          | false =>
              have absent : s.host.enter.isLoaded markerClass = false := loaded
              have refused : (s.host.enter.callStatic markerClass method args).2 = s.host.enter := by
                simp [SimulatedHost.callStatic, absent]
              rw [refused]
              exact claimed
      | _ => exact absurd trivial unmoved
  | _ => exact absurd trivial unmoved

namespace SimulatedHost

/-- A process that was started, and of which anything was asked since then, in any world: by
sessions, at any point of them, and by whoever else calls it, lets its activity restart or
puts native functions into it. -/
inductive Reached : SimulatedHost → Prop where
  | start {h : SimulatedHost} (started : Started h) : Reached h
  | ask {s : Scene SimulatedHost} (reached : Reached s.host) (door : Connector) (q : Question) :
      Reached (Scene.answer door q s).2.host
  | restart {s : Scene SimulatedHost} (reached : Reached s.host) : Reached s.signalRestart.2.host
  | invoke {s : Scene SimulatedHost} (reached : Reached s.host) (className : String)
      (method : Host.Method) (args : List Host.Value) :
      Reached (s.invokeNative className method args).2.host
  | seed {h : SimulatedHost} (reached : Reached h) (binding : NativeBinding) :
      Reached (h.seedNative binding)

/-- Where a build has claimed a process its marker is loaded. -/
theorem Reached.marked {h : SimulatedHost} (reached : Reached h) :
    h.facts.resident.isSome → h.facts.marked = true := by
  induction reached with
  | start started =>
      simp [facts, started.blank.residentFingerprint]
  | @ask s _ door q ih => exact seeing_claimed ⟨door, s, rfl, rfl, rfl⟩ ih
  | restart _ ih =>
      rw [signalRestart_facts]
      exact ih
  | @invoke s _ className method args ih =>
      have same : (s.invokeNative className method args).2.host.facts = s.host.facts := by
        unfold Scene.invokeNative
        cases s.host.natives.lookup (className, method) with
        | none => rfl
        | some native => exact perform_seeing _ (unmoved_obeys (callNative_unmoved native args))
      rwa [same]
  | seed _ _ ih => exact ih

/-- A session that is played to its end in a process that was reached leaves one that was. -/
theorem Reached.perform {α : Type} {s : Scene SimulatedHost} (reached : Reached s.host)
    (door : Connector) (p : Procedure α) : Reached (s.perform door p).2.host := by
  induction p generalizing s with
  | done a => exact reached
  | ask q next ih => exact ih _ (reached.ask door q)

end SimulatedHost

/-! ## What a session may look at -/

/-- What an agent wrote on a connection. -/
def Link.written : Link → List ByteArray ⊕ ByteArray
  | frames line => .inl line.toController
  | bytes line => .inr line.sink.written

/-- Nothing changed but what a process may be granted and how often it was called; nothing was
written on any connection, and the table of parked swaps is what it was. -/
structure Unharmed (start now : Scene SimulatedHost) : Prop where
  process : ∃ granted calls,
    now.host = { start.host with granted := granted, calls := calls }
  parked : now.world.parked = start.world.parked
  registries : now.world.registries = start.world.registries
  written : ∀ id : LinkId,
    (now.world.links[id]?).map Link.written = (start.world.links[id]?).map Link.written

section Looking

variable {start s : Scene SimulatedHost} {door : Connector}

theorem Unharmed.refl (s : Scene SimulatedHost) : Unharmed s s :=
  ⟨⟨s.host.granted, s.host.calls, rfl⟩, rfl, rfl, fun _ => rfl⟩

theorem Unharmed.trans {now : Scene SimulatedHost} (first : Unharmed start s)
    (second : Unharmed s now) : Unharmed start now where
  process := by
    obtain ⟨_, _, one⟩ := first.process
    obtain ⟨granted, calls, two⟩ := second.process
    exact ⟨granted, calls, by rw [two, one]⟩
  parked := second.parked.trans first.parked
  registries := second.registries.trans first.registries
  written id := (second.written id).trans (first.written id)

/-- What leaves a process and what is written as they are; a payload may be put on disk. -/
def Harmless : Question → Prop
  | .host .potentialCapabilities | .host (.addCapabilities _) | .host (.findClass _)
  | .connect | .receive _ | .hangUp _ | .deposit .. => True
  | _ => False

theorem Link.written_read (link : Link) : link.read.2.written = link.written := by
  cases link with
  | frames line =>
      show Sum.inl line.read.2.toController = Sum.inl line.toController
      unfold FrameLine.read
      split <;> rfl
  | bytes line => rfl

theorem Link.written_close (link : Link) : link.close.written = link.written := by
  cases link <;> rfl

/-- What an agent does with a connection without writing on it. -/
theorem written_onLink {α : Type} (w : World) (link : LinkId) (absent : α)
    {change : Link → α × Link} (silent : ∀ l, (change l).2.written = l.written) (id : LinkId) :
    ((w.onLink link absent change).2.links[id]?).map Link.written =
      (w.links[id]?).map Link.written := by
  unfold World.onLink
  cases found : w.links[link]? with
  | none => rfl
  | some l =>
      rw [Array.getElem?_setIfInBounds]
      split
      · rename_i same
        subst same
        rw [if_pos (Array.getElem?_eq_some_iff.1 found).1, found]
        exact congrArg some (silent l)
      · rfl

theorem answer_harmless {q : Question} (harmless : Harmless q) (door : Connector)
    (s : Scene SimulatedHost) : Unharmed s (Scene.answer door q s).2 := by
  cases q with
  | host call =>
      cases call with
      | potentialCapabilities => exact ⟨⟨_, _, rfl⟩, rfl, rfl, fun _ => rfl⟩
      | findClass name => exact ⟨⟨_, _, rfl⟩, rfl, rfl, fun _ => rfl⟩
      | addCapabilities wanted =>
          refine ⟨?_, rfl, rfl, fun _ => rfl⟩
          show ∃ granted calls, (s.host.enter.addCapabilities wanted).2 = _
          rcases s.host.enter.addCapabilities_cases wanted with ⟨e, same⟩ | ⟨-, granted⟩
          · exact ⟨s.host.granted, s.host.enter.calls, by rw [same]; rfl⟩
          · exact ⟨_, s.host.enter.calls, by rw [granted]; rfl⟩
      | _ => exact harmless.elim
  | connect =>
      cases door with
      | exchange id =>
          have picked : ∀ w : World, (w.pickUp id).2.parked = w.parked ∧
              (w.pickUp id).2.registries = w.registries ∧ (w.pickUp id).2.links = w.links := by
            intro w
            unfold World.pickUp
            split <;> exact ⟨rfl, rfl, rfl⟩
          obtain ⟨parked, registries, links⟩ := picked s.world
          refine ⟨⟨_, _, rfl⟩, parked, registries, fun link => ?_⟩
          show ((s.world.pickUp id).2.links[link]?).map _ = _
          rw [links]
      | _ => exact .refl s
  | receive link =>
      exact ⟨⟨_, _, rfl⟩, onLink_parked .., onLink_registries ..,
        written_onLink _ _ _ Link.written_read⟩
  | hangUp link =>
      exact ⟨⟨_, _, rfl⟩, onLink_parked .., onLink_registries ..,
        written_onLink _ _ _ Link.written_close⟩
  | deposit dir payload =>
      rw [Scene.answer_deposit]
      exact ⟨⟨_, _, rfl⟩, rfl, rfl, fun _ => rfl⟩
  | _ => exact harmless.elim

end Looking

/-! ## The parts of a foreign session -/

section Parts

variable {start s : Scene SimulatedHost} {door : Connector} {agent : Agent} {link : LinkId}
  {claim : String}

/-- A session looks at a process that was claimed and in which the marker is loaded. -/
structure Foreign (claim : String) (start s : Scene SimulatedHost) : Prop where
  unharmed : Unharmed start s
  files : s.world.files = start.world.files
  claimed : start.host.residentFingerprint = some claim
  marked : start.host.isLoaded markerClass = true

/-- What a session asks before it puts the payload on disk. -/
def Glances : Question → Prop
  | .deposit .. => False
  | q => Harmless q

theorem Glances.harmless {q : Question} (glances : Glances q) : Harmless q := by
  cases q <;> first | exact glances | exact glances.elim

theorem Unharmed.claimed (unharmed : Unharmed start s)
    (claimed : start.host.residentFingerprint = some claim)
    (marked : start.host.isLoaded markerClass = true) :
    s.host.residentFingerprint = some claim ∧ s.host.isLoaded markerClass = true := by
  obtain ⟨granted, calls, same⟩ := unharmed.process
  rw [same]
  exact ⟨claimed, marked⟩

theorem Foreign.answer {q : Question} (foreign : Foreign claim start s) (glances : Glances q)
    (door : Connector) : Foreign claim start (Scene.answer door q s).2 :=
  have kept := answer_files door q s (by rintro dir payload rfl; exact glances)
  ⟨foreign.unharmed.trans (answer_harmless glances.harmless door s), kept.trans foreign.files,
    foreign.claimed, foreign.marked⟩

theorem negotiate_glances : negotiate.Asks Glances :=
  negotiate_questions.mono (by simp [Glances, Harmless])

theorem glances_obeys {α : Type} {p : Procedure α} (asks : p.Asks Glances)
    (foreign : Foreign claim start s) :
    p.Obeys (playing door) (fun _ s => Foreign claim start s) s :=
  Obeys.of_asks asks (fun _ _ _ _ => trivial)
    (fun q s answer s' glances foreign comes => by
      have same : s' = (Scene.answer door q s).2 := (congrArg Prod.snd comes).symm
      exact same ▸ foreign.answer glances door) foreign

/-- The payload is put on disk, and is not brought into a process in which the marker is. -/
theorem install_foreign (payload : Payload) (dir : String) (foreign : Foreign claim start s) :
    (install payload dir).Obeys (playing door)
      (fun _ s => Unharmed start s ∧ Depot.Adds start.world.files dir payload s.world.files) s := by
  unfold install
  refine playing_ask.2 ?_
  have stored := answer_harmless (q := .deposit dir payload) trivial door s
  have unharmed := foreign.unharmed.trans stored
  have claimed := unharmed.claimed foreign.claimed foreign.marked
  have adds : Depot.Adds start.world.files dir payload
      (Scene.answer door (.deposit dir payload) s).2.world.files := by
    rw [Scene.answer_deposit, ← foreign.files]
    exact Depot.deposit_adds _ dir payload
  generalize Scene.answer door (.deposit dir payload) s = answered at claimed unharmed adds
  obtain ⟨_ | path, s'⟩ := answered
  · exact ⟨unharmed, adds⟩
  refine playing_ask.2 ?_
  have found : (Scene.answer door (.host (.findClass markerClass)) s').1 = true := claimed.2
  have looked := answer_harmless (q := .host (.findClass markerClass)) trivial door s'
  rw [found]
  exact ⟨unharmed.trans looked, adds⟩

/-- The marker says that the process is another build's. -/
theorem checkBuild_foreign {build : Fingerprint} (other : claim ≠ build.hex)
    (claimed : s.host.residentFingerprint = some claim)
    (marked : s.host.isLoaded markerClass = true) :
    (checkBuild build).Obeys (playing door)
      (fun r s' => r = .error (.mismatch build) ∧
        s' = ⟨{ s.host with calls := s.host.calls + 1 }, s.world⟩) s := by
  unfold checkBuild
  refine playing_ask.2 ?_
  have told : (claim == build.hex) = false := by simpa using other
  rw [Scene.answer_callStatic,
    SimulatedHost.callStatic_checkHash (h := s.host.enter) build.hex marked claimed, told]
  exact ⟨rfl, rfl⟩

/-! ## The whole session -/

/-- What is known behind a session that was turned away. -/
structure TurnedAway (agent : Agent) (start : Scene SimulatedHost) (report : SessionReport)
    (now : Scene SimulatedHost) : Prop where
  failed : report.phase = .failed ∧ ∃ e, report.outcome = .error e
  unharmed : Unharmed start now
  /-- At most the agent's own payload is put on disk, besides everything that is there. -/
  files : now.world.files = start.world.files ∨
    ∃ package dir, agent.payloadDir.resolve package = some dir ∧
      Depot.Adds start.world.files dir agent.payload now.world.files
  /-- Where the marker was asked, it said why. -/
  mismatch : report.visited .versionCheck = true →
    ∃ e, report.outcome = .error e ∧ e = .version (.mismatch agent.payload.fingerprint) ∧
      e.isRestartRequired = true

/-- The first half of a foreign session fails: before the marker is asked, or there. -/
def Refused (agent : Agent) (start : Scene SimulatedHost)
    (r : Except AttachError Request × Progress) (s : Scene SimulatedHost) : Prop :=
  ∃ e, r.1 = .error e ∧ r.2.phase.isTerminal = false ∧ Unharmed start s ∧
    (s.world.files = start.world.files ∨
      ∃ package dir, agent.payloadDir.resolve package = some dir ∧
        Depot.Adds start.world.files dir agent.payload s.world.files) ∧
    (r.2.history.contains .versionCheck = true →
      e = .version (.mismatch agent.payload.fingerprint))

/-- A part that fails before the marker is asked leaves the files as they were. -/
theorem Foreign.refused {e : AttachError} {progress : Progress}
    (foreign : Foreign claim start s) (running : progress.phase.isTerminal = false)
    (before : progress.history.contains .versionCheck = false) :
    Refused agent start (.error e, progress) s :=
  ⟨e, rfl, running, foreign.unharmed, .inl foreign.files, fun came => by
    rw [before] at came; cases came⟩

theorem prepare_refused (foreign : Foreign claim start s)
    (other : claim ≠ agent.payload.fingerprint.hex) :
    (prepare agent link .start).Obeys (playing door) (Refused agent start) s := by
  refine advance_andThen (by decide) (attempt_andThen (playing_ask.2 ?_))
  have foreign := foreign.answer (q := .receive link) trivial door
  generalize Scene.answer door (.receive link) s = answered at foreign
  obtain ⟨_ | frame, s⟩ := answered
  · exact foreign.refused rfl (by decide)
  refine attempt_andThen ?_
  cases Request.decode frame with
  | error e => exact foreign.refused rfl (by decide)
  | ok request =>
  simp only [Procedure.pure_eq, obeys_done]
  refine advance_andThen (by decide) (attempt_andThen ?_)
  refine (glances_obeys negotiate_glances foreign).mono fun r s foreign => ?_
  rcases r with e | granted
  · exact foreign.refused rfl (by decide)
  refine advance_andThen (by decide) ?_
  cases resolved : agent.payloadDir.resolve request.packageName with
  | none => exact foreign.refused rfl (by decide)
  | some dir =>
  refine attempt_andThen ((install_foreign agent.payload dir foreign).mono fun r s stored => ?_)
  obtain ⟨unharmed, adds⟩ := stored
  have files : s.world.files = start.world.files ∨ ∃ package dir,
      agent.payloadDir.resolve package = some dir ∧
        Depot.Adds start.world.files dir agent.payload s.world.files :=
    .inr ⟨_, dir, resolved, adds⟩
  rcases r with e | installed
  · exact ⟨_, rfl, rfl, unharmed, files, fun came => absurd came (by simp [Progress.start])⟩
  obtain ⟨claimed, marked⟩ := unharmed.claimed foreign.claimed foreign.marked
  refine advance_andThen (by decide) (attempt_andThen ?_)
  refine (checkBuild_foreign other claimed marked).mono fun r s' told => ?_
  obtain ⟨rfl, rfl⟩ := told
  have asked : Unharmed s ⟨{ s.host with calls := s.host.calls + 1 }, s.world⟩ :=
    ⟨⟨_, _, rfl⟩, rfl, rfl, fun _ => rfl⟩
  exact ⟨_, rfl, rfl, unharmed.trans asked, files, fun _ => rfl⟩

/-- An agent of another build than the one that claimed the process is turned away, whatever it
brings, asks for and comes by, and the process and everybody's swaps are as they were. -/
theorem turnedAway_of_foreign {first : Fingerprint} (reached : start.host.Reached)
    (claimed : start.host.residentFingerprint = some first.hex)
    (foreign : agent.payload.fingerprint ≠ first) (door : Connector) :
    TurnedAway agent start (start.perform door agent.attach).1
      (start.perform door agent.attach).2 := by
  have marked : start.host.isLoaded markerClass = true :=
    reached.marked (by simp [SimulatedHost.facts, claimed])
  have other : first.hex ≠ agent.payload.fingerprint.hex :=
    fun same => foreign (Fingerprint.hex_injective same).symm
  have looking : Foreign first.hex start start := ⟨.refl start, rfl, claimed, marked⟩
  -- A failure that leaves the session running is reported as it is.
  have reports {e : AttachError} {progress : Progress} {s : Scene SimulatedHost}
      (refused : Refused agent start (.error e, progress) s) :
      TurnedAway agent start ⟨progress.fail.phase, progress.fail.history, .error e⟩ s := by
    obtain ⟨_, same, running, unharmed, files, mismatch⟩ := refused
    obtain rfl := Except.error.inj same
    have ends : progress.fail = ⟨.failed, progress.history ++ [.failed]⟩ := by
      simp [Progress.fail, show progress.phase.isTerminal = false from running]
    rw [ends]
    refine ⟨⟨rfl, e, rfl⟩, unharmed, files, fun asked => ?_⟩
    have asked : progress.history.contains .versionCheck = true := by
      simpa [SessionReport.visited] using asked
    exact ⟨e, rfl, mismatch asked, by rw [mismatch asked]; rfl⟩
  refine perform_playing (attach_obeys (attempt_andThen (playing_ask.2 ?_)))
  have connected := looking.answer (q := .connect) trivial door
  generalize Scene.answer door .connect start = answered at connected
  obtain ⟨_ | link, s⟩ := answered
  · exact reports (connected.refused rfl (by decide))
  refine stage_andThen (hangingUpOnFailure_obeys ?_)
  refine (prepare_refused connected other).mono fun r s refused => ?_
  obtain ⟨r, progress⟩ := r
  obtain ⟨e, rfl, running, unharmed, files, mismatch⟩ := refused
  have hungUp := answer_harmless (q := .hangUp link) trivial door s
  have kept := answer_files door (.hangUp link) s (by simp)
  exact playing_ask.2 (reports
    ⟨e, rfl, running, unharmed.trans hungUp, by rwa [kept], mismatch⟩)

end Parts

/-! ## A process that was claimed -/

/-- Two controllers that want a swap, one for each of two agents. -/
def twoControllers : World where
  links := #[.frames { toAgent := [(Simulation.Fixture.request false).encode] },
    .frames { toAgent := [(Simulation.Fixture.request true).encode] }]

/-- A process behind its first session. -/
def claimedScene : Scene SimulatedHost :=
  (Scene.perform ⟨Simulation.Fixture.host 7, twoControllers⟩ (.ready 0)
    Simulation.Fixture.agent.attach).2

/-- An agent of another build. -/
def strangeAgent : Agent :=
  { Simulation.Fixture.agent with payload := ⟨.empty, ⟨Vector.replicate 32 1⟩⟩ }

theorem claimedScene_turnedAway :
    claimedScene.host.residentFingerprint = some Simulation.Fixture.agent.payload.fingerprint.hex ∧
      strangeAgent.payload.fingerprint ≠ Simulation.Fixture.agent.payload.fingerprint ∧
      (claimedScene.perform (.ready 1) strangeAgent.attach).1.visited .versionCheck = true ∧
      TurnedAway strangeAgent claimedScene
        (claimedScene.perform (.ready 1) strangeAgent.attach).1
        (claimedScene.perform (.ready 1) strangeAgent.attach).2 := by
  have started : (Simulation.Fixture.host 7).Started :=
    (SimulatedHost.Started.fresh 7).withClass _ _
  have reached : claimedScene.host.Reached := by
    rw [claimedScene]
    exact SimulatedHost.Reached.perform (.start started) (.ready 0) _
  obtain ⟨claimed, other, asked⟩ : claimedScene.host.residentFingerprint =
        some Simulation.Fixture.agent.payload.fingerprint.hex ∧
      strangeAgent.payload.fingerprint ≠ Simulation.Fixture.agent.payload.fingerprint ∧
      (claimedScene.perform (.ready 1) strangeAgent.attach).1.visited .versionCheck = true := by
    decide +kernel
  exact ⟨claimed, other, asked, turnedAway_of_foreign reached claimed other (.ready 1)⟩

end HotSwap
