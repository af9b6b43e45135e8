/-
# HotSwap.Proofs.Simulation.Verdict -- what a simulated run finds, for every number of attaches

Whether a run passes is decided before its first attach, by the directory in which the payload
is to be stored.  Where it can be stored every attach does what its mode promises, the first
one hooking the process and the others finding it hooked; where it cannot, every attach fails
and leaves the process as untouched as it was (`run_report`).
-/
import HotSwap.Proofs.Simulated.Playthrough
import HotSwap.Simulation.Fixture
import HotSwap.Simulation.Run

namespace HotSwap.Simulation

set_option autoImplicit false

open Session SimulatedHost

/-! ## The controller's side -/

section Controller

variable {files : FileTree} {parked : Parked} {exchange : Nat} {link : LinkId} {line : FrameLine}
  {w : World} {h : SimulatedHost} {stats : Stats} {violations : List Violation} {attach : Nat}

/-- A controller that dials where nobody waits is the one that the agent picks up. -/
theorem dial_connects (free : w.exchanges[exchange]? = some []) (frame : ByteArray) :
    ∃ w', (Connector.exchange exchange).connect
        ((w.dial exchange).2.sendToAgent w.links.size frame) = (.ok w.links.size, w') ∧
      Backdrop w.files w.parked exchange w.links.size { toAgent := [frame] } w' := by
  have there : (w.exchanges.modify exchange (· ++ [w.links.size]))[exchange]? =
      some [w.links.size] := by simp [Array.getElem?_modify, free]
  have sent : ((w.dial exchange).2.sendToAgent w.links.size frame) =
      { w with
        links := (w.links.push (.frames {})).setIfInBounds w.links.size
          (.frames { toAgent := [frame] })
        exchanges := w.exchanges.modify exchange (· ++ [w.links.size]) } := by
    simp [World.dial, World.addLink, World.sendToAgent, World.onLine, World.onLink,
      FrameLine.sendToAgent]
  refine ⟨{ w with
    links := (w.links.push (.frames {})).setIfInBounds w.links.size (.frames { toAgent := [frame] })
    exchanges := (w.exchanges.modify exchange (· ++ [w.links.size])).setIfInBounds exchange [] },
    ?_, rfl, rfl, ?_, ?_⟩
  · rw [sent]
    simp only [Connector.connect, World.pickUp, there]
  · simp [(Array.getElem?_eq_some_iff.1 free).1]
  · simp

/-- The controller finds the response that was sent first. -/
theorem receive_response {r : Response} {frames : List ByteArray}
    (backdrop : Backdrop files parked exchange link line w)
    (sent : line.toController = r.encode :: frames) :
    ∃ w', Backdrop files parked exchange link { line with toController := frames } w' ∧
      w.receive link = (.response r, w') := by
  refine ⟨_, backdrop.set _, ?_⟩
  simp only [World.receive, World.onLine, World.onLink, backdrop.line, FrameLine.receive, sent,
    Response.decode_encode]

/-- The controller finds that the agent is gone once there is nothing left to read. -/
theorem receive_closed (backdrop : Backdrop files parked exchange link line w)
    (empty : line.toController = []) (gone : line.agentOpen = false) :
    ∃ w', Backdrop files parked exchange link line w' ∧ w.receive link = (.closed, w') := by
  refine ⟨_, backdrop.set _, ?_⟩
  simp [World.receive, World.onLine, World.onLink, backdrop.line, FrameLine.receive, empty, gone]

/-- The response that was promised is counted. -/
theorem expect_comes {r : Response} {frames : List ByteArray} {expected : Status}
    (stats : Stats) (violations : List Violation) (attach : Nat)
    (backdrop : Backdrop files parked exchange link line w)
    (sent : line.toController = r.encode :: frames) (status : r.status = expected)
    (pid : r.pid = h.pid) :
    ∃ w', Backdrop files parked exchange link { line with toController := frames } w' ∧
      State.expect ⟨⟨h, w⟩, stats, violations⟩ attach link expected =
        (true, ⟨⟨h, w'⟩, State.count stats expected, violations⟩) := by
  obtain ⟨w', backdrop, received⟩ := receive_response backdrop sent
  refine ⟨w', backdrop, ?_⟩
  simp [State.expect, State.receive, received, status, pid]

/-- A process that is left in order is not complained of. -/
theorem checkHost_quiet (hook : h.hook = none) (notification : h.notification = false) :
    State.checkHost ⟨⟨h, w⟩, stats, violations⟩ attach = ⟨⟨h, w⟩, stats, violations⟩ := by
  simp [State.checkHost, hook, notification]

/-- The controller hangs up on a line that nobody uses any more. -/
theorem closeController_backdrop (backdrop : Backdrop files parked exchange link line w) :
    Backdrop files parked exchange link line.closeController (w.closeController link) := by
  have closed : w.closeController link =
      { w with links := w.links.setIfInBounds link (.frames line.closeController) } := by
    simp only [World.closeController, World.onLine, World.onLink, backdrop.line]
  rw [closed]
  exact backdrop.set _

end Controller

/-! ## One attach -/

section Attach

variable {files : FileTree} {parked : Parked} {exchange : Nat} {link : LinkId}
  {w : World} {h : SimulatedHost} {stats : Stats} {violations : List Violation} {attach : Nat}
  {mode : Mode}

/-- Whatever its number, the request of an attach is in order. -/
theorem check_request (attach : Nat) (mode : Mode) :
    (request attach mode).check = .ok (request attach mode) := by
  have blank : Text.isAllBlank package = false := by decide +kernel
  have plain : Request.isPlainName package = true := by decide +kernel
  show Request.check ⟨package, _, _⟩ = _
  simp [Request.check, blank, plain, request]

/-- How often the swap of a mode is applied in so many attaches. -/
def Mode.applied (mode : Mode) (attaches : Nat) : Nat := if mode = .reject then 0 else attaches

/-- The last response that a mode promises. -/
def Mode.last (mode : Mode) : Status := if mode = .reject then .error else .ok

/-- The process of a run as the next attach needs it. -/
structure Serves (mode : Mode) (pid : UInt32) (attaches : Nat) (h : SimulatedHost) : Prop where
  pid : h.pid = pid
  loaded : h.isLoaded className = true
  incompatible : h.incompatible = if mode = .reject then [className] else []
  redefinitions : h.redefinitions = mode.applied attaches
  token : h.pendingToken = none

theorem Serves.kept {pid : UInt32} {h' : SimulatedHost} (serves : Serves mode pid attach h)
    (keeps : h.Keeps h') : Serves mode pid attach h' where
  pid := keeps.pid.trans serves.pid
  loaded := keeps.loaded _ serves.loaded
  incompatible := keeps.incompatible.trans serves.incompatible
  redefinitions := keeps.redefinitions.trans serves.redefinitions
  token := keeps.pendingToken.trans serves.token

/-- The definition of a request has no fault but that of the mode. -/
theorem Serves.fault {pid : UInt32} (serves : Serves mode pid attach h) (n : Nat) :
    (request n mode).changes.findSome? h.fault? =
      if mode = .reject then some ⟨.unsupportedChange, className ++ " changes class shape"⟩
      else none := by
  by_cases reject : mode = .reject
  · simp [request, SimulatedHost.fault?, serves.loaded, serves.incompatible, reject]
  · simp [request, SimulatedHost.fault?, serves.loaded, serves.incompatible, reject]

/-- The swap of an attach ends as its mode promises, and leaves the process ready for the next. -/
theorem Serves.swap {pid : UInt32} (serves : Serves mode pid attach h) (n calls : Nat) :
    (h.swap (request n mode)).1.status = mode.last ∧ (h.swap (request n mode)).1.pid = pid ∧
      Serves mode pid (attach + 1) { (h.swap (request n mode)).2 with calls := calls } := by
  have fault := serves.fault n
  unfold SimulatedHost.swap
  by_cases reject : mode = .reject
  · rw [if_pos reject] at fault
    rw [fault]
    refine ⟨by simp [Mode.last, reject, Response.error], serves.pid, serves.pid, serves.loaded,
      serves.incompatible, ?_, serves.token⟩
    simp [serves.redefinitions, Mode.applied, reject]
  · rw [if_neg reject] at fault
    rw [fault]
    have loaded := isSome_lookup_define _ _ (h.loaded_of_faultless fault) className
    refine ⟨by simp [Mode.last, reject, Response.ok], serves.pid, serves.pid,
      loaded.trans serves.loaded, serves.incompatible, ?_, serves.token⟩
    simp [serves.redefinitions, Mode.applied, reject]

/-- What comes back from a session that swapped at once. -/
theorem checkResponses_last {r : Response} (stats : Stats) (violations : List Violation)
    (attach : Nat) (now : mode ≠ .restart)
    (backdrop : Backdrop files parked exchange link
      { toController := [r.encode], agentOpen := false } w)
    (status : r.status = mode.last) (pid : r.pid = h.pid) :
    ∃ w', Backdrop files parked exchange link { agentOpen := false } w' ∧
      State.checkResponses ⟨⟨h, w⟩, stats, violations⟩ attach link mode =
        ⟨⟨h, w'⟩, State.count stats mode.last, violations⟩ := by
  obtain ⟨w₁, backdrop, came⟩ := expect_comes stats violations attach backdrop rfl status pid
  obtain ⟨w₂, backdrop, closed⟩ := receive_closed backdrop rfl rfl
  have all : State.expectAll ⟨⟨h, w⟩, stats, violations⟩ attach link mode =
      (true, ⟨⟨h, w₁⟩, State.count stats mode.last, violations⟩) := by
    cases mode with
    | immediate | reject => exact came
    | restart => exact absurd rfl now
  refine ⟨w₂, backdrop, ?_⟩
  simp [State.checkResponses, all, State.receive, closed]

/-- What comes back from a session that left the swap to the restart. -/
theorem checkResponses_restart {h' : SimulatedHost} {pid : UInt32} {next token : Int}
    {request : Request} (stats : Stats) (violations : List Violation) (attach : Nat)
    (process : h' = { h with pendingToken := some token })
    (hooked : h.hooked = true) (callable : h.Callable) (granted : h.granted = .all)
    (free : h.pendingToken = none)
    (backdrop : Backdrop files ⟨next, [(token, ⟨pid, request, link⟩)]⟩ exchange link
      { toController := [(Response.needRestart h.pid).encode] } w)
    (status : (h.swap request).1.status = .ok) (told : (h.swap request).1.pid = h.pid) :
    ∃ w' calls, Backdrop files ⟨next, []⟩ exchange link { agentOpen := false } w' ∧
      State.checkResponses ⟨⟨h', w⟩, stats, violations⟩ attach link .restart =
        ⟨⟨{ (h.swap request).2 with calls := calls }, w'⟩,
          State.count (State.count stats .needActivityRestart) .ok, violations⟩ := by
  subst process
  obtain ⟨w₁, backdrop, interim⟩ := expect_comes (h := { h with pendingToken := some token })
    stats violations attach backdrop rfl (rfl : _ = Status.needActivityRestart) rfl
  obtain ⟨completed, ⟨calls, host⟩, backdrop⟩ := signalRestart_completes
    (s := ⟨{ h with pendingToken := some token }, w₁⟩) rfl hooked callable granted free backdrop
  have restarted : State.restart ⟨⟨{ h with pendingToken := some token }, w₁⟩,
      State.count stats .needActivityRestart, violations⟩ attach =
        ⟨(Scene.mk { h with pendingToken := some token } w₁).signalRestart.2,
          State.count stats .needActivityRestart, violations⟩ := by
    simp [State.restart, completed, status]
  generalize (Scene.mk { h with pendingToken := some token } w₁).signalRestart.2 = scene
    at host backdrop restarted
  obtain ⟨host', w₂⟩ := scene
  obtain rfl : host' = _ := host
  have pid : (h.swap request).2.pid = h.pid := by
    obtain ⟨classes, redefinitions, -, swapped⟩ := h.swap_frame request
    rw [swapped]
  obtain ⟨w₃, backdrop, came⟩ := expect_comes (h := { (h.swap request).2 with calls := calls })
    (State.count stats .needActivityRestart) violations attach backdrop rfl status
    (told.trans pid.symm)
  obtain ⟨w₄, backdrop, closed⟩ := receive_closed backdrop rfl rfl
  refine ⟨w₄, calls, backdrop, ?_⟩
  simp [State.checkResponses, State.expectAll, interim, restarted, came, State.receive, closed]

/-- The world once the controller of an attach has dialled and sent its request. -/
def dialled (w : World) (exchange attach : Nat) (mode : Mode) : World :=
  (w.dial exchange).2.sendToAgent w.links.size (request attach mode).encode

/-- An attach whose session did not fail. -/
theorem attachOnce_ok {agent : Agent} {report : SessionReport} {scene : Scene SimulatedHost}
    {completion : Completion}
    (played : (Scene.mk h (dialled w exchange attach mode)).perform (.exchange exchange) agent.attach =
      (report, scene)) (outcome : report.outcome = .ok completion) :
    State.attachOnce ⟨⟨h, w⟩, stats, violations⟩ agent exchange mode attach =
      ((State.checkResponses ⟨scene, { stats with attaches := stats.attaches + 1 }, violations⟩
        attach w.links.size mode).checkHost attach).hangUp w.links.size := by
  have dial (stats : Stats) : State.dial ⟨⟨h, w⟩, stats, violations⟩ exchange (request attach mode) =
      (w.links.size, ⟨⟨h, dialled w exchange attach mode⟩, stats, violations⟩) := rfl
  simp only [State.attachOnce, dial, played, outcome]

/-- An attach whose session failed. -/
theorem attachOnce_error {agent : Agent} {report : SessionReport} {scene : Scene SimulatedHost}
    {e : AttachError}
    (played : (Scene.mk h (dialled w exchange attach mode)).perform (.exchange exchange) agent.attach =
      (report, scene)) (outcome : report.outcome = .error e) :
    State.attachOnce ⟨⟨h, w⟩, stats, violations⟩ agent exchange mode attach =
      ((State.mk scene { stats with
        attaches := stats.attaches + 1, sessionsFailed := stats.sessionsFailed + 1 }
        (violations ++ [.sessionFailed attach e.message])).checkHost attach).hangUp w.links.size := by
  have dial (stats : Stats) : State.dial ⟨⟨h, w⟩, stats, violations⟩ exchange (request attach mode) =
      (w.links.size, ⟨⟨h, dialled w exchange attach mode⟩, stats, violations⟩) := rfl
  simp only [State.attachOnce, dial, played, outcome, State.blame]

end Attach

/-! ## A run that keeps its promises -/

section Going

variable {config : Config} {pid : UInt32} {exchange n : Nat} {s : State}

/-- Where the payload of a run is to be stored. -/
def payloadDir (config : Config) : String :=
  config.payloadDir.getD ("/" ++ "/".intercalate (scratch config))

/-- The agent of a run has what a preparation needs. -/
theorem suits_agent (config : Config) (package : String) :
    Suits (agent config) package (payloadDir config) where
  dir := rfl
  target := rfl
  transforms data := by simp [agent, hookTransform, Transform.append]

/-- What is counted in a run in which nothing fails. -/
def promised (mode : Mode) (attaches : Nat) : Stats :=
  match mode with
  | .immediate =>
      { attaches, responsesOk := attaches, redefinitions := attaches
        hookRetransforms := min attaches 1 }
  | .restart =>
      { attaches, responsesOk := attaches, responsesInterim := attaches, redefinitions := attaches
        hookRetransforms := min attaches 1 }
  | .reject => { attaches, responsesError := attaches, hookRetransforms := min attaches 1 }

/-- What is counted of it before the process is looked at in the end. -/
def counted (mode : Mode) (attaches : Nat) : Stats :=
  { promised mode attaches with redefinitions := 0, hookRetransforms := 0 }

/-- And with one more attach counted. -/
def another (mode : Mode) (attaches : Nat) : Stats :=
  { counted mode attaches with attaches := (counted mode attaches).attaches + 1 }

/-- A run whose payload can be stored, behind so many attaches that kept their promises. -/
structure Going (config : Config) (pid : UInt32) (exchange n : Nat) (s : State) : Prop where
  free : s.scene.world.exchanges[exchange]? = some []
  alone : s.scene.world.parked.swaps = []
  stores : Depot.Stores s.scene.world.files (payloadDir config) (agent config).payload
  process : (n = 0 ∧ s.scene.host.Untouched) ∨
    (0 < n ∧ s.scene.host.Equipped (agent config).payload.fingerprint)
  serves : Serves config.mode pid n s.scene.host
  stats : s.stats = counted config.mode n
  violations : s.violations = []

/-- The end of an attach that kept its promises. -/
theorem going_closed {files : FileTree} {parked : Parked} {link : LinkId} {line : FrameLine}
    {h : SimulatedHost} {w : World} (attach : Nat) (backdrop : Backdrop files parked exchange link line w)
    (alone : parked.swaps = [])
    (stores : Depot.Stores files (payloadDir config) (agent config).payload)
    (equipped : h.Equipped (agent config).payload.fingerprint)
    (serves : Serves config.mode pid (n + 1) h) :
    Going config pid exchange (n + 1)
      ((State.checkHost ⟨⟨h, w⟩, counted config.mode (n + 1), []⟩ attach).hangUp link) := by
  rw [checkHost_quiet equipped.hook equipped.notification]
  have backdrop := closeController_backdrop backdrop
  refine ⟨backdrop.exchange, ?_, ?_, .inr ⟨n.succ_pos, equipped⟩, serves, rfl, rfl⟩
  · exact backdrop.parked ▸ alone
  · exact backdrop.files ▸ stores

/-- A payload that can be stored can be stored once more behind that. -/
theorem Going.stored (going : Going config pid exchange n s) :
    Depot.Stores (Depot.deposit s.scene.world.files (payloadDir config) (agent config).payload).2
      (payloadDir config) (agent config).payload := Depot.stores_of_isFile going.stores.again.2.1

/-- One more attach that leaves its swap to the restart keeps the promises. -/
theorem Going.attachOnce_restart (going : Going config pid exchange n s)
    (restart : config.mode = .restart) :
    Going config pid exchange (n + 1) (s.attachOnce (agent config) exchange config.mode n) := by
  have stored := going.stored
  obtain ⟨⟨h, w⟩, stats, violations⟩ := s
  obtain ⟨free, alone, stores, process, serves, rfl, rfl⟩ := going
  obtain ⟨w', connects, backdrop⟩ := dial_connects free (request n config.mode).encode
  have suits := suits_agent config (request n config.mode).packageName
  have process := process.imp And.right And.right
  have waits : (request n config.mode).restartActivity = true := by simp [request, restart]
  obtain ⟨outcome, ⟨h', prepared, host⟩, backdrop⟩ := perform_playing
    (attach_defers (s := ⟨h, dialled w exchange n config.mode⟩) suits (check_request ..) connects
      backdrop waits alone stores process)
  generalize played : (Scene.mk h (dialled w exchange n config.mode)).perform (.exchange exchange)
    (agent config).attach = ended at outcome host backdrop
  obtain ⟨report, host', w₁⟩ := ended
  rw [attachOnce_ok played outcome]
  have served := serves.kept prepared.keeps
  obtain ⟨status, told, -⟩ := served.swap n 0
  have same : (Scene.mk h (dialled w exchange n config.mode)).host.pid = h'.pid :=
    prepared.keeps.pid.symm
  have last : config.mode.last = .ok := by rw [restart]; rfl
  rw [same] at backdrop
  obtain ⟨w₂, calls, backdrop, checked⟩ := checkResponses_restart
    (another config.mode n) [] n host prepared.equipped.hooked prepared.callable
    prepared.equipped.granted served.token backdrop (status.trans last)
    (told.trans served.pid.symm)
  obtain ⟨-, -, serves⟩ := served.swap n calls
  have counts : State.count (State.count (another config.mode n) .needActivityRestart) .ok =
      counted config.mode (n + 1) := by rw [restart]; rfl
  have equipped := prepared.equipped.swap (request n config.mode) calls
  have closed := going_closed n backdrop rfl stored equipped serves
  rw [← counts, ← checked, ← restart] at closed
  exact closed

/-- One more attach that swaps at once keeps the promises. -/
theorem Going.attachOnce_now (going : Going config pid exchange n s)
    (other : config.mode ≠ .restart) :
    Going config pid exchange (n + 1) (s.attachOnce (agent config) exchange config.mode n) := by
  have stored := going.stored
  obtain ⟨⟨h, w⟩, stats, violations⟩ := s
  obtain ⟨free, alone, stores, process, serves, rfl, rfl⟩ := going
  obtain ⟨w', connects, backdrop⟩ := dial_connects free (request n config.mode).encode
  have suits := suits_agent config (request n config.mode).packageName
  have process := process.imp And.right And.right
  have now : (request n config.mode).restartActivity = false := by simp [request, other]
  obtain ⟨h', prepared, outcome, ⟨calls, host⟩, backdrop⟩ := perform_playing
    (attach_swaps (s := ⟨h, dialled w exchange n config.mode⟩) suits (check_request ..) connects
      backdrop now stores process)
  generalize played : (Scene.mk h (dialled w exchange n config.mode)).perform (.exchange exchange)
    (agent config).attach = ended at outcome host backdrop
  obtain ⟨report, host', w₁⟩ := ended
  obtain rfl : host' = _ := host
  obtain ⟨status, told, serves⟩ := (serves.kept prepared.keeps).swap n calls
  obtain ⟨w₂, backdrop, checked⟩ := checkResponses_last (another config.mode n) [] n other backdrop
    status (told.trans serves.pid.symm)
  have counts : State.count (another config.mode n) config.mode.last =
      counted config.mode (n + 1) := by
    cases mode : config.mode with
    | immediate | reject => rfl
    | restart => exact absurd mode other
  have equipped := prepared.equipped.swap (request n config.mode) calls
  have closed := going_closed n backdrop alone stored equipped serves
  rw [← counts, ← checked] at closed
  rw [attachOnce_ok played outcome]
  exact closed

/-- One more attach keeps the promises. -/
theorem Going.attachOnce (going : Going config pid exchange n s) :
    Going config pid exchange (n + 1) (s.attachOnce (agent config) exchange config.mode n) := by
  by_cases restart : config.mode = .restart
  · exact going.attachOnce_restart restart
  · exact going.attachOnce_now restart

/-- However many attaches are made, the promises are kept; so none is the last one. -/
theorem Going.attachAll (count : Nat) (going : Going config pid exchange n s) :
    Going config pid exchange (n + count)
      (s.attachAll (agent config) exchange config count n) := by
  induction count generalizing n s with
  | zero => exact going
  | succ count ih =>
      have going := going.attachOnce
      have clean : (s.attachOnce (agent config) exchange config.mode n).violations = [] :=
        going.violations
      simp only [State.attachAll, clean, List.isEmpty_nil, Bool.not_true, Bool.and_false,
        Bool.false_eq_true, if_false]
      rw [show n + (count + 1) = n + 1 + count by omega]
      exact ih going

/-- What is found in the end: the process was hooked and given the payload once, if ever. -/
theorem Going.report (going : Going config pid exchange n s) :
    s.report config.mode = ⟨config.mode, promised config.mode n, []⟩ := by
  have attaches : (counted config.mode n).attaches = n := by cases config.mode <;> rfl
  have redefinitions := going.serves.redefinitions
  rcases going.process with ⟨rfl, untouched⟩ | ⟨pos, equipped⟩
  · have retransforms : s.scene.host.retransformCount hookTarget = 0 := by
      simp [SimulatedHost.retransformCount, untouched.unloaded]
    simp only [State.report, going.stats, attaches, if_true, retransforms, redefinitions,
      going.violations]
    cases config.mode <;> rfl
  · have once : min n 1 = 1 := by omega
    simp only [State.report, going.stats, attaches, Nat.ne_of_gt pos, if_false, equipped.reloaded,
      if_true, equipped.archives, redefinitions, going.violations]
    cases config.mode <;> simp [promised, counted, Mode.applied, once]

end Going

/-! ## A run that cannot keep them -/

section Failing

variable {config : Config} {exchange : Nat} {errors : List String} {s : State}

/-- A run whose payload cannot be stored, behind so many attaches that failed. -/
structure Failing (config : Config) (exchange : Nat) (errors : List String) (s : State) : Prop where
  free : s.scene.world.exchanges[exchange]? = some []
  lacks : ¬ Depot.Stores s.scene.world.files (payloadDir config) (agent config).payload
  untouched : s.scene.host.Untouched
  redefinitions : s.scene.host.redefinitions = 0
  stats : s.stats = { attaches := errors.length, sessionsFailed := errors.length }
  violations : s.violations = errors.zipIdx.map fun e => .sessionFailed e.2 e.1

/-- One more attach fails, and changes nothing that could help the next. -/
theorem Failing.attachOnce (failing : Failing config exchange errors s) :
    ∃ e, Failing config exchange (errors ++ [e])
      (s.attachOnce (agent config) exchange config.mode errors.length) := by
  obtain ⟨⟨h, w⟩, stats, violations⟩ := s
  obtain ⟨free, lacks, untouched, redefinitions, rfl, rfl⟩ := failing
  obtain ⟨w', connects, backdrop⟩ := dial_connects free (request errors.length config.mode).encode
  obtain ⟨⟨e, outcome⟩, still, keeps, backdrop⟩ := perform_playing
    (attach_lacks (s := ⟨h, dialled w exchange errors.length config.mode⟩)
      (suits_agent config (request errors.length config.mode).packageName) (check_request ..)
      connects backdrop lacks untouched)
  generalize played : (Scene.mk h (dialled w exchange errors.length config.mode)).perform
    (.exchange exchange) (agent config).attach = ended at outcome still keeps backdrop
  obtain ⟨report, host', w₁⟩ := ended
  rw [attachOnce_error played outcome, checkHost_quiet still.hook still.notification]
  refine ⟨e.message, ?_⟩
  have backdrop := closeController_backdrop backdrop
  refine ⟨backdrop.exchange, ?_, still, keeps.redefinitions.trans redefinitions, ?_, ?_⟩
  · show ¬ Depot.Stores (w₁.closeController w.links.size).files _ _
    rw [backdrop.files]
    exact (Depot.lacks_again lacks).2
  · simp [State.hangUp]
  · simp [State.hangUp, List.zipIdx_append]

/-- A run that goes on behind failures makes all its attaches, and each fails. -/
theorem Failing.attachAll (goesOn : config.stopOnFirstViolation = false) (count : Nat)
    (failing : Failing config exchange errors s) :
    ∃ errors', errors'.length = errors.length + count ∧
      Failing config exchange errors'
        (s.attachAll (agent config) exchange config count errors.length) := by
  induction count generalizing errors s with
  | zero => exact ⟨errors, rfl, failing⟩
  | succ count ih =>
      obtain ⟨e, failing⟩ := failing.attachOnce
      obtain ⟨errors', long, ends⟩ := ih failing
      refine ⟨errors', by simp only [long, List.length_append, List.length_singleton]; omega, ?_⟩
      simpa [State.attachAll, goesOn] using ends

/-- A run that stops at a failure makes one attach. -/
theorem Failing.stops (stops : config.stopOnFirstViolation = true) (count : Nat)
    (failing : Failing config exchange [] s) :
    ∃ e, Failing config exchange [e]
      (s.attachAll (agent config) exchange config (count + 1) 0) := by
  obtain ⟨e, failing⟩ := failing.attachOnce
  have blamed := failing.violations
  refine ⟨e, ?_⟩
  simp only [List.nil_append, List.length_nil] at failing blamed
  simpa [State.attachAll, stops, blamed] using failing

/-- What is found in the end: the failures, and that the process was never hooked nor given the
payload. -/
theorem Failing.report (failing : Failing config exchange errors s) (some : errors ≠ []) :
    s.report config.mode =
      ⟨config.mode, { attaches := errors.length, sessionsFailed := errors.length },
        (errors.zipIdx.map fun e => .sessionFailed e.2 e.1) ++
          [.retransformCount 0, .injectionCount 0]⟩ := by
  have retransforms : s.scene.host.retransformCount hookTarget = 0 := by
    simp [SimulatedHost.retransformCount, failing.untouched.unloaded]
  simp [State.report, failing.stats, failing.violations, failing.redefinitions, retransforms,
    failing.untouched.archives, some, State.blame]

end Failing

/-! ## The whole run -/

section Whole

variable {config : Config} {files : FileTree} {pid : UInt32}

/-- The files that a run finds. -/
def initialFiles (config : Config) (files : FileTree) : FileTree :=
  if config.payloadDir.isSome then files else withScratch config files

/-- A run before its first attach. -/
def initialState (config : Config) (files : FileTree) (pid : UInt32) : State :=
  { scene := ⟨host pid config.mode, { files := initialFiles config files, exchanges := #[[]] }⟩ }

theorem run_eq (config : Config) (files : FileTree) (pid : UInt32) :
    (run config files pid).1 =
      ((initialState config files pid).attachAll (agent config) 0 config config.attaches 0).report
        config.mode := rfl

theorem untouched_host (pid : UInt32) (mode : Mode) : (host pid mode).Untouched := by
  cases mode <;>
    constructor <;> simp [host, SimulatedHost.fresh, SimulatedHost.withClass,
      SimulatedHost.withIncompatibleClass, SimulatedHost.isLoaded, assign, className, hookTarget,
      markerClass, List.lookup_cons]

theorem serves_host (pid : UInt32) (mode : Mode) : Serves mode pid 0 (host pid mode) := by
  cases mode <;>
    constructor <;> simp [host, SimulatedHost.fresh, SimulatedHost.withClass, Mode.applied,
      SimulatedHost.withIncompatibleClass, SimulatedHost.isLoaded, assign, className, hookTarget,
      List.lookup_cons]

/-- A run whose payload can be stored passes. -/
theorem run_of_stores
    (stores : Depot.Stores (initialFiles config files) (payloadDir config) (agent config).payload) :
    (run config files pid).1 = ⟨config.mode, promised config.mode config.attaches, []⟩ := by
  have going : Going config pid 0 0 (initialState config files pid) :=
    ⟨rfl, rfl, stores, .inl ⟨rfl, untouched_host ..⟩, serves_host .., by cases config.mode <;> rfl, rfl⟩
  have ends := going.attachAll config.attaches
  rw [Nat.zero_add] at ends
  exact ends.report

/-- A run whose payload cannot be stored reports every attach that it makes. -/
theorem run_of_lacks
    (lacks : ¬ Depot.Stores (initialFiles config files) (payloadDir config) (agent config).payload)
    (some : 0 < config.attaches) :
    ∃ errors : List String,
      errors.length = (if config.stopOnFirstViolation then 1 else config.attaches) ∧
      (run config files pid).1 =
        ⟨config.mode, { attaches := errors.length, sessionsFailed := errors.length },
          (errors.zipIdx.map fun e => .sessionFailed e.2 e.1) ++
            [.retransformCount 0, .injectionCount 0]⟩ := by
  have failing : Failing config 0 [] (initialState config files pid) :=
    ⟨rfl, lacks, untouched_host .., by simp [(serves_host pid config.mode).redefinitions,
      initialState, Mode.applied], rfl, rfl⟩
  cases stop : config.stopOnFirstViolation with
  | true =>
      obtain ⟨count, attaches⟩ := Nat.exists_eq_add_of_lt some
      obtain ⟨e, ends⟩ := failing.stops stop count
      refine ⟨[e], rfl, ?_⟩
      rw [run_eq, attaches, Nat.zero_add]
      exact ends.report (by simp)
  | false =>
      obtain ⟨errors, long, ends⟩ := failing.attachAll stop config.attaches
      rw [List.length_nil, Nat.zero_add] at long
      refine ⟨errors, by simpa using long, ends.report ?_⟩
      rintro rfl
      simp at long
      omega

/-- There is room for a payload in a directory of a run's own. -/
theorem room_own {t : FileTree} (payload : Payload) (tmp : t.at? ["tmp"] = some .directory)
    (there : t.at? ["tmp", Depot.stagingName] = some .directory) :
    t.room "/tmp/.tmpXXXXXX" payload.fileName = .ok ["tmp", Depot.stagingName] := by
  have entry := Depot.entryName_fileName payload
  have inside := FileTree.isDirectoryAt_iff.2 tmp
  refine FileTree.room_ok_iff.2 ⟨?_, ?_, FileTree.isDirectoryAt_iff.2 there⟩
  · have front : ("/tmp/.tmpXXXXXX" ++ FileTree.gap "/tmp/.tmpXXXXXX").utf8ByteSize = 16 := by decide
    rw [FileTree.checkPath_ok_iff, entry.join_eq]
    refine ⟨?_, by simp [entry.named], ?_⟩
    · simp only [String.toList_append, List.mem_append, not_or]
      exact ⟨⟨by decide, by decide⟩, entry.zeroless⟩
    · rw [String.utf8ByteSize_append, front, payload.utf8ByteSize_fileName]
      decide
  · have steps : Path.segments "/tmp/.tmpXXXXXX" = ["tmp", Depot.stagingName] := by decide +kernel
    have begins : t.start "/tmp/.tmpXXXXXX" = [] := rfl
    have root : t.isDirectoryAt [] = true := rfl
    have short : ¬ FileTree.maxName < "tmp".utf8ByteSize ∧
        ¬ FileTree.maxName < Depot.stagingName.utf8ByteSize := by decide
    have plain : Depot.stagingName ≠ "." ∧ Depot.stagingName ≠ ".." := by decide
    simp [begins, steps, FileTree.walk, FileTree.enter, root, tmp, inside, there, short, plain]

/-- A run that names no directory finds one of its own, and nothing new in it. -/
theorem initialFiles_own (own : config.payloadDir = none) (common : config.temporary = ["tmp"]) :
    (initialFiles config files).at? ["tmp"] = some .directory ∧
      (initialFiles config files).at? ["tmp", Depot.stagingName] = some .directory ∧
      ∀ name, (initialFiles config files).at? ["tmp", Depot.stagingName, name] =
        files.at? ["tmp", Depot.stagingName, name] := by
  -- Whether the common directory was there or had to be made, it is there.
  obtain ⟨t, above, same, made⟩ : ∃ t : FileTree, t.at? ["tmp"] = some .directory ∧
      (∀ place, place ≠ ["tmp"] → t.at? place = files.at? place) ∧
      initialFiles config files = t.put ["tmp", Depot.stagingName] .directory := by
    simp only [initialFiles, own, Option.isSome_none, Bool.false_eq_true, if_false, withScratch,
      scratch, common]
    cases there : files.isDirectoryAt ["tmp"] with
    | true => exact ⟨files, FileTree.isDirectoryAt_iff.1 there, fun _ _ => rfl, rfl⟩
    | false =>
        have at? := files.at?_put (show ["tmp"] ≠ [] by simp) .directory
        refine ⟨files.put ["tmp"] .directory, by rw [at?, if_pos rfl], fun place other => ?_, rfl⟩
        rw [at?, if_neg other]
  have at? := t.at?_put (show ["tmp", Depot.stagingName] ≠ [] by simp) .directory
  rw [made]
  refine ⟨?_, ?_, fun name => ?_⟩
  · rw [at?, if_neg (by simp), above]
  · rw [at?, if_pos rfl]
  · rw [at?, if_neg (by simp), same _ (by simp)]

/-- A directory of its own in which a run that names none keeps its payload is fresh: the payload
can be stored there. -/
theorem stores_scratch {config : Config} (own : config.payloadDir = none)
    (common : config.temporary = ["tmp"])
    (fresh : files.at? (scratch config ++ [(agent config).payload.fileName]) = none) :
    Depot.Stores (initialFiles config files) (payloadDir config) (agent config).payload := by
  have place : scratch config = ["tmp", Depot.stagingName] := by simp [scratch, common]
  have dir : payloadDir config = "/tmp/.tmpXXXXXX" := by
    rw [payloadDir, own, place]
    decide +kernel
  rw [place] at fresh
  obtain ⟨tmp, there, inside⟩ := initialFiles_own own common
  rw [dir]
  exact Depot.stores_of_room (room_own _ tmp there) ((inside _).trans fresh)

/-- A certification passes, whatever the number of attaches and the number of the process. -/
theorem certify_passes (attaches : Nat) (pid : UInt32) :
    ∀ report ∈ certify attaches pid, report.passed = true ∧
      report.stats = promised report.mode attaches := by
  intro report member
  obtain ⟨⟨mode, number⟩, -, rfl⟩ := List.mem_map.1 member
  rw [run_of_stores (stores_scratch rfl rfl (by simp [FileTree.at?]))]
  exact ⟨rfl, rfl⟩

/-- The verdict of a run, for every number of attaches.  If the payload of the run can be stored
every attach does what its mode promises and the report has no violations; otherwise every attach
that is made fails, and the report says so and that the process was never hooked nor given the
payload.  A payload can be stored in a directory with room for it in which its name is free. -/
theorem run_report (config : Config) (files : FileTree) (pid : UInt32) :
    (Depot.Stores (initialFiles config files) (payloadDir config) (agent config).payload →
      (run config files pid).1 = ⟨config.mode, promised config.mode config.attaches, []⟩) ∧
    (¬ Depot.Stores (initialFiles config files) (payloadDir config) (agent config).payload →
      0 < config.attaches →
      ∃ errors : List String,
        errors.length = (if config.stopOnFirstViolation then 1 else config.attaches) ∧
        (run config files pid).1 =
          ⟨config.mode, { attaches := errors.length, sessionsFailed := errors.length },
            (errors.zipIdx.map fun e => .sessionFailed e.2 e.1) ++
              [.retransformCount 0, .injectionCount 0]⟩) ∧
    (∀ place, (initialFiles config files).room (payloadDir config)
        (agent config).payload.fileName = .ok place →
      (initialFiles config files).at? (place ++ [(agent config).payload.fileName]) = none →
      Depot.Stores (initialFiles config files) (payloadDir config) (agent config).payload) :=
  ⟨run_of_stores, run_of_lacks, fun _ => Depot.stores_of_room⟩

/-- A run that waits for restarts and stops at the first violation. -/
def sampleConfig : Config where
  attaches := 3
  mode := .restart
  payload := some Fixture.agent.payload
  payloadDir := some "/payloads"
  stopOnFirstViolation := true

/-- Files in which something stands in the way of the payload directory. -/
def obstructed : FileTree := { entries := [(["payloads"], .file 0 .empty)] }

theorem sampleConfig_report :
    (run sampleConfig {} 7).1 = ⟨.restart, promised .restart 3, []⟩ ∧
      ∃ e, (run sampleConfig obstructed 7).1 =
        ⟨.restart, { attaches := 1, sessionsFailed := 1 },
          [.sessionFailed 0 e, .retransformCount 0, .injectionCount 0]⟩ := by
  constructor
  · exact (run_report sampleConfig {} 7).1 ⟨_, rfl, by decide +kernel⟩
  · have refused : (Depot.deposit (initialFiles sampleConfig obstructed) (payloadDir sampleConfig)
        (agent sampleConfig).payload).1.toOption = none := by decide +kernel
    have lacks : ¬ Depot.Stores (initialFiles sampleConfig obstructed) (payloadDir sampleConfig)
        (agent sampleConfig).payload := by
      rintro ⟨path, stored, -⟩
      rw [stored] at refused
      cases refused
    obtain ⟨errors, one, reported⟩ := (run_report sampleConfig obstructed 7).2.1 lacks (by decide)
    obtain ⟨e, rfl⟩ := List.length_eq_one_iff.1 one
    exact ⟨e, reported⟩

end Whole

end HotSwap.Simulation
