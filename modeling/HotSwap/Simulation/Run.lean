/-
# HotSwap.Simulation.Run -- attaching again and again to one process

Each attach of a run dials, sends a request, runs one session, and looks at what
came back and at the process.  In the mode that waits for a restart the activity
restarts once between the two responses.  Whatever the number of attaches, the
process must have been hooked and given the payload exactly once.
-/
import HotSwap.Host.Simulated
import HotSwap.Simulation.Report

namespace HotSwap.Simulation

set_option autoImplicit false

def package : String := "com.example.simulated"

/-- The class that is swapped. -/
def className : String := "com/example/simulated/MainActivity"

/-- The payload of a run that brings none. -/
def defaultPayload : Payload := .of "simulated instrumentation payload".toUTF8

/-- What the transformation of the hooked class puts behind its bytes. -/
def hookSuffix : ByteArray := "#hooked".toUTF8

def hookTransform : Transform := Transform.append hookSuffix

def request (attach : Nat) (mode : Mode) : Request :=
  { packageName := package
    restartActivity := mode == .restart
    changes := [⟨className, ("MainActivity v" ++ toString attach).toUTF8⟩] }

def host (pid : UInt32) (mode : Mode) : SimulatedHost :=
  let h := (SimulatedHost.fresh pid).withClass className "MainActivity v0".toUTF8
  if mode = .reject then h.withIncompatibleClass className else h

/-- What a run is to do, and where temporary files lie. -/
structure Config where
  attaches : Nat := 10
  mode : Mode := .immediate
  payload : Option Payload := none
  payloadDir : Option String := none
  stopOnFirstViolation : Bool := false
  temporary : Place := ["tmp"]

/-- A run on its way: the process with its world, what was counted, and what was
broken. -/
structure State where
  scene : Scene SimulatedHost
  stats : Stats := {}
  violations : List Violation := []

namespace State

/-- Notes that a promise was broken. -/
def blame (s : State) (v : Violation) : State := { s with violations := s.violations ++ [v] }

def receive (s : State) (link : LinkId) : Received × State :=
  let (received, world) := s.scene.world.receive link
  (received, { s with scene := { s.scene with world } })

def count (s : Stats) : Status → Stats
  | .ok => { s with responsesOk := s.responsesOk + 1 }
  | .error => { s with responsesError := s.responsesError + 1 }
  | .needActivityRestart => { s with responsesInterim := s.responsesInterim + 1 }

/-- Looks for a response with a given status, and says whether it came. -/
def expect (s : State) (attach : Nat) (link : LinkId) (expected : Status) : Bool × State :=
  let unexpected (received : Received) (s : State) : Bool × State :=
    (false, s.blame (.unexpectedResponse attach expected (receivedShown received)))
  match s.receive link with
  | (.response r, s) =>
      if r.status = expected then
        let s := { s with stats := count s.stats r.status }
        (true, if r.pid = s.scene.host.pid then s else s.blame (.wrongPid attach r.pid))
      else unexpected (.response r) s
  | (received, s) => unexpected received s

/-- The activity restarts, which must complete the swap that waits. -/
def restart (s : State) (attach : Nat) : State :=
  let (completed, scene) := s.scene.signalRestart
  let s := { s with scene }
  if completed = some true then s else s.blame (.restartNotCompleted attach)

/-- Looks for every response that a mode promises, and says whether the last came. -/
def expectAll (s : State) (attach : Nat) (link : LinkId) : Mode → Bool × State
  | .immediate => s.expect attach link .ok
  | .reject => s.expect attach link .error
  | .restart =>
      match s.expect attach link .needActivityRestart with
      | (false, s) => (false, s)
      | (true, s) => (s.restart attach).expect attach link .ok

/-- Looks at what came back from a session that did not fail. -/
def checkResponses (s : State) (attach : Nat) (link : LinkId) (mode : Mode) : State :=
  match s.expectAll attach link mode with
  | (false, s) => s
  | (true, s) =>
      match s.receive link with
      | (.closed, s) => s
      | (_, s) => s.blame (.connectionLeftOpen attach)

def checkHost (s : State) (attach : Nat) : State :=
  let s := if s.scene.host.notification then s.blame (.notificationLeftOn attach) else s
  if s.scene.host.hook.isSome then s.blame (.loadHookLeftInstalled attach) else s

/-- The connection of an attach, its request sent. -/
def dial (s : State) (exchange : Nat) (request : Request) : LinkId × State :=
  let (link, world) := s.scene.world.dial exchange
  (link, { s with scene := { s.scene with world := world.sendToAgent link request.encode } })

def hangUp (s : State) (link : LinkId) : State :=
  { s with scene := { s.scene with world := s.scene.world.closeController link } }

def attachOnce (s : State) (agent : Agent) (exchange : Nat) (mode : Mode) (attach : Nat) : State :=
  let s := { s with stats := { s.stats with attaches := s.stats.attaches + 1 } }
  let (link, s) := s.dial exchange (request attach mode)
  let (report, scene) := s.scene.perform (.exchange exchange) agent.attach
  let s := { s with scene }
  let s :=
    match report.outcome with
    | .error e =>
        let s := { s with stats := { s.stats with sessionsFailed := s.stats.sessionsFailed + 1 } }
        s.blame (.sessionFailed attach e.message)
    | .ok _ => s.checkResponses attach link mode
  (s.checkHost attach).hangUp link

/-- Attaches `count` times, numbered from `attach` on. -/
def attachAll (agent : Agent) (exchange : Nat) (config : Config) :
    (count attach : Nat) → State → State
  | 0, _, s => s
  | count + 1, attach, s =>
      let s := s.attachOnce agent exchange config.mode attach
      if config.stopOnFirstViolation && !s.violations.isEmpty then s
      else attachAll agent exchange config count (attach + 1) s

def report (s : State) (mode : Mode) : Report :=
  let host := s.scene.host
  let retransforms := host.retransformCount Session.hookTarget
  let stats : Stats :=
    { s.stats with redefinitions := host.redefinitions, hookRetransforms := retransforms }
  let s :=
    if stats.attaches = 0 then s
    else
      let s := if retransforms = 1 then s else s.blame (.retransformCount retransforms)
      let injections := host.archives.length
      if injections = 1 then s else s.blame (.injectionCount injections)
  ⟨mode, stats, s.violations⟩

end State

/-- A directory for the payload of a run that names none; it is gone behind the run. -/
def scratch (config : Config) : Place := config.temporary ++ [Depot.stagingName]

def agent (config : Config) : Agent :=
  { payload := config.payload.getD defaultPayload
    payloadDir := .fixed (config.payloadDir.getD ("/" ++ "/".intercalate (scratch config)))
    plan := { transform := hookTransform } }

def withScratch (config : Config) (files : FileTree) : FileTree :=
  let files :=
    if files.isDirectoryAt config.temporary then files else files.put config.temporary .directory
  files.put (scratch config) .directory

/-- Runs a simulation in a file system. -/
def run (config : Config) (files : FileTree) (pid : UInt32) : Report × FileTree :=
  let files := if config.payloadDir.isSome then files else withScratch config files
  let (exchange, world) := ({ files } : World).addExchange
  let s : State := { scene := ⟨host pid config.mode, world⟩ }
  let s := s.attachAll (agent config) exchange config config.attaches 0
  let files := s.scene.world.files
  (s.report config.mode, if config.payloadDir.isSome then files else files.remove (scratch config))

/-- Runs a simulation of every mode, each in a process of its own. -/
def certify (attaches : Nat) (pid : UInt32) : List Report :=
  Mode.all.zipIdx.map fun m => (run { attaches, mode := m.1 } {} (pid + UInt32.ofNat m.2)).1

end HotSwap.Simulation
