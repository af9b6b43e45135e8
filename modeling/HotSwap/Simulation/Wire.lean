/-
# HotSwap.Simulation.Wire -- one session over a byte stream

A controller that sends raw bytes and then only listens: `attach` runs one session
on them, lets the activity restart a number of times, and keeps what the agent
wrote.
-/
import HotSwap.Host.Simulated

namespace HotSwap.Simulation.Wire

set_option autoImplicit false

structure Record where
  report : SessionReport
  restarts : List (Option Bool)
  written : ByteArray

/-- Lets the activity restart a number of times. -/
def restart : Nat → Scene SimulatedHost → List (Option Bool) × Scene SimulatedHost
  | 0, s => ([], s)
  | n + 1, s =>
      let (completed, s) := s.signalRestart
      let (rest, s) := restart n s
      (completed :: rest, s)

def written (w : World) (link : LinkId) : ByteArray :=
  match w.links[link]? with
  | some (.bytes line) => line.sink.written
  | _ => .empty

/-- Runs one session on the bytes of a controller. -/
def attach (s : Scene SimulatedHost) (agent : Agent) (bytes : ByteArray) (restarts : Nat) :
    Record :=
  let (link, world) := s.world.addLink (.bytes { source := { input := bytes }, sink := {} })
  let (report, s) := { s with world }.perform (.ready link) agent.attach
  let (restarts, s) := restart restarts s
  ⟨report, restarts, written s.world link⟩

/-- At most `limit` frames from the front of a source. -/
def framesOf : (limit : Nat) → Source → List ByteArray
  | 0, _ => []
  | limit + 1, source =>
      match source.readFrame with
      | (.ok frame, source) => frame :: framesOf limit source
      | (.error _, _) => []

/-- The frames that the agent wrote; each takes four bytes or more. -/
def Record.frames (r : Record) : List ByteArray :=
  framesOf (r.written.size / 4) { input := r.written }

/-- Whether the swap still waits for a restart, and the connection with it. -/
def Record.isOpen (r : Record) : Bool := r.report.isDeferred && r.restarts.isEmpty

end HotSwap.Simulation.Wire
