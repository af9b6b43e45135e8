/-
# HotSwap.Simulation.Fixture -- things to try sessions with

A process with one application class loaded, the two requests that swap this class,
a payload, and an agent.
-/
import HotSwap.Simulation.Run

namespace HotSwap.Simulation.Fixture

set_option autoImplicit false

def package : String := "com.example.app"

/-- The class that is swapped. -/
def className : String := "com/example/app/MainActivity"

/-- A request that is applied at once or waits for a restart. -/
def request (restartActivity : Bool) : Request :=
  ⟨package, restartActivity, [⟨className, "MainActivity v1".toUTF8⟩]⟩

def payload : Payload := .of "instrumentation payload v1".toUTF8

def host (pid : UInt32) : SimulatedHost :=
  (SimulatedHost.fresh pid).withClass className "MainActivity v0".toUTF8

/-- An agent with an empty archive, which leaves the hooked class as it is. -/
def agent : Agent where
  payload := ⟨.empty, ⟨Vector.replicate 32 0⟩⟩
  payloadDir := .fixed "/payloads"
  plan := { transform := .identity }

end HotSwap.Simulation.Fixture
