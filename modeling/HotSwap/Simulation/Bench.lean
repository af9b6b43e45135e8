/-
# HotSwap.Simulation.Bench -- several processes and agents in one world

A `Bench` lets any of its agents attach to any of its processes.  All share the
file system and the table of parked swaps; every agent has an exchange of its own,
where controllers dial in for it.  Connections are numbered in the order in which
they were dialled.
-/
import HotSwap.Host.Simulated

namespace HotSwap.Simulation

set_option autoImplicit false

/-- Several processes and agents in one world, and how often each agent's transformation
was applied. -/
structure Bench where
  hosts : Array SimulatedHost
  agents : Array Agent
  world : World
  uses : Array Nat

/-- What a controller does before an agent attaches: nothing, or it dials, perhaps
sends a frame, and perhaps hangs up again. -/
inductive Approach where
  | absent
  | dials (frame : Option ByteArray) (hangsUp : Bool)

namespace Bench

def of (hosts : List SimulatedHost) (agents : List Agent) (files : FileTree) : Bench :=
  { hosts := hosts.toArray
    agents := agents.toArray
    world := agents.foldl (fun w _ => w.addExchange.2) { files }
    uses := (agents.map fun _ => 0).toArray }

def act {α : Type} (b : Bench) (host : Nat) (act : Scene SimulatedHost → α × Scene SimulatedHost) :
    Option (α × Bench) :=
  match b.hosts[host]? with
  | none => none
  | some h =>
      let (a, scene) := act ⟨h, b.world⟩
      some (a, { b with hosts := b.hosts.setIfInBounds host scene.host, world := scene.world })

/-- The world once a controller has done its part. -/
def approach (w : World) (exchange : Nat) : Approach → World
  | .absent => w
  | .dials frame hangsUp =>
      let (link, w) := w.dial exchange
      let w := match frame with
        | none => w
        | some frame => w.sendToAgent link frame
      if hangsUp then w.closeController link else w

def attach (b : Bench) (host agent : Nat) (controller : Approach) :
    Option (SessionReport × Bench) :=
  match b.agents[agent]? with
  | none => none
  | some one =>
      let before := b.world.uses
      match b.act host fun s =>
          { s with world := approach s.world agent controller }.perform (.exchange agent)
            one.attach with
      | none => none
      | some (report, b) =>
          some (report, { b with uses := b.uses.modify agent (· + (b.world.uses - before)) })

def hasController (w : World) (link : LinkId) : Bool :=
  (w.links[link]?.bind Link.line?).any (·.controllerOpen)

end Bench

end HotSwap.Simulation
