/-
# HotSwap.World.Basic -- everything around the agents

A `World` holds what outlives a session: the file system, the connections, the
registries of class transformations, the parked swaps, and the ends that controllers
dialled and no agent has taken up.  A `Host` is a process that agents attach to;
it answers calls knowing its own state and the world.

`Scene.answer` answers every question of a procedure, for one host in one world,
so `Scene.perform` plays a whole procedure.
-/
import HotSwap.World.Link
import HotSwap.World.Parked
import HotSwap.World.Registry

namespace HotSwap

set_option autoImplicit false

/-- Everything around the agents. -/
structure World where
  files : FileTree := {}
  links : Array Link := #[]
  registries : Array Registry := #[]
  parked : Parked := {}
  exchanges : Array (List LinkId) := #[]

namespace World

/-- Changes a connection, and gives what the change brings; a number that no
connection has counts as one that is closed. -/
def onLink {α : Type} (w : World) (id : LinkId) (absent : α) (change : Link → α × Link) :
    α × World :=
  match w.links[id]? with
  | none => (absent, w)
  | some link => ((change link).1, { w with links := w.links.setIfInBounds id (change link).2 })

theorem onLink_at {α : Type} {w : World} {id : LinkId} {link : Link}
    (there : w.links[id]? = some link) (absent : α) (change : Link → α × Link) :
    w.onLink id absent change =
      ((change link).1, { w with links := w.links.setIfInBounds id (change link).2 }) := by
  simp [onLink, there]

/-- Changes a connection that carries frames; any other counts as one that is not
there. -/
def onLine {α : Type} (w : World) (id : LinkId) (absent : α)
    (change : FrameLine → α × FrameLine) : α × World :=
  w.onLink id absent fun link =>
    match link with
    | .frames line => ((change line).1, .frames (change line).2)
    | .bytes _ => (absent, link)

def addLink (w : World) (link : Link) : LinkId × World :=
  (w.links.size, { w with links := w.links.push link })

/-- Adds a registry with one transformation. -/
def openRegistry (w : World) (className : String) (transform : Transform) : Nat × World :=
  (w.registries.size,
    { w with registries := w.registries.push (({} : Registry).add className transform) })

def emptyRegistry (w : World) (id : Nat) : World :=
  { w with registries := w.registries.modify id Registry.clear }

def load (w : World) (hook : LoadHook) (className : String) (data : ByteArray) :
    Option ByteArray × World :=
  match hook with
  | .always transform => (transform className data, w)
  | .registry id =>
      match w.registries[id]? with
      | none => (none, w)
      | some registry =>
          ((registry.load className data).1,
            { w with registries := w.registries.setIfInBounds id (registry.load className data).2 })

/-- How often transformations were applied. -/
def uses (w : World) : Nat := w.registries.foldl (fun n r => n + r.uses) 0

/-! ## Controllers -/

def sendToAgent (w : World) (id : LinkId) (frame : ByteArray) : World :=
  (w.onLine id () fun line => ((), line.sendToAgent frame)).2

def receive (w : World) (id : LinkId) : Received × World := w.onLine id .closed FrameLine.receive

def drain (w : World) (id : LinkId) : List Response × World := w.onLine id [] FrameLine.drain

def closeController (w : World) (id : LinkId) : World :=
  (w.onLine id () fun line => ((), line.closeController)).2

/-! ## Where agents connect to -/

/-- Adds a place where controllers dial in. -/
def addExchange (w : World) : Nat × World :=
  (w.exchanges.size, { w with exchanges := w.exchanges.push [] })

def dial (w : World) (exchange : Nat) : LinkId × World :=
  let (id, w) := w.addLink (.frames {})
  (id, { w with exchanges := w.exchanges.modify exchange (· ++ [id]) })

/-- An agent takes up the end that was dialled first. -/
def pickUp (w : World) (exchange : Nat) : Except TransportError LinkId × World :=
  match w.exchanges[exchange]? with
  | some (id :: rest) => (.ok id, { w with exchanges := w.exchanges.setIfInBounds exchange rest })
  | _ => (.error .closed, w)

end World

inductive Connector where
  | refusing (error : TransportError)
  | ready (link : LinkId)
  | exchange (id : Nat)

def Connector.connect (c : Connector) (w : World) : Except TransportError LinkId × World :=
  match c with
  | refusing error => (.error error, w)
  | ready link => (.ok link, w)
  | exchange id => w.pickUp id

/-- A process that agents attach to. -/
class Host.Model (η : Type) where
  /-- Answers a call; the host and the world may change. -/
  answer : (call : HostCall) → η → World → call.Answer × η × World

/-- One host in a world. -/
structure Scene (η : Type) where
  host : η
  world : World

namespace Scene

variable {η α : Type} [Host.Model η]

def answer (door : Connector) : (q : Question) → Scene η → q.Answer × Scene η
  | .host call, s =>
      let (a, host, world) := Host.Model.answer call s.host s.world
      (a, ⟨host, world⟩)
  | .connect, s =>
      let (a, world) := door.connect s.world
      (a, { s with world })
  | .receive link, s =>
      let (a, world) := s.world.onLink link (.error .closed) Link.read
      (a, { s with world })
  | .send link frame, s =>
      let (a, world) := s.world.onLink link (.error .closed) (Link.write frame)
      (a, { s with world })
  | .hangUp link, s =>
      let (a, world) := s.world.onLink link () fun l => ((), l.close)
      (a, { s with world })
  | .deposit dir payload, s =>
      let (a, files) := Depot.deposit s.world.files dir payload
      (a, { s with world := { s.world with files } })
  | .openRegistry className transform, s =>
      let (a, world) := s.world.openRegistry className transform
      (a, { s with world })
  | .emptyRegistry id, s => ((), { s with world := s.world.emptyRegistry id })
  | .park swap, s =>
      let (a, parked) := s.world.parked.park swap
      (a, { s with world := { s.world with parked } })
  | .take token, s =>
      let (a, parked) := s.world.parked.take token
      (a, { s with world := { s.world with parked } })
  | .takeSuperseded pid current, s =>
      let (a, parked) := s.world.parked.takeSuperseded pid current
      (a, { s with world := { s.world with parked } })

def perform (s : Scene η) (door : Connector) (p : Procedure α) : α × Scene η :=
  p.run (answer door) s

end Scene

end HotSwap
