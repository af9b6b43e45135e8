/-
# HotSwap.World.Link -- connections between a controller and an agent

A `FrameLine` carries whole frames in both directions and knows which of its two
ends still lives; it may also stop accepting frames after a number of them.  A
`ByteLine` carries bytes, and frames are read from and written to it as
`Source.readFrame` and `Sink.writeFrame` say.

An end that is gone leaves what it sent to be read: only when nothing is queued
does the other end see that the line is closed.
-/
import HotSwap.Bytes
import HotSwap.Frame.Memory
import HotSwap.Message.Response

namespace HotSwap

set_option autoImplicit false

/-- A connection that carries whole frames. -/
structure FrameLine where
  toAgent : List ByteArray := []
  toController : List ByteArray := []
  controllerOpen : Bool := true
  agentOpen : Bool := true
  room : Option Nat := none
  deriving DecidableEq

/-- What a controller finds when it looks for a response. -/
inductive Received where
  | response (r : Response)
  | garbage (frame : ByteArray)
  | closed
  | timedOut
  deriving DecidableEq

namespace FrameLine

def read (l : FrameLine) : Except TransportError ByteArray × FrameLine :=
  match l.toAgent with
  | frame :: rest => (.ok frame, { l with toAgent := rest })
  | [] => (.error .closed, l)

def write (l : FrameLine) (frame : ByteArray) : Except TransportError Unit × FrameLine :=
  if !l.controllerOpen || l.room = some 0 then (.error .closed, l)
  else
    (.ok (),
      { l with toController := l.toController ++ [frame], room := l.room.map (· - 1) })

/-- The controller sends a frame; nobody tells it whether it arrives. -/
def sendToAgent (l : FrameLine) (frame : ByteArray) : FrameLine :=
  { l with toAgent := l.toAgent ++ [frame] }

/-- The controller looks for a response without waiting. -/
def receive (l : FrameLine) : Received × FrameLine :=
  match l.toController with
  | frame :: rest =>
      let l := { l with toController := rest }
      match Response.decode frame with
      | .ok r => (.response r, l)
      | .error _ => (.garbage frame, l)
  | [] => (if l.agentOpen then .timedOut else .closed, l)

/-- The controller takes all responses that are queued; frames that are none are
dropped. -/
def drain (l : FrameLine) : List Response × FrameLine :=
  (l.toController.filterMap fun frame => (Response.decode frame).toOption,
    { l with toController := [] })

/-- Whether the agent would wait for a frame. -/
def wouldBlock (l : FrameLine) : Bool := l.toAgent.isEmpty && l.controllerOpen

def closeAgent (l : FrameLine) : FrameLine := { l with agentOpen := false }

/-- The controller hangs up; frames it did not take are lost. -/
def closeController (l : FrameLine) : FrameLine :=
  { l with controllerOpen := false, toController := [] }

end FrameLine

/-- A connection that carries bytes, from the agent's side. -/
structure ByteLine where
  source : Source
  sink : Sink
  agentOpen : Bool := true

inductive Link where
  | frames (line : FrameLine)
  | bytes (line : ByteLine)

namespace Link

def read : Link → Except TransportError ByteArray × Link
  | frames line => (line.read.1, .frames line.read.2)
  | bytes line =>
      let (result, source) := line.source.readFrame
      (result, .bytes { line with source })

def write (frame : ByteArray) : Link → Except TransportError Unit × Link
  | frames line => ((line.write frame).1, .frames (line.write frame).2)
  | bytes line =>
      let (result, sink) := line.sink.writeFrame frame
      (result, .bytes { line with sink })

def close : Link → Link
  | frames line => .frames line.closeAgent
  | bytes line => .bytes { line with agentOpen := false }

def line? : Link → Option FrameLine
  | frames line => some line
  | bytes _ => none

end Link

end HotSwap
