/-
# HotSwap.Frame.Polled -- frames over a stream that is polled

The controller's side does not block: it hands a buffer to the stream, is given
as many bytes as there are, and comes back until the buffer is full.  A poll that
adds nothing means that the stream has ended.  Writing offers what is left until
all of it was accepted.  Nobody polls again behind a failure, whatever its kind.
-/
import HotSwap.Frame.Stream

namespace HotSwap

set_option autoImplicit false

namespace Inlet

variable {σ : Type}

/-- Polls until the buffer holds `capacity` bytes. -/
def fill (i : Inlet σ) (s : σ) (buffer : ByteArray) (capacity : Nat) :
    Except TransportError ByteArray × σ :=
  if capacity ≤ buffer.size then (.ok buffer, s)
  else
    match i.call s (capacity - buffer.size) with
    | (.error fault, s') => (.error (failure fault), s')
    | (.ok bytes, s') =>
        if bytes.size = 0 then (.error .closed, s') else i.fill s' (buffer ++ bytes) capacity
termination_by capacity - buffer.size
decreasing_by
  simp only [ByteArray.size_append]
  omega

def fillFrame (i : Inlet σ) (s : σ) : Except TransportError ByteArray × σ :=
  match i.fill s .empty 4 with
  | (.error e, s) => (.error e, s)
  | (.ok head, s) =>
      let size := Frame.headerValue head.data.toList
      if size ≤ Frame.maxLength then i.fill s .empty size
      else (.error (.frameTooLarge size), s)

end Inlet

namespace Outlet

variable {σ : Type}

/-- Offers the bytes from an index on until none is left. -/
def drain (o : Outlet σ) (s : σ) (bytes : ByteArray) (index : Nat) :
    Except TransportError Unit × σ :=
  if bytes.size ≤ index then (.ok (), s)
  else
    match o.offer s bytes index with
    | (.error fault, s') => (.error (.io (.stream fault)), s')
    | (.ok accepted, s') =>
        if accepted = 0 then (.error (.io .nothingAccepted), s')
        else o.drain s' bytes (index + accepted)
termination_by bytes.size - index

def drainFrame (o : Outlet σ) (s : σ) (frame : ByteArray) : Except TransportError Unit × σ :=
  if frame.size ≤ Frame.maxLength then
    match o.drain s ⟨(Frame.header frame.size).toArray⟩ 0 with
    | (.error e, s) => (.error e, s)
    | (.ok (), s) =>
        match o.drain s frame 0 with
        | (.error e, s) => (.error e, s)
        | (.ok (), s) =>
            match o.flush s with
            | (.error fault, s) => (.error (.io (.stream fault)), s)
            | (.ok (), s) => (.ok (), s)
  else (.error (.frameTooLarge frame.size), s)

end Outlet

/-! ## Streams in memory -/

namespace Polled

/-- The bytes that will arrive and how many were taken. -/
structure Reader where
  input : ByteArray
  position : Nat := 0
  chunk : Option Nat := none

/-- The bytes that were accepted. -/
structure Writer where
  written : ByteArray := .empty
  chunk : Option Nat := none

/-- The bytes that one poll for at most `room` of them brings. -/
def Reader.poll (r : Reader) (room : Nat) : ByteArray :=
  r.input.extract r.position
    (r.position + atMost r.chunk (min room (r.input.size - r.position)))

theorem Reader.size_poll_le (r : Reader) (room : Nat) : (r.poll room).size ≤ room := by
  have := atMost_le r.chunk (min room (r.input.size - r.position))
  simp only [poll, ByteArray.size_extract]
  omega

def Reader.inlet : Inlet Reader where
  call r room := (.ok (r.poll room), { r with position := r.position + (r.poll room).size })
  interruptions _ := 0
  size_le {r r' room bytes} answer := by
    cases answer
    exact r.size_poll_le room
  kept _ := Nat.le_refl 0
  spent answer := by cases answer

def Writer.outlet : Outlet Writer where
  offer w bytes index :=
    let accepted := atMost w.chunk (bytes.size - index)
    (.ok accepted,
      { w with written := w.written ++ bytes.extract index (index + accepted) })
  flush w := (.ok (), w)
  interruptions _ := 0
  accepted_le {w w' bytes index accepted} answer := by
    cases answer
    exact atMost_le w.chunk _
  kept _ := Nat.le_refl 0
  spent answer := by cases answer

def readFrame (r : Reader) : Except TransportError ByteArray × Reader := Reader.inlet.fillFrame r

def writeFrame (w : Writer) (frame : ByteArray) : Except TransportError Unit × Writer :=
  Writer.outlet.drainFrame w frame

end Polled

end HotSwap
