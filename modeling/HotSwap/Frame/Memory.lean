/-
# HotSwap.Frame.Memory -- byte streams in memory

A `Source` is an inlet: the bytes that will arrive, how many were taken, how many one call
moves at most, and the failures still to come.  A failure is met by the first call at or
behind its offset, and no call moves bytes across the offset of the next one.  A `Sink` is an
outlet, with at most one failure to come and a limit behind which nothing is accepted.
-/
import HotSwap.Frame.Stream

namespace HotSwap

set_option autoImplicit false

structure Source where
  input : ByteArray
  position : Nat := 0
  chunk : Option Nat := none
  faults : List (Nat × StreamFault) := []

structure Sink where
  written : ByteArray := .empty
  chunk : Option Nat := none
  limit : Option Nat := none
  fault : Option (Nat × StreamFault) := none
  flushFails : Bool := false

namespace Source

/-- How many bytes a call that wants `want` of them moves when it does not fail. -/
def moves (s : Source) (want : Nat) : Nat :=
  let n := atMost s.chunk (min want (s.input.size - s.position))
  match s.faults with
  | [] => n
  | next :: _ => min n (next.1 - s.position)

/-- The failure that the next call meets. -/
def due? (s : Source) : Option StreamFault :=
  match s.faults with
  | [] => none
  | next :: _ => if next.1 ≤ s.position then some next.2 else none

def dropFault (s : Source) : Source := { s with faults := s.faults.tail }

def advance (s : Source) (n : Nat) : Source := { s with position := s.position + n }

theorem moves_le (s : Source) (want : Nat) : s.moves want ≤ want := by
  have h := atMost_le s.chunk (min want (s.input.size - s.position))
  simp only [moves]
  split <;> omega

theorem length_dropFault {s : Source} {f : StreamFault} (h : s.due? = some f) :
    s.dropFault.faults.length + 1 = s.faults.length := by
  unfold due? at h
  unfold dropFault
  split at h <;> simp_all

def call (s : Source) (want : Nat) : Except StreamFault ByteArray × Source :=
  match s.due? with
  | some fault => (.error fault, s.dropFault)
  | none =>
      (.ok (s.input.extract s.position (s.position + s.moves want)), s.advance (s.moves want))

def inlet : Inlet Source where
  call := call
  interruptions s := s.faults.length
  size_le {s s' want bytes} answer := by
    unfold call at answer
    split at answer
    · cases answer
    · cases answer
      have := s.moves_le want
      simp only [ByteArray.size_extract]
      omega
  kept {s s' want bytes} answer := by
    unfold call at answer
    split at answer
    · cases answer
    · cases answer
      exact Nat.le_refl _
  spent {s s' want} answer := by
    unfold call at answer
    split at answer
    · rename_i due
      cases answer
      have := length_dropFault due
      omega
    · cases answer

def readFrame (s : Source) : Except TransportError ByteArray × Source := inlet.readFrame s

end Source

namespace Sink

/-- How many of `want` bytes a call accepts when it does not fail. -/
def accepts (s : Sink) (want : Nat) : Nat :=
  let n := atMost s.chunk want
  let n := atMost (s.limit.map (· - s.written.size)) n
  match s.fault with
  | none => n
  | some next => min n (next.1 - s.written.size)

def due? (s : Sink) : Option StreamFault :=
  match s.fault with
  | none => none
  | some next => if next.1 ≤ s.written.size then some next.2 else none

def dropFault (s : Sink) : Sink := { s with fault := none }

def push (s : Sink) (bytes : ByteArray) : Sink := { s with written := s.written ++ bytes }

theorem accepts_le (s : Sink) (want : Nat) : s.accepts want ≤ want := by
  have h := atMost_le s.chunk want
  have h' := atMost_le (s.limit.map (· - s.written.size)) (atMost s.chunk want)
  simp only [accepts]
  split <;> omega

def pending (s : Sink) : Nat := if s.fault.isSome then 1 else 0

theorem pending_dropFault {s : Sink} {f : StreamFault} (h : s.due? = some f) :
    s.dropFault.pending < s.pending := by
  unfold due? at h
  unfold dropFault pending
  split at h <;> simp_all

/-- What a call that offers the bytes from an index on answers. -/
def offer (s : Sink) (bytes : ByteArray) (index : Nat) : Except StreamFault Nat × Sink :=
  match s.due? with
  | some fault => (.error fault, s.dropFault)
  | none =>
      (.ok (s.accepts (bytes.size - index)),
        s.push (bytes.extract index (index + s.accepts (bytes.size - index))))

def flush (s : Sink) : Except StreamFault Unit × Sink :=
  (if s.flushFails then .error .brokenPipe else .ok (), s)

def outlet : Outlet Sink where
  offer := offer
  flush := flush
  interruptions := pending
  accepted_le {s s' bytes index accepted} answer := by
    unfold offer at answer
    split at answer
    · cases answer
    · cases answer
      exact s.accepts_le _
  kept {s s' bytes index accepted} answer := by
    unfold offer at answer
    split at answer
    · cases answer
    · cases answer
      exact Nat.le_refl s.pending
  spent {s s' bytes index} answer := by
    unfold offer at answer
    split at answer
    · rename_i due
      cases answer
      exact pending_dropFault due
    · cases answer

def writeFrame (s : Sink) (frame : ByteArray) : Except TransportError Unit × Sink :=
  outlet.writeFrame s frame

end Sink

end HotSwap
