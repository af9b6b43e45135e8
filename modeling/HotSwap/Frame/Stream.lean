/-
# HotSwap.Frame.Stream -- frames over a byte stream

A stream is known by what its calls answer.  An `Inlet` is the end one reads from: a call
asks for a number of bytes and brings some of them, or none where the stream has ended, or
fails.  An `Outlet` is the end one writes to: a call offers the bytes that are left and is
told how many of them were accepted, or fails.  Both come with a bound on the calls that may
still be interrupted, so whoever repeats those calls comes to an end.

`Inlet.readExact` and `Outlet.writeAll` repeat calls until everything was moved.  An
interrupted call is made again and never shows.  What was taken before another failure stays
taken, so the next frame is read from where the failed one stopped.
-/
import HotSwap.Frame.Basic

namespace HotSwap

set_option autoImplicit false

/-- A number below a limit that may be absent. -/
def atMost (limit : Option Nat) (n : Nat) : Nat :=
  match limit with
  | none => n
  | some limit => min limit n

theorem atMost_le (limit : Option Nat) (n : Nat) : atMost limit n ≤ n := by
  unfold atMost
  split <;> omega

/-- The end of a byte stream one reads from. -/
structure Inlet (σ : Type) where
  /-- What a call for a number of bytes answers. -/
  call : σ → Nat → Except StreamFault ByteArray × σ
  /-- How many calls may still be interrupted. -/
  interruptions : σ → Nat
  size_le : ∀ {s s' : σ} {want : Nat} {bytes : ByteArray},
    call s want = (.ok bytes, s') → bytes.size ≤ want
  kept : ∀ {s s' : σ} {want : Nat} {bytes : ByteArray},
    call s want = (.ok bytes, s') → interruptions s' ≤ interruptions s
  spent : ∀ {s s' : σ} {want : Nat},
    call s want = (.error .interrupted, s') → interruptions s' < interruptions s

/-- The end of a byte stream one writes to. -/
structure Outlet (σ : Type) where
  /-- What a call that offers the bytes from an index on answers. -/
  offer : σ → ByteArray → Nat → Except StreamFault Nat × σ
  /-- Makes sure that what was written is on its way. -/
  flush : σ → Except StreamFault Unit × σ
  /-- How many calls may still be interrupted. -/
  interruptions : σ → Nat
  accepted_le : ∀ {s s' : σ} {bytes : ByteArray} {index accepted : Nat},
    offer s bytes index = (.ok accepted, s') → accepted ≤ bytes.size - index
  kept : ∀ {s s' : σ} {bytes : ByteArray} {index accepted : Nat},
    offer s bytes index = (.ok accepted, s') → interruptions s' ≤ interruptions s
  spent : ∀ {s s' : σ} {bytes : ByteArray} {index : Nat},
    offer s bytes index = (.error .interrupted, s') → interruptions s' < interruptions s

namespace Inlet

variable {σ : Type}

/-- How a failed read is reported: an end that comes too early is a closed connection. -/
def failure : StreamFault → TransportError
  | .unexpectedEnd => .closed
  | fault => .io (.stream fault)

/-- Reads until `want` more bytes were added to those in hand. -/
def readExact (i : Inlet σ) (s : σ) (want : Nat) (got : ByteArray) :
    Except TransportError ByteArray × σ :=
  if want = 0 then (.ok got, s)
  else
    match _answer : i.call s want with
    | (.error .interrupted, s') => i.readExact s' want got
    | (.error fault, s') => (.error (failure fault), s')
    | (.ok bytes, s') =>
        if bytes.size = 0 then (.error .closed, s')
        else i.readExact s' (want - bytes.size) (got ++ bytes)
termination_by want + i.interruptions s
decreasing_by
  · have := i.spent _answer
    omega
  · have := i.kept _answer
    omega

/-- Reads one frame: four bytes of length, then as many bytes as they say. -/
def readFrame (i : Inlet σ) (s : σ) : Except TransportError ByteArray × σ :=
  match i.readExact s 4 .empty with
  | (.error e, s) => (.error e, s)
  | (.ok head, s) =>
      let size := Frame.headerValue head.data.toList
      if Frame.maxLength < size then (.error (.frameTooLarge size), s)
      else i.readExact s size .empty

end Inlet

namespace Outlet

variable {σ : Type}

def writeAll (o : Outlet σ) (s : σ) (bytes : ByteArray) (index : Nat) :
    Except TransportError Unit × σ :=
  if bytes.size ≤ index then (.ok (), s)
  else
    match _answer : o.offer s bytes index with
    | (.error .interrupted, s') => o.writeAll s' bytes index
    | (.error fault, s') => (.error (.io (.stream fault)), s')
    | (.ok accepted, s') =>
        if accepted = 0 then (.error (.io .nothingAccepted), s')
        else o.writeAll s' bytes (index + accepted)
termination_by (bytes.size - index) + o.interruptions s
decreasing_by
  · have := o.spent _answer
    omega
  · have := o.kept _answer
    omega

/-- Writes one frame.  A frame that is too long touches nothing. -/
def writeFrame (o : Outlet σ) (s : σ) (frame : ByteArray) : Except TransportError Unit × σ :=
  if Frame.maxLength < frame.size then (.error (.frameTooLarge frame.size), s)
  else
    match o.writeAll s ⟨(Frame.header frame.size).toArray⟩ 0 with
    | (.error e, s) => (.error e, s)
    | (.ok (), s) =>
        match o.writeAll s frame 0 with
        | (.error e, s) => (.error e, s)
        | (.ok (), s) =>
            match o.flush s with
            | (.error fault, s) => (.error (.io (.stream fault)), s)
            | (.ok (), s) => (.ok (), s)

end Outlet

end HotSwap
