/-
# HotSwap.Proofs.Frame.Writing -- what is written to a byte stream

`Frame.writing` says what a frame comes to on the wire: nothing if it is too long, and otherwise
its length as four bytes and then its own bytes.  On a stream that accepts what it is offered
(`Outlet.Accepts`) both sides of a connection add just that (`Accepts.write`), in whatever pieces
it is accepted.
-/
import HotSwap.Proofs.Frame.Reading

namespace HotSwap

set_option autoImplicit false

namespace Side

variable {σ : Type}

/-- Writes the bytes from an index on. -/
def put (side : Side) (o : Outlet σ) (s : σ) (bytes : ByteArray) (index : Nat) :
    Except TransportError Unit × σ :=
  match side with
  | .blocking => o.writeAll s bytes index
  | .polled => o.drain s bytes index

/-- Writes one frame. -/
def write (side : Side) (o : Outlet σ) (s : σ) (frame : ByteArray) :
    Except TransportError Unit × σ :=
  match side with
  | .blocking => o.writeFrame s frame
  | .polled => o.drainFrame s frame

/-- Either side writes the length, then the frame, and sees that it goes out. -/
theorem write_eq (side : Side) (o : Outlet σ) (s : σ) (frame : ByteArray) :
    side.write o s frame =
      if Frame.maxLength < frame.size then (.error (.frameTooLarge frame.size), s)
      else
        match side.put o s ⟨(Frame.header frame.size).toArray⟩ 0 with
        | (.error e, s) => (.error e, s)
        | (.ok (), s) =>
            match side.put o s frame 0 with
            | (.error e, s) => (.error e, s)
            | (.ok (), s) =>
                match o.flush s with
                | (.error fault, s) => (.error (.io (.stream fault)), s)
                | (.ok (), s) => (.ok (), s) := by
  cases side with
  | blocking => rfl
  | polled =>
      simp only [write, put, Outlet.drainFrame]
      by_cases large : Frame.maxLength < frame.size
      · exact (if_neg (Nat.not_le.2 large)).trans (if_pos large).symm
      · exact (if_pos (Nat.not_lt.1 large)).trans (if_neg large).symm

end Side

/-- What comes of writing a frame, and the bytes that are added for it. -/
def Frame.writing (frame : ByteArray) : Except TransportError Unit × List UInt8 :=
  if Frame.maxLength < frame.size then (.error (.frameTooLarge frame.size), [])
  else (.ok (), Frame.header frame.size ++ frame.data.toList)

/-- Calls from one side accept what they are offered, in order: at least one byte each.  Only
the side that blocks may be interrupted, and that accepts nothing.  What was accepted goes out. -/
structure Outlet.Accepts {σ : Type} (o : Outlet σ) (side : Side)
    (Written : σ → List UInt8 → Prop) : Prop where
  moves : ∀ {s s' : σ} {before : List UInt8} {bytes : ByteArray} {index accepted : Nat},
    Written s before → index < bytes.size → o.offer s bytes index = (.ok accepted, s') →
      0 < accepted ∧ Written s' (before ++ (bytes.data.toList.drop index).take accepted)
  fails : ∀ {s s' : σ} {before : List UInt8} {bytes : ByteArray} {index : Nat}
      {fault : StreamFault},
    Written s before → o.offer s bytes index = (.error fault, s') →
      side = .blocking ∧ fault = .interrupted ∧ Written s' before
  flushes : ∀ {s : σ} {before : List UInt8}, Written s before →
    ∃ s', o.flush s = (.ok (), s') ∧ Written s' before

namespace Outlet.Accepts

variable {σ : Type} {o : Outlet σ} {Written : σ → List UInt8 → Prop} {side : Side}

/-- Bytes that were accepted are behind, and the others are still to be offered. -/
theorem accepted_append (before : List UInt8) (bytes : ByteArray) (index accepted : Nat) :
    before ++ (bytes.data.toList.drop index).take accepted ++
        bytes.data.toList.drop (index + accepted) =
      before ++ bytes.data.toList.drop index := by
  rw [← List.drop_drop, List.append_assoc, List.take_append_drop]

/-- The side that blocks writes all. -/
theorem writeAll (accepts : o.Accepts .blocking Written) {s : σ} {before : List UInt8}
    (here : Written s before) (bytes : ByteArray) (index : Nat) :
    ∃ s', o.writeAll s bytes index = (.ok (), s') ∧
      Written s' (before ++ bytes.data.toList.drop index) := by
  fun_induction Outlet.writeAll o s bytes index generalizing before with
  | case1 s index done =>
      refine ⟨s, rfl, ?_⟩
      rw [List.drop_of_length_le (by simpa using done), List.append_nil]
      exact here
  | case2 s index left s' answer ih =>
      obtain ⟨-, -, there⟩ := accepts.fails here answer
      exact ih there
  | case3 s index left fault s' other answer =>
      obtain ⟨-, interrupted, -⟩ := accepts.fails here answer
      exact absurd interrupted other
  | case4 s index left s' answer =>
      obtain ⟨some, -⟩ := accepts.moves here (Nat.not_le.1 left) answer
      exact absurd some (Nat.lt_irrefl 0)
  | case5 s index left accepted s' answer some ih =>
      obtain ⟨-, there⟩ := accepts.moves here (Nat.not_le.1 left) answer
      obtain ⟨s'', written, done⟩ := ih there
      rw [accepted_append] at done
      exact ⟨s'', written, done⟩

/-- The side that polls writes all. -/
theorem drain (accepts : o.Accepts .polled Written) {s : σ} {before : List UInt8}
    (here : Written s before) (bytes : ByteArray) (index : Nat) :
    ∃ s', o.drain s bytes index = (.ok (), s') ∧
      Written s' (before ++ bytes.data.toList.drop index) := by
  fun_induction Outlet.drain o s bytes index generalizing before with
  | case1 s index done =>
      refine ⟨s, rfl, ?_⟩
      rw [List.drop_of_length_le (by simpa using done), List.append_nil]
      exact here
  | case2 s index left fault s' answer =>
      obtain ⟨blocks, -, -⟩ := accepts.fails here answer
      cases blocks
  | case3 s index left s' answer =>
      obtain ⟨some, -⟩ := accepts.moves here (Nat.not_le.1 left) answer
      exact absurd some (Nat.lt_irrefl 0)
  | case4 s index left accepted s' answer some ih =>
      obtain ⟨-, there⟩ := accepts.moves here (Nat.not_le.1 left) answer
      obtain ⟨s'', written, done⟩ := ih there
      rw [accepted_append] at done
      exact ⟨s'', written, done⟩

/-- Either side writes all. -/
theorem put (accepts : o.Accepts side Written) {s : σ} {before : List UInt8}
    (here : Written s before) (bytes : ByteArray) :
    ∃ s', side.put o s bytes 0 = (.ok (), s') ∧ Written s' (before ++ bytes.data.toList) := by
  cases side with
  | blocking => exact accepts.writeAll here bytes 0
  | polled => exact accepts.drain here bytes 0

/-- **Either side adds what a frame comes to on the wire.** -/
theorem write (accepts : o.Accepts side Written) {s : σ} {before : List UInt8}
    (here : Written s before) (frame : ByteArray) :
    ∃ s', side.write o s frame = ((Frame.writing frame).1, s') ∧
      Written s' (before ++ (Frame.writing frame).2) := by
  rw [Side.write_eq]
  by_cases large : Frame.maxLength < frame.size
  · simp only [Frame.writing, if_pos large, List.append_nil]
    exact ⟨s, rfl, here⟩
  simp only [Frame.writing, if_neg large]
  obtain ⟨s₁, head, behind⟩ := accepts.put here ⟨(Frame.header frame.size).toArray⟩
  obtain ⟨s₂, body, written⟩ := accepts.put behind frame
  obtain ⟨s₃, flushed, done⟩ := accepts.flushes written
  simp only [head, body, flushed]
  rw [List.append_assoc] at done
  exact ⟨s₃, rfl, done⟩

end Outlet.Accepts

end HotSwap
