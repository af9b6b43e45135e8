/-
# HotSwap.Proofs.Command.Sending -- what an agent sends before it hangs up

Whatever bytes arrive on a connection that is closed behind them, they are frames and perhaps the
front part of one more.  A frame here is what its header tells: it may be longer than is accepted,
as long as four bytes can tell.

A `Sending` is such a row of frames with what was cut off behind it.  `exists_sending` says that
every byte string is the bytes of one, and `Frame.reading_onWire`, `Frame.reading_onWire_oversized`
and `Frame.reading_cut` say what one read makes of each of its parts.
-/
import HotSwap.Proofs.Frame.Fetching
import Mathlib.Data.List.Basic

namespace HotSwap

set_option autoImplicit false

namespace Frame

theorem length_onWire (frame : ByteArray) : (onWire frame).length = 4 + frame.size := by
  have bytes : frame.data.toList.length = frame.size := by simp
  rw [onWire, List.length_append, bytes]
  rfl

/-- A frame of some bytes. -/
theorem onWire_toArray (bytes : List UInt8) :
    onWire ⟨bytes.toArray⟩ = header bytes.length ++ bytes := rfl

theorem headerValue_lt {head : List UInt8} (four : head.length = 4) :
    headerValue head < 4294967296 := by
  obtain ⟨a, b, c, d, rfl⟩ := List.length_eq_four.1 four
  have := a.toNat_lt
  have := b.toNat_lt
  have := c.toNat_lt
  have := d.toNat_lt
  simp only [headerValue, List.foldl_cons, List.foldl_nil]
  omega

/-- A length, and no more bytes than it tells, are the front part of a frame. -/
theorem exists_frame {head body : List UInt8} (four : head.length = 4)
    (within : body.length ≤ headerValue head) :
    ∃ frame : ByteArray, frame.size = headerValue head ∧
      head ++ body <+: onWire frame := by
  have length : (body ++ List.replicate (headerValue head - body.length) 0).length =
      headerValue head := by
    rw [List.length_append, List.length_replicate]
    omega
  refine ⟨⟨(body ++ List.replicate (headerValue head - body.length) 0).toArray⟩, ?_, ?_⟩
  · exact length
  · rw [onWire_toArray, length, header_headerValue four, ← List.append_assoc]
    exact List.prefix_append _ _

/-- A frame that is not too long is read as it is. -/
theorem reading_onWire {frame : ByteArray} (short : frame.size ≤ maxLength) (rest : List UInt8) :
    reading (onWire frame ++ rest) = (.ok frame, (onWire frame).length) := by
  have wire : onWire frame = (writing frame).2 := by
    rw [writing, if_neg (Nat.not_lt.2 short), onWire]
  rw [wire]
  exact reading_writing short rest

section Told

variable {frame : ByteArray} (told : frame.size < 4294967296)

include told

theorem headerValue_onWire (rest : List UInt8) :
    headerValue ((onWire frame ++ rest).take 4) = frame.size := by
  have head : (onWire frame ++ rest).take 4 = header frame.size := rfl
  rw [head, headerValue_header told]

/-- Of a frame that is too long no more than its length is read. -/
theorem reading_onWire_oversized (long : maxLength < frame.size) (rest : List UInt8) :
    reading (onWire frame ++ rest) = (.error (.frameTooLarge frame.size), 4) := by
  have four : ¬ (onWire frame ++ rest).length < 4 := by
    rw [List.length_append, length_onWire]
    omega
  simp only [reading, headerValue_onWire told, if_neg four, if_pos long]

/-- What is read of the front part of a frame: that it is too long, or that nothing more comes. -/
theorem reading_cut {cut : List UInt8} (front : cut <+: onWire frame) (short : cut ≠ onWire frame) :
    (reading cut).1 =
      if 4 ≤ cut.length ∧ maxLength < headerValue (cut.take 4) then
        .error (.frameTooLarge (headerValue (cut.take 4)))
      else .error .closed := by
  obtain ⟨missing, whole⟩ := front
  have some : 0 < missing.length := by
    apply List.length_pos_iff.2
    rintro rfl
    exact short (by rw [← whole, List.append_nil])
  by_cases headed : cut.length < 4
  · rw [if_neg (by omega), reading, if_pos headed]
  · have value : headerValue (cut.take 4) = frame.size := by
      rw [← headerValue_onWire told [], List.append_nil, ← whole,
        List.take_append_of_le_length (by omega)]
    have lengths := congrArg List.length whole
    rw [List.length_append, length_onWire] at lengths
    simp only [reading, if_neg headed]
    by_cases long : maxLength < headerValue (cut.take 4)
    · rw [if_pos long, if_pos ⟨by omega, long⟩]
    · rw [if_neg long, if_pos (by omega), if_neg fun both => long both.2]

end Told

end Frame

namespace Command

/-- Bytes that are the front part of a frame, and not all of it. -/
inductive Broken (cut : List UInt8) : Prop where
  | of (frame : ByteArray) (told : frame.size < 4294967296) (front : cut <+: Frame.onWire frame)
    (short : cut ≠ Frame.onWire frame)

/-- What an agent sends before it hangs up: frames, and perhaps the front part of one more.  A
frame may be as long as its header can tell. -/
structure Sending where
  frames : List ByteArray
  cut : List UInt8 := []
  told : ∀ frame ∈ frames, frame.size < 4294967296
  broken : Broken cut

/-- The bytes that are sent. -/
def Sending.bytes (sending : Sending) : ByteArray :=
  ⟨(sending.frames.flatMap Frame.onWire ++ sending.cut).toArray⟩

/-! ## Every row of bytes -/

/-- Bytes that are fewer than the first four of them tell are the front part of a frame. -/
theorem broken_of_length {cut : List UInt8}
    (fewer : cut.length < 4 ∨ cut.length < 4 + Frame.headerValue (cut.take 4)) :
    Broken cut := by
  by_cases headed : cut.length < 4
  · have four : (cut ++ List.replicate (4 - cut.length) 0).length = 4 := by
      rw [List.length_append, List.length_replicate]
      omega
    have nothing : ([] : List UInt8).length ≤
        Frame.headerValue (cut ++ List.replicate (4 - cut.length) 0) := Nat.zero_le _
    obtain ⟨frame, size, front⟩ := Frame.exists_frame four nothing
    rw [List.append_nil] at front
    refine ⟨frame, size ▸ Frame.headerValue_lt four, (List.prefix_append _ _).trans front, ?_⟩
    intro whole
    rw [whole, Frame.length_onWire] at headed
    omega
  · have four : (cut.take 4).length = 4 := by
      rw [List.length_take]
      omega
    have within : (cut.drop 4).length ≤ Frame.headerValue (cut.take 4) := by
      rw [List.length_drop]
      omega
    obtain ⟨frame, size, front⟩ := Frame.exists_frame four within
    rw [List.take_append_drop] at front
    refine ⟨frame, size ▸ Frame.headerValue_lt four, front, ?_⟩
    intro whole
    have length := congrArg List.length whole
    rw [Frame.length_onWire] at length
    omega

/-- A row of bytes is cut into frames from the front, for as long as it holds as many bytes as the
next four of them tell. -/
theorem exists_frames (bytes : List UInt8) :
    ∃ sending : Sending, sending.frames.flatMap Frame.onWire ++ sending.cut = bytes := by
  induction size : bytes.length using Nat.strongRecOn generalizing bytes with
  | _ n ih =>
      by_cases fewer : bytes.length < 4 ∨ bytes.length < 4 + Frame.headerValue (bytes.take 4)
      · exact ⟨⟨[], bytes, nofun, broken_of_length fewer⟩, List.nil_append bytes⟩
      · have four : (bytes.take 4).length = 4 := by
          rw [List.length_take]
          omega
        -- The next frame, and the bytes behind it.
        have length : ((bytes.drop 4).take (Frame.headerValue (bytes.take 4))).length =
            Frame.headerValue (bytes.take 4) := by
          rw [List.length_take, List.length_drop]
          omega
        have less : ((bytes.drop 4).drop (Frame.headerValue (bytes.take 4))).length < n := by
          rw [List.length_drop, List.length_drop]
          omega
        obtain ⟨rest, same⟩ := ih _ less _ rfl
        refine ⟨⟨⟨((bytes.drop 4).take (Frame.headerValue (bytes.take 4))).toArray⟩ :: rest.frames,
          rest.cut, ?_, rest.broken⟩, ?_⟩
        · intro frame member
          rcases List.mem_cons.1 member with rfl | later
          · exact Nat.lt_of_le_of_lt (Nat.le_of_eq length) (Frame.headerValue_lt four)
          · exact rest.told frame later
        · rw [List.flatMap_cons, List.append_assoc, same, Frame.onWire_toArray, length,
            Frame.header_headerValue four, List.append_assoc, List.take_append_drop,
            List.take_append_drop]

/-- **Whatever is sent is the bytes of a `Sending`.** -/
theorem exists_sending (sent : ByteArray) : ∃ sending : Sending, sent = sending.bytes := by
  obtain ⟨sending, same⟩ := exists_frames sent.data.toList
  refine ⟨sending, ?_⟩
  rw [Sending.bytes, same]

end Command

end HotSwap
