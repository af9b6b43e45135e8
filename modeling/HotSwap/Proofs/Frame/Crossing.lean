/-
# HotSwap.Proofs.Frame.Crossing -- frames arrive as they were sent

What a frame comes to on the wire is read as that frame, whatever follows it
(`Frame.reading_writing`).  So any list of frames arrives: each may be written by either side to a
stream that accepts its bytes in whatever pieces, and read by either side from a stream that
brings them in other pieces, with the calls of the side that blocks interrupted anywhere
(`crossings_arrive`).  Behind the last frame the stream is closed.
-/
import HotSwap.Proofs.Frame.Memory

namespace HotSwap

set_option autoImplicit false

namespace Frame

/-! ## One frame -/

/-- A length is had again from its four bytes. -/
theorem headerValue_header {length : Nat} (small : length < 4294967296) :
    headerValue (header length) = length := by
  simp only [headerValue, header, List.foldl_cons, List.foldl_nil, UInt8.toNat_ofNat']
  omega

/-- A frame that was written is read again, and what follows it is left. -/
theorem reading_writing {frame : ByteArray} (short : frame.size ≤ maxLength) (rest : List UInt8) :
    reading ((writing frame).2 ++ rest) = (.ok frame, (writing frame).2.length) := by
  have bytes : frame.data.toList.length = frame.size := by simp
  have value : headerValue (header frame.size) = frame.size :=
    headerValue_header (Nat.lt_of_le_of_lt short (by decide))
  have four : (header frame.size).length = 4 := rfl
  have wire : (writing frame).2 ++ rest = header frame.size ++ (frame.data.toList ++ rest) := by
    rw [writing, if_neg (Nat.not_lt.2 short), List.append_assoc]
  have length : (writing frame).2.length = 4 + frame.size := by
    rw [writing, if_neg (Nat.not_lt.2 short), List.length_append, four, bytes]
  have head : (header frame.size ++ (frame.data.toList ++ rest)).take 4 = header frame.size := rfl
  have body : (header frame.size ++ (frame.data.toList ++ rest)).drop 4 =
      frame.data.toList ++ rest := rfl
  have all : 4 + frame.size ≤ (header frame.size ++ (frame.data.toList ++ rest)).length := by
    rw [List.length_append, List.length_append, four, bytes]
    omega
  rw [wire, length, reading, if_neg (by omega)]
  simp only [head, body, value]
  rw [if_neg (Nat.not_lt.2 short), if_neg (Nat.not_lt.2 all), ← bytes, List.take_left]

/-- Nothing is left: the stream is closed. -/
theorem reading_nil : reading [] = (.error .closed, 0) := rfl

/-! ## Any number of frames -/

/-- A frame with the side that writes it and the side that reads it. -/
structure Crossing where
  writer : Side
  frame : ByteArray
  reader : Side

/-- What frames come to on the wire. -/
def wire (crossings : List Crossing) : List UInt8 :=
  crossings.flatMap fun c => (writing c.frame).2

/-- Writes one frame behind the other. -/
def writeEach {σ : Type} (outlet : Side → Outlet σ) :
    List Crossing → σ → List (Except TransportError Unit) × σ
  | [], s => ([], s)
  | c :: rest, s =>
      let (result, s) := c.writer.write (outlet c.writer) s c.frame
      let (results, s) := writeEach outlet rest s
      (result :: results, s)

/-- Reads one frame behind the other. -/
def readEach {σ : Type} (inlet : Side → Inlet σ) :
    List Crossing → σ → List (Except TransportError ByteArray) × σ
  | [], s => ([], s)
  | c :: rest, s =>
      let (result, s) := c.reader.read (inlet c.reader) s
      let (results, s) := readEach inlet rest s
      (result :: results, s)

/-- Every frame is written, and all of them come to the wire. -/
theorem writeEach_wire {σ : Type} {outlet : Side → Outlet σ} {Written : σ → List UInt8 → Prop}
    (accepts : ∀ side, (outlet side).Accepts side Written) {crossings : List Crossing}
    (short : ∀ c ∈ crossings, c.frame.size ≤ maxLength) {s : σ} {before : List UInt8}
    (here : Written s before) :
    ∃ s', writeEach outlet crossings s = (crossings.map fun _ => .ok (), s') ∧
      Written s' (before ++ wire crossings) := by
  induction crossings generalizing s before with
  | nil => exact ⟨s, rfl, by simpa [wire] using here⟩
  | cons c rest ih =>
      obtain ⟨s₁, first, there⟩ := (accepts c.writer).write here c.frame
      obtain ⟨s₂, others, done⟩ := ih (fun d member => short d (List.mem_cons_of_mem _ member)) there
      have written : (writing c.frame).1 = .ok () := by
        rw [writing, if_neg (Nat.not_lt.2 (short c (List.mem_cons_self ..)))]
      refine ⟨s₂, ?_, ?_⟩
      · simp only [writeEach, first, others, written, List.map_cons]
      · rwa [wire, List.flatMap_cons, ← List.append_assoc]

/-- Every frame is read as it was written, and what follows on the wire is left. -/
theorem readEach_wire {σ : Type} {inlet : Side → Inlet σ} {Left : σ → List UInt8 → Prop}
    (delivers : ∀ side, (inlet side).Delivers side Left) {crossings : List Crossing}
    (short : ∀ c ∈ crossings, c.frame.size ≤ maxLength) {s : σ} {rest : List UInt8}
    (here : Left s (wire crossings ++ rest)) :
    ∃ s', readEach inlet crossings s = (crossings.map fun c => .ok c.frame, s') ∧
      Left s' rest := by
  induction crossings generalizing s with
  | nil => exact ⟨s, rfl, here⟩
  | cons c others ih =>
      rw [wire, List.flatMap_cons, List.append_assoc] at here
      obtain ⟨s₁, first, there⟩ := (delivers c.reader).read here
      rw [reading_writing (short c (List.mem_cons_self ..))] at first there
      rw [List.drop_left] at there
      obtain ⟨s₂, more, done⟩ := ih (fun d member => short d (List.mem_cons_of_mem _ member)) there
      refine ⟨s₂, ?_, done⟩
      simp only [readEach, first, more, List.map_cons]

end Frame

/-- **Frames arrive as they were sent.**  They are written to a stream that accepts what it is
offered, at least one byte at a call, and what they come to is read from a stream that brings it,
at least one byte at a call; every frame may be written and read by either side, and the calls of
the side that blocks may be interrupted anywhere.  Behind the last frame either side finds the
stream closed. -/
theorem crossings_arrive {σ τ : Type} {outlet : Side → Outlet σ}
    {Written : σ → List UInt8 → Prop} (accepts : ∀ side, (outlet side).Accepts side Written)
    {inlet : Side → Inlet τ} {Left : τ → List UInt8 → Prop}
    (delivers : ∀ side, (inlet side).Delivers side Left) {crossings : List Frame.Crossing}
    (short : ∀ c ∈ crossings, c.frame.size ≤ Frame.maxLength) {s : σ} (new : Written s [])
    {t : τ} (ready : Left t (Frame.wire crossings)) :
    (∃ s', Frame.writeEach outlet crossings s = (crossings.map fun _ => .ok (), s') ∧
      Written s' (Frame.wire crossings)) ∧
      ∃ t', Frame.readEach inlet crossings t = (crossings.map fun c => .ok c.frame, t') ∧
        ∀ last : Side, (last.read (inlet last) t').1 = .error .closed := by
  constructor
  · exact Frame.writeEach_wire accepts short new
  · rw [← List.append_nil (Frame.wire crossings)] at ready
    obtain ⟨t', each, none⟩ := Frame.readEach_wire delivers short ready
    refine ⟨t', each, ?_⟩
    intro last
    obtain ⟨t'', read, -⟩ := (delivers last).read none
    rw [read, Frame.reading_nil]

/-- Three frames, one of them empty, that cross between the sides. -/
def threeCrossings : List Frame.Crossing :=
  [⟨.polled, "ab".toUTF8, .blocking⟩, ⟨.blocking, .empty, .polled⟩,
    ⟨.blocking, "xyz".toUTF8, .polled⟩]

/-- A stream that brings two bytes at a call and is interrupted four times. -/
def interruptedSource : Source where
  input := ⟨(Frame.wire threeCrossings).toArray⟩
  chunk := some 2
  faults := [(0, .interrupted), (1, .interrupted), (4, .interrupted), (4, .interrupted)]

/-- A stream that accepts three bytes at a call and is interrupted once. -/
def interruptedSink : Sink where
  chunk := some 3
  fault := some (7, .interrupted)

theorem threeCrossings_arrive :
    (∀ c ∈ threeCrossings, c.frame.size ≤ Frame.maxLength) ∧
      (Frame.writeEach Sink.outletFor threeCrossings interruptedSink).1 =
        [.ok (), .ok (), .ok ()] ∧
      (Frame.readEach Source.inletFor threeCrossings interruptedSource).1 =
        [.ok "ab".toUTF8, .ok .empty, .ok "xyz".toUTF8] := by
  have short : ∀ c ∈ threeCrossings, c.frame.size ≤ Frame.maxLength := by
    decide
  have new : interruptedSink.Holds [] := ⟨by decide, rfl, by decide, rfl, rfl⟩
  have ready : Source.Left interruptedSource.input interruptedSource
      (Frame.wire threeCrossings) := ⟨⟨rfl, by decide, by decide, by decide⟩, rfl⟩
  obtain ⟨⟨s', written, -⟩, t', read, -⟩ :=
    crossings_arrive Sink.accepts_for (Source.delivers_for interruptedSource.input) short new ready
  rw [written, read]
  exact ⟨short, rfl, rfl⟩

end HotSwap
