/-
# HotSwap.Proofs.Frame.Agreement -- both sides agree on every byte stream

Agent and controller frame their messages by loops of their own, which have to stay
interchangeable on streams that are cut off or hold no frames at all.  A read leaves the position
wherever it stopped, so what the next one makes of the stream depends on all those before it.
`framings_agree` says that both sides give the results of `Frame.readingAt` and leave its
positions, read by read, whatever the input, the chunks and the number of reads; and that both
add what `Frame.writing` says.
-/
import HotSwap.Proofs.Frame.Memory

namespace HotSwap

set_option autoImplicit false

/-! ## Reads one behind the other -/

/-- The first reads, each with where it left the stream. -/
def successive {σ α : Type} (read : σ → α × σ) : Nat → σ → List (α × σ)
  | 0, _ => []
  | n + 1, s => read s :: successive read n (read s).2

/-- Reads that agree with a reference at every step agree with it all along. -/
theorem successive_view {σ τ α : Type} {read : σ → α × σ} {reference : τ → α × τ} {view : σ → τ}
    {Sound : σ → Prop}
    (step : ∀ s, Sound s → ((read s).1, view (read s).2) = reference (view s) ∧ Sound (read s).2)
    {s : σ} (sound : Sound s) (n : Nat) :
    (successive read n s).map (fun r => (r.1, view r.2)) = successive reference n (view s) := by
  induction n generalizing s with
  | zero => rfl
  | succ n ih =>
      obtain ⟨same, further⟩ := step s sound
      rw [successive, successive, List.map_cons, ih further, same, ← same]

/-- What is read at a position of a byte string, and the position behind it. -/
def Frame.readingAt (input : ByteArray) (position : Nat) : Except TransportError ByteArray × Nat :=
  ((Frame.reading (bytesFrom input position)).1,
    position + (Frame.reading (bytesFrom input position)).2)

/-- No more is taken than there is. -/
theorem Frame.reading_le (bytes : List UInt8) : (Frame.reading bytes).2 ≤ bytes.length := by
  simp only [Frame.reading]
  by_cases short : bytes.length < 4
  · simp only [if_pos short, Nat.le_refl]
  · simp only [if_neg short]
    split
    · exact Nat.not_lt.1 short
    · split
      · exact Nat.le_refl _
      · omega

/-- A position is known by what is left behind it. -/
theorem position_eq {input : ByteArray} {position position' taken : Nat}
    (within : position ≤ input.size) (within' : position' ≤ input.size)
    (bound : taken ≤ (bytesFrom input position).length)
    (left : (bytesFrom input position).drop taken = bytesFrom input position') :
    position' = position + taken := by
  have lengths := congrArg List.length left
  rw [List.length_drop, length_bytesFrom, length_bytesFrom] at lengths
  rw [length_bytesFrom] at bound
  omega

/-- A source is read as its bytes say. -/
theorem Source.readFrame_at {input : ByteArray} {s : Source} (runs : s.Runs input) :
    (s.readFrame.1, s.readFrame.2.position) = Frame.readingAt input s.position ∧
      s.readFrame.2.Runs input := by
  obtain ⟨s', read, runs', left⟩ := (Source.delivers input).read (s := s) ⟨runs, rfl⟩
  have result : s.readFrame = ((Frame.reading (bytesFrom input s.position)).1, s') := read
  rw [result]
  refine ⟨?_, runs'⟩
  rw [Frame.readingAt, position_eq runs.within runs'.within (Frame.reading_le _) left]

/-- A reader is read as its bytes say. -/
theorem Polled.readFrame_at {input : ByteArray} {r : Reader} (runs : r.Runs input) :
    ((readFrame r).1, (readFrame r).2.position) = Frame.readingAt input r.position ∧
      (readFrame r).2.Runs input := by
  obtain ⟨r', read, runs', left⟩ := (Reader.delivers input .polled).read (s := r) ⟨runs, rfl⟩
  have result : readFrame r = ((Frame.reading (bytesFrom input r.position)).1, r') := read
  rw [result]
  refine ⟨?_, runs'⟩
  rw [Frame.readingAt, position_eq runs.within runs'.within (Frame.reading_le _) left]

/-! ## The agreement -/

/-- **Both sides agree with one reference on every byte stream.**  The reads of either side, one
behind the other, give its results and leave its positions, whatever the input and the chunks;
and a frame adds the same bytes for both, or nothing if it is too long. -/
theorem framings_agree {chunk : Option Nat} (moving : chunk ≠ some 0) :
    (∀ (input : ByteArray) (reads : Nat),
      (successive Source.readFrame reads { input, chunk }).map (fun r => (r.1, r.2.position)) =
          successive (Frame.readingAt input) reads 0 ∧
        (successive Polled.readFrame reads { input, chunk }).map (fun r => (r.1, r.2.position)) =
          successive (Frame.readingAt input) reads 0) ∧
      ∀ written frame : ByteArray,
        (Sink.writeFrame { written, chunk } frame).1 = (Frame.writing frame).1 ∧
          (Sink.writeFrame { written, chunk } frame).2.written.data.toList =
            written.data.toList ++ (Frame.writing frame).2 ∧
          (Polled.writeFrame { written, chunk } frame).1 = (Frame.writing frame).1 ∧
          (Polled.writeFrame { written, chunk } frame).2.written.data.toList =
            written.data.toList ++ (Frame.writing frame).2 := by
  constructor
  · intro input reads
    constructor
    · exact successive_view (fun s runs => Source.readFrame_at runs)
        (s := { input, chunk }) ⟨rfl, moving, nofun, Nat.zero_le _⟩ reads
    · exact successive_view (fun r runs => Polled.readFrame_at runs)
        (s := { input, chunk }) ⟨rfl, moving, Nat.zero_le _⟩ reads
  · intro written frame
    obtain ⟨s, blocking, held⟩ := Sink.accepts_all.write (s := { written, chunk })
      ⟨moving, rfl, nofun, rfl, rfl⟩ frame
    obtain ⟨w, polled, kept⟩ := (Polled.Writer.accepts_all .polled).write
      (s := { written, chunk }) ⟨moving, rfl⟩ frame
    have blocking : Sink.writeFrame { written, chunk } frame = ((Frame.writing frame).1, s) :=
      blocking
    have polled : Polled.writeFrame { written, chunk } frame = ((Frame.writing frame).1, w) :=
      polled
    rw [blocking, polled]
    exact ⟨rfl, held.written, rfl, kept.2⟩

/-- A frame, a length that is too large, and an end in the middle of a length. -/
def brokenOff : ByteArray := ⟨#[0, 0, 0, 2, 104, 105, 1, 0, 0, 1, 0, 0, 0]⟩

/-- What is read of it, and where that leaves the stream. -/
def brokenOffReads : List (Except TransportError ByteArray × Nat) :=
  [(.ok "hi".toUTF8, 6), (.error (.frameTooLarge 16777217), 10), (.error .closed, 13),
    (.error .closed, 13)]

theorem brokenOff_agrees :
    some 3 ≠ some 0 ∧
      (successive Source.readFrame 4 { input := brokenOff, chunk := some 3 }).map
        (fun r => (r.1, r.2.position)) = brokenOffReads ∧
      (successive Polled.readFrame 4 { input := brokenOff, chunk := some 3 }).map
        (fun r => (r.1, r.2.position)) = brokenOffReads := by
  have moving : some 3 ≠ some 0 := by decide
  have reference : successive (Frame.readingAt brokenOff) 4 0 = brokenOffReads := by rfl
  obtain ⟨blocking, polled⟩ := (framings_agree moving).1 brokenOff 4
  rw [reference] at blocking polled
  exact ⟨moving, blocking, polled⟩

end HotSwap
