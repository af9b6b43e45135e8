/-
# HotSwap.Proofs.Frame.Memory -- streams in memory bring and accept all bytes

A source whose calls move something and fail by interruption only brings its bytes from its
position on (`Source.delivers`), and such a sink accepts what it is offered (`Sink.accepts_all`);
so do the reader and the writer that are polled.  A source and a sink may be handed to the side
that polls as well, as the reader and the writer of the same bytes (`Source.inletFor`,
`Sink.outletFor`): the failures to come are none of that side's.
-/
import HotSwap.Frame.Memory
import HotSwap.Proofs.Frame.Writing

namespace HotSwap

set_option autoImplicit false

theorem atMost_pos {limit : Option Nat} {n : Nat} (moving : limit ≠ some 0) (some : 0 < n) :
    0 < atMost limit n := by
  unfold atMost
  split
  · exact some
  · rename_i limit
    have : limit ≠ 0 := fun zero => moving (congrArg _ zero)
    omega

/-! ## Reading -/

/-- What is left of a byte string behind a position. -/
def bytesFrom (input : ByteArray) (position : Nat) : List UInt8 := input.data.toList.drop position

theorem length_bytesFrom (input : ByteArray) (position : Nat) :
    (bytesFrom input position).length = input.size - position := by
  simp [bytesFrom]

/-- What is left begins with what is cut out in front. -/
theorem bytesFrom_eq (input : ByteArray) (position n : Nat) :
    bytesFrom input position =
      (input.extract position (position + n)).data.toList ++ bytesFrom input (position + n) := by
  rw [bytesFrom, bytesFrom, ← List.drop_drop, ByteArray.data_extract, Array.toList_extract,
    List.extract_eq_take_drop, Nat.add_sub_cancel_left, List.take_append_drop]

theorem bytesFrom_eq_nil {input : ByteArray} {position : Nat} (done : input.size ≤ position) :
    bytesFrom input position = [] :=
  List.drop_of_length_le (by simpa using done)

/-- A source whose calls move something and fail by interruption only. -/
structure Source.Runs (input : ByteArray) (s : Source) : Prop where
  same : s.input = input
  moving : s.chunk ≠ some 0
  calm : ∀ fault ∈ s.faults, fault.2 = .interrupted
  within : s.position ≤ input.size

/-- What is left to read from a source. -/
def Source.Left (input : ByteArray) (s : Source) (left : List UInt8) : Prop :=
  s.Runs input ∧ left = bytesFrom input s.position

namespace Source

theorem moves_le_left (s : Source) (want : Nat) : s.moves want ≤ s.input.size - s.position := by
  have bound := atMost_le s.chunk (min want (s.input.size - s.position))
  simp only [moves]
  split <;> omega

/-- A call moves something while there is something left. -/
theorem moves_pos {s : Source} {want : Nat} (moving : s.chunk ≠ some 0) (due : s.due? = none)
    (wanted : 0 < want) (left : s.position < s.input.size) : 0 < s.moves want := by
  have some := atMost_pos (n := min want (s.input.size - s.position)) moving (by omega)
  simp only [moves]
  split
  · exact some
  · rename_i next rest faults
    have ahead : ¬ next.1 ≤ s.position := by
      intro reached
      simp [due?, faults, reached] at due
    omega

/-- A source from whose position some bytes were taken. -/
theorem Runs.advance {input : ByteArray} {s : Source} (runs : s.Runs input) {n : Nat}
    (within : n ≤ input.size - s.position) : (s.advance n).Runs input := by
  refine ⟨runs.same, runs.moving, runs.calm, ?_⟩
  have := runs.within
  simp only [Source.advance]
  omega

theorem Runs.dropFault {input : ByteArray} {s : Source} (runs : s.Runs input) :
    s.dropFault.Runs input :=
  ⟨runs.same, runs.moving, fun fault member => runs.calm fault (List.mem_of_mem_tail member),
    runs.within⟩

/-- A failure that is due is an interruption. -/
theorem Runs.interrupted {input : ByteArray} {s : Source} (runs : s.Runs input)
    {fault : StreamFault} (due : s.due? = some fault) : fault = .interrupted := by
  unfold due? at due
  split at due
  · cases due
  · rename_i next rest faults
    have calm := runs.calm next (by rw [faults]; exact List.mem_cons_self ..)
    by_cases reached : next.1 ≤ s.position
    · rw [if_pos reached] at due
      exact (Option.some.inj due).symm.trans calm
    · rw [if_neg reached] at due
      cases due

/-- A source that is interrupted at most brings its bytes. -/
theorem delivers (input : ByteArray) : inlet.Delivers .blocking (Source.Left input) where
  brings {s s' left want bytes} here answer := by
    obtain ⟨runs, rfl⟩ := here
    simp only [inlet, call] at answer
    split at answer
    · cases answer
    · cases answer
      refine ⟨bytesFrom input (s.position + s.moves want), ?_, runs.advance ?_, rfl⟩
      · rw [runs.same]
        exact bytesFrom_eq input s.position (s.moves want)
      · rw [← runs.same]
        exact s.moves_le_left want
  ends {s s' left want bytes} here wanted answer nothing := by
    obtain ⟨runs, rfl⟩ := here
    simp only [inlet, call] at answer
    split at answer
    · cases answer
    · rename_i due
      cases answer
      apply bytesFrom_eq_nil
      apply Nat.le_of_not_lt
      intro left
      have moved := moves_pos runs.moving due wanted (by rw [runs.same]; exact left)
      rw [ByteArray.size_extract, runs.same] at nothing
      omega
  fails {s s' left want fault} here answer := by
    obtain ⟨runs, rfl⟩ := here
    simp only [inlet, call] at answer
    split at answer
    · rename_i due
      cases answer
      exact ⟨rfl, runs.interrupted due, runs.dropFault, rfl⟩
    · cases answer

end Source

/-- A reader whose polls bring something. -/
structure Polled.Reader.Runs (input : ByteArray) (r : Reader) : Prop where
  same : r.input = input
  moving : r.chunk ≠ some 0
  within : r.position ≤ input.size

/-- What is left to read from a reader. -/
def Polled.Reader.Left (input : ByteArray) (r : Reader) (left : List UInt8) : Prop :=
  r.Runs input ∧ left = bytesFrom input r.position

/-- A reader brings its bytes, from whichever side it is called. -/
theorem Polled.Reader.delivers (input : ByteArray) (side : Side) :
    inlet.Delivers side (Reader.Left input) where
  brings {r r' left room bytes} here answer := by
    obtain ⟨⟨rfl, moving, within⟩, rfl⟩ := here
    cases answer
    have bound := atMost_le r.chunk (min room (r.input.size - r.position))
    have size : (r.poll room).size = atMost r.chunk (min room (r.input.size - r.position)) := by
      simp only [poll, ByteArray.size_extract]
      omega
    refine ⟨bytesFrom r.input (r.position + (r.poll room).size), ?_, ⟨rfl, moving, ?_⟩, rfl⟩
    · rw [size]
      exact bytesFrom_eq r.input r.position _
    · show r.position + (r.poll room).size ≤ r.input.size
      omega
  ends {r r' left room bytes} here wanted answer nothing := by
    obtain ⟨⟨rfl, moving, within⟩, rfl⟩ := here
    cases answer
    apply bytesFrom_eq_nil
    apply Nat.le_of_not_lt
    intro left
    have moved := atMost_pos (n := min room (r.input.size - r.position)) moving (by omega)
    simp only [poll, ByteArray.size_extract] at nothing
    omega
  fails here answer := by cases answer

namespace Source

/-- A source that is polled answers as the reader of its bytes. -/
def polled : Inlet Source where
  call s want :=
    let answer := Polled.Reader.inlet.call ⟨s.input, s.position, s.chunk⟩ want
    (answer.1, { s with position := answer.2.position })
  interruptions _ := 0
  size_le answer := by
    cases answer
    exact Polled.Reader.size_poll_le _ _
  kept _ := Nat.le_refl 0
  spent answer := by cases answer

/-- A source as either side has it. -/
def inletFor : Side → Inlet Source
  | .blocking => inlet
  | .polled => polled

/-- A source that is interrupted at most brings its bytes to both sides. -/
theorem delivers_for (input : ByteArray) (side : Side) :
    (inletFor side).Delivers side (Source.Left input) := by
  cases side with
  | blocking => exact delivers input
  | polled =>
      have reader := Polled.Reader.delivers input .polled
      constructor
      · intro s s' left want bytes here answer
        obtain ⟨runs, rfl⟩ := here
        cases answer
        obtain ⟨rest, split, polled, rfl⟩ :=
          reader.brings (s := ⟨s.input, s.position, s.chunk⟩)
            ⟨⟨runs.same, runs.moving, runs.within⟩, rfl⟩ rfl
        exact ⟨_, split, ⟨runs.same, runs.moving, runs.calm, polled.within⟩, rfl⟩
      · intro s s' left want bytes here wanted answer nothing
        obtain ⟨runs, rfl⟩ := here
        cases answer
        exact reader.ends (s := ⟨s.input, s.position, s.chunk⟩)
          ⟨⟨runs.same, runs.moving, runs.within⟩, rfl⟩ wanted rfl nothing
      · intro s s' left want fault here answer
        cases answer

end Source

/-! ## Writing -/

/-- A sink that holds some bytes, whose calls accept something, up to any number of bytes, and
fail by interruption only. -/
structure Sink.Holds (s : Sink) (bytes : List UInt8) : Prop where
  moving : s.chunk ≠ some 0
  unlimited : s.limit = none
  calm : ∀ fault ∈ s.fault, fault.2 = .interrupted
  flushes : s.flushFails = false
  written : s.written.data.toList = bytes

namespace Sink

/-- A call accepts something. -/
theorem accepts_pos {s : Sink} {want : Nat} (moving : s.chunk ≠ some 0) (unlimited : s.limit = none)
    (due : s.due? = none) (wanted : 0 < want) : 0 < s.accepts want := by
  have some := atMost_pos moving wanted
  simp only [accepts, unlimited, Option.map_none]
  split
  · exact some
  · rename_i next fault
    have ahead : ¬ next.1 ≤ s.written.size := by
      intro reached
      simp [due?, fault, reached] at due
    have free : atMost none (atMost s.chunk want) = atMost s.chunk want := rfl
    omega

theorem Holds.push {s : Sink} {before : List UInt8} (holds : s.Holds before) (bytes : ByteArray)
    (index n : Nat) :
    (s.push (bytes.extract index (index + n))).Holds
      (before ++ (bytes.data.toList.drop index).take n) := by
  refine ⟨holds.moving, holds.unlimited, holds.calm, holds.flushes, ?_⟩
  rw [Sink.push, ByteArray.data_append, Array.toList_append, holds.written, ByteArray.data_extract,
    Array.toList_extract, List.extract_eq_take_drop, Nat.add_sub_cancel_left]

theorem Holds.interrupted {s : Sink} {before : List UInt8} (holds : s.Holds before)
    {fault : StreamFault} (due : s.due? = some fault) : fault = .interrupted := by
  unfold due? at due
  split at due
  · cases due
  · rename_i next coming
    have calm := holds.calm next coming
    by_cases reached : next.1 ≤ s.written.size
    · rw [if_pos reached] at due
      exact (Option.some.inj due).symm.trans calm
    · rw [if_neg reached] at due
      cases due

theorem Holds.flush {s : Sink} {before : List UInt8} (holds : s.Holds before) :
    ∃ s', s.flush = (.ok (), s') ∧ s'.Holds before :=
  ⟨s, by simp [Sink.flush, holds.flushes], holds⟩

/-- A sink that is interrupted at most accepts what it is offered. -/
theorem accepts_all : outlet.Accepts .blocking Holds where
  moves {s s' before bytes index accepted} holds inside answer := by
    simp only [outlet, offer] at answer
    split at answer
    · cases answer
    · rename_i due
      cases answer
      exact ⟨accepts_pos holds.moving holds.unlimited due (by omega), holds.push bytes index _⟩
  fails {s s' before bytes index fault} holds answer := by
    simp only [outlet, offer] at answer
    split at answer
    · rename_i due
      cases answer
      have calm : ∀ fault ∈ s.dropFault.fault, fault.2 = .interrupted :=
        fun fault coming => by cases coming
      exact ⟨rfl, holds.interrupted due, holds.moving, holds.unlimited, calm, holds.flushes,
        holds.written⟩
    · cases answer
  flushes holds := holds.flush

end Sink

/-- A writer that holds some bytes and whose polls accept something. -/
def Polled.Writer.Holds (w : Writer) (bytes : List UInt8) : Prop :=
  w.chunk ≠ some 0 ∧ w.written.data.toList = bytes

/-- A writer accepts what it is offered, from whichever side it is called. -/
theorem Polled.Writer.accepts_all (side : Side) : outlet.Accepts side Writer.Holds where
  moves {w w' before bytes index accepted} holds inside answer := by
    obtain ⟨moving, rfl⟩ := holds
    cases answer
    refine ⟨atMost_pos moving (by omega), moving, ?_⟩
    rw [ByteArray.data_append, Array.toList_append, ByteArray.data_extract, Array.toList_extract,
      List.extract_eq_take_drop, Nat.add_sub_cancel_left]
  fails holds answer := by cases answer
  flushes {w before} holds := ⟨w, rfl, holds⟩

namespace Sink

/-- A sink that is polled answers as the writer of its bytes. -/
def polled : Outlet Sink where
  offer s bytes index :=
    let answer := Polled.Writer.outlet.offer ⟨s.written, s.chunk⟩ bytes index
    (answer.1, { s with written := answer.2.written })
  flush s := (.ok (), s)
  interruptions _ := 0
  accepted_le answer := by
    cases answer
    exact atMost_le _ _
  kept _ := Nat.le_refl 0
  spent answer := by cases answer

/-- A sink as either side has it. -/
def outletFor : Side → Outlet Sink
  | .blocking => outlet
  | .polled => polled

/-- A sink that is interrupted at most accepts what it is offered by both sides. -/
theorem accepts_for (side : Side) : (outletFor side).Accepts side Holds := by
  cases side with
  | blocking => exact accepts_all
  | polled =>
      constructor
      · intro s s' before bytes index accepted holds inside answer
        cases answer
        obtain ⟨some, -, written⟩ := (Polled.Writer.accepts_all .polled).moves
          (s := ⟨s.written, s.chunk⟩) ⟨holds.moving, holds.written⟩ inside rfl
        exact ⟨some, holds.moving, holds.unlimited, holds.calm, holds.flushes, written⟩
      · intro s s' before bytes index fault holds answer
        cases answer
      · intro s before holds
        exact ⟨s, rfl, holds⟩

end Sink

end HotSwap
