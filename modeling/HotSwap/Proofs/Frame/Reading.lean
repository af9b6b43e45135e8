/-
# HotSwap.Proofs.Frame.Reading -- what is read of a byte stream

`Frame.reading` says what the bytes that remain on a stream amount to: a frame, or why there is
none, and how many of them are taken for that.  The two sides of a connection read by loops of
their own: one counts down what is wanting and goes on behind an interruption, the other fills a
buffer and gives up at any failure.  On a stream that brings its bytes in order
(`Inlet.Delivers`) both read just that, in whatever pieces the bytes come (`Delivers.read`).
-/
import HotSwap.Frame.Polled

namespace HotSwap

set_option autoImplicit false

/-- The two ways to move a frame over a stream: by calls that block, or by polls. -/
inductive Side where
  | blocking
  | polled
  deriving DecidableEq, Repr

namespace Side

variable {σ : Type}

/-- Takes a number of bytes from a stream. -/
def take (side : Side) (i : Inlet σ) (s : σ) (want : Nat) : Except TransportError ByteArray × σ :=
  match side with
  | .blocking => i.readExact s want .empty
  | .polled => i.fill s .empty want

/-- Reads one frame. -/
def read (side : Side) (i : Inlet σ) (s : σ) : Except TransportError ByteArray × σ :=
  match side with
  | .blocking => i.readFrame s
  | .polled => i.fillFrame s

/-- Either side takes the length first, and then what it says. -/
theorem read_eq (side : Side) (i : Inlet σ) (s : σ) :
    side.read i s =
      match side.take i s 4 with
      | (.error e, s) => (.error e, s)
      | (.ok head, s) =>
          if Frame.maxLength < Frame.headerValue head.data.toList then
            (.error (.frameTooLarge (Frame.headerValue head.data.toList)), s)
          else side.take i s (Frame.headerValue head.data.toList) := by
  cases side with
  | blocking => rfl
  | polled =>
      simp only [read, take, Inlet.fillFrame]
      obtain ⟨_ | head, s'⟩ := i.fill s .empty 4
      · rfl
      · by_cases large : Frame.maxLength < Frame.headerValue head.data.toList
        · simp only [if_neg (Nat.not_le.2 large), if_pos large]
        · simp only [if_pos (Nat.not_lt.1 large), if_neg large]

end Side

/-! ## The reference -/

/-- What comes of taking a number of bytes behind those in hand. -/
def Frame.taking (want : Nat) (got : ByteArray) (bytes : List UInt8) :
    Except TransportError ByteArray :=
  if want ≤ bytes.length then .ok (got ++ ⟨(bytes.take want).toArray⟩) else .error .closed

/-- What the bytes that remain amount to, and how many of them are taken for that. -/
def Frame.reading (bytes : List UInt8) : Except TransportError ByteArray × Nat :=
  if bytes.length < 4 then (.error .closed, bytes.length)
  else
    let size := Frame.headerValue (bytes.take 4)
    if Frame.maxLength < size then (.error (.frameTooLarge size), 4)
    else if bytes.length < 4 + size then (.error .closed, bytes.length)
    else (.ok ⟨((bytes.drop 4).take size).toArray⟩, 4 + size)

theorem Frame.taking_zero (got : ByteArray) (bytes : List UInt8) :
    Frame.taking 0 got bytes = .ok got := by
  rw [Frame.taking, if_pos (Nat.zero_le _), List.take_zero]
  exact congrArg Except.ok ByteArray.append_empty

theorem Frame.taking_empty (want : Nat) (bytes : List UInt8) :
    Frame.taking want .empty bytes =
      if want ≤ bytes.length then .ok ⟨(bytes.take want).toArray⟩ else .error .closed := by
  rw [Frame.taking, ByteArray.empty_append]

/-- Bytes that were brought are in hand instead of in front. -/
theorem Frame.taking_append {want : Nat} {bytes : ByteArray} (within : bytes.size ≤ want)
    (got : ByteArray) (rest : List UInt8) :
    Frame.taking (want - bytes.size) (got ++ bytes) rest =
      Frame.taking want got (bytes.data.toList ++ rest) := by
  have length : bytes.data.toList.length = bytes.size := by simp
  have taken : (bytes.data.toList ++ rest).take want =
      bytes.data.toList ++ rest.take (want - bytes.size) := by
    rw [List.take_append, List.take_of_length_le (by omega), length]
  simp only [Frame.taking, List.length_append, length, taken]
  by_cases enough : want - bytes.size ≤ rest.length
  · rw [if_pos enough, if_pos (by omega)]
    congr 1
    apply ByteArray.ext
    apply Array.ext'
    simp
  · rw [if_neg enough, if_neg (by omega)]

/-! ## Streams that bring their bytes -/

/-- Calls from one side bring the bytes that are left, in order: at least one while there are
some.  Only the side that blocks may be interrupted, and that takes nothing. -/
structure Inlet.Delivers {σ : Type} (i : Inlet σ) (side : Side) (Left : σ → List UInt8 → Prop) :
    Prop where
  brings : ∀ {s s' : σ} {left : List UInt8} {want : Nat} {bytes : ByteArray},
    Left s left → i.call s want = (.ok bytes, s') →
      ∃ rest, left = bytes.data.toList ++ rest ∧ Left s' rest
  ends : ∀ {s s' : σ} {left : List UInt8} {want : Nat} {bytes : ByteArray},
    Left s left → 0 < want → i.call s want = (.ok bytes, s') → bytes.size = 0 → left = []
  fails : ∀ {s s' : σ} {left : List UInt8} {want : Nat} {fault : StreamFault},
    Left s left → i.call s want = (.error fault, s') →
      side = .blocking ∧ fault = .interrupted ∧ Left s' left

namespace Inlet.Delivers

variable {σ : Type} {i : Inlet σ} {Left : σ → List UInt8 → Prop} {side : Side}

/-- Bytes that a call brought are no longer left, and what is wanted is less by them. -/
theorem brought (delivers : i.Delivers side Left) {s s' : σ} {left : List UInt8} {want : Nat}
    {bytes : ByteArray} (here : Left s left) (answer : i.call s want = (.ok bytes, s'))
    (got : ByteArray) :
    ∃ rest, Left s' rest ∧ rest.drop (want - bytes.size) = left.drop want ∧
      Frame.taking (want - bytes.size) (got ++ bytes) rest = Frame.taking want got left := by
  obtain ⟨rest, rfl, there⟩ := delivers.brings here answer
  have within : bytes.size ≤ want := i.size_le answer
  refine ⟨rest, there, ?_, Frame.taking_append within got rest⟩
  have front : bytes.data.toList.drop want = [] :=
    List.drop_of_length_le (by simpa using within)
  rw [List.drop_append, front]
  simp

/-- A call that brings nothing shows the end of the stream. -/
theorem ended (delivers : i.Delivers side Left) {s s' : σ} {left : List UInt8} {want : Nat}
    {bytes : ByteArray} (here : Left s left) (wanted : 0 < want)
    (answer : i.call s want = (.ok bytes, s')) (nothing : bytes.size = 0) (got : ByteArray) :
    Frame.taking want got left = .error .closed ∧ Left s' (left.drop want) := by
  obtain rfl : left = [] := delivers.ends here wanted answer nothing
  obtain ⟨rest, none, there⟩ := delivers.brings here answer
  obtain ⟨-, rfl⟩ := List.append_eq_nil_iff.1 none.symm
  constructor
  · rw [Frame.taking, if_neg]
    simp only [List.length_nil]
    omega
  · simpa using there

/-- The side that blocks takes what is wanted, if there is as much, and otherwise all. -/
theorem readExact (delivers : i.Delivers .blocking Left) {s : σ} {left : List UInt8}
    (here : Left s left) (want : Nat) (got : ByteArray) :
    ∃ s', i.readExact s want got = (Frame.taking want got left, s') ∧ Left s' (left.drop want) := by
  fun_induction Inlet.readExact i s want got generalizing left with
  | case1 s got => exact ⟨s, by rw [Frame.taking_zero], here⟩
  | case2 s want got wanted s' answer ih =>
      obtain ⟨-, -, there⟩ := delivers.fails here answer
      exact ih there
  | case3 s want got wanted fault s' other answer =>
      obtain ⟨-, interrupted, -⟩ := delivers.fails here answer
      exact absurd interrupted other
  | case4 s want got wanted bytes s' answer nothing =>
      obtain ⟨closed, there⟩ := delivers.ended here (by omega) answer nothing got
      exact ⟨s', by rw [closed], there⟩
  | case5 s want got wanted bytes s' answer something ih =>
      obtain ⟨rest, there, dropped, taken⟩ := delivers.brought here answer got
      rw [← dropped, ← taken]
      exact ih there

/-- The side that polls fills its buffer, if there is as much, and otherwise takes all. -/
theorem fill (delivers : i.Delivers .polled Left) {s : σ} {left : List UInt8} (here : Left s left)
    (buffer : ByteArray) (capacity : Nat) :
    ∃ s', i.fill s buffer capacity = (Frame.taking (capacity - buffer.size) buffer left, s') ∧
      Left s' (left.drop (capacity - buffer.size)) := by
  fun_induction Inlet.fill i s buffer capacity generalizing left with
  | case1 s buffer full =>
      rw [Nat.sub_eq_zero_of_le full]
      exact ⟨s, by rw [Frame.taking_zero], here⟩
  | case2 s buffer room fault s' answer =>
      obtain ⟨blocks, -, -⟩ := delivers.fails here answer
      cases blocks
  | case3 s buffer room bytes s' answer nothing =>
      obtain ⟨closed, there⟩ := delivers.ended here (by omega) answer nothing buffer
      exact ⟨s', by rw [closed], there⟩
  | case4 s buffer room bytes s' answer something ih =>
      obtain ⟨rest, there, dropped, taken⟩ := delivers.brought here answer buffer
      have less : capacity - buffer.size - bytes.size = capacity - (buffer ++ bytes).size := by
        rw [ByteArray.size_append]
        omega
      rw [less] at dropped taken
      rw [← dropped, ← taken]
      exact ih there

/-- Either side takes what is wanted, if there is as much, and otherwise all. -/
theorem take (delivers : i.Delivers side Left) {s : σ} {left : List UInt8} (here : Left s left)
    (want : Nat) :
    ∃ s', side.take i s want = (Frame.taking want .empty left, s') ∧ Left s' (left.drop want) := by
  cases side with
  | blocking => exact delivers.readExact here want .empty
  | polled => exact delivers.fill here .empty want

/-- **Either side reads what the bytes that are left amount to**, and takes as many of them. -/
theorem read (delivers : i.Delivers side Left) {s : σ} {left : List UInt8} (here : Left s left) :
    ∃ s', side.read i s = ((Frame.reading left).1, s') ∧
      Left s' (left.drop (Frame.reading left).2) := by
  obtain ⟨s₁, head, behind⟩ := delivers.take here 4
  rw [Side.read_eq, head, Frame.taking_empty]
  by_cases short : left.length < 4
  · rw [List.drop_of_length_le (by omega)] at behind
    simp only [Frame.reading, if_pos short, if_neg (Nat.not_le.2 short), List.drop_length]
    exact ⟨s₁, rfl, behind⟩
  simp only [Frame.reading, if_neg short, if_pos (Nat.not_lt.1 short)]
  by_cases large : Frame.maxLength < Frame.headerValue (left.take 4)
  · simp only [if_pos large]
    exact ⟨s₁, rfl, behind⟩
  simp only [if_neg large]
  obtain ⟨s₂, body, done⟩ := delivers.take behind (Frame.headerValue (left.take 4))
  rw [List.drop_drop] at done
  rw [body, Frame.taking_empty, List.length_drop]
  by_cases cut : left.length < 4 + Frame.headerValue (left.take 4)
  · have missing : ¬ Frame.headerValue (left.take 4) ≤ left.length - 4 := by omega
    rw [List.drop_of_length_le (by omega)] at done
    simp only [if_pos cut, if_neg missing, List.drop_length]
    exact ⟨s₂, rfl, done⟩
  · have whole : Frame.headerValue (left.take 4) ≤ left.length - 4 := by omega
    simp only [if_neg cut, if_pos whole]
    exact ⟨s₂, rfl, done⟩

end Inlet.Delivers

end HotSwap
