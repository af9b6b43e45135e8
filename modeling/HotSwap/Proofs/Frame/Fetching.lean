/-
# HotSwap.Proofs.Frame.Fetching -- the calls by which a frame is read

Reading a frame is two loops of calls, one for the four bytes of its length and one for as many
bytes as they say; any call may bring a part of what it asked for, bring nothing, be interrupted
or fail.  The calls that are made are read off a stream that remembers them (`Inlet.logged`) and
otherwise answers as it always does.  One loop takes one of five turns at each call (`Fetching`),
and `Took` is what can be said of all its calls.

`Fetched` says what the calls for one frame have to do with what is reported: a frame is had just
if the calls brought what it comes to on the wire, a failure that is no interruption ends the read
and is reported, and nothing is asked for behind what the length says.  `Inlet.readFrame_fetched`
holds whatever the stream answers.
-/
import HotSwap.Proofs.Frame.Crossing
import HotSwap.Proofs.Frame.Partway

namespace HotSwap

set_option autoImplicit false

/-- A call of a stream one reads from: how many bytes it asked for, and its answer. -/
structure StreamFetch where
  want : Nat
  answer : Except StreamFault ByteArray

namespace StreamFetch

/-- The bytes that a call brought. -/
def bytes : StreamFetch → List UInt8
  | ⟨_, .ok bytes⟩ => bytes.data.toList
  | ⟨_, .error _⟩ => []

/-- What has to be reported of a call.  An interrupted call is made again instead, and a call that
brings nothing shows that the stream has ended. -/
def error? : StreamFetch → Option TransportError
  | ⟨_, .ok bytes⟩ => if bytes.size = 0 then some .closed else none
  | ⟨_, .error .interrupted⟩ => none
  | ⟨_, .error .unexpectedEnd⟩ => some .closed
  | ⟨_, .error fault⟩ => some (.io (.stream fault))

/-- The bytes that some calls brought. -/
def brought (calls : List StreamFetch) : List UInt8 := calls.flatMap bytes

@[simp] theorem brought_nil : brought [] = [] := rfl

@[simp] theorem brought_cons (call : StreamFetch) (calls : List StreamFetch) :
    brought (call :: calls) = call.bytes ++ brought calls := rfl

@[simp] theorem brought_append (calls more : List StreamFetch) :
    brought (calls ++ more) = brought calls ++ brought more := List.flatMap_append ..

@[simp] theorem bytes_ok (want : Nat) (bytes : ByteArray) :
    StreamFetch.bytes ⟨want, .ok bytes⟩ = bytes.data.toList := rfl

@[simp] theorem bytes_error (want : Nat) (fault : StreamFault) :
    StreamFetch.bytes ⟨want, .error fault⟩ = [] := rfl

theorem error?_failed {want : Nat} {fault : StreamFault} (shown : fault ≠ .interrupted) :
    error? ⟨want, .error fault⟩ = some (Inlet.failure fault) := by
  cases fault <;> first | rfl | exact absurd rfl shown

/-- A call that reports a failure of the stream met it, and was not just interrupted. -/
theorem exists_of_error?_io {call : StreamFetch} {cause : IoFault}
    (failing : call.error? = some (.io cause)) :
    ∃ want fault, call = ⟨want, .error fault⟩ ∧ fault ≠ .interrupted := by
  obtain ⟨want, fault | bytes⟩ := call
  · refine ⟨want, fault, rfl, ?_⟩
    rintro rfl
    cases failing
  · simp only [error?] at failing
    split at failing <;> cases failing

theorem error?_brought {want : Nat} {bytes : ByteArray} (some : bytes.size ≠ 0) :
    error? ⟨want, .ok bytes⟩ = none := if_neg some

theorem error?_ended {want : Nat} {bytes : ByteArray} (none : bytes.size = 0) :
    error? ⟨want, .ok bytes⟩ = .some .closed := if_pos none

end StreamFetch

open StreamFetch (brought)

/-! ## A stream that remembers its calls -/

namespace Inlet

variable {σ : Type}

/-- The stream, with a list of the calls it answered. -/
def logged (i : Inlet σ) : Inlet (σ × List StreamFetch) where
  call s want :=
    let answer := i.call s.1 want
    (answer.1, answer.2, s.2 ++ [⟨want, answer.1⟩])
  interruptions s := i.interruptions s.1
  size_le answer := i.size_le (Prod.ext (Prod.mk.inj answer).1 rfl)
  kept answer := by
    obtain ⟨answered, there⟩ := Prod.mk.inj answer
    rw [← there]
    exact i.kept (Prod.ext answered rfl)
  spent answer := by
    obtain ⟨answered, there⟩ := Prod.mk.inj answer
    rw [← there]
    exact i.spent (Prod.ext answered rfl)

theorem logged_call {i : Inlet σ} {s s' : σ} {want : Nat} {answer : Except StreamFault ByteArray}
    (answered : i.call s want = (answer, s')) (log : List StreamFetch) :
    i.logged.call (s, log) want = (answer, s', log ++ [⟨want, answer⟩]) := by
  simp only [logged, answered]

/-- Calls that lead from one state of the stream to another. -/
inductive Made (i : Inlet σ) : σ → List StreamFetch → σ → Prop where
  | nil (s : σ) : i.Made s [] s
  | cons {s s' s'' : σ} {want : Nat} {answer : Except StreamFault ByteArray}
      {calls : List StreamFetch} (answered : i.call s want = (answer, s'))
      (further : i.Made s' calls s'') : i.Made s (⟨want, answer⟩ :: calls) s''

theorem Made.trans {i : Inlet σ} {s s' s'' : σ} {calls more : List StreamFetch}
    (first : i.Made s calls s') (second : i.Made s' more s'') : i.Made s (calls ++ more) s'' := by
  induction first with
  | nil s => exact second
  | cons answered further ih => exact .cons answered (ih second)

end Inlet

/-! ## One loop of calls -/

/-- The calls by which a number of bytes is asked for until all were brought, or until the stream
ends or a call fails, and what is reported then. -/
inductive Fetching : Nat → Option TransportError → List StreamFetch → Prop where
  | done : Fetching 0 none []
  | interrupted {want : Nat} {failed : Option TransportError} {calls : List StreamFetch}
      (wanted : want ≠ 0) (again : Fetching want failed calls) :
      Fetching want failed (⟨want, .error .interrupted⟩ :: calls)
  | failed {want : Nat} {fault : StreamFault} (wanted : want ≠ 0) (shown : fault ≠ .interrupted) :
      Fetching want (some (Inlet.failure fault)) [⟨want, .error fault⟩]
  | ended {want : Nat} {bytes : ByteArray} (wanted : want ≠ 0) (nothing : bytes.size = 0) :
      Fetching want (some .closed) [⟨want, .ok bytes⟩]
  | brought {want : Nat} {bytes : ByteArray} {failed : Option TransportError}
      {calls : List StreamFetch} (something : bytes.size ≠ 0) (within : bytes.size ≤ want)
      (rest : Fetching (want - bytes.size) failed calls) :
      Fetching want failed (⟨want, .ok bytes⟩ :: calls)

/-- What is known of the calls by which some bytes are asked for. -/
structure Took (want : Nat) (failed : Option TransportError) (calls : List StreamFetch) :
    Prop where
  all_iff : failed = none ↔ (brought calls).length = want
  within : (brought calls).length ≤ want
  shown : ∀ before call after, calls = before ++ call :: after → ∀ e, call.error? = some e →
    after = [] ∧ failed = some e
  caused : ∀ e, failed = some e →
    ∃ before last, calls = before ++ [last] ∧ last.error? = some e
  asked : ∀ before call after, calls = before ++ call :: after →
    0 < call.want ∧ (brought before).length + call.want ≤ want

namespace Took

variable {want more : Nat} {failed : Option TransportError} {calls others : List StreamFetch}

/-- A call that shows nothing, in front of calls that ask for what is still wanted. -/
theorem cons (call : StreamFetch) {left : Nat} (rest : Took left failed calls)
    (quiet : call.error? = none) (wanted : 0 < call.want)
    (exact : call.want = call.bytes.length + left) :
    Took call.want failed (call :: calls) where
  all_iff := by
    rw [rest.all_iff, StreamFetch.brought_cons, List.length_append]
    omega
  within := by
    have := rest.within
    rw [StreamFetch.brought_cons, List.length_append]
    omega
  shown before other after split e failing := by
    rcases split_cons split with ⟨-, rfl, -⟩ | ⟨front, -, tail⟩
    · cases quiet.symm.trans failing
    · exact rest.shown front other after tail e failing
  caused e caused := by
    obtain ⟨before, last, split, failing⟩ := rest.caused e caused
    exact ⟨call :: before, last, by rw [split, List.cons_append], failing⟩
  asked before other after split := by
    rcases split_cons split with ⟨rfl, rfl, -⟩ | ⟨front, rfl, tail⟩
    · exact ⟨wanted, by simp⟩
    · obtain ⟨some, inside⟩ := rest.asked front other after tail
      refine ⟨some, ?_⟩
      rw [StreamFetch.brought_cons, List.length_append]
      omega

/-- A call that shows something is the only one. -/
theorem single (call : StreamFetch) {e : TransportError} (failing : call.error? = some e)
    (nothing : call.bytes = []) (wanted : 0 < call.want) : Took call.want (some e) [call] where
  all_iff := by simp [nothing, Nat.ne_of_lt wanted]
  within := by simp [nothing]
  shown before other after split e' failing' := by
    obtain ⟨-, rfl, rfl⟩ := split_single split
    exact ⟨rfl, failing.symm.trans failing'⟩
  caused e' caused := ⟨[], call, rfl, failing.trans caused⟩
  asked before other after split := by
    obtain ⟨rfl, rfl, -⟩ := split_single split
    exact ⟨wanted, by simp⟩

theorem of_fetching (fetching : Fetching want failed calls) : Took want failed calls := by
  induction fetching with
  | done => exact ⟨by simp, by simp, by simp, nofun, by simp⟩
  | interrupted wanted again ih =>
      exact ih.cons ⟨_, .error .interrupted⟩ rfl (Nat.pos_of_ne_zero wanted) (by simp)
  | failed wanted shown =>
      exact single ⟨_, .error _⟩ (StreamFetch.error?_failed shown) rfl
        (Nat.pos_of_ne_zero wanted)
  | ended wanted nothing =>
      exact single ⟨_, .ok _⟩ (StreamFetch.error?_ended nothing)
        (List.eq_nil_of_length_eq_zero nothing) (Nat.pos_of_ne_zero wanted)
  | @brought want bytes failed calls something within rest ih =>
      have length : bytes.data.toList.length = bytes.size := by simp
      exact ih.cons ⟨want, .ok bytes⟩ (StreamFetch.error?_brought something)
        (Nat.lt_of_lt_of_le (Nat.pos_of_ne_zero something) within)
        (by rw [StreamFetch.bytes_ok, length]; show want = _; omega)

/-- Where the first bytes do not all come, those behind them are never asked for. -/
theorem stop {e : TransportError} (took : Took want (some e) calls) (more : Nat) :
    Took (want + more) (some e) calls where
  all_iff := by
    have fewer : ¬ (brought calls).length = want := fun all => nomatch took.all_iff.2 all
    have := took.within
    simp only [reduceCtorEq, false_iff]
    omega
  within := Nat.le_add_right_of_le took.within
  shown := took.shown
  caused := took.caused
  asked before call after split := by
    obtain ⟨some, inside⟩ := took.asked before call after split
    exact ⟨some, Nat.le_add_right_of_le inside⟩

/-- Where the first bytes were brought, those behind them are asked for next. -/
theorem andThen (first : Took want none calls) (second : Took more failed others) :
    Took (want + more) failed (calls ++ others) where
  all_iff := by
    have all := first.all_iff.1 rfl
    rw [second.all_iff, StreamFetch.brought_append, List.length_append]
    omega
  within := by
    have := first.within
    have := second.within
    rw [StreamFetch.brought_append, List.length_append]
    omega
  shown before call after split e failing := by
    rcases split_append split with ⟨behind, early⟩ | ⟨middle, -, late⟩
    · exact nomatch (first.shown before call behind early e failing).2
    · exact second.shown middle call after late e failing
  caused e caused := by
    obtain ⟨before, last, split, failing⟩ := second.caused e caused
    exact ⟨calls ++ before, last, by rw [split, List.append_assoc], failing⟩
  asked before call after split := by
    have all := first.all_iff.1 rfl
    rcases split_append split with ⟨behind, early⟩ | ⟨middle, rfl, late⟩
    · obtain ⟨some, inside⟩ := first.asked before call behind early
      exact ⟨some, Nat.le_add_right_of_le inside⟩
    · obtain ⟨some, inside⟩ := second.asked middle call after late
      rw [StreamFetch.brought_append, List.length_append]
      exact ⟨some, by omega⟩

end Took

namespace Inlet

variable {σ : Type}

/-- An interrupted call is made again. -/
theorem readExact_interrupted (i : Inlet σ) {s s' : σ} {want : Nat} (wanted : want ≠ 0)
    (answered : i.call s want = (.error .interrupted, s')) (got : ByteArray) :
    i.readExact s want got = i.readExact s' want got := by
  rw [readExact, if_neg wanted]
  split <;> simp_all

theorem readExact_failed (i : Inlet σ) {s s' : σ} {want : Nat} {fault : StreamFault}
    (wanted : want ≠ 0) (shown : fault ≠ .interrupted)
    (answered : i.call s want = (.error fault, s')) (got : ByteArray) :
    i.readExact s want got = (.error (failure fault), s') := by
  rw [readExact, if_neg wanted]
  split <;> simp_all

theorem readExact_brought (i : Inlet σ) {s s' : σ} {want : Nat} {bytes : ByteArray}
    (wanted : want ≠ 0) (answered : i.call s want = (.ok bytes, s')) (got : ByteArray) :
    i.readExact s want got =
      if bytes.size = 0 then (.error .closed, s')
      else i.readExact s' (want - bytes.size) (got ++ bytes) := by
  rw [readExact, if_neg wanted]
  split <;> simp_all

/-- What is reported of a loop: the bytes in hand and those that were brought, or a failure. -/
def reports (got : ByteArray) (calls : List StreamFetch) :
    Option TransportError → Except TransportError ByteArray
  | none => .ok (got ++ ⟨(brought calls).toArray⟩)
  | some e => .error e

theorem reports_brought (got : ByteArray) (want : Nat) (bytes : ByteArray)
    (calls : List StreamFetch) (failed : Option TransportError) :
    reports got (⟨want, .ok bytes⟩ :: calls) failed = reports (got ++ bytes) calls failed := by
  cases failed with
  | some e => rfl
  | none =>
      refine congrArg Except.ok (ByteArray.ext (Array.ext' ?_))
      simp

/-- **The calls of one loop.**  They are those of a `Fetching`, and remembering them changes
nothing. -/
theorem readExact_fetching (i : Inlet σ) (s : σ) (want : Nat) (got : ByteArray) :
    ∃ failed s' calls, i.readExact s want got = (reports got calls failed, s') ∧
      (∀ log, i.logged.readExact (s, log) want got =
        (reports got calls failed, s', log ++ calls)) ∧
      Fetching want failed calls ∧ i.Made s calls s' := by
  fun_induction Inlet.readExact i s want got with
  | case1 s got =>
      have nothing : reports got [] none = .ok got := by
        refine congrArg Except.ok (ByteArray.ext (Array.ext' ?_))
        simp
      refine ⟨none, s, [], by rw [nothing], fun log => ?_, .done, .nil s⟩
      rw [readExact, if_pos rfl, nothing, List.append_nil]
  | case2 s want got wanted s' answer ih =>
      obtain ⟨failed, s'', calls, plain, same, fetching, made⟩ := ih
      refine ⟨failed, s'', _ :: calls, ?_, fun log => ?_, .interrupted wanted fetching,
        .cons answer made⟩
      · rw [plain]
        cases failed <;> rfl
      · rw [i.logged.readExact_interrupted wanted (logged_call answer log), same,
          List.append_assoc, List.singleton_append]
        cases failed <;> rfl
  | case3 s want got wanted fault s' shown answer =>
      refine ⟨some (failure fault), s', _, rfl, fun log => ?_, .failed wanted shown,
        .cons answer (.nil s')⟩
      exact i.logged.readExact_failed wanted shown (logged_call answer log) got
  | case4 s want got wanted bytes s' answer nothing =>
      refine ⟨some .closed, s', _, rfl, fun log => ?_, .ended wanted nothing,
        .cons answer (.nil s')⟩
      exact (i.logged.readExact_brought wanted (logged_call answer log) got).trans
        (if_pos nothing)
  | case5 s want got wanted bytes s' answer something ih =>
      obtain ⟨failed, s'', calls, plain, same, fetching, made⟩ := ih
      refine ⟨failed, s'', _ :: calls, ?_, fun log => ?_,
        .brought something (i.size_le answer) fetching, .cons answer made⟩
      · rw [plain, reports_brought]
      · rw [i.logged.readExact_brought wanted (logged_call answer log), if_neg something, same,
          reports_brought, List.append_assoc, List.singleton_append]

end Inlet

/-! ## One frame -/

namespace Frame

/-- The four bytes of a length are had again from it. -/
theorem header_headerValue {head : List UInt8} (four : head.length = 4) :
    header (headerValue head) = head := by
  obtain ⟨a, b, c, d, rfl⟩ : ∃ a b c d, head = [a, b, c, d] := by
    match head, four with
    | [a, b, c, d], _ => exact ⟨a, b, c, d, rfl⟩
  have := a.toNat_lt
  have := b.toNat_lt
  have := c.toNat_lt
  have := d.toNat_lt
  simp only [headerValue, header, List.foldl_cons, List.foldl_nil, List.cons.injEq, and_true]
  refine ⟨?_, ?_, ?_, ?_⟩ <;>
    · apply UInt8.toNat.inj
      rw [UInt8.toNat_ofNat']
      omega

/-- A frame is known by what it comes to on the wire. -/
theorem onWire_inj {frame other : ByteArray} (same : onWire frame = onWire other) :
    frame = other := by
  have data : frame.data.toList = other.data.toList := congrArg (List.drop 4) same
  exact ByteArray.ext (Array.ext' data)

end Frame

/-- What is known of the calls by which a frame is read. -/
structure Fetched (result : Except TransportError ByteArray) (calls : List StreamFetch) :
    Prop where
  /-- A frame is had just if the calls brought what it comes to on the wire. -/
  ok_iff : ∀ frame, result = .ok frame ↔
    frame.size ≤ Frame.maxLength ∧ brought calls = Frame.onWire frame
  /-- A call that failed, and was not just interrupted, was the last and is reported. -/
  shown : ∀ before call after, calls = before ++ call :: after → ∀ e, call.error? = some e →
    after = [] ∧ result = .error e
  /-- Nothing else is reported but a length that is too large. -/
  caused : ∀ e, result = .error e →
    (∃ before last, calls = before ++ [last] ∧ last.error? = some e) ∨
      ∃ size, Frame.maxLength < size ∧ e = .frameTooLarge size ∧ brought calls = Frame.header size
  /-- At least one byte is asked for, and none behind the length until it is known. -/
  asked : ∀ before call after, calls = before ++ call :: after →
    0 < call.want ∧ ((brought before).length < 4 → (brought before).length + call.want ≤ 4)
  /-- Behind the length no more is asked for than it says. -/
  said : ∀ before call after, calls = before ++ call :: after → 4 ≤ (brought before).length →
    Frame.headerValue ((brought before).take 4) ≤ Frame.maxLength ∧
      (brought before).length + call.want ≤ 4 + Frame.headerValue ((brought before).take 4)

namespace Fetched

variable {calls head body : List StreamFetch} {failed : Option TransportError}

/-- A stream that does not bring a length. -/
theorem of_head {e : TransportError} (took : Took 4 (some e) calls) : Fetched (.error e) calls where
  ok_iff frame := by
    have fewer : ¬ (brought calls).length = 4 := fun all => nomatch took.all_iff.2 all
    have within := took.within
    refine iff_of_false nofun ?_
    rintro ⟨-, all⟩
    have length := congrArg List.length all
    rw [Frame.onWire, List.length_append, show (Frame.header frame.size).length = 4 from rfl]
      at length
    omega
  shown before call after split e' failing := by
    obtain ⟨last, reported⟩ := took.shown before call after split e' failing
    exact ⟨last, congrArg Except.error (Option.some.inj reported)⟩
  caused e' caused := by
    obtain rfl := Except.error.inj caused
    exact .inl (took.caused e rfl)
  asked before call after split := by
    obtain ⟨some, inside⟩ := took.asked before call after split
    exact ⟨some, fun _ => inside⟩
  said before call after split behind := by
    obtain ⟨some, inside⟩ := took.asked before call after split
    omega

/-- A length that is too large: nothing is asked for behind it. -/
theorem of_tooLarge (took : Took 4 none calls)
    (large : Frame.maxLength < Frame.headerValue (brought calls)) :
    Fetched (.error (.frameTooLarge (Frame.headerValue (brought calls)))) calls where
  ok_iff frame := by
    refine iff_of_false nofun ?_
    rintro ⟨short, all⟩
    have first : Frame.header frame.size = brought calls := by
      have four := congrArg (List.take 4) all
      rw [List.take_of_length_le (Nat.le_of_eq (took.all_iff.1 rfl))] at four
      exact four.symm
    have value := Frame.headerValue_header (Nat.lt_of_le_of_lt short (by decide))
    rw [← first, value] at large
    omega
  shown before call after split e failing :=
    nomatch (took.shown before call after split e failing).2
  caused e caused := by
    obtain rfl := Except.error.inj caused
    exact .inr ⟨_, large, rfl, (Frame.header_headerValue (took.all_iff.1 rfl)).symm⟩
  asked before call after split := by
    obtain ⟨some, inside⟩ := took.asked before call after split
    exact ⟨some, fun _ => inside⟩
  said before call after split behind := by
    obtain ⟨some, inside⟩ := took.asked before call after split
    omega

/-- Behind a length that is not too large, a frame is had just if its bytes were brought. -/
theorem ok_iff_of_body (first : Took 4 none head)
    (short : Frame.headerValue (brought head) ≤ Frame.maxLength)
    (second : Took (Frame.headerValue (brought head)) failed body) (frame : ByteArray) :
    Inlet.reports .empty body failed = .ok frame ↔
      frame.size ≤ Frame.maxLength ∧ brought (head ++ body) = Frame.onWire frame := by
  have four := first.all_iff.1 rfl
  cases failed with
  | none =>
      have wire : Frame.header (Frame.headerValue (brought head)) = brought head :=
        Frame.header_headerValue four
      have size : (⟨(brought body).toArray⟩ : ByteArray).size =
          Frame.headerValue (brought head) := second.all_iff.1 rfl
      have onWire : brought (head ++ body) = Frame.onWire ⟨(brought body).toArray⟩ := by
        rw [Frame.onWire, size, wire, StreamFetch.brought_append]
      rw [Inlet.reports, ByteArray.empty_append, onWire, Except.ok.injEq]
      constructor
      · rintro rfl
        exact ⟨size ▸ short, rfl⟩
      · rintro ⟨-, same⟩
        exact Frame.onWire_inj same
  | some e =>
      refine iff_of_false (fun given => by cases given) ?_
      rintro ⟨small, all⟩
      rw [StreamFetch.brought_append, Frame.onWire] at all
      obtain ⟨length, data⟩ := List.append_inj all four
      have value := Frame.headerValue_header (Nat.lt_of_le_of_lt small (by decide))
      rw [← length] at value
      have whole : (brought body).length = Frame.headerValue (brought head) := by
        rw [data, value]
        simp
      cases second.all_iff.2 whole

/-- A length that is not too large, and what was brought behind it. -/
theorem of_body (first : Took 4 none head)
    (short : Frame.headerValue (brought head) ≤ Frame.maxLength)
    (second : Took (Frame.headerValue (brought head)) failed body) :
    Fetched (Inlet.reports .empty body failed) (head ++ body) where
  ok_iff := ok_iff_of_body first short second
  shown before call after split e failing := by
    obtain ⟨last, rfl⟩ := (first.andThen second).shown before call after split e failing
    exact ⟨last, rfl⟩
  caused e caused := by
    cases failed with
    | none => cases caused
    | some e' =>
        obtain rfl := Except.error.inj caused
        exact .inl ((first.andThen second).caused e' rfl)
  asked before call after split := by
    have four := first.all_iff.1 rfl
    rcases split_append split with ⟨behind, early⟩ | ⟨middle, rfl, late⟩
    · obtain ⟨some, inside⟩ := first.asked before call behind early
      exact ⟨some, fun _ => inside⟩
    · obtain ⟨some, inside⟩ := second.asked middle call after late
      rw [StreamFetch.brought_append, List.length_append]
      exact ⟨some, fun fewer => by omega⟩
  said before call after split behind := by
    have four := first.all_iff.1 rfl
    rcases split_append split with ⟨others, early⟩ | ⟨middle, rfl, late⟩
    · obtain ⟨some, inside⟩ := first.asked before call others early
      omega
    · obtain ⟨some, inside⟩ := second.asked middle call after late
      rw [StreamFetch.brought_append, List.take_left' four, List.length_append]
      exact ⟨short, by omega⟩

end Fetched

/-- **The calls for one frame.**  They are as `Fetched` says, and remembering them changes
nothing. -/
theorem Inlet.readFrame_fetched {σ : Type} (i : Inlet σ) (s : σ) :
    ∃ result s' calls, i.readFrame s = (result, s') ∧
      (∀ log, i.logged.readFrame (s, log) = (result, s', log ++ calls)) ∧
      Fetched result calls ∧ i.Made s calls s' := by
  obtain ⟨first, s₁, head, plain₁, same₁, fetching₁, made₁⟩ := i.readExact_fetching s 4 .empty
  have took₁ := Took.of_fetching fetching₁
  cases first with
  | some e =>
      refine ⟨.error e, s₁, head, ?_, fun log => ?_, .of_head took₁, made₁⟩
      · simp only [readFrame, plain₁, reports]
      · simp only [readFrame, same₁, reports]
  | none =>
      have four : (reports .empty head none) = .ok ⟨(brought head).toArray⟩ := by
        rw [reports, ByteArray.empty_append]
      rw [four] at plain₁ same₁
      by_cases large : Frame.maxLength < Frame.headerValue (brought head)
      · refine ⟨_, s₁, head, ?_, fun log => ?_, .of_tooLarge took₁ large, made₁⟩
        · simp only [readFrame, plain₁, if_pos large]
        · simp only [readFrame, same₁, if_pos large]
      · obtain ⟨second, s₂, body, plain₂, same₂, fetching₂, made₂⟩ :=
          i.readExact_fetching s₁ (Frame.headerValue (brought head)) .empty
        refine ⟨_, s₂, head ++ body, ?_, fun log => ?_,
          .of_body took₁ (Nat.not_lt.1 large) (.of_fetching fetching₂), made₁.trans made₂⟩
        · simp only [readFrame, plain₁, if_neg large, plain₂]
        · simp only [readFrame, same₁, if_neg large, same₂, List.append_assoc]

end HotSwap
