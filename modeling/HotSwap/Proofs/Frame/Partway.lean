/-
# HotSwap.Proofs.Frame.Partway -- frames on a stream that fails partway

Writing a frame is two loops of offers, one for the length and one for the frame, and then a
flush; a stream may accept a part of any offer, accept nothing, be interrupted or fail.  The calls
that are made are read off a stream that remembers them (`Outlet.logged`) and otherwise answers
as it always does.  One loop of offers takes one of five turns at each call (`Offering`), and
what can be said of all its calls is proved once by induction over them.

`Wrote` says what the calls for one frame have to do with the frame and with what is reported
about it, and `Outlet.writeFrames_successive` carries this along a sequence of frames, in which a
frame that failed partway leaves the stream as it is for the next.  For a stream in memory this
comes to a criterion: `Sink.writeFrame_ok_iff` says how much room a frame needs.
-/
import HotSwap.Proofs.Frame.Memory
import Mathlib.Data.List.Basic

namespace HotSwap

set_option autoImplicit false

/-- A call in a row of calls is the first of them or among the rest. -/
theorem split_cons {α : Type} {first call : α} {rest before after : List α}
    (split : first :: rest = before ++ call :: after) :
    (before = [] ∧ call = first ∧ after = rest) ∨
      ∃ front, before = first :: front ∧ rest = front ++ call :: after := by
  cases before with
  | nil =>
      obtain ⟨rfl, rfl⟩ := List.cons.inj split
      exact .inl ⟨rfl, rfl, rfl⟩
  | cons other front =>
      obtain ⟨rfl, tail⟩ := List.cons.inj split
      exact .inr ⟨front, rfl, tail⟩

theorem split_single {α : Type} {only call : α} {before after : List α}
    (split : [only] = before ++ call :: after) : before = [] ∧ call = only ∧ after = [] := by
  rcases split_cons split with found | ⟨front, -, none⟩
  · exact found
  · simp at none

/-- A call among two rows of calls is among the first or among the second. -/
theorem split_append {α : Type} {calls more before after : List α} {call : α}
    (split : calls ++ more = before ++ call :: after) :
    (∃ behind, calls = before ++ call :: behind) ∨
      ∃ middle, before = calls ++ middle ∧ more = middle ++ call :: after := by
  rcases List.append_eq_append_iff.1 split with ⟨middle, early, late⟩ | ⟨middle, early, late⟩
  · exact .inr ⟨middle, early, late⟩
  · cases middle with
    | nil => exact .inr ⟨[], by rw [early, List.append_nil, List.append_nil], late.symm⟩
    | cons other middle =>
        obtain ⟨rfl, -⟩ := List.cons.inj late
        exact .inl ⟨middle, early⟩

/-- A call of a stream one writes to, with its answer.  An offer is known by the bytes that were
left when it was made. -/
inductive StreamCall where
  | offer (left : List UInt8) (answer : Except StreamFault Nat)
  | flush (answer : Except StreamFault Unit)

namespace StreamCall

/-- The bytes that a call added to the stream. -/
def bytes : StreamCall → List UInt8
  | .offer left (.ok accepted) => left.take accepted
  | _ => []

/-- What has to be reported of a call.  An interrupted offer is made again instead. -/
def error? : StreamCall → Option TransportError
  | .offer _ (.ok 0) => some (.io .nothingAccepted)
  | .offer _ (.ok (_ + 1)) => none
  | .offer _ (.error .interrupted) => none
  | .offer _ (.error fault) => some (.io (.stream fault))
  | .flush (.ok ()) => none
  | .flush (.error fault) => some (.io (.stream fault))

/-- The bytes that some calls added to the stream. -/
def added (calls : List StreamCall) : List UInt8 := calls.flatMap bytes

@[simp] theorem added_nil : added [] = [] := rfl

@[simp] theorem added_cons (call : StreamCall) (calls : List StreamCall) :
    added (call :: calls) = call.bytes ++ added calls := rfl

@[simp] theorem added_append (calls more : List StreamCall) :
    added (calls ++ more) = added calls ++ added more := List.flatMap_append ..

@[simp] theorem bytes_flush (answer : Except StreamFault Unit) : (flush answer).bytes = [] := rfl

theorem error?_failed {left : List UInt8} {fault : StreamFault} (shown : fault ≠ .interrupted) :
    (offer left (.error fault)).error? = some (.io (.stream fault)) := by
  cases fault <;> first | rfl | exact absurd rfl shown

theorem error?_accepted {left : List UInt8} {accepted : Nat} (some : accepted ≠ 0) :
    (offer left (.ok accepted)).error? = none := by
  cases accepted with
  | zero => exact absurd rfl some
  | succ => rfl

end StreamCall

open StreamCall (added)

/-! ## A stream that remembers its calls -/

namespace Outlet

variable {σ : Type}

/-- The stream, with a list of the calls it answered. -/
def logged (o : Outlet σ) : Outlet (σ × List StreamCall) where
  offer s bytes index :=
    let answer := o.offer s.1 bytes index
    (answer.1, answer.2, s.2 ++ [.offer (bytes.data.toList.drop index) answer.1])
  flush s :=
    let answer := o.flush s.1
    (answer.1, answer.2, s.2 ++ [.flush answer.1])
  interruptions s := o.interruptions s.1
  accepted_le answer := o.accepted_le (Prod.ext (Prod.mk.inj answer).1 rfl)
  kept answer := by
    obtain ⟨answered, there⟩ := Prod.mk.inj answer
    rw [← there]
    exact o.kept (Prod.ext answered rfl)
  spent answer := by
    obtain ⟨answered, there⟩ := Prod.mk.inj answer
    rw [← there]
    exact o.spent (Prod.ext answered rfl)

theorem logged_offer {o : Outlet σ} {s s' : σ} {bytes : ByteArray} {index : Nat}
    {answer : Except StreamFault Nat} (answered : o.offer s bytes index = (answer, s'))
    (log : List StreamCall) :
    o.logged.offer (s, log) bytes index =
      (answer, s', log ++ [.offer (bytes.data.toList.drop index) answer]) := by
  simp only [logged, answered]

theorem logged_flush {o : Outlet σ} {s s' : σ} {answer : Except StreamFault Unit}
    (answered : o.flush s = (answer, s')) (log : List StreamCall) :
    o.logged.flush (s, log) = (answer, s', log ++ [.flush answer]) := by
  simp only [logged, answered]

/-- A stream of which is known what was written to it: what an offer accepts is added, and
nothing else changes it. -/
structure Records (o : Outlet σ) (written : σ → List UInt8) : Prop where
  accepted : ∀ {s s' : σ} {bytes : ByteArray} {index accepted : Nat},
    o.offer s bytes index = (.ok accepted, s') →
      written s' = written s ++ (bytes.data.toList.drop index).take accepted
  failed : ∀ {s s' : σ} {bytes : ByteArray} {index : Nat} {fault : StreamFault},
    o.offer s bytes index = (.error fault, s') → written s' = written s
  flushed : ∀ {s s' : σ} {answer : Except StreamFault Unit},
    o.flush s = (answer, s') → written s' = written s

/-- Between two states the calls added their bytes, and nothing else was written. -/
def Appends (o : Outlet σ) (s : σ) (calls : List StreamCall) (s' : σ) : Prop :=
  ∀ written : σ → List UInt8, o.Records written → written s' = written s ++ added calls

namespace Appends

variable {o : Outlet σ} {s s' s'' : σ} {calls more : List StreamCall}

theorem refl (o : Outlet σ) (s : σ) : o.Appends s [] s := by
  intro written records
  rw [StreamCall.added_nil, List.append_nil]

theorem trans (first : o.Appends s calls s') (second : o.Appends s' more s'') :
    o.Appends s (calls ++ more) s'' := by
  intro written records
  rw [second written records, first written records, StreamCall.added_append, List.append_assoc]

theorem offer {bytes : ByteArray} {index : Nat} {answer : Except StreamFault Nat}
    (answered : o.offer s bytes index = (answer, s')) :
    o.Appends s [.offer (bytes.data.toList.drop index) answer] s' := by
  intro written records
  rw [StreamCall.added_cons, StreamCall.added_nil, List.append_nil]
  cases answer with
  | error fault => exact (records.failed answered).trans (List.append_nil _).symm
  | ok accepted => exact records.accepted answered

theorem flush {answer : Except StreamFault Unit} (answered : o.flush s = (answer, s')) :
    o.Appends s [.flush answer] s' := by
  intro written records
  rw [StreamCall.added_cons, StreamCall.added_nil, StreamCall.bytes_flush, List.append_nil]
  exact (records.flushed answered).trans (List.append_nil _).symm

end Appends

end Outlet

/-! ## One loop of offers -/

/-- The calls by which some bytes are offered until all are accepted, or until a call fails. -/
inductive Offering : List UInt8 → Except TransportError Unit → List StreamCall → Prop
  | done : Offering [] (.ok ()) []
  | interrupted {left : List UInt8} {result : Except TransportError Unit}
      {calls : List StreamCall} (some : left ≠ []) (again : Offering left result calls) :
      Offering left result (.offer left (.error .interrupted) :: calls)
  | failed {left : List UInt8} {fault : StreamFault} (some : left ≠ [])
      (shown : fault ≠ .interrupted) :
      Offering left (.error (.io (.stream fault))) [.offer left (.error fault)]
  | refused {left : List UInt8} (some : left ≠ []) :
      Offering left (.error (.io .nothingAccepted)) [.offer left (.ok 0)]
  | accepted {left : List UInt8} {accepted : Nat} {result : Except TransportError Unit}
      {calls : List StreamCall} (some : left ≠ []) (moved : accepted ≠ 0)
      (rest : Offering (left.drop accepted) result calls) :
      Offering left result (.offer left (.ok accepted) :: calls)

namespace Offering

variable {left : List UInt8} {result : Except TransportError Unit} {calls : List StreamCall}

/-- What is added is the front of what was offered, and all of it just if that is reported. -/
theorem front (offering : Offering left result calls) :
    ∃ more, left = added calls ++ more ∧ (result = .ok () ↔ more = []) := by
  induction offering with
  | done => exact ⟨[], rfl, by simp⟩
  | interrupted some again ih => exact ih
  | @failed left fault some shown => exact ⟨left, rfl, by simp [some]⟩
  | @refused left some => exact ⟨left, rfl, by simp [some]⟩
  | @accepted left accepted result calls some moved rest ih =>
      obtain ⟨more, split, whole⟩ := ih
      refine ⟨more, ?_, whole⟩
      rw [StreamCall.added_cons, List.append_assoc, ← split]
      exact (List.take_append_drop accepted left).symm

/-- A call that has to be reported is reported. -/
theorem shown (offering : Offering left result calls) :
    ∀ call ∈ calls, ∀ e, call.error? = some e → result = .error e := by
  induction offering with
  | done => simp
  | interrupted some again ih => simpa [StreamCall.error?] using ih
  | failed some shown =>
      intro call member e failing
      rw [List.mem_singleton.1 member, StreamCall.error?_failed shown] at failing
      rw [Option.some.inj failing]
  | refused some =>
      intro call member e failing
      rw [List.mem_singleton.1 member] at failing
      exact congrArg _ (Option.some.inj failing)
  | accepted some moved rest ih => simpa [StreamCall.error?_accepted moved] using ih

/-- What is reported is the failure of the last call. -/
theorem caused (offering : Offering left result calls) {e : TransportError}
    (failed : result = .error e) :
    ∃ before last, calls = before ++ [last] ∧ last.error? = some e := by
  induction offering with
  | done => cases failed
  | interrupted some again ih =>
      obtain ⟨before, last, split, failing⟩ := ih failed
      exact ⟨_ :: before, last, congrArg _ split, failing⟩
  | failed some shown =>
      cases failed
      exact ⟨[], _, rfl, StreamCall.error?_failed shown⟩
  | refused some =>
      cases failed
      exact ⟨[], _, rfl, rfl⟩
  | accepted some moved rest ih =>
      obtain ⟨before, last, split, failing⟩ := ih failed
      exact ⟨_ :: before, last, congrArg _ split, failing⟩

/-- Each call offers what is left behind the bytes that were accepted before, and there is
something left. -/
theorem wanted (offering : Offering left result calls) {before after : List StreamCall}
    {call : StreamCall} (split : calls = before ++ call :: after) :
    ∃ rest answer, call = .offer rest answer ∧ rest ≠ [] ∧ added before ++ rest = left := by
  induction offering generalizing before with
  | done => simp at split
  | interrupted some again ih =>
      rcases split_cons split with ⟨rfl, rfl, -⟩ | ⟨front, rfl, tail⟩
      · exact ⟨_, _, rfl, some, rfl⟩
      · obtain ⟨rest, answer, offered, nonempty, behind⟩ := ih tail
        exact ⟨rest, answer, offered, nonempty, behind⟩
  | failed some shown =>
      obtain ⟨rfl, rfl, -⟩ := split_single split
      exact ⟨_, _, rfl, some, rfl⟩
  | refused some =>
      obtain ⟨rfl, rfl, -⟩ := split_single split
      exact ⟨_, _, rfl, some, rfl⟩
  | @accepted left accepted result calls some moved rest ih =>
      rcases split_cons split with ⟨rfl, rfl, -⟩ | ⟨front, rfl, tail⟩
      · exact ⟨_, _, rfl, some, rfl⟩
      · obtain ⟨rest, answer, offered, nonempty, behind⟩ := ih tail
        refine ⟨rest, answer, offered, nonempty, ?_⟩
        rw [StreamCall.added_cons, List.append_assoc, behind]
        exact List.take_append_drop accepted left

end Offering

/-- What is known of the calls by which some bytes are offered. -/
structure Offered (left : List UInt8) (result : Except TransportError Unit)
    (calls : List StreamCall) : Prop where
  front : ∃ more, left = added calls ++ more ∧ (result = .ok () ↔ more = [])
  shown : ∀ call ∈ calls, ∀ e, call.error? = some e → result = .error e
  caused : ∀ e, result = .error e →
    ∃ before last, calls = before ++ [last] ∧ last.error? = some e
  wanted : ∀ before call after, calls = before ++ call :: after →
    ∃ rest answer, call = .offer rest answer ∧ rest ≠ [] ∧ added before ++ rest <+: left

namespace Offered

variable {left right : List UInt8} {result : Except TransportError Unit}
  {calls more : List StreamCall}

theorem of_offering (offering : Offering left result calls) : Offered left result calls where
  front := offering.front
  shown := offering.shown
  caused _ failed := offering.caused failed
  wanted before call after split := by
    obtain ⟨rest, answer, offered, nonempty, behind⟩ := offering.wanted split
    exact ⟨rest, answer, offered, nonempty, behind ▸ List.prefix_rfl⟩

theorem added_ok (offered : Offered left (.ok ()) calls) : added calls = left := by
  obtain ⟨rest, split, whole⟩ := offered.front
  rw [split, whole.1 rfl, List.append_nil]

theorem added_ne {e : TransportError} (offered : Offered left (.error e) calls) :
    added calls ≠ left := by
  obtain ⟨rest, split, whole⟩ := offered.front
  intro all
  rw [all] at split
  cases whole.2 (List.self_eq_append_right.1 split)

/-- No call is a flush. -/
theorem flush_not_mem (offered : Offered left result calls) (answer : Except StreamFault Unit) :
    StreamCall.flush answer ∉ calls := by
  intro member
  obtain ⟨before, after, split⟩ := List.append_of_mem member
  obtain ⟨rest, answer, call, -⟩ := offered.wanted before _ after split
  cases call

/-- Where the first bytes fail, those behind them are never offered. -/
theorem stop {e : TransportError} (offered : Offered left (.error e) calls) :
    Offered (left ++ right) (.error e) calls where
  front := by
    obtain ⟨rest, split, whole⟩ := offered.front
    have some : rest ≠ [] := fun none => nomatch whole.2 none
    exact ⟨rest ++ right, by rw [split, List.append_assoc], by simp [some]⟩
  shown := offered.shown
  caused := offered.caused
  wanted before call after split := by
    obtain ⟨rest, answer, call, nonempty, behind⟩ := offered.wanted before call after split
    exact ⟨rest, answer, call, nonempty, behind.trans (List.prefix_append left right)⟩

/-- Where the first bytes are accepted, those behind them are offered next. -/
theorem andThen (first : Offered left (.ok ()) calls) (second : Offered right result more) :
    Offered (left ++ right) result (calls ++ more) where
  front := by
    obtain ⟨rest, split, whole⟩ := second.front
    refine ⟨rest, ?_, whole⟩
    rw [StreamCall.added_append, first.added_ok, List.append_assoc, ← split]
  shown call member e failing := by
    rcases List.mem_append.1 member with early | late
    · cases first.shown call early e failing
    · exact second.shown call late e failing
  caused e failed := by
    obtain ⟨before, last, split, failing⟩ := second.caused e failed
    exact ⟨calls ++ before, last, by rw [split, List.append_assoc], failing⟩
  wanted before call after split := by
    rcases split_append split with ⟨behind, early⟩ | ⟨middle, rfl, late⟩
    · obtain ⟨rest, answer, offered, nonempty, next⟩ := first.wanted before call behind early
      exact ⟨rest, answer, offered, nonempty, next.trans (List.prefix_append left right)⟩
    · obtain ⟨rest, answer, offered, nonempty, next⟩ := second.wanted middle call after late
      refine ⟨rest, answer, offered, nonempty, ?_⟩
      rw [StreamCall.added_append, first.added_ok, List.append_assoc]
      exact (List.prefix_append_right_inj left).2 next

end Offered

namespace Outlet

variable {σ : Type}

/-- An interrupted call is made again. -/
theorem writeAll_interrupted (o : Outlet σ) {s s' : σ} {bytes : ByteArray} {index : Nat}
    (left : ¬ bytes.size ≤ index) (answered : o.offer s bytes index = (.error .interrupted, s')) :
    o.writeAll s bytes index = o.writeAll s' bytes index := by
  rw [writeAll, if_neg left]
  split <;> simp_all

theorem writeAll_failed (o : Outlet σ) {s s' : σ} {bytes : ByteArray} {index : Nat}
    {fault : StreamFault} (left : ¬ bytes.size ≤ index) (shown : fault ≠ .interrupted)
    (answered : o.offer s bytes index = (.error fault, s')) :
    o.writeAll s bytes index = (.error (.io (.stream fault)), s') := by
  rw [writeAll, if_neg left]
  split <;> simp_all

theorem writeAll_accepted (o : Outlet σ) {s s' : σ} {bytes : ByteArray} {index accepted : Nat}
    (left : ¬ bytes.size ≤ index) (answered : o.offer s bytes index = (.ok accepted, s')) :
    o.writeAll s bytes index =
      if accepted = 0 then (.error (.io .nothingAccepted), s')
      else o.writeAll s' bytes (index + accepted) := by
  rw [writeAll, if_neg left]
  split <;> simp_all

/-- **The calls of one loop.**  They are those of an `Offering`, and remembering them changes
nothing. -/
theorem writeAll_offering (o : Outlet σ) (s : σ) (bytes : ByteArray) (index : Nat) :
    ∃ result s' calls, o.writeAll s bytes index = (result, s') ∧
      (∀ log, o.logged.writeAll (s, log) bytes index = (result, s', log ++ calls)) ∧
      Offering (bytes.data.toList.drop index) result calls ∧ o.Appends s calls s' := by
  fun_induction Outlet.writeAll o s bytes index with
  | case1 s index done =>
      refine ⟨_, s, [], rfl, ?_, ?_, .refl o s⟩
      · intro log
        rw [writeAll, if_pos done, List.append_nil]
      · rw [List.drop_of_length_le (by simpa using done)]
        exact .done
  | case2 s index left s' answer ih =>
      obtain ⟨result, s'', calls, plain, same, offering, appends⟩ := ih
      refine ⟨result, s'', _ :: calls, plain, ?_, .interrupted ?_ offering,
        (Appends.offer answer).trans appends⟩
      · intro log
        rw [o.logged.writeAll_interrupted left (logged_offer answer log), same,
          List.append_assoc, List.singleton_append]
      · simpa using left
  | case3 s index left fault s' shown answer =>
      refine ⟨_, s', _, rfl, ?_, .failed ?_ shown, .offer answer⟩
      · intro log
        exact o.logged.writeAll_failed left shown (logged_offer answer log)
      · simpa using left
  | case4 s index left s' answer =>
      refine ⟨_, s', _, rfl, ?_, .refused ?_, .offer answer⟩
      · intro log
        exact (o.logged.writeAll_accepted left (logged_offer answer log)).trans (if_pos rfl)
      · simpa using left
  | case5 s index left accepted s' answer moved ih =>
      obtain ⟨result, s'', calls, plain, same, offering, appends⟩ := ih
      refine ⟨result, s'', _ :: calls, plain, ?_, .accepted ?_ moved ?_,
        (Appends.offer answer).trans appends⟩
      · intro log
        rw [o.logged.writeAll_accepted left (logged_offer answer log), if_neg moved, same,
          List.append_assoc, List.singleton_append]
      · simpa using left
      · rwa [List.drop_drop]

end Outlet

/-! ## One frame -/

/-- What a frame comes to on the wire. -/
def Frame.onWire (frame : ByteArray) : List UInt8 :=
  Frame.header frame.size ++ frame.data.toList

theorem Frame.onWire_empty {frame : ByteArray} (empty : frame.size = 0) :
    Frame.onWire frame = Frame.header 0 := by
  have none : frame.data.toList = [] := List.eq_nil_of_length_eq_zero empty
  rw [onWire, empty, none, List.append_nil]

/-- What is known of the calls by which a frame is written. -/
structure Wrote (frame : ByteArray) (result : Except TransportError Unit)
    (calls : List StreamCall) : Prop where
  /-- A frame that is too long is refused without any call. -/
  tooLong : Frame.maxLength < frame.size →
    result = .error (.frameTooLarge frame.size) ∧ calls = []
  /-- The stream is given the front of what the frame comes to. -/
  front : added calls <+: Frame.onWire frame
  /-- The frame is reported as written just if the stream was given all of it, and flushed. -/
  ok_iff : result = .ok () ↔
    added calls = Frame.onWire frame ∧ StreamCall.flush (.ok ()) ∈ calls
  /-- A call that failed, or accepted nothing, is reported. -/
  shown : ∀ call ∈ calls, ∀ e, call.error? = some e → result = .error e
  /-- Nothing else is reported, and what is reported was the last call. -/
  caused : frame.size ≤ Frame.maxLength → ∀ e, result = .error e →
    (∃ cause, e = .io cause) ∧ ∃ before last, calls = before ++ [last] ∧ last.error? = some e
  /-- Only bytes that come next are offered, and at least one. -/
  wanted : ∀ before rest answer after, calls = before ++ .offer rest answer :: after →
    rest ≠ [] ∧ added before ++ rest <+: Frame.onWire frame
  /-- The stream is flushed just if it was given the whole frame. -/
  flushed : (∃ answer, StreamCall.flush answer ∈ calls) ↔ added calls = Frame.onWire frame
  /-- Of an empty frame the stream has to accept the four bytes of its length; the only call
  behind them is the flush. -/
  bare : frame.size = 0 → ∀ before call after, calls = before ++ call :: after →
    added before = Frame.header 0 → ∃ answer, call = .flush answer

namespace StreamCall

/-- Whatever is reported of a call is a failure of the stream. -/
theorem error?_io {call : StreamCall} {e : TransportError} (failing : call.error? = some e) :
    ∃ cause, e = .io cause := by
  unfold error? at failing
  split at failing <;> cases failing <;> exact ⟨_, rfl⟩

end StreamCall

namespace Wrote

variable {frame : ByteArray} {result : Except TransportError Unit} {calls : List StreamCall}

/-- A frame that is too long. -/
theorem of_tooLong (large : Frame.maxLength < frame.size) :
    Wrote frame (.error (.frameTooLarge frame.size)) [] where
  tooLong _ := ⟨rfl, rfl⟩
  front := List.nil_prefix
  ok_iff := by simp
  shown := by simp
  caused short := absurd large (Nat.not_lt.2 short)
  wanted := by simp
  flushed := by simp [Frame.onWire, Frame.header]
  bare := by simp

/-- Behind the bytes of an empty frame's length nothing is offered. -/
theorem bare_of_wanted (empty : frame.size = 0) {before : List StreamCall} {rest : List UInt8}
    (nonempty : rest ≠ []) (behind : added before ++ rest <+: Frame.onWire frame) :
    added before ≠ Frame.header 0 := by
  intro all
  rw [all, Frame.onWire_empty empty] at behind
  have := behind.length_le
  rw [List.length_append] at this
  have := List.length_pos_iff.2 nonempty
  omega

/-- A frame that fails before all of it was accepted. -/
theorem of_failed {e : TransportError} (short : frame.size ≤ Frame.maxLength)
    (offered : Offered (Frame.onWire frame) (.error e) calls) : Wrote frame (.error e) calls where
  tooLong large := absurd short (Nat.not_le.2 large)
  front := by
    obtain ⟨rest, split, -⟩ := offered.front
    exact ⟨rest, split.symm⟩
  ok_iff := by
    constructor
    · intro ok
      cases ok
    · rintro ⟨all, -⟩
      exact absurd all offered.added_ne
  shown := offered.shown
  caused _ e failed := by
    obtain ⟨before, last, split, failing⟩ := offered.caused e failed
    exact ⟨StreamCall.error?_io failing, before, last, split, failing⟩
  wanted before rest answer after split := by
    obtain ⟨rest, answer, call, nonempty, behind⟩ := offered.wanted before _ after split
    cases call
    exact ⟨nonempty, behind⟩
  flushed := by
    constructor
    · rintro ⟨answer, member⟩
      exact absurd member (offered.flush_not_mem answer)
    · intro all
      exact absurd all offered.added_ne
  bare empty before call after split all := by
    obtain ⟨rest, answer, rfl, nonempty, behind⟩ := offered.wanted before call after split
    exact absurd all (bare_of_wanted empty nonempty behind)

/-- How a flush is reported. -/
def flushResult : Except StreamFault Unit → Except TransportError Unit
  | .ok () => .ok ()
  | .error fault => .error (.io (.stream fault))

/-- A frame that is accepted as a whole, and flushed. -/
theorem of_flushed (short : frame.size ≤ Frame.maxLength)
    (offered : Offered (Frame.onWire frame) (.ok ()) calls) (answer : Except StreamFault Unit) :
    Wrote frame (flushResult answer) (calls ++ [.flush answer]) := by
  have all : added (calls ++ [.flush answer]) = Frame.onWire frame := by
    rw [StreamCall.added_append, offered.added_ok]
    exact List.append_nil _
  have early_or_flush : ∀ before call after, calls ++ [.flush answer] = before ++ call :: after →
      (∃ behind, calls = before ++ call :: behind) ∨ call = .flush answer := by
    intro before call after split
    rcases split_append split with early | ⟨middle, -, late⟩
    · exact .inl early
    · have last : call ∈ [StreamCall.flush answer] := by simp [late]
      exact .inr (List.mem_singleton.1 last)
  constructor
  case tooLong => exact fun large => absurd short (Nat.not_le.2 large)
  case front => exact all ▸ List.prefix_rfl
  case ok_iff =>
    have member : StreamCall.flush (.ok ()) ∈ calls ++ [.flush answer] ↔ answer = .ok () := by
      simp [offered.flush_not_mem, eq_comm]
    rw [member]
    cases answer <;> simp [flushResult, all]
  case shown =>
    intro call member e failing
    rcases List.mem_append.1 member with early | late
    · cases offered.shown call early e failing
    · rw [List.mem_singleton.1 late] at failing
      cases answer with
      | error fault => exact congrArg _ (Option.some.inj failing)
      | ok done => cases failing
  case caused =>
    intro _ e failed
    cases answer with
    | error fault =>
        cases failed
        exact ⟨⟨_, rfl⟩, calls, _, rfl, rfl⟩
    | ok done => cases failed
  case wanted =>
    intro before rest answer' after split
    rcases early_or_flush before _ after split with ⟨behind, early⟩ | flush
    · obtain ⟨rest, answer, call, nonempty, next⟩ := offered.wanted before _ behind early
      cases call
      exact ⟨nonempty, next⟩
    · cases flush
  case flushed =>
    exact ⟨fun _ => all, fun _ => ⟨answer, List.mem_append_right _ (List.mem_singleton_self _)⟩⟩
  case bare =>
    intro empty before call after split four
    rcases early_or_flush before call after split with ⟨behind, early⟩ | flush
    · obtain ⟨rest, answer, rfl, nonempty, next⟩ := offered.wanted before call behind early
      exact absurd four (bare_of_wanted empty nonempty next)
    · exact ⟨answer, flush⟩

end Wrote

namespace Outlet

variable {σ : Type}

/-- The frame's length and then the frame are offered, and then there is a flush. -/
theorem writeFrame_wrote (o : Outlet σ) (s : σ) (frame : ByteArray) :
    ∃ result s' calls, o.writeFrame s frame = (result, s') ∧
      (∀ log, o.logged.writeFrame (s, log) frame = (result, s', log ++ calls)) ∧
      Wrote frame result calls ∧ o.Appends s calls s' := by
  by_cases large : Frame.maxLength < frame.size
  · refine ⟨_, s, [], if_pos large, ?_, .of_tooLong large, .refl o s⟩
    intro log
    rw [writeFrame, if_pos large, List.append_nil]
  have short := Nat.not_lt.1 large
  obtain ⟨first, s₁, calls₁, plain₁, same₁, offering₁, appends₁⟩ :=
    o.writeAll_offering s ⟨(Frame.header frame.size).toArray⟩ 0
  have head := Offered.of_offering offering₁
  rw [List.drop_zero] at head
  cases first with
  | error e =>
      refine ⟨.error e, s₁, calls₁, ?_, ?_, .of_failed short head.stop, appends₁⟩
      · simp only [writeFrame, if_neg large, plain₁]
      · intro log
        simp only [writeFrame, if_neg large, same₁]
  | ok done =>
      obtain ⟨second, s₂, calls₂, plain₂, same₂, offering₂, appends₂⟩ :=
        o.writeAll_offering s₁ frame 0
      have both := head.andThen (.of_offering offering₂)
      rw [List.drop_zero] at both
      cases second with
      | error e =>
          refine ⟨.error e, s₂, calls₁ ++ calls₂, ?_, ?_, .of_failed short both,
            appends₁.trans appends₂⟩
          · simp only [writeFrame, if_neg large, plain₁, plain₂]
          · intro log
            simp only [writeFrame, if_neg large, same₁, same₂, List.append_assoc]
      | ok done =>
          obtain ⟨answer, s₃, answered⟩ : ∃ answer s₃, o.flush s₂ = (answer, s₃) := ⟨_, _, rfl⟩
          refine ⟨Wrote.flushResult answer, s₃, (calls₁ ++ calls₂) ++ [.flush answer], ?_, ?_,
            .of_flushed short both answer, (appends₁.trans appends₂).trans (.flush answered)⟩
          · simp only [writeFrame, if_neg large, plain₁, plain₂, answered]
            cases answer <;> rfl
          · intro log
            simp only [writeFrame, if_neg large, same₁, same₂, logged_flush answered,
              List.append_assoc]
            cases answer <;> rfl

/-- Writes frames one after another, whatever comes of each. -/
def writeFrames (o : Outlet σ) (s : σ) : List ByteArray → List (Except TransportError Unit) × σ
  | [] => ([], s)
  | frame :: frames =>
      let first := o.writeFrame s frame
      let others := o.writeFrames first.2 frames
      (first.1 :: others.1, others.2)

/-- Frames that were written one after another, with what was reported of each, the calls that
were made and the state of the stream behind the last. -/
inductive Successive (o : Outlet σ) : σ → List ByteArray → List (Except TransportError Unit) →
    List StreamCall → σ → Prop
  | nil (s : σ) : o.Successive s [] [] [] s
  | cons {s s' s'' : σ} {frame : ByteArray} {frames : List ByteArray}
      {result : Except TransportError Unit} {results : List (Except TransportError Unit)}
      {calls more : List StreamCall} (same : o.writeFrame s frame = (result, s'))
      (made : o.logged.writeFrame (s, []) frame = (result, s', calls))
      (wrote : Wrote frame result calls) (appends : o.Appends s calls s')
      (others : o.Successive s' frames results more s'') :
      o.Successive s (frame :: frames) (result :: results) (calls ++ more) s''

/-- The calls for all of the frames added their bytes, and nothing else was written. -/
theorem Successive.appends {o : Outlet σ} {s s' : σ} {frames : List ByteArray}
    {results : List (Except TransportError Unit)} {calls : List StreamCall}
    (successive : o.Successive s frames results calls s') : o.Appends s calls s' := by
  induction successive with
  | nil s => exact .refl o s
  | cons same made wrote appends others ih => exact appends.trans ih

/-- **Frames on a stream that may fail anywhere.**  Whatever the stream answers, each frame of a
sequence is written as `Wrote` says, from the state in which the one before it left the stream. -/
theorem writeFrames_successive (o : Outlet σ) (s : σ) (frames : List ByteArray) :
    ∃ results s' calls, o.writeFrames s frames = (results, s') ∧
      (∀ log, o.logged.writeFrames (s, log) frames = (results, s', log ++ calls)) ∧
      o.Successive s frames results calls s' := by
  induction frames generalizing s with
  | nil =>
      refine ⟨[], s, [], rfl, ?_, .nil s⟩
      intro log
      rw [List.append_nil]
      rfl
  | cons frame frames ih =>
      obtain ⟨result, s₁, calls, plain, same, wrote, appends⟩ := o.writeFrame_wrote s frame
      obtain ⟨results, s₂, more, others, same', successive⟩ := ih s₁
      refine ⟨result :: results, s₂, calls ++ more, ?_, ?_,
        .cons plain (same []) wrote appends successive⟩
      · simp only [writeFrames, plain, others]
      · intro log
        simp only [writeFrames, same, same', List.append_assoc]

end Outlet

/-! ## Room in memory -/

namespace Sink

/-- A sink knows what was written to it. -/
theorem records : outlet.Records fun s => s.written.data.toList where
  accepted {s s' bytes index accepted} answered := by
    simp only [outlet, offer] at answered
    split at answered
    · cases answered
    · cases answered
      rw [push, ByteArray.data_append, Array.toList_append, ByteArray.data_extract,
        Array.toList_extract, List.extract_eq_take_drop, Nat.add_sub_cancel_left]
  failed {s s' bytes index fault} answered := by
    simp only [outlet, offer] at answered
    split at answered <;> cases answered
    rfl
  flushed answered := by
    cases answered
    rfl

/-- A sink that accepts three bytes at a time, and nine in all, and is interrupted once. -/
def cramped : Sink := { chunk := some 3, limit := some 9, fault := some (2, .interrupted) }

/-- Frames of which it has room for the first and for the length of the second. -/
def crampedFrames : List ByteArray := [⟨#[1]⟩, ⟨#[2, 3]⟩, .empty]

theorem cramped_successive :
    ∃ calls after,
      outlet.Successive cramped crampedFrames
          [.ok (), .error (.io .nothingAccepted), .error (.io .nothingAccepted)] calls after ∧
        added calls = [0, 0, 0, 1, 1, 0, 0, 0, 2] ∧
        after.written.data.toList = added calls := by
  obtain ⟨results, after, calls, same, -, successive⟩ :=
    outlet.writeFrames_successive cramped crampedFrames
  obtain ⟨rfl, rfl⟩ := Prod.mk.inj same
  have wrote : (outlet.writeFrames cramped crampedFrames).2.written.data.toList = added calls :=
    successive.appends _ records
  have told : (outlet.writeFrames cramped crampedFrames).1 =
      [.ok (), .error (.io .nothingAccepted), .error (.io .nothingAccepted)] := by
    decide +kernel
  refine ⟨calls, _, told ▸ successive, ?_, wrote⟩
  rw [← wrote]
  decide +kernel

/-- A sink that will accept so many more bytes: its calls accept something, its limit is not
reached before, and neither is a failure that is shown. -/
structure Admits (s : Sink) (n : Nat) : Prop where
  moving : s.chunk ≠ some 0
  room : ∀ limit ∈ s.limit, s.written.size + n ≤ limit
  calm : ∀ fault ∈ s.fault, fault.2 = .interrupted ∨ s.written.size + n ≤ fault.1

/-- A sink to which so many bytes were added without a failure that is shown. -/
structure Added (s : Sink) (n : Nat) (s' : Sink) : Prop where
  chunk : s'.chunk = s.chunk
  limit : s'.limit = s.limit
  flushFails : s'.flushFails = s.flushFails
  size : s'.written.size = s.written.size + n
  fault : s'.fault = s.fault ∨ (s'.fault = none ∧ ∀ fault ∈ s.fault, fault.2 = .interrupted)

theorem Admits.mono {s : Sink} {n m : Nat} (admits : s.Admits m) (fewer : n ≤ m) :
    s.Admits n where
  moving := admits.moving
  room limit given := by
    have := admits.room limit given
    omega
  calm fault coming := (admits.calm fault coming).imp_right fun ahead => by omega

theorem Added.refl (s : Sink) : s.Added 0 s := ⟨rfl, rfl, rfl, rfl, .inl rfl⟩

theorem Added.trans {s s' s'' : Sink} {n m : Nat} (first : s.Added n s') (second : s'.Added m s'') :
    s.Added (n + m) s'' where
  chunk := second.chunk.trans first.chunk
  limit := second.limit.trans first.limit
  flushFails := second.flushFails.trans first.flushFails
  size := by rw [second.size, first.size, Nat.add_assoc]
  fault := by
    rcases first.fault with same | ⟨none, calm⟩
    · rw [← same]
      exact second.fault
    · refine .inr ⟨?_, calm⟩
      rcases second.fault with same | ⟨gone, -⟩
      · exact same.trans none
      · exact gone

/-- Room for the bytes that follow is room behind those that were added. -/
theorem Added.admits_iff {s s' : Sink} {n m : Nat} (added : s.Added n s') :
    s'.Admits m ↔ s.Admits (n + m) := by
  have behind : s'.written.size + m = s.written.size + (n + m) := by
    rw [added.size, Nat.add_assoc]
  constructor
  · intro admits
    refine ⟨added.chunk ▸ admits.moving, ?_, ?_⟩
    · rw [← behind, ← added.limit]
      exact admits.room
    · rcases added.fault with same | ⟨-, calm⟩
      · rw [← behind, ← same]
        exact admits.calm
      · exact fun fault coming => .inl (calm fault coming)
  · intro admits
    refine ⟨added.chunk ▸ admits.moving, ?_, ?_⟩
    · rw [behind, added.limit]
      exact admits.room
    · rcases added.fault with same | ⟨none, -⟩
      · rw [behind, same]
        exact admits.calm
      · simp [none]

/-- The failure that is due was to come, at an offset that is reached. -/
theorem due_cases {s : Sink} {fault : StreamFault} (due : s.due? = some fault) :
    ∃ offset, s.fault = some (offset, fault) ∧ offset ≤ s.written.size := by
  unfold due? at due
  split at due
  · cases due
  · rename_i next coming
    by_cases reached : next.1 ≤ s.written.size
    · rw [if_pos reached] at due
      cases due
      exact ⟨next.1, coming, reached⟩
    · rw [if_neg reached] at due
      cases due

theorem offer_interrupted {s s' : Sink} {bytes : ByteArray} {index : Nat}
    (answered : outlet.offer s bytes index = (.error .interrupted, s')) : s.Added 0 s' := by
  simp only [outlet, offer] at answered
  split at answered
  · rename_i due
    cases answered
    obtain ⟨offset, coming, -⟩ := due_cases due
    exact ⟨rfl, rfl, rfl, rfl, .inr ⟨rfl, by simp [coming]⟩⟩
  · cases answered

/-- A sink that shows a failure admits nothing more. -/
theorem offer_failed {s s' : Sink} {bytes : ByteArray} {index n : Nat} {fault : StreamFault}
    (answered : outlet.offer s bytes index = (.error fault, s')) (shown : fault ≠ .interrupted)
    (some : 0 < n) : ¬ s.Admits n := by
  intro admits
  simp only [outlet, offer] at answered
  split at answered
  · rename_i due
    cases answered
    obtain ⟨offset, coming, reached⟩ := due_cases due
    rcases admits.calm _ coming with interrupted | ahead
    · exact shown interrupted
    · simp only at ahead
      omega
  · cases answered

theorem accepts_pos_of_admits {s : Sink} {n want : Nat} (admits : s.Admits n) (some : 0 < n)
    (due : s.due? = none) (wanted : 0 < want) : 0 < s.accepts want := by
  have unreached : s.limit.map (· - s.written.size) ≠ Option.some 0 := by
    intro reached
    obtain ⟨limit, given, none⟩ := Option.map_eq_some_iff.1 reached
    have := admits.room limit given
    omega
  have moving := atMost_pos unreached (atMost_pos admits.moving wanted)
  simp only [accepts]
  split
  · exact moving
  · rename_i next fault
    have ahead : ¬ next.1 ≤ s.written.size := by
      intro reached
      simp [due?, fault, reached] at due
    omega

/-- A sink that accepts nothing of an offer admits nothing more. -/
theorem offer_refused {s s' : Sink} {bytes : ByteArray} {index n : Nat}
    (answered : outlet.offer s bytes index = (.ok 0, s')) (left : index < bytes.size)
    (some : 0 < n) : ¬ s.Admits n := by
  intro admits
  simp only [outlet, offer] at answered
  split at answered
  · cases answered
  · rename_i due
    have moved := accepts_pos_of_admits admits some due (Nat.sub_pos_of_lt left)
    simp only [Prod.mk.injEq, Except.ok.injEq] at answered
    omega

theorem atMost_le_of_mem {limit : Option Nat} {bound n : Nat} (given : bound ∈ limit) :
    atMost limit n ≤ bound := by
  cases given
  exact Nat.min_le_left bound n

/-- What is accepted was admitted. -/
theorem admits_accepts {s : Sink} {want : Nat} (moved : s.accepts want ≠ 0) :
    s.Admits (s.accepts want) := by
  have limited : s.accepts want ≤
      atMost (s.limit.map (· - s.written.size)) (atMost s.chunk want) := by
    simp only [accepts]
    split <;> omega
  have chunked := atMost_le (s.limit.map (· - s.written.size)) (atMost s.chunk want)
  refine ⟨?_, ?_, ?_⟩
  · intro still
    have : atMost s.chunk want ≤ 0 := atMost_le_of_mem still
    omega
  · intro limit given
    have : atMost (s.limit.map (· - s.written.size)) (atMost s.chunk want) ≤
        limit - s.written.size := atMost_le_of_mem (Option.mem_map_of_mem _ given)
    omega
  · intro fault coming
    have : s.accepts want ≤ fault.1 - s.written.size := by
      simp only [accepts, show s.fault = some fault from coming]
      exact Nat.min_le_right _ _
    omega

theorem offer_accepted {s s' : Sink} {bytes : ByteArray} {index accepted : Nat}
    (answered : outlet.offer s bytes index = (.ok accepted, s')) (moved : accepted ≠ 0) :
    s.Added accepted s' ∧ s.Admits accepted := by
  simp only [outlet, offer] at answered
  split at answered
  · cases answered
  · cases answered
    have bound := s.accepts_le (bytes.size - index)
    refine ⟨⟨rfl, rfl, rfl, ?_, .inl rfl⟩, admits_accepts moved⟩
    simp only [push, ByteArray.size_append, ByteArray.size_extract]
    omega

/-- All bytes are written just if there is room for them. -/
theorem writeAll_room (s : Sink) (bytes : ByteArray) (index : Nat) :
    ((outlet.writeAll s bytes index).1 = .ok () →
        s.Added (bytes.size - index) (outlet.writeAll s bytes index).2) ∧
      (index < bytes.size →
        ((outlet.writeAll s bytes index).1 = .ok () ↔ s.Admits (bytes.size - index))) := by
  fun_induction Outlet.writeAll outlet s bytes index with
  | case1 s index done =>
      refine ⟨fun _ => ?_, fun left => absurd left (Nat.not_lt.2 done)⟩
      rw [Nat.sub_eq_zero_of_le done]
      exact .refl s
  | case2 s index left s' answer ih =>
      have added := offer_interrupted answer
      refine ⟨fun ok => ?_, fun some => ?_⟩
      · simpa using added.trans (ih.1 ok)
      · rw [ih.2 some, added.admits_iff, Nat.zero_add]
  | case3 s index left fault s' shown answer =>
      refine ⟨by rintro ⟨⟩, fun some => ⟨by rintro ⟨⟩, fun admits => ?_⟩⟩
      exact absurd admits (offer_failed answer shown (Nat.sub_pos_of_lt some))
  | case4 s index left s' answer =>
      refine ⟨by rintro ⟨⟩, fun some => ⟨by rintro ⟨⟩, fun admits => ?_⟩⟩
      exact absurd admits (offer_refused answer some (Nat.sub_pos_of_lt some))
  | case5 s index left accepted s' answer moved ih =>
      obtain ⟨added, admitted⟩ := offer_accepted answer moved
      have bound := outlet.accepted_le answer
      have split : bytes.size - index = accepted + (bytes.size - (index + accepted)) := by omega
      refine ⟨fun ok => ?_, fun some => ?_⟩
      · rw [split]
        exact added.trans (ih.1 ok)
      · by_cases more : index + accepted < bytes.size
        · rw [ih.2 more, added.admits_iff, ← split]
        · have all : bytes.size - index = accepted := by omega
          rw [all]
          refine ⟨fun _ => admitted, fun _ => ?_⟩
          rw [Outlet.writeAll, if_pos (Nat.not_lt.1 more)]

/-- **How much room a frame needs.**  A frame is written to a sink just if it is not too long, the
sink has room for its length and its bytes, and the sink is flushed; four bytes of room suffice
for an empty one. -/
theorem writeFrame_ok_iff (s : Sink) (frame : ByteArray) :
    (s.writeFrame frame).1 = .ok () ↔
      frame.size ≤ Frame.maxLength ∧ s.Admits (4 + frame.size) ∧ s.flushFails = false := by
  by_cases large : Frame.maxLength < frame.size
  · simp [writeFrame, Outlet.writeFrame, large, Nat.not_le.2 large]
  have short := Nat.not_lt.1 large
  obtain ⟨grown₁, room₁⟩ := s.writeAll_room ⟨(Frame.header frame.size).toArray⟩ 0
  have four : ByteArray.size ⟨(Frame.header frame.size).toArray⟩ = 4 := rfl
  rw [four] at grown₁ room₁
  specialize room₁ (by decide)
  simp only [writeFrame, Outlet.writeFrame, if_neg large, short, true_and]
  rcases head : outlet.writeAll s ⟨(Frame.header frame.size).toArray⟩ 0 with ⟨e | done, s₁⟩
  · rw [head] at room₁
    refine iff_of_false (by rintro ⟨⟩) ?_
    rintro ⟨admits, -⟩
    cases room₁.2 (admits.mono (Nat.le_add_right 4 _))
  rw [head] at grown₁ room₁
  have added₁ := grown₁ rfl
  obtain ⟨grown₂, room₂⟩ := s₁.writeAll_room frame 0
  rw [Nat.sub_zero] at grown₂ room₂
  have body : (outlet.writeAll s₁ frame 0).1 = .ok () ↔ s.Admits (4 + frame.size) := by
    rcases Nat.eq_zero_or_pos frame.size with empty | some
    · rw [empty, Outlet.writeAll, if_pos (Nat.le_of_eq empty)]
      exact iff_of_true rfl (room₁.1 rfl)
    · rw [room₂ some, added₁.admits_iff]
  rw [← body]
  rcases rest : outlet.writeAll s₁ frame 0 with ⟨e | done, s₂⟩
  · simp only [rest, reduceCtorEq, false_and]
  rw [rest] at grown₂
  have same : s₂.flushFails = s.flushFails := (grown₂ rfl).flushFails.trans added₁.flushFails
  have flushed : outlet.flush s₂ =
      (if s.flushFails then .error .brokenPipe else .ok (), s₂) := by
    rw [← same]
    rfl
  simp only [rest, flushed]
  cases s.flushFails <;> simp

end Sink

end HotSwap
