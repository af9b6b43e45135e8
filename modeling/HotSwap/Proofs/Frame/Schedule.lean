/-
# HotSwap.Proofs.Frame.Schedule -- frames from a source with failures to come

A source in memory is told beforehand where it is to fail.  A failure is met at its offset, or
where the one in front of it was met if that is further on (`Source.schedule`); several may be met
at one position, and whether they are met in the length of a frame or in its bytes depends on
nothing but where they stand.  What comes of a read is therefore said by the bytes, the position
and the failures that show (`Source.expects`), and neither by the chunks in which the bytes come
nor by interruptions.

`Source.ReadOnce` puts this beside what is known of the calls for one frame (`Fetched`), and
`Source.reads_faithful` carries it along any number of reads.
-/
import HotSwap.Proofs.Frame.Agreement
import HotSwap.Proofs.Frame.Fetching
import Mathlib.Data.List.Basic

namespace HotSwap

set_option autoImplicit false

open StreamFetch (brought)

namespace Source

/-! ## Where failures are met -/

/-- Failures with the positions at which they are met, none in front of a position. -/
def points : Nat → List (Nat × StreamFault) → List (Nat × StreamFault)
  | _, [] => []
  | position, next :: rest =>
      (max position next.1, next.2) :: points (max position next.1) rest

/-- The failures to come, with the positions at which they will be met. -/
def schedule (s : Source) : List (Nat × StreamFault) := points s.position s.faults

/-- The failures to come that will show. -/
def shown (s : Source) : List (Nat × StreamFault) :=
  s.schedule.filter fun failure => failure.2 ≠ .interrupted

theorem le_of_mem_points {position : Nat} {faults : List (Nat × StreamFault)}
    {failure : Nat × StreamFault} (member : failure ∈ points position faults) :
    position ≤ failure.1 := by
  induction faults generalizing position with
  | nil => cases member
  | cons next rest ih =>
      rcases List.mem_cons.1 member with rfl | later
      · exact Nat.le_max_left ..
      · exact Nat.le_trans (Nat.le_max_left ..) (ih later)

theorem le_of_mem_shown {s : Source} {failure : Nat × StreamFault} (member : failure ∈ s.shown) :
    s.position ≤ failure.1 := le_of_mem_points (List.mem_filter.1 member).1

theorem points_pairwise (position : Nat) (faults : List (Nat × StreamFault)) :
    (points position faults).Pairwise (·.1 ≤ ·.1) := by
  induction faults generalizing position with
  | nil => exact .nil
  | cons next rest ih => exact List.pairwise_cons.2 ⟨fun _ => le_of_mem_points, ih _⟩

/-- Failures that are given in order are met where they are given, or at once. -/
theorem points_of_ordered {faults : List (Nat × StreamFault)}
    (ordered : faults.Pairwise (·.1 ≤ ·.1)) (position : Nat) :
    points position faults = faults.map fun failure => (max position failure.1, failure.2) := by
  induction faults generalizing position with
  | nil => rfl
  | cons next rest ih =>
      obtain ⟨first, later⟩ := List.pairwise_cons.1 ordered
      rw [points, ih later, List.map_cons]
      refine congrArg _ (List.map_congr_left fun failure member => ?_)
      have behind := first failure member
      rw [Nat.max_assoc, Nat.max_eq_right behind]

/-- A failure that is due is met here. -/
theorem schedule_of_due {s : Source} {fault : StreamFault} (due : s.due? = some fault) :
    s.schedule = (s.position, fault) :: s.dropFault.schedule := by
  unfold due? at due
  split at due
  · cases due
  · rename_i next rest faults
    by_cases reached : next.1 ≤ s.position
    · rw [if_pos reached] at due
      obtain rfl := Option.some.inj due
      simp [schedule, dropFault, faults, points, Nat.max_eq_left reached]
    · rw [if_neg reached] at due
      cases due

/-- Where no failure is due the first one is further on. -/
theorem ahead_of_cons {s : Source} {next : Nat × StreamFault} {rest : List (Nat × StreamFault)}
    (faults : s.faults = next :: rest) (due : s.due? = none) : s.position < next.1 := by
  simpa [due?, faults] using due

/-- Where no failure is due all are met further on. -/
theorem ahead_of_due {s : Source} (due : s.due? = none) {failure : Nat × StreamFault}
    (member : failure ∈ s.schedule) : s.position < failure.1 := by
  unfold schedule at member
  cases faults : s.faults with
  | nil => simp [faults, points] at member
  | cons next rest =>
      have ahead := ahead_of_cons faults due
      rw [faults] at member
      rcases List.mem_cons.1 member with rfl | later
      · exact Nat.lt_of_lt_of_le ahead (Nat.le_max_right ..)
      · exact Nat.lt_of_lt_of_le ahead (Nat.le_trans (Nat.le_max_right ..) (le_of_mem_points later))

/-- Bytes that a call moves leave the failures where they are. -/
theorem schedule_advance {s : Source} (due : s.due? = none) (want : Nat) :
    (s.advance (s.moves want)).schedule = s.schedule := by
  cases faults : s.faults with
  | nil => simp [schedule, advance, faults, points]
  | cons next rest =>
      have ahead := ahead_of_cons faults due
      have inside : s.moves want ≤ next.1 - s.position := by
        simp only [moves, faults]
        omega
      simp only [schedule, advance, faults, points]
      rw [Nat.max_eq_right (by omega), Nat.max_eq_right (by omega)]

/-! ## Calls -/

/-- What a call does that fails. -/
theorem call_failed {s s' : Source} {want : Nat} {fault : StreamFault}
    (answered : inlet.call s want = (.error fault, s')) :
    s' = s.dropFault ∧ s.due? = some fault := by
  simp only [inlet, call] at answered
  split at answered
  · rename_i due
    cases answered
    exact ⟨rfl, due⟩
  · cases answered

/-- What a call does that does not fail. -/
theorem call_brought {s s' : Source} {want : Nat} {bytes : ByteArray}
    (answered : inlet.call s want = (.ok bytes, s')) :
    s' = s.advance (s.moves want) ∧ s.due? = none ∧ bytes.size = s.moves want ∧
      bytes = s.input.extract s.position (s.position + s.moves want) := by
  simp only [inlet, call] at answered
  split at answered
  · cases answered
  · rename_i due
    cases answered
    have inside := s.moves_le_left want
    refine ⟨rfl, due, ?_, rfl⟩
    rw [ByteArray.size_extract]
    omega

/-- The failures that some calls met, each with the position at which it was met. -/
def met : Nat → List StreamFetch → List (Nat × StreamFault)
  | _, [] => []
  | position, ⟨_, .ok bytes⟩ :: calls => met (position + bytes.size) calls
  | position, ⟨_, .error fault⟩ :: calls => (position, fault) :: met position calls

/-- What some calls do to a source: it is further on by the bytes they brought, which are those
that came next, and the failures they met were the first to come. -/
structure Moved (s : Source) (calls : List StreamFetch) (s' : Source) : Prop where
  input : s'.input = s.input
  chunk : s'.chunk = s.chunk
  position : s'.position = s.position + (brought calls).length
  bytes : bytesFrom s.input s.position = brought calls ++ bytesFrom s.input s'.position
  failures : s.schedule = met s.position calls ++ s'.schedule

theorem moved_of_made {s s' : Source} {calls : List StreamFetch} (made : inlet.Made s calls s') :
    s.Moved calls s' := by
  induction made with
  | nil s => exact ⟨rfl, rfl, rfl, rfl, rfl⟩
  | @cons s s' s'' want answer calls answered further ih =>
      cases answer with
      | error fault =>
          obtain ⟨rfl, due⟩ := call_failed answered
          refine ⟨ih.input, ih.chunk, ih.position, ih.bytes, ?_⟩
          rw [schedule_of_due due, ih.failures]
          rfl
      | ok bytes =>
          obtain ⟨rfl, due, size, cut⟩ := call_brought answered
          have length : bytes.data.toList.length = bytes.size := by simp
          refine ⟨ih.input, ih.chunk, ?_, ?_, ?_⟩
          · rw [ih.position, StreamFetch.brought_cons, StreamFetch.bytes_ok, List.length_append,
              length, size, advance, Nat.add_assoc]
          · rw [StreamFetch.brought_cons, StreamFetch.bytes_ok, List.append_assoc]
            refine (bytesFrom_eq s.input s.position (s.moves want)).trans ?_
            rw [← cut]
            exact congrArg _ ih.bytes
          · rw [← schedule_advance due want, ih.failures, met, size]
            rfl

/-! ## What taking some bytes comes to -/

/-- Where the bytes of a source end; they end at once if its calls move nothing. -/
def stop (s : Source) : Nat :=
  if s.chunk = some 0 then s.position else max s.position s.input.size

theorem le_stop (s : Source) : s.position ≤ s.stop := by
  unfold stop
  split
  · exact Nat.le_refl _
  · exact Nat.le_max_left ..

/-- What taking a number of bytes behind those in hand comes to, where it leaves the source and
which failures are still to show.  The first of them is met if it stands in front of the last byte
that is wanted, and before the bytes end. -/
def expects (s : Source) (want : Nat) (got : ByteArray) :
    Except TransportError ByteArray × Nat × List (Nat × StreamFault) :=
  match s.shown.head? with
  | some next =>
      if next.1 < s.position + want ∧ next.1 ≤ s.stop then
        (.error (Inlet.failure next.2), next.1, s.shown.tail)
      else undisturbed
  | none => undisturbed
where
  undisturbed :=
    if s.position + want ≤ s.stop then
      (.ok (got ++ s.input.extract s.position (s.position + want)), s.position + want, s.shown)
    else (.error .closed, s.stop, s.shown)

/-- Two sources that bring the same bytes and show the same failures. -/
structure Alike (s t : Source) : Prop where
  input : s.input = t.input
  position : s.position = t.position
  still : s.chunk = some 0 ↔ t.chunk = some 0
  shown : s.shown = t.shown

theorem Alike.expects {s t : Source} (alike : s.Alike t) : s.expects = t.expects := by
  have stop : s.stop = t.stop := by
    simp only [Source.stop, alike.still, alike.input, alike.position]
  funext want got
  simp only [Source.expects, expects.undisturbed, stop, alike.input, alike.position, alike.shown]

theorem shown_of_interrupted {s : Source} (due : s.due? = some .interrupted) :
    s.dropFault.shown = s.shown := by
  rw [shown, shown, schedule_of_due due]
  rfl

theorem shown_of_due {s : Source} {fault : StreamFault} (due : s.due? = some fault)
    (shows : fault ≠ .interrupted) : s.shown = (s.position, fault) :: s.dropFault.shown := by
  rw [shown, shown, schedule_of_due due, List.filter_cons_of_pos (by simpa using shows)]

theorem shown_advance {s : Source} (due : s.due? = none) (want : Nat) :
    (s.advance (s.moves want)).shown = s.shown := by
  rw [shown, shown, schedule_advance due]

/-- Where nothing is wanted nothing is met. -/
theorem expects_zero (s : Source) (got : ByteArray) :
    s.expects 0 got = (.ok got, s.position, s.shown) := by
  have calm : expects.undisturbed s 0 got = (.ok got, s.position, s.shown) := by
    have empty : s.input.extract s.position s.position = .empty := by simp
    rw [expects.undisturbed, Nat.add_zero, if_pos s.le_stop, empty, ByteArray.append_empty]
  unfold expects
  cases first : s.shown.head? with
  | none => exact calm
  | some next =>
      have behind := le_of_mem_shown (List.mem_of_mem_head? first)
      exact (if_neg fun met => Nat.not_lt.2 behind met.1).trans calm

/-- Where nothing is moved and no failure is due the bytes have ended. -/
theorem expects_ended {s : Source} {want : Nat} (wanted : want ≠ 0) (due : s.due? = none)
    (nothing : s.moves want = 0) (got : ByteArray) :
    s.expects want got = (.error .closed, s.position, s.shown) := by
  have stop : s.stop = s.position := by
    unfold Source.stop
    split
    · rfl
    · rename_i moving
      refine Nat.max_eq_left (Nat.le_of_not_lt fun left => ?_)
      have := moves_pos moving due (Nat.pos_of_ne_zero wanted) left
      omega
  have calm : expects.undisturbed s want got = (.error .closed, s.position, s.shown) := by
    rw [expects.undisturbed, stop, if_neg (by omega)]
  unfold expects
  cases first : s.shown.head? with
  | none => exact calm
  | some next =>
      have ahead := ahead_of_due due (List.mem_filter.1 (List.mem_of_mem_head? first)).1
      rw [stop]
      exact (if_neg fun met => Nat.not_lt.2 met.2 ahead).trans calm

/-- Bytes that were moved are in hand instead of to come. -/
theorem expects_advance {s : Source} {want n : Nat} (something : n ≠ 0) (within : n ≤ want)
    (inside : n ≤ s.input.size - s.position) (moving : s.chunk ≠ some 0)
    (same : (s.advance n).shown = s.shown) (got : ByteArray) :
    (s.advance n).expects (want - n) (got ++ s.input.extract s.position (s.position + n)) =
      s.expects want got := by
  have stop : s.stop = s.input.size := by
    rw [Source.stop, if_neg moving]
    omega
  have stop' : (s.advance n).stop = s.input.size := by
    rw [Source.stop, if_neg (show (s.advance n).chunk ≠ some 0 from moving)]
    simp only [advance]
    omega
  have behind : (s.advance n).position + (want - n) = s.position + want := by
    simp only [advance]
    omega
  have joined : got ++ s.input.extract s.position (s.position + n) ++
      s.input.extract (s.position + n) (s.position + want) =
        got ++ s.input.extract s.position (s.position + want) := by
    rw [ByteArray.append_assoc, ByteArray.extract_append_extract, Nat.min_eq_left (by omega),
      Nat.max_eq_right (by omega)]
  have calm : expects.undisturbed (s.advance n) (want - n)
      (got ++ s.input.extract s.position (s.position + n)) = expects.undisturbed s want got := by
    simp only [expects.undisturbed, stop, stop', behind, same]
    rw [← joined]
    rfl
  simp only [expects, same, stop, stop', behind, calm]

/-- **What taking some bytes comes to** is said by the bytes and the failures that show. -/
theorem readExact_expects (s : Source) (want : Nat) (got : ByteArray) :
    ((inlet.readExact s want got).1, (inlet.readExact s want got).2.position,
      (inlet.readExact s want got).2.shown) = s.expects want got := by
  fun_induction Inlet.readExact inlet s want got with
  | case1 s got => rw [expects_zero]
  | case2 s want got wanted s' answer ih =>
      obtain ⟨rfl, due⟩ := call_failed answer
      have alike : s.dropFault.Alike s := ⟨rfl, rfl, Iff.rfl, shown_of_interrupted due⟩
      rw [ih, alike.expects]
  | case3 s want got wanted fault s' shows answer =>
      obtain ⟨rfl, due⟩ := call_failed answer
      have first := shown_of_due due shows
      have met : s.position < s.position + want ∧ s.position ≤ s.stop :=
        ⟨by omega, s.le_stop⟩
      simp only [expects, first, List.head?_cons, if_pos met, List.tail_cons]
      rfl
  | case4 s want got wanted bytes s' answer nothing =>
      obtain ⟨rfl, due, size, -⟩ := call_brought answer
      rw [nothing] at size
      rw [expects_ended wanted due size.symm, shown_advance due, ← size]
      rfl
  | case5 s want got wanted bytes s' answer something ih =>
      obtain ⟨rfl, due, size, rfl⟩ := call_brought answer
      rw [size] at something
      have moving : s.chunk ≠ some 0 := by
        intro still
        have none : s.moves want ≤ 0 := by
          have limited := Nat.min_le_left 0 (min want (s.input.size - s.position))
          simp only [moves, still, atMost]
          split <;> omega
        omega
      rw [ih, size]
      exact expects_advance something (s.moves_le want) (s.moves_le_left want) moving
        (shown_advance due want) got

/-! ## Sources that differ by interruptions -/

theorem moved_readExact (s : Source) (want : Nat) (got : ByteArray) :
    ∃ calls, s.Moved calls (inlet.readExact s want got).2 := by
  obtain ⟨_, s', calls, plain, -, -, made⟩ := inlet.readExact_fetching s want got
  rw [plain]
  exact ⟨calls, moved_of_made made⟩

/-- Bytes are taken alike from sources that are alike. -/
theorem readExact_alike {s t : Source} (alike : s.Alike t) (want : Nat) (got : ByteArray) :
    (inlet.readExact s want got).1 = (inlet.readExact t want got).1 ∧
      (inlet.readExact s want got).2.Alike (inlet.readExact t want got).2 := by
  have same := (s.readExact_expects want got).trans
    ((congrFun (congrFun alike.expects want) got).trans (t.readExact_expects want got).symm)
  obtain ⟨result, rest⟩ := Prod.mk.inj same
  obtain ⟨position, shown⟩ := Prod.mk.inj rest
  obtain ⟨_, moved⟩ := s.moved_readExact want got
  obtain ⟨_, moved'⟩ := t.moved_readExact want got
  refine ⟨result, ?_, position, ?_, shown⟩
  · rw [moved.input, moved'.input, alike.input]
  · rw [moved.chunk, moved'.chunk]
    exact alike.still

/-- Frames are read alike from sources that are alike. -/
theorem readFrame_alike {s t : Source} (alike : s.Alike t) :
    s.readFrame.1 = t.readFrame.1 ∧ s.readFrame.2.Alike t.readFrame.2 := by
  obtain ⟨head, behind⟩ := readExact_alike alike 4 .empty
  simp only [readFrame, Inlet.readFrame]
  rcases first : inlet.readExact s 4 .empty with ⟨result, s'⟩
  rcases second : inlet.readExact t 4 .empty with ⟨result', t'⟩
  rw [first, second] at head behind
  obtain rfl : result = result' := head
  cases result with
  | error e => exact ⟨rfl, behind⟩
  | ok head =>
      by_cases large : Frame.maxLength < Frame.headerValue head.data.toList
      · simp only [if_pos large]
        exact ⟨trivial, behind⟩
      · simp only [if_neg large]
        exact readExact_alike behind _ .empty

/-- What some reads give, each with the position at which it leaves the source. -/
def readings (reads : Nat) (s : Source) : List (Except TransportError ByteArray × Nat) :=
  (successive readFrame reads s).map fun read => (read.1, read.2.position)

theorem readings_alike {s t : Source} (alike : s.Alike t) (reads : Nat) :
    s.readings reads = t.readings reads := by
  induction reads generalizing s t with
  | zero => rfl
  | succ reads ih =>
      obtain ⟨result, behind⟩ := readFrame_alike alike
      simp only [readings, successive, List.map_cons, result, behind.position]
      exact congrArg _ (ih behind)

/-- The source without the interruptions to come: every other failure is met where it was. -/
def quiet (s : Source) : Source := { s with faults := s.shown }

theorem alike_quiet (s : Source) : s.Alike s.quiet := by
  refine ⟨rfl, rfl, Iff.rfl, ?_⟩
  have ordered : s.shown.Pairwise (·.1 ≤ ·.1) :=
    (points_pairwise s.position s.faults).sublist List.filter_sublist
  have still : points s.position s.shown = s.shown := by
    rw [points_of_ordered ordered]
    refine (List.map_congr_left fun failure member => ?_).trans (List.map_id _)
    rw [Nat.max_eq_right (le_of_mem_shown member)]
    rfl
  have shows : s.shown.filter (fun failure => failure.2 ≠ .interrupted) = s.shown := by
    rw [shown, List.filter_filter]
    simp only [Bool.and_self]
  show s.shown = (points s.position s.shown).filter fun failure => failure.2 ≠ .interrupted
  rw [still, shows]

/-- Where the failures are given in order, leaving interruptions out changes no other. -/
theorem alike_filter {s : Source} (ordered : s.faults.Pairwise (·.1 ≤ ·.1)) :
    s.Alike { s with faults := s.faults.filter fun failure => failure.2 ≠ .interrupted } := by
  refine ⟨rfl, rfl, Iff.rfl, ?_⟩
  simp only [shown, schedule]
  rw [points_of_ordered ordered, points_of_ordered (ordered.sublist List.filter_sublist),
    List.filter_map, List.filter_map, List.filter_filter]
  simp [Function.comp_def]

/-! ## One read after the other -/

theorem failure_eq (fault : StreamFault) :
    Inlet.failure fault = if fault = .unexpectedEnd then .closed else .io (.stream fault) := by
  cases fault <;> rfl

theorem met_append (position : Nat) (calls more : List StreamFetch) :
    met position (calls ++ more) =
      met position calls ++ met (position + (brought calls).length) more := by
  induction calls generalizing position with
  | nil => rfl
  | cons call calls ih =>
      obtain ⟨want, fault | bytes⟩ := call
      · simp [met, ih]
      · have length : bytes.data.toList.length = bytes.size := by simp
        simp only [List.cons_append, met, ih, StreamFetch.brought_cons, StreamFetch.bytes_ok,
          List.length_append, length, Nat.add_assoc]

/-- A failure that was met is the answer of a call, at the position where the call was made. -/
theorem exists_of_mem_met {position : Nat} {calls : List StreamFetch}
    {failure : Nat × StreamFault} (member : failure ∈ met position calls) :
    ∃ before want after, calls = before ++ ⟨want, .error failure.2⟩ :: after ∧
      failure.1 = position + (brought before).length := by
  induction calls generalizing position with
  | nil => cases member
  | cons call calls ih =>
      obtain ⟨want, fault | bytes⟩ := call
      · rcases List.mem_cons.1 member with rfl | later
        · exact ⟨[], want, calls, rfl, rfl⟩
        · obtain ⟨before, want', after, rfl, there⟩ := ih later
          exact ⟨_ :: before, want', after, rfl, there⟩
      · obtain ⟨before, want', after, rfl, there⟩ := ih member
        refine ⟨_ :: before, want', after, rfl, ?_⟩
        rw [there, StreamFetch.brought_cons, StreamFetch.bytes_ok, List.length_append, Nat.add_assoc]
        rfl

/-- Failures that do not show, in front of others. -/
theorem shown_append_of_calm {earlier later : List (Nat × StreamFault)}
    (calm : ∀ failure ∈ earlier, failure.2 = .interrupted) :
    (earlier ++ later).filter (fun failure => failure.2 ≠ .interrupted) =
      later.filter fun failure => failure.2 ≠ .interrupted := by
  rw [List.filter_append, List.filter_eq_nil_iff.2 fun failure member => by
    simp [calm failure member], List.nil_append]

/-- What is known of reading one frame by some calls. -/
structure ReadOnce (s : Source) (result : Except TransportError ByteArray)
    (calls : List StreamFetch) (s' : Source) : Prop where
  /-- These are the calls that are made. -/
  made : inlet.logged.readFrame (s, []) = (result, s', calls)
  fetched : Fetched result calls
  moved : s.Moved calls s'
  /-- A frame that is had is what stood at the position behind its length, and not too long. -/
  whole : ∀ frame, result = .ok frame → frame.size ≤ Frame.maxLength ∧
    (bytesFrom s.input s.position).take (4 + frame.size) = Frame.onWire frame ∧
    s'.position = s.position + (4 + frame.size)
  /-- Every failure that was met then stood in front of its end; those further on are left. -/
  left : ∀ frame, result = .ok frame →
    s'.schedule = s.schedule.filter fun failure => s'.position ≤ failure.1
  /-- Interruptions show nothing and use up nothing else. -/
  interrupted : (∀ failure ∈ met s.position calls, failure.2 = .interrupted) →
    s'.shown = s.shown ∧ ∀ cause, result ≠ .error (.io cause)
  /-- Any other failure that is met is the first that was to show, and is reported; the source is
  left where it was met. -/
  failed : ∀ failure ∈ met s.position calls, failure.2 ≠ .interrupted →
    s.shown = failure :: s'.shown ∧ s'.position = failure.1 ∧
      result = .error (if failure.2 = .unexpectedEnd then .closed else .io (.stream failure.2))
  /-- Nothing is asked for behind the length of an empty frame, and no failure met there. -/
  empty : ∀ frame, result = .ok frame → frame.size = 0 →
    (∀ before call after, calls = before ++ call :: after →
      (brought before).length + call.want ≤ 4) ∧
    ∀ failure ∈ s.schedule, s.position + 4 ≤ failure.1 → failure ∈ s'.schedule

section

variable {s s' : Source} {result : Except TransportError ByteArray} {calls : List StreamFetch}

/-- Every call for a frame that is had is made in front of the frame's end. -/
theorem asked_of_ok {frame : ByteArray} (fetched : Fetched (.ok frame) calls)
    {before after : List StreamFetch} {call : StreamFetch}
    (split : calls = before ++ call :: after) :
    0 < call.want ∧ (brought before).length + call.want ≤ 4 + frame.size := by
  obtain ⟨some, head⟩ := fetched.asked before call after split
  refine ⟨some, ?_⟩
  by_cases early : (brought before).length < 4
  · exact Nat.le_add_right_of_le (head early)
  obtain ⟨short, wire⟩ := (fetched.ok_iff frame).1 rfl
  have said := (fetched.said before call after split (Nat.not_lt.1 early)).2
  have first : (brought before).take 4 = Frame.header frame.size := by
    have four := congrArg (List.take 4) wire
    rw [split, StreamFetch.brought_append, List.take_append_of_le_length (Nat.not_lt.1 early)]
      at four
    exact four
  rwa [first, Frame.headerValue_header (Nat.lt_of_le_of_lt short (by decide))] at said

/-- Where a frame that is had ends, and what stood in front of its end. -/
theorem whole_of_fetched {frame : ByteArray} (fetched : Fetched (.ok frame) calls)
    (moved : s.Moved calls s') :
    frame.size ≤ Frame.maxLength ∧
      (bytesFrom s.input s.position).take (4 + frame.size) = Frame.onWire frame ∧
      s'.position = s.position + (4 + frame.size) := by
  obtain ⟨short, wire⟩ := (fetched.ok_iff frame).1 rfl
  have length : (brought calls).length = 4 + frame.size := by
    rw [wire, Frame.onWire, List.length_append]
    simp [Frame.header]
  refine ⟨short, ?_, by rw [moved.position, length]⟩
  rw [moved.bytes, List.take_left' length, wire]

/-- Behind a frame that is had the failures are left that stand behind its end. -/
theorem left_of_fetched {frame : ByteArray} (fetched : Fetched (.ok frame) calls)
    (moved : s.Moved calls s') :
    s'.schedule = s.schedule.filter fun failure => s'.position ≤ failure.1 := by
  have passed : (met s.position calls).filter (fun failure => s'.position ≤ failure.1) = [] := by
    refine List.filter_eq_nil_iff.2 fun failure member => ?_
    obtain ⟨before, want, after, split, there⟩ := exists_of_mem_met member
    obtain ⟨some, inside⟩ := asked_of_ok fetched split
    have ended := (whole_of_fetched fetched moved).2.2
    simp only [decide_eq_true_eq]
    omega
  have ahead : s'.schedule.filter (fun failure => s'.position ≤ failure.1) = s'.schedule :=
    List.filter_eq_self.2 fun failure member => decide_eq_true (le_of_mem_points member)
  rw [moved.failures, List.filter_append, passed, ahead, List.nil_append]

/-- Where nothing but interruptions was met, no failure of the stream is reported. -/
theorem not_io_of_calm (fetched : Fetched result calls) {position : Nat}
    (calm : ∀ failure ∈ met position calls, failure.2 = .interrupted) (cause : IoFault) :
    result ≠ .error (.io cause) := by
  rintro rfl
  rcases fetched.caused _ rfl with ⟨before, last, split, failing⟩ | ⟨_, -, other, -⟩
  · obtain ⟨want, fault, rfl, shows⟩ := StreamFetch.exists_of_error?_io failing
    refine absurd (calm (position + (brought before).length, fault) ?_) shows
    rw [split, met_append]
    exact List.mem_append_right _ List.mem_cons_self
  · cases other

/-- Nothing that was met in front of the last call shows, or the calls would have ended with it. -/
theorem calm_before (fetched : Fetched result calls) {before : List StreamFetch}
    {last : StreamFetch} (split : calls = before ++ [last]) {position : Nat}
    {failure : Nat × StreamFault} (member : failure ∈ met position before) :
    failure.2 = .interrupted := by
  by_cases hidden : failure.2 = .interrupted
  · exact hidden
  obtain ⟨first, want, rest, apart, -⟩ := exists_of_mem_met member
  have again : calls = first ++ ⟨want, .error failure.2⟩ :: (rest ++ [last]) := by
    rw [split, apart, List.append_assoc, List.cons_append]
  have ended := (fetched.shown _ _ _ again _ (StreamFetch.error?_failed hidden)).1
  exact absurd ended (by simp)

/-- A failure that was met and shows is the first to show, and ends the read. -/
theorem failed_of_fetched (fetched : Fetched result calls) (moved : s.Moved calls s')
    {failure : Nat × StreamFault} (member : failure ∈ met s.position calls)
    (shows : failure.2 ≠ .interrupted) :
    s.shown = failure :: s'.shown ∧ s'.position = failure.1 ∧
      result = .error (if failure.2 = .unexpectedEnd then .closed else .io (.stream failure.2)) := by
  obtain ⟨before, want, after, split, there⟩ := exists_of_mem_met member
  obtain ⟨rfl, reported⟩ :=
    fetched.shown before _ after split _ (StreamFetch.error?_failed shows)
  refine ⟨?_, ?_, ?_⟩
  · rw [shown, shown, moved.failures, split, met_append, List.append_assoc,
      shown_append_of_calm fun _ => calm_before fetched split, ← there]
    exact List.filter_cons_of_pos (by simpa using shows)
  · rw [moved.position, split, there]
    simp
  · rw [reported, failure_eq]

theorem ReadOnce.of_fetched (made : inlet.logged.readFrame (s, []) = (result, s', calls))
    (fetched : Fetched result calls) (moved : s.Moved calls s') :
    s.ReadOnce result calls s' where
  made := made
  fetched := fetched
  moved := moved
  whole frame ok := whole_of_fetched (ok ▸ fetched) moved
  left frame ok := left_of_fetched (ok ▸ fetched) moved
  interrupted calm :=
    ⟨by rw [shown, shown, moved.failures, shown_append_of_calm calm], not_io_of_calm fetched calm⟩
  failed failure member shows := failed_of_fetched fetched moved member shows
  empty frame ok none := by
    subst ok
    refine ⟨fun before call after split => ?_, fun failure member ahead => ?_⟩
    · have inside := (asked_of_ok fetched split).2
      rwa [none] at inside
    · rw [left_of_fetched fetched moved, List.mem_filter]
      have ended := (whole_of_fetched fetched moved).2.2
      exact ⟨member, decide_eq_true (by omega)⟩

end

theorem readFrame_once (s : Source) :
    ∃ calls, s.ReadOnce s.readFrame.1 calls s.readFrame.2 := by
  obtain ⟨result, s', calls, plain, logged, fetched, made⟩ := inlet.readFrame_fetched s
  have plain : s.readFrame = (result, s') := plain
  rw [plain]
  exact ⟨calls, .of_fetched (logged []) fetched (moved_of_made made)⟩

/-- Reads one behind the other, each from where the one in front of it left the source. -/
inductive ReadOn : Source → List (Except TransportError ByteArray × Source) → Prop where
  | nil (s : Source) : ReadOn s []
  | cons {s s' : Source} {result : Except TransportError ByteArray} {calls : List StreamFetch}
      {reads : List (Except TransportError ByteArray × Source)}
      (once : s.ReadOnce result calls s') (further : ReadOn s' reads) :
      ReadOn s ((result, s') :: reads)

/-- **Frames are read faithfully whatever fails.**  From every source, with any bytes, chunks and
failures to come, each of any number of reads is as `ReadOnce` says, and interruptions change
neither what the reads give nor where they leave the source. -/
theorem reads_faithful (s : Source) (reads : Nat) :
    ReadOn s (successive readFrame reads s) ∧
      s.readings reads = s.quiet.readings reads ∧
      (s.faults.Pairwise (·.1 ≤ ·.1) →
        s.readings reads = readings reads
          { s with faults := s.faults.filter fun failure => failure.2 ≠ .interrupted }) := by
  refine ⟨?_, readings_alike s.alike_quiet reads,
    fun ordered => readings_alike (alike_filter ordered) reads⟩
  induction reads generalizing s with
  | zero => exact .nil s
  | succ reads ih =>
      obtain ⟨calls, once⟩ := s.readFrame_once
      exact .cons once (ih s.readFrame.2)

/-- An empty frame and one of two bytes.  The first failure that shows is due between the two, the
second one inside the last. -/
def faltering : Source where
  input := ⟨#[0, 0, 0, 0, 0, 0, 0, 2, 104, 105]⟩
  chunk := some 3
  faults := [(0, .interrupted), (4, .interrupted), (4, .brokenPipe), (8, .interrupted),
    (9, .unexpectedEnd)]

theorem faltering_reads :
    ReadOn faltering (successive readFrame 3 faltering) ∧
      faltering.readings 3 = readings 3 { faltering with
        faults := [(4, .brokenPipe), (9, .unexpectedEnd)] } ∧
      faltering.readings 3 =
        [(.ok .empty, 4), (.error (.io (.stream .brokenPipe)), 4), (.error .closed, 9)] := by
  obtain ⟨once, -, filtered⟩ := reads_faithful faltering 3
  exact ⟨once, filtered (by decide), by decide +kernel⟩

end Source

end HotSwap
