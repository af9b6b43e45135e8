/-
# HotSwap.Proofs.Session.Rejection -- a refusal is told if it fits in a frame

When the host refuses the new classes the session answers with the name of the error and its
message, and ends well.  But the message is the host's, and it may quote a class name of the
request: nothing bounds it, so the response may be longer than a frame may be.  Then the session
fails over its own answer, and the controller is told nothing.

`size_rejection` says how long the response is, with all that is escaped in the message, and
`attach_rejection` that on a stream that accepts every byte this length alone decides, whatever
the host is and whatever else was answered.  What is asked before the swap leaves the stream as
it was (`Unswapped`), so the response is all that is written on it.

That every refusal be told is more than the agent keeps: `longName_untold` has a request that fits
in a frame and whose refusal does not.
-/
import HotSwap.Proofs.Frame.Crossing
import HotSwap.Proofs.Message.Codec
import HotSwap.Proofs.Session.Frames
import HotSwap.Simulation.Wire

namespace HotSwap

set_option autoImplicit false

/-! ## How long a response is -/

namespace Json

/-- How many bytes a text takes in a document, with its quotes and escapes. -/
def quotedLength (text : String) : Nat := (printString (Raw.ofString text)).length

theorem length_printPiece (p : Piece) : 1 ≤ (printPiece p).length ∧ (printPiece p).length ≤ 6 := by
  cases p with
  | byte b =>
      simp only [printPiece]
      split <;> simp
  | unit u => simp [printPiece]

/-- Every byte of a text takes one to six bytes, and the quotes take two. -/
theorem quotedLength_bounds (text : String) :
    text.utf8ByteSize + 2 ≤ quotedLength text ∧ quotedLength text ≤ 6 * text.utf8ByteSize + 2 := by
  have each (raw : Raw) : raw.length ≤ (raw.flatMap printPiece).length ∧
      (raw.flatMap printPiece).length ≤ 6 * raw.length := by
    induction raw with
    | nil => simp
    | cons p raw ih =>
        have := length_printPiece p
        simp only [List.flatMap_cons, List.length_append, List.length_cons]
        omega
  have length : (Raw.ofString text).length = text.utf8ByteSize := by simp [Raw.ofString]
  have := each (Raw.ofString text)
  simp only [quotedLength, printString, List.length_cons, List.length_append, List.length_nil]
  omega

end Json

open Json

/-- The response to a refusal. -/
def rejection (pid : UInt32) (cause : Host.Error) : Response :=
  ⟨pid, .error, some ⟨cause.code.name, cause.message⟩⟩

theorem size_rejection (pid : UInt32) (cause : Host.Error) :
    (rejection pid cause).encode.size =
      61 + (Nat.toDigits 10 pid.toNat).length + quotedLength cause.code.name +
        quotedLength cause.message := by
  have texts : quotedLength "pid" = 5 ∧ quotedLength "status" = 8 ∧ quotedLength "ERROR" = 7 ∧
      quotedLength "error_detail" = 14 ∧ quotedLength "kind" = 6 ∧ quotedLength "message" = 9 := by
    decide +kernel
  simp only [quotedLength] at texts
  obtain ⟨pid, status, error, detail, kind, message⟩ := texts
  simp [rejection, Response.encode, Response.toValue, Response.detailValue, Value.record,
    Value.print, Value.tokens, memberTokens, Value.ofString, Value.ofNat, printToken,
    ByteArray.size, Status.name, quotedLength, pid, status, error, detail, kind, message]
  omega

/-- What is told besides the message takes no more than 95 bytes. -/
theorem size_rejection_le (pid : UInt32) (cause : Host.Error) :
    (rejection pid cause).encode.size ≤ 6 * cause.message.utf8ByteSize + 95 := by
  have digits : (Nat.toDigits 10 pid.toNat).length ≤ 10 := by
    rw [Nat.length_toDigits_le_iff (by decide) (by decide)]
    have := pid.toNat_lt
    omega
  have name : quotedLength cause.code.name ≤ 22 := by
    cases cause.code <;> decide +kernel
  have message := (quotedLength_bounds cause.message).2
  rw [size_rejection]
  omega

namespace Session

open Procedure

/-! ## A session on a byte stream -/

section Stream

variable {τ : Type} {o : Outlet τ} {link : LinkId}

/-- A session is given one connection, which is written through an outlet. -/
def streamed (o : Outlet τ) (link : LinkId) : Rules τ where
  allows _ _ := True
  answers s
    | .connect, opened, s' => s' = s ∧ ∀ other, opened = .ok other → other = link
    | .send other frame, arrived, s' =>
        if other = link then (arrived, s') = o.writeFrame s frame else s' = s
    | _, _, s' => s' = s

/-- The same, watched. -/
def watched (o : Outlet τ) (link : LinkId) : Rules (τ × List Event) :=
  (streamed o link).recalling fun _ _ => True

variable {start : τ} {s s' : τ × List Event} {progress : Progress}

theorem watched_ask {α : Type} {q : Question} {next : q.Answer → Procedure α}
    {post : α → τ × List Event → Prop}
    (later : ∀ answer t, (streamed o link).answers s.1 q answer t →
      (next answer).Obeys (watched o link) post (t, s.2 ++ [⟨q, answer⟩])) :
    (ask q next).Obeys (watched o link) post s :=
  recalling_ask.2 ⟨trivial, later⟩

/-- Nothing was written, and no class was to change. -/
structure Unswapped (start : τ) (s : τ × List Event) : Prop where
  stream : s.1 = start
  unchanged : redefinitions s.2 = []

theorem Unswapped.kept {q : Question} {answer : q.Answer} (unswapped : Unswapped start s)
    (preparatory : Preparatory q) (comes : (watched o link).answers s q answer s') :
    Unswapped start s' := by
  obtain ⟨serves, grows⟩ := comes
  have same : s'.1 = s.1 := by
    cases q <;> first | exact serves | exact preparatory.elim
  exact
    { stream := same.trans unswapped.stream
      unchanged := by
        rw [grows, redefinitions_append, unswapped.unchanged, (preparatory.unread answer).2.1,
          List.append_nil] }

/-- The first half of a session writes nothing and changes no class. -/
theorem prepare_unswapped (agent : Agent) (unswapped : Unswapped start s) :
    (prepare agent link progress).Obeys (watched o link)
      (EndsBound (Unswapped start) fun _ => True) s :=
  prepare_obeys agent link (fun _ _ _ _ => trivial)
    (fun _ _ _ _ preparatory unswapped comes => unswapped.kept preparatory comes)
    (fun _ _ _ _ => trivial) unswapped

/-- The report on a session that ends. -/
def reportOf : Except AttachError Completion × Progress → SessionReport
  | (.ok completion, progress) => ⟨progress.phase, progress.history, .ok completion⟩
  | (.error e, progress) => ⟨progress.fail.phase, progress.fail.history, .error e⟩

/-- What is reported of a session, and what it wrote, if the host refused its changes. -/
def Told (Written : τ → List UInt8 → Prop) (report : SessionReport) (s : τ × List Event) : Prop :=
  ∀ changes cause, (changes, .error cause) ∈ redefinitions s.2 →
    ∃ pid, ⟨.host .processId, pid⟩ ∈ s.2 ∧
      Written s.1 (Frame.writing (rejection pid cause).encode).2 ∧
      match (Frame.writing (rejection pid cause).encode).1 with
      | .ok () => report.phase = .done ∧ report.outcome = .ok (.immediate (rejection pid cause))
      | .error e => report.phase = .failed ∧ report.outcome = .error (.transport e)

variable {Written : τ → List UInt8 → Prop} {report : SessionReport}

/-- A session that asked for no change has nothing to tell. -/
theorem told_of_unchanged (unchanged : redefinitions s.2 = []) : Told Written report s := by
  intro changes cause refused
  rw [unchanged] at refused
  cases refused

theorem Told.hangUp (told : Told Written report s) (other : LinkId) :
    Told Written report (s.1, s.2 ++ [⟨.hangUp other, ()⟩]) := by
  intro changes cause refused
  simp only [redefinitions_append, redefinitions_cons, redefinition, redefinitions_nil,
    List.append_nil] at refused
  obtain ⟨pid, asked, written, ends⟩ := told changes cause refused
  exact ⟨pid, List.mem_append_left _ asked, written, ends⟩

variable {request : Request}

/-- A frame that is sent comes to what it comes to on the wire. -/
theorem send_written {α : Type} {frame : ByteArray}
    {next : Except TransportError Unit → Procedure α} {post : α → τ × List Event → Prop}
    (accepts : o.Accepts .blocking Written) (fresh : Written s.1 [])
    (later : ∀ after, Written after (Frame.writing frame).2 →
      (next (Frame.writing frame).1).Obeys (watched o link) post
        (after, s.2 ++ [⟨.send link frame, (Frame.writing frame).1⟩])) :
    (ask (.send link frame) next).Obeys (watched o link) post s := by
  refine watched_ask fun arrived after sends => ?_
  replace sends : if link = link then (arrived, after) = o.writeFrame s.1 frame
    else after = s.1 := sends
  rw [if_pos rfl] at sends
  obtain ⟨after', wrote, written⟩ := accepts.write fresh frame
  obtain ⟨rfl, rfl⟩ := Prod.mk.inj (sends.trans wrote)
  exact later after written

/-- Where one change was asked for, the cause of a refusal is the answer to it. -/
theorem cause_of_refused {past : List Event} (unchanged : redefinitions past = []) {pid : UInt32}
    {answer : Except Host.Error Unit} {q : Question} {reply : q.Answer}
    (other : redefinition ⟨q, reply⟩ = []) {changes : ChangeSet} {cause : Host.Error}
    (refused : (changes, .error cause) ∈ redefinitions (past ++ [⟨.host .processId, pid⟩] ++
      [⟨.host (.redefineClasses request.changes), answer⟩] ++ [⟨q, reply⟩])) :
    answer = .error cause := by
  simp only [redefinitions_append, redefinitions_cons, redefinitions_nil, unchanged, other,
    List.append_nil, List.nil_append] at refused
  exact (Prod.mk.inj (List.mem_singleton.1 refused)).2.symm

/-- What the host refused is told in a frame, and the session ends as the sending of it does. -/
theorem told_of_refused {past : List Event} (unchanged : redefinitions past = []) {pid : UInt32}
    {cause : Host.Error} {sent : Except TransportError Unit} {report : SessionReport}
    (ends : match sent with
      | .ok () => report.phase = .done ∧ report.outcome = .ok (.immediate (rejection pid cause))
      | .error e => report.phase = .failed ∧ report.outcome = .error (.transport e))
    (sends : (Frame.writing (rejection pid cause).encode).1 = sent) {after : τ}
    (written : Written after (Frame.writing (rejection pid cause).encode).2) :
    Told Written report (after, past ++ [⟨.host .processId, pid⟩] ++
      [⟨.host (.redefineClasses request.changes), .error cause⟩] ++
      [⟨.send link (rejection pid cause).encode, sent⟩]) := by
  subst sends
  intro changes other refused
  cases cause_of_refused unchanged rfl refused
  exact ⟨pid, by simp, written, ends⟩

/-- A swap at once writes what the host answered, if it fits in a frame. -/
theorem swapNow_told (accepts : o.Accepts .blocking Written) (fresh : Written start [])
    (unswapped : Unswapped start s) (parts : progress.phase = .dispatch) :
    (swapNow request link progress).Obeys (watched o link)
      (fun r s => Told Written (reportOf r) s) s := by
  obtain ⟨stream, past⟩ := s
  obtain ⟨rfl, unchanged⟩ := unswapped
  replace unchanged : redefinitions past = [] := unchanged
  refine advance_andThen (by simp [parts, Phase.next]) (perform_andThen ?_)
  refine watched_ask fun pid _ same => ?_
  cases same
  refine watched_ask fun answer _ same => ?_
  cases same
  rcases answer with cause | _
  · refine advance_andThen (by simp [Phase.next]) (attempt_andThen ?_)
    rw [show Response.error pid (ErrorDetail.ofHost cause) = rejection pid cause from rfl]
    refine send_written accepts fresh fun after written => ?_
    cases sends : (Frame.writing (rejection pid cause).encode).1 with
    | error e =>
        refine told_of_refused unchanged ?_ sends written
        exact ⟨rfl, rfl⟩
    | ok _ =>
        refine advance_andThen (by simp [Phase.next]) (told_of_refused unchanged ?_ sends written)
        exact ⟨rfl, rfl⟩
  · refine advance_andThen (by simp [Phase.next]) (attempt_andThen ?_)
    refine watched_ask fun arrived after _ => ?_
    have told : ∀ report, Told Written report (after, past ++ [⟨.host .processId, pid⟩] ++
        [⟨.host (.redefineClasses request.changes), .ok ()⟩] ++
        [⟨.send link (Response.ok pid).encode, arrived⟩]) := by
      intro report changes cause refused
      cases cause_of_refused unchanged rfl refused
    rcases arrived with e | _
    · exact told _
    · exact advance_andThen (by simp [Phase.next]) (told _)

/-- A swap that is to wait asks for no change. -/
theorem swapLater_told (unswapped : Unswapped start s) :
    (swapLater request link progress).Obeys (watched o link)
      (fun r s => Told Written (reportOf r) s) s := by
  have kept : ∀ q (s : τ × List Event) answer s', Transfers q → redefinitions s.2 = [] →
      (watched o link).answers s q answer s' → redefinitions s'.2 = [] := by
    rintro q s answer s' transfers unchanged ⟨-, grows⟩
    have none : redefinition ⟨q, answer⟩ = [] := by cases transfers <;> rfl
    rw [grows, redefinitions_append, unchanged, redefinitions_cons, none]
    rfl
  refine advance_either (fun _ => ?_) fun _ => told_of_unchanged unswapped.unchanged
  refine advance_either (fun _ => ?_) fun _ => told_of_unchanged unswapped.unchanged
  refine attempt_kept (transfer_questions request link) (fun _ _ _ _ => trivial) kept
    unswapped.unchanged (fun _ _ => told_of_unchanged) fun token s unchanged => ?_
  exact advance_either (fun _ => told_of_unchanged unchanged) fun _ => told_of_unchanged unchanged

theorem session_told (agent : Agent) (accepts : o.Accepts .blocking Written)
    (fresh : Written start []) :
    (session agent Progress.start).Obeys (watched o link)
      (fun r s => Told Written (reportOf r) s) (start, []) := by
  refine attempt_andThen (watched_ask fun opened t opens => ?_)
  obtain ⟨rfl, only⟩ := opens
  rcases opened with cause | other
  · exact told_of_unchanged rfl
  obtain rfl := only other rfl
  have untouched : Unswapped t (t, [⟨.connect, .ok other⟩]) := ⟨rfl, rfl⟩
  have prepared := (prepare_unswapped (o := o) agent untouched).and
    (prepare_halfway (fun _ _ _ => trivial) agent other)
  refine stage_andThen (hangingUpOnFailure_obeys (prepared.mono ?_))
  rintro ⟨e | request, progress⟩ s ⟨⟨unswapped, -⟩, half⟩
  · refine watched_ask fun _ _ same => ?_
    cases same
    exact (told_of_unchanged unswapped.unchanged).hangUp other
  cases later : request.restartActivity with
  | true =>
      simp only [later, if_true]
      exact swapLater_told unswapped
  | false =>
      simp only [later]
      refine hangingUp_obeys ((swapNow_told accepts fresh unswapped half.2).mono ?_)
      intro r s told
      refine watched_ask fun _ _ same => ?_
      cases same
      exact told.hangUp other

theorem attach_told (agent : Agent) (accepts : o.Accepts .blocking Written)
    (fresh : Written start []) :
    agent.attach.Obeys (watched o link) (Told Written) (start, []) := by
  refine attach_obeys ((session_told agent accepts fresh).mono ?_)
  rintro ⟨e | completion, progress⟩ s told <;> exact told

end Stream

/-! ## The law -/

/-- A refusal is told: the session ends well, and what it wrote is one frame, from which the
controller reads the name and the message of the error. -/
structure Answered (pid : UInt32) (cause : Host.Error) (report : SessionReport)
    (bytes : List UInt8) : Prop where
  phase : report.phase = .done
  outcome : report.outcome = .ok (.immediate (rejection pid cause))
  told : ∃ frame, Frame.reading bytes = (.ok frame, bytes.length) ∧
    Response.decode frame = .ok ⟨pid, .error, some ⟨cause.code.name, cause.message⟩⟩

/-- A refusal is not told: the session failed over its response, and wrote nothing. -/
structure Unanswered (size : Nat) (report : SessionReport) (bytes : List UInt8) : Prop where
  phase : report.phase = .failed
  outcome : report.outcome = .error (.transport (.frameTooLarge size))
  silent : bytes = []

/-- On a stream that accepts every byte, whatever the host and everything else answers: a refusal
of the host is told exactly if the response fits in a frame, and otherwise the session fails
over it.  It fits if the message of the host has no more than 2796186 bytes. -/
theorem attach_rejection {τ : Type} {o : Outlet τ} {Written : τ → List UInt8 → Prop}
    (accepts : o.Accepts .blocking Written) {agent : Agent} {report : SessionReport}
    {log : List Event} {start after : τ} {link : LinkId} (fresh : Written start [])
    (course : Course agent.attach log (done report))
    (plays : (streamed o link).Plays start log after) {changes : ChangeSet} {cause : Host.Error}
    (refused : (changes, .error cause) ∈ redefinitions log) :
    ∃ pid bytes, ⟨.host .processId, pid⟩ ∈ log ∧ Written after bytes ∧
      (Answered pid cause report bytes ↔
        (rejection pid cause).encode.size ≤ Frame.maxLength) ∧
      (Frame.maxLength < (rejection pid cause).encode.size →
        Unanswered (rejection pid cause).encode.size report bytes) ∧
      (cause.message.utf8ByteSize ≤ 2796186 → Answered pid cause report bytes) := by
  have told : Told Written report (after, log) :=
    (attach_told agent accepts fresh).ends course (plays.recalling [])
  obtain ⟨pid, asked, written, ends⟩ := told changes cause refused
  have fits_of_short : cause.message.utf8ByteSize ≤ 2796186 →
      (rejection pid cause).encode.size ≤ Frame.maxLength := by
    intro short
    refine Nat.le_trans (size_rejection_le pid cause) ?_
    rw [Frame.maxLength]
    omega
  refine ⟨pid, _, asked, written, ?_⟩
  by_cases fits : (rejection pid cause).encode.size ≤ Frame.maxLength
  · have sent : (Frame.writing (rejection pid cause).encode).1 = .ok () := by
      rw [Frame.writing, if_neg (Nat.not_lt.2 fits)]
    rw [sent] at ends
    have read := Frame.reading_writing fits []
    rw [List.append_nil] at read
    have answered : Answered pid cause report (Frame.writing (rejection pid cause).encode).2 :=
      ⟨ends.1, ends.2, _, read, Response.decode_encode _⟩
    exact ⟨⟨fun _ => fits, fun _ => answered⟩, fun long => absurd fits (Nat.not_le.2 long),
      fun _ => answered⟩
  · have long := Nat.not_le.1 fits
    rw [Frame.writing, if_pos long] at ends ⊢
    have unanswered : ¬ Answered pid cause report [] := by
      intro answered
      cases answered.phase.symm.trans ends.1
    exact ⟨⟨fun answered => absurd answered unanswered, fun short => absurd short fits⟩,
      fun _ => ⟨ends.1, ends.2, rfl⟩, fun short => absurd (fits_of_short short) fits⟩

/-! ## A process that does not know the class -/

/-- What was written on a connection that is a byte stream. -/
def sinkAt (link : LinkId) (s : Scene SimulatedHost) : Sink :=
  match s.world.links[link]? with
  | some (.bytes line) => line.sink
  | _ => {}

/-- A connection is a byte stream. -/
def OnBytes (link : LinkId) (s : Scene SimulatedHost) : Prop :=
  ∃ line, s.world.links[link]? = some (.bytes line)

section Scene

variable {link other : LinkId} {s : Scene SimulatedHost} {line : ByteLine}

theorem sinkAt_eq (there : s.world.links[link]? = some (.bytes line)) :
    sinkAt link s = line.sink := by
  rw [sinkAt, there]

/-- What is done on a connection changes no other. -/
theorem onLink_bytes {α : Type} {w : World} (other : LinkId)
    (there : w.links[link]? = some (.bytes line)) (absent : α) (change : Link → α × Link) :
    (w.onLink other absent change).2.links[link]? =
      some (if other = link then (change (.bytes line)).2 else .bytes line) := by
  by_cases same : other = link
  · subst same
    have inside : other < w.links.size := (Array.getElem?_eq_some_iff.1 there).1
    rw [World.onLink_at there, if_pos rfl]
    simp [inside]
  · rw [if_neg same]
    unfold World.onLink
    cases w.links[other]? with
    | none => exact there
    | some found => simp [Array.getElem?_setIfInBounds_ne same, there]

/-- What does not touch the connections leaves the stream as it is. -/
theorem streamed_aside {s' : Scene SimulatedHost} (there : OnBytes link s)
    (same : s'.world.links = s.world.links) : sinkAt link s' = sinkAt link s ∧ OnBytes link s' := by
  rw [sinkAt, sinkAt, OnBytes, same]
  exact ⟨rfl, there⟩

/-- What is done on a connection without writing leaves the stream as it is. -/
theorem streamed_unwritten {α : Type} (there : OnBytes link s) (absent : α)
    (change : Link → α × Link)
    (unwritten : ∀ line, ∃ line', (change (.bytes line)).2 = .bytes line' ∧ line'.sink = line.sink) :
    sinkAt link ⟨s.host, (s.world.onLink other absent change).2⟩ = sinkAt link s ∧
      OnBytes link ⟨s.host, (s.world.onLink other absent change).2⟩ := by
  obtain ⟨line, there⟩ := there
  obtain ⟨line', changed, sink⟩ := unwritten line
  have now := onLink_bytes other there absent change
  rw [changed] at now
  by_cases same : other = link
  · rw [if_pos same] at now
    exact ⟨by rw [sinkAt_eq now, sinkAt_eq there, sink], _, now⟩
  · rw [if_neg same] at now
    exact ⟨by rw [sinkAt_eq now, sinkAt_eq there], _, now⟩

/-- A simulated process and its world leave the stream to the session. -/
theorem answer_streamed (link : LinkId) (q : Question) (s : Scene SimulatedHost)
    (there : OnBytes link s) :
    (streamed Sink.outlet link).answers (sinkAt link s) q (Scene.answer (.ready link) q s).1
        (sinkAt link (Scene.answer (.ready link) q s).2) ∧
      OnBytes link (Scene.answer (.ready link) q s).2 := by
  cases q with
  | host call => exact streamed_aside there (SimulatedHost.answer_links call s.host s.world)
  | connect => exact ⟨⟨rfl, fun other same => (Except.ok.inj same).symm⟩, there⟩
  | receive other => exact streamed_unwritten there _ _ fun line => ⟨_, rfl, rfl⟩
  | hangUp other => exact streamed_unwritten there _ _ fun line => ⟨_, rfl, rfl⟩
  | send other frame =>
      obtain ⟨line, there⟩ := there
      have now := onLink_bytes other there
        (.error .closed : Except TransportError Unit) (Link.write frame)
      by_cases same : other = link
      · subst same
        rw [if_pos rfl] at now
        refine ⟨?_, _, now⟩
        show if other = other then _ else _
        rw [if_pos rfl, sinkAt_eq there]
        have arrived : (s.world.onLink other (.error .closed) (Link.write frame)).1 =
            (Link.write frame (.bytes line)).1 := by
          rw [World.onLink_at there]
        exact Prod.ext arrived (sinkAt_eq
          (s := ⟨s.host, (s.world.onLink other (.error .closed) (Link.write frame)).2⟩) now)
      · rw [if_neg same] at now
        refine ⟨?_, _, now⟩
        show if other = link then _ else _
        rw [if_neg same, sinkAt_eq there]
        exact sinkAt_eq now
  | deposit dir payload => exact streamed_aside there (by simp [Scene.answer])
  | _ => exact streamed_aside there rfl

end Scene

/-- A request to change a class that the process has not loaded. -/
def strangeRequest : Request := ⟨"app", false, [⟨"Strange", .empty⟩]⟩

/-- A process, and a controller that sends the request over a byte stream. -/
def strangeScene : Scene SimulatedHost where
  host := Simulation.Fixture.host 7
  world :=
    { links := #[.bytes
        { source := { input := ⟨(Frame.writing strangeRequest.encode).2.toArray⟩ }, sink := {} }] }

/-- What the session asks. -/
def strangeLog : List Event :=
  Simulation.Fixture.agent.attach.events (Scene.answer (.ready 0)) strangeScene

/-- How the session ends. -/
def strangeEnd : SessionReport × Scene SimulatedHost :=
  Procedure.run (Scene.answer (.ready 0)) Simulation.Fixture.agent.attach strangeScene

theorem strangeLog_rejection :
    (strangeRequest.changes, .error (SimulatedHost.classNotFound "Strange")) ∈
        redefinitions strangeLog ∧
      ∃ pid bytes, ⟨.host .processId, pid⟩ ∈ strangeLog ∧
        (sinkAt 0 strangeEnd.2).Holds bytes ∧
        (Answered pid (SimulatedHost.classNotFound "Strange") strangeEnd.1 bytes ↔
          (rejection pid (SimulatedHost.classNotFound "Strange")).encode.size ≤
            Frame.maxLength) ∧
        (Frame.maxLength < (rejection pid (SimulatedHost.classNotFound "Strange")).encode.size →
          Unanswered (rejection pid (SimulatedHost.classNotFound "Strange")).encode.size
            strangeEnd.1 bytes) ∧
        ((SimulatedHost.classNotFound "Strange").message.utf8ByteSize ≤ 2796186 →
          Answered pid (SimulatedHost.classNotFound "Strange") strangeEnd.1 bytes) := by
  have refused : (strangeRequest.changes, .error (SimulatedHost.classNotFound "Strange")) ∈
      redefinitions strangeLog := by
    decide +kernel
  have empty : Sink.Holds {} [] := ⟨nofun, rfl, nofun, rfl, rfl⟩
  have plays := events_plays_of (answer_streamed 0) Simulation.Fixture.agent.attach
    (show OnBytes 0 strangeScene from ⟨_, rfl⟩)
  exact ⟨refused, attach_rejection Sink.accepts_all empty (course_events _ _ _) plays refused⟩

/-! ## A class name that is too long to be told

A controller may leave out what it does not want to say, so the frame of a request can be shorter
than the response that quotes the class name of the request. -/

/-- A document that asks for one class by its name alone. -/
def nameDocument (name : String) : Value :=
  .record [("package_name", .ofString "a"),
    ("change_set", .record [("classes", .array [.record [("name", .ofString name)]])])]

/-- The frame with this document. -/
def nameFrame (name : String) : ByteArray := ⟨(nameDocument name).print.toArray⟩

/-- The request that it carries. -/
def nameRequest (name : String) : Request := ⟨"a", false, [⟨name, .empty⟩]⟩

theorem size_nameFrame (name : String) : (nameFrame name).size = 57 + quotedLength name := by
  have texts : quotedLength "package_name" = 14 ∧ quotedLength "a" = 3 ∧
      quotedLength "change_set" = 12 ∧ quotedLength "classes" = 9 ∧ quotedLength "name" = 6 := by
    decide +kernel
  simp only [quotedLength] at texts
  obtain ⟨package, a, changes, classes, key⟩ := texts
  simp [nameFrame, nameDocument, Value.record, Value.print, Value.tokens, memberTokens, itemTokens,
    Value.ofString, printToken, ByteArray.size, quotedLength, package, a, changes, classes, key]
  omega

theorem sound_nameDocument (name : String) : (nameDocument name).Sound := by
  have definition : (Value.record [("name", .ofString name)]).Sound :=
    Value.sound_record fun m member => by
      obtain rfl := List.mem_singleton.1 member
      exact Value.sound_string name
  refine Value.sound_record fun m member => ?_
  obtain rfl | rfl : m = _ ∨ m = _ := by simpa using member
  · exact Value.sound_string "a"
  · refine Value.sound_record fun m member => ?_
    obtain rfl := List.mem_singleton.1 member
    refine Value.sound_array fun v member => ?_
    obtain rfl := List.mem_singleton.1 member
    exact definition

theorem decode_nameFrame (name : String) :
    Request.decode (nameFrame name) = .ok (nameRequest name) := by
  obtain ⟨filled, parsed⟩ : (nameFrame name).size ≠ 0 ∧
      parse? (nameFrame name).data.toList = some (nameDocument name) :=
    parse?_frame (sound_nameDocument name) rfl
  have definition := record?_record ["name", "bytecode"] [("name", .ofString name)]
    (by simp) (by simp)
  have inner := record?_record ["classes"]
    [("classes", .array [.record [("name", .ofString name)]])] (by simp) (by simp)
  have changes : Request.changesOf?
      (.record [("classes", .array [.record [("name", .ofString name)]])]) =
        some [⟨name, .empty⟩] := by
    simp [Request.changesOf?, inner, Fields.optional, Value.items?, readAll?, Request.classOf?,
      definition, Fields.required, List.lookup_cons, string?_ofString]
  have fields := record?_record ["package_name", "restart_activity", "change_set"]
    [("package_name", .ofString "a"),
      ("change_set", .record [("classes", .array [.record [("name", .ofString name)]])])]
    (by simp) (by simp)
  have value : Request.ofValue? (nameDocument name) = some (nameRequest name) := by
    simp [Request.ofValue?, nameDocument, nameRequest, fields, Fields.required, Fields.optional,
      List.lookup_cons, string?_ofString, changes]
  have blank : Text.isAllBlank "a" = false := by decide
  have plain : Request.isPlainName "a" = true := by decide
  rw [Request.decode, if_neg filled, parsed]
  simp [value, Request.check, nameRequest, blank, plain]

/-- What a session asks and is told that comes to a process prepared by an earlier one with a class
name that the process does not know. -/
def nameLog (name : String) : List Event :=
  [⟨.connect, .ok 0⟩,
    ⟨.receive 0, .ok (nameFrame name)⟩,
    ⟨.host .potentialCapabilities, .all⟩,
    ⟨.host (.addCapabilities .required), .ok ()⟩,
    ⟨.deposit "/payloads" Simulation.Fixture.agent.payload, .ok "/payloads/payload"⟩,
    ⟨.host (.findClass markerClass), true⟩,
    ⟨.host (.callStatic markerClass checkHash
      [.str Simulation.Fixture.agent.payload.fingerprint.hex]), .ok (.bool true)⟩,
    ⟨.host (.callStatic markerClass isFinishedInstrumenting []), .ok (.bool true)⟩,
    ⟨.host (.registerNatives nativeBindings), .ok ()⟩,
    ⟨.host .processId, 4242⟩,
    ⟨.host (.redefineClasses (nameRequest name).changes),
      .error (SimulatedHost.classNotFound name)⟩,
    ⟨.send 0 (rejection 4242 (SimulatedHost.classNotFound name)).encode,
      (Frame.writing (rejection 4242 (SimulatedHost.classNotFound name)).encode).1⟩,
    ⟨.hangUp 0, ()⟩]

/-- The report on such a session if the response does not fit in a frame. -/
def nameReport (name : String) : SessionReport where
  phase := .failed
  history := [.connecting, .awaitingRequest, .capabilityAcquisition, .bootstrapCheck,
    .versionCheck, .alreadyInstrumented, .dispatch, .immediateSwap, .respond, .failed]
  outcome := .error (.transport
    (.frameTooLarge (rejection 4242 (SimulatedHost.classNotFound name)).encode.size))

section LongName

variable {name : String}
  (long : Frame.maxLength < (rejection 4242 (SimulatedHost.classNotFound name)).encode.size)
include long

theorem nameLog_course :
    Course Simulation.Fixture.agent.attach (nameLog name) (done (nameReport name)) := by
  rw [nameLog, Frame.writing, if_pos long]
  refine .ask _ (.ask _ ?_)
  simp only [done_bind, pure_eq, ExceptT.bindCont, decode_nameFrame, attempt, Bind.bind,
    ExceptT.bind, ExceptT.mk, StateT.bind]
  refine .ask _ (.ask _ (.ask _ (.ask _ (.ask _ (.ask _ (.ask _ ?_))))))
  exact .ask _ (.ask _ (.ask _ (.ask _ (.here (done (nameReport name))))))

theorem nameLog_plays : (streamed Sink.outlet 0).Plays {} (nameLog name) {} := by
  have refused : (streamed Sink.outlet 0).answers {}
      (.send 0 (rejection 4242 (SimulatedHost.classNotFound name)).encode)
      (Frame.writing (rejection 4242 (SimulatedHost.classNotFound name)).encode).1 {} := by
    show if (0 : LinkId) = 0 then ((Frame.writing _).1, ({} : Sink)) = Sink.outlet.writeFrame {} _
      else ({} : Sink) = {}
    rw [if_pos rfl, Frame.writing, Outlet.writeFrame, if_pos long, if_pos long]
  refine .cons ⟨rfl, fun other same => (Except.ok.inj same).symm⟩ ?_
  iterate 10 refine .cons rfl ?_
  exact .cons refused (.cons rfl (.nil _))

end LongName

/-- Every refusal is told: whenever the host refuses the changes of a request that came in a frame,
over a stream that accepts every byte, the session ends well and the controller reads the error. -/
def RefusalsTold : Prop :=
  ∀ (agent : Agent) (log : List Event) (report : SessionReport) (start after : Sink)
    (link : LinkId) (frame : ByteArray) (changes : ChangeSet) (cause : Host.Error),
    start.Holds [] → Course agent.attach log (done report) →
      (streamed Sink.outlet link).Plays start log after →
        ⟨.receive link, .ok frame⟩ ∈ log → frame.size ≤ Frame.maxLength →
          report.visited .immediateSwap = true → (changes, .error cause) ∈ redefinitions log →
            ∃ pid bytes, after.Holds bytes ∧ Answered pid cause report bytes

/-- A name of so many letters. -/
def letters (n : Nat) : String := String.ofList (List.replicate n 'A')

theorem quotedLength_letters (n : Nat) : quotedLength (letters n) = n + 2 := by
  have bytes : (letters n).toUTF8.data.toList = List.replicate n 0x41 := by
    rw [String.toUTF8_eq_toByteArray, letters, String.toByteArray_ofList]
    induction n with
    | zero => rfl
    | succ n ih =>
        rw [List.replicate_succ, List.utf8Encode_cons, ByteArray.toList_data_append, ih]
        rfl
  have raw : Raw.ofString (letters n) = List.replicate n (.byte 0x41) := by
    rw [Raw.ofString, bytes, List.map_replicate]
    rfl
  have piece : printPiece (.byte 0x41) = [0x41] := by decide
  rw [quotedLength, raw, printString, List.flatMap_replicate, piece,
    List.flatten_replicate_singleton]
  simp

/-- A name that just leaves room for the rest of its request, and none for the rest of a response. -/
theorem longName_untold : ¬ RefusalsTold := by
  intro told
  have short : (nameFrame (letters 16777157)).size ≤ Frame.maxLength := by
    rw [size_nameFrame, quotedLength_letters, Frame.maxLength]
  have long : Frame.maxLength <
      (rejection 4242 (SimulatedHost.classNotFound (letters 16777157))).encode.size := by
    have digits : (Nat.toDigits 10 (4242 : UInt32).toNat).length = 4 := by decide
    have code : quotedLength (SimulatedHost.classNotFound (letters 16777157)).code.name = 17 := by
      show quotedLength "CLASS_NOT_FOUND" = 17
      decide +kernel
    have message : quotedLength (SimulatedHost.classNotFound (letters 16777157)).message =
        16777159 := quotedLength_letters _
    rw [size_rejection, digits, code, message, Frame.maxLength]
    omega
  have empty : Sink.Holds {} [] := ⟨nofun, rfl, nofun, rfl, rfl⟩
  obtain ⟨pid, bytes, -, answered⟩ := told _ _ _ _ _ 0 (nameFrame (letters 16777157)) _ _ empty
    (nameLog_course long) (nameLog_plays long) (by simp [nameLog]) short rfl
    (List.mem_singleton.2 rfl)
  cases answered.phase

end Session

end HotSwap
