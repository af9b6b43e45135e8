/-
# HotSwap.Proofs.Command.LastWord -- how the controller's exchange ends

An agent that has the request may send any number of frames before it hangs up, and may hang up in
the middle of one.  The controller goes by the first frame that is no interim response: whether
the swap was applied, why it was refused, or that nothing can be made of it.  If the connection
ends without such a frame, that is a failure of its own, however many interim responses came.

`Concludes` says what the frames behind the interim ones come to, and `Meeting` what it takes for a
controller to meet an agent at all.  `control_concludes` says that the command then ends with just
that, whatever the agent sends; that one read behind the interim frames is enough for it; and that
nothing behind the frame that decides makes a difference.
-/
import HotSwap.Command.Run
import HotSwap.Proofs.Command.Sending
import HotSwap.Proofs.Message.Codec

namespace HotSwap

set_option autoImplicit false

namespace Command

/-! ## What the frames come to -/

/-- The response that the controller has from a frame. -/
def heard? (frame : ByteArray) : Option Response :=
  if frame.size ≤ Frame.maxLength then (Response.decode frame).toOption else none

/-- Whether a frame says that another one follows. -/
def isInterim (frame : ByteArray) : Bool :=
  (heard? frame).any fun r => r.status = .needActivityRestart

namespace Sending

/-- The longest run of interim frames in front. -/
def interims (sending : Sending) : List ByteArray := sending.frames.takeWhile isInterim

/-- The frames behind it, of which the first decides. -/
def behind (sending : Sending) : List ByteArray := sending.frames.dropWhile isInterim

end Sending

/-- What is printed for interim frames. -/
def interimLines : List ByteArray → String
  | [] => ""
  | frame :: rest =>
      (heard? frame).elim "" (fun r =>
        responseLine r ++ "Waiting for the activity to restart...\n") ++ interimLines rest

/-- What a frame that is no interim response comes to. -/
inductive Decides (frame : ByteArray) : Outcome → Prop where
  /-- The swap was applied. -/
  | applied {r : Response} (heard : heard? frame = some r) (status : r.status = .ok) :
      Decides frame { code := 0, stdout := responseLine r }
  /-- The swap was refused, and why. -/
  | refused {r : Response} {detail : ErrorDetail} (heard : heard? frame = some r)
      (status : r.status = .error) (told : r.errorDetail = some detail) :
      Decides frame
        { code := 1
          stdout := responseLine r
          stderr := "swap failed: " ++ (detail.kind ++ ": " ++ detail.message) ++ "\n" }
  /-- The swap was refused without a word why. -/
  | refusedBare {r : Response} (heard : heard? frame = some r) (status : r.status = .error)
      (untold : r.errorDetail = none) :
      Decides frame { code := 1, stdout := responseLine r, stderr := "swap failed: \n" }
  /-- The frame is no response.  What exactly is wrong with it is left out of the text. -/
  | undecodable {e : Response.DecodeError} (short : frame.size ≤ Frame.maxLength)
      (undecoded : Response.decode frame = .error e) :
      Decides frame { code := 1, stderr := "error: " ++ e.message ++ "\n" }
  /-- The frame is too long, so nothing of it is looked at. -/
  | oversized (long : Frame.maxLength < frame.size) :
      Decides frame
        { code := 1
          stderr := "error: " ++ (TransportError.frameTooLarge frame.size).message ++ "\n" }

/-- What the end of the connection comes to, if no frame decided. -/
inductive Ends (cut : List UInt8) : Outcome → Prop where
  /-- The last thing heard was the length of a frame that is too long. -/
  | announced (header : 4 ≤ cut.length) (long : Frame.maxLength < Frame.headerValue (cut.take 4)) :
      Ends cut
        { code := 1
          stderr := "error: " ++
            (TransportError.frameTooLarge (Frame.headerValue (cut.take 4))).message ++ "\n" }
  /-- The agent hung up without a word. -/
  | closed (silent : 4 ≤ cut.length → Frame.headerValue (cut.take 4) ≤ Frame.maxLength) :
      Ends cut { code := 2, stderr := "agent closed the connection without a response\n" }

/-- What the frames behind the interim ones, and the front part of one more, come to. -/
def Concludes : List ByteArray → List UInt8 → Outcome → Prop
  | frame :: _, _, last => Decides frame last
  | [], cut, last => Ends cut last

/-! ## The loop -/

namespace Outcome

@[simp] theorem printing_printing (o : Outcome) (before after : String) :
    (o.printing after).printing before = o.printing (before ++ after) := by
  simp only [printing, String.append_assoc]

@[simp] theorem printing_empty (o : Outcome) : o.printing "" = o := by
  simp only [printing, String.empty_append]

end Outcome

theorem rejected_printing (detail line : String) :
    (ControlFailure.rejected detail).outcome.printing line =
      { code := 1, stdout := line, stderr := "swap failed: " ++ detail ++ "\n" } := by
  show ({ code := 1, stdout := line ++ "", stderr := _ } : Outcome) = _
  rw [String.append_empty]
  rfl

theorem heard?_eq_some_iff {frame : ByteArray} {r : Response} :
    heard? frame = some r ↔ frame.size ≤ Frame.maxLength ∧ Response.decode frame = .ok r := by
  unfold heard?
  split
  · rename_i short
    cases Response.decode frame with
    | error e => simp [Except.toOption]
    | ok other => simp [Except.toOption, short]
  · rename_i long
    simp [long]

/-- The controller has the response that was sent. -/
theorem heard?_encode {r : Response} (short : r.encode.size ≤ Frame.maxLength) :
    heard? r.encode = some r := heard?_eq_some_iff.2 ⟨short, r.decode_encode⟩

theorem isInterim_iff {frame : ByteArray} :
    isInterim frame = true ↔
      ∃ r, heard? frame = some r ∧ r.status = .needActivityRestart := by
  simp [isInterim, Option.any_eq_true]

/-- Something comes of every frame that is no interim response. -/
theorem exists_decides {frame : ByteArray} (last : isInterim frame = false) :
    ∃ outcome, Decides frame outcome := by
  by_cases long : Frame.maxLength < frame.size
  · exact ⟨_, .oversized long⟩
  have short : frame.size ≤ Frame.maxLength := Nat.le_of_not_lt long
  cases decoded : Response.decode frame with
  | error e => exact ⟨_, .undecodable short decoded⟩
  | ok r =>
      have heard : heard? frame = some r := heard?_eq_some_iff.2 ⟨short, decoded⟩
      cases status : r.status with
      | ok => exact ⟨_, .applied heard status⟩
      | error =>
          cases told : r.errorDetail with
          | none => exact ⟨_, .refusedBare heard status told⟩
          | some detail => exact ⟨_, .refused heard status told⟩
      | needActivityRestart =>
          rw [isInterim_iff.2 ⟨r, heard, status⟩] at last
          cases last

/-- Something comes of every end. -/
theorem exists_ends (cut : List UInt8) : ∃ outcome, Ends cut outcome := by
  by_cases announced : 4 ≤ cut.length ∧ Frame.maxLength < Frame.headerValue (cut.take 4)
  · exact ⟨_, .announced announced.1 announced.2⟩
  · refine ⟨_, .closed ?_⟩
    intro header
    exact Nat.le_of_not_lt fun long => announced ⟨header, long⟩

/-- Something comes of whatever an agent sends. -/
theorem Sending.exists_concludes (sending : Sending) :
    ∃ last, Concludes sending.behind sending.cut last := by
  cases behind : sending.behind with
  | nil => exact exists_ends sending.cut
  | cons frame rest =>
      have final := List.head?_dropWhile_not isInterim sending.frames
      have first : sending.frames.dropWhile isInterim = frame :: rest := behind
      rw [first] at final
      exact exists_decides (by simpa using final)

section Loop

variable {staysMs : Nat} {timeout : UInt64} {reader reader' : Polled.Reader}

/-- A response that is not interim is the last. -/
theorem awaitResponses_heard {frame : ByteArray} {r : Response} (heard : heard? frame = some r)
    (final : r.status.isInterim = false) (read : Polled.readFrame reader = (.ok frame, reader'))
    (limit : Nat) :
    awaitResponses staysMs timeout (limit + 1) reader =
      ((lastResponse r).printing (responseLine r), 1) := by
  have decoded := (heard?_eq_some_iff.1 heard).2
  rw [awaitResponses, read]
  simp only [decoded, final, Bool.false_eq_true, if_false]

/-- An interim frame is passed over. -/
theorem awaitResponses_interim {frame : ByteArray} (interim : isInterim frame = true)
    (read : Polled.readFrame reader = (.ok frame, reader')) (limit : Nat) :
    awaitResponses staysMs timeout (limit + 1) reader =
      ((awaitResponses staysMs timeout limit reader').1.printing (interimLines [frame]),
        (awaitResponses staysMs timeout limit reader').2 + 1) := by
  obtain ⟨r, heard, status⟩ := isInterim_iff.1 interim
  have decoded := (heard?_eq_some_iff.1 heard).2
  have waits : r.status.isInterim = true := by
    rw [status]
    rfl
  have line : interimLines [frame] =
      responseLine r ++ "Waiting for the activity to restart...\n" := by
    rw [interimLines, interimLines, heard, String.append_empty]
    rfl
  rw [awaitResponses, read, line]
  simp only [decoded, waits, if_true]

/-- A frame that is no interim response decides, whatever follows it. -/
theorem Decides.awaitResponses_eq {frame : ByteArray} {last : Outcome}
    (decides : Decides frame last) (told : frame.size < 4294967296) {rest : List UInt8}
    (read : Polled.readFrame reader = ((Frame.reading (Frame.onWire frame ++ rest)).1, reader'))
    (limit : Nat) : awaitResponses staysMs timeout (limit + 1) reader = (last, 1) := by
  cases decides with
  | @applied r heard status =>
      rw [Frame.reading_onWire (heard?_eq_some_iff.1 heard).1] at read
      rw [awaitResponses_heard heard (by rw [status]; rfl) read, lastResponse, status]
      rw [Outcome.printing, String.append_empty]
  | @refused r detail heard status why =>
      rw [Frame.reading_onWire (heard?_eq_some_iff.1 heard).1] at read
      rw [awaitResponses_heard heard (by rw [status]; rfl) read, lastResponse, status]
      rw [rejection, why, rejected_printing]
      rfl
  | @refusedBare r heard status untold =>
      have bare : "swap failed: " ++ "" ++ "\n" = "swap failed: \n" := by decide
      rw [Frame.reading_onWire (heard?_eq_some_iff.1 heard).1] at read
      rw [awaitResponses_heard heard (by rw [status]; rfl) read, lastResponse, status]
      rw [rejection, untold, Option.elim_none, rejected_printing, bare]
  | undecodable short undecoded =>
      rw [Frame.reading_onWire short] at read
      rw [awaitResponses, read]
      simp only [undecoded]
      rfl
  | oversized long =>
      rw [Frame.reading_onWire_oversized told long] at read
      rw [awaitResponses, read]
      rfl

/-- The end of the stream decides, if no frame did. -/
theorem Ends.awaitResponses_eq {cut : List UInt8} {last : Outcome} (ends : Ends cut last)
    (patient : staysMs ≤ timeout.toNat)
    (broken : Broken cut)
    (read : Polled.readFrame reader = ((Frame.reading cut).1, reader')) (limit : Nat) :
    awaitResponses staysMs timeout (limit + 1) reader = (last, 1) := by
  obtain ⟨frame, small, front, short⟩ := broken
  rw [Frame.reading_cut small front short] at read
  cases ends with
  | announced header long =>
      rw [if_pos ⟨header, long⟩] at read
      rw [awaitResponses, read]
      rfl
  | closed silent =>
      have quiet : silence staysMs timeout = .closedWithoutResponse :=
        if_neg (Nat.not_lt.2 patient)
      rw [if_neg fun both => Nat.not_lt.2 (silent both.1) both.2] at read
      rw [awaitResponses, read]
      simp only [quiet]
      rfl

/-- **What the frames on a stream come to.**  The loop ends with what the first frame behind the
interim ones comes to, if there is room for that one.  It prints what the interim ones said, and
has asked for one frame more than there are of these. -/
theorem awaitResponses_concludes (patient : staysMs ≤ timeout.toNat) {input : ByteArray}
    {frames : List ByteArray} {cut : List UInt8} {last : Outcome}
    (told : ∀ frame ∈ frames, frame.size < 4294967296)
    (broken : Broken cut)
    (left : Polled.Reader.Left input reader (frames.flatMap Frame.onWire ++ cut))
    (concludes : Concludes (frames.dropWhile isInterim) cut last) {limit : Nat}
    (room : (frames.takeWhile isInterim).length < limit) :
    awaitResponses staysMs timeout limit reader =
      (last.printing (interimLines (frames.takeWhile isInterim)),
        (frames.takeWhile isInterim).length + 1) := by
  obtain ⟨less, rfl⟩ := Nat.exists_eq_add_one.2 (Nat.zero_lt_of_lt room)
  have delivers := Polled.Reader.delivers input .polled
  induction frames generalizing reader less with
  | nil =>
      obtain ⟨reader', read, -⟩ := delivers.read left
      rw [Ends.awaitResponses_eq concludes patient broken read, List.takeWhile_nil, interimLines,
        Outcome.printing_empty]
      rfl
  | cons frame rest ih =>
      have small := told frame (List.mem_cons_self ..)
      obtain ⟨reader', read, behind⟩ := delivers.read left
      rw [List.flatMap_cons, List.append_assoc] at read behind
      cases kind : isInterim frame with
      | false =>
          rw [List.dropWhile_cons_of_neg (by simp [kind])] at concludes
          rw [List.takeWhile_cons_of_neg (by simp [kind]),
            Decides.awaitResponses_eq concludes small read, interimLines, Outcome.printing_empty]
          rfl
      | true =>
          obtain ⟨r, heard, -⟩ := isInterim_iff.1 kind
          rw [Frame.reading_onWire (heard?_eq_some_iff.1 heard).1] at read behind
          rw [List.drop_left] at behind
          rw [List.dropWhile_cons_of_pos kind] at concludes
          rw [List.takeWhile_cons_of_pos kind, List.length_cons] at room
          obtain ⟨fewer, rfl⟩ : ∃ fewer, less = fewer + 1 := ⟨less - 1, by omega⟩
          have further := ih (fun other member => told other (List.mem_cons_of_mem _ member))
            behind concludes fewer (by omega)
          rw [awaitResponses_interim kind read, further, List.takeWhile_cons_of_pos kind,
            Outcome.printing_printing, interimLines, interimLines, interimLines,
            String.append_empty, List.length_cons]

end Loop

/-! ## The command -/

namespace Sending

/-- There are no more interim frames than bytes, so a limit above these is never met. -/
theorem room_sent (sending : Sending) {sent : ByteArray} (same : sent = sending.bytes) :
    sending.interims.length < sent.size + 1 := by
  have each : ∀ frames : List ByteArray, frames.length ≤ (frames.flatMap Frame.onWire).length := by
    intro frames
    induction frames with
    | nil => exact Nat.le_refl 0
    | cons frame rest ih =>
        rw [List.flatMap_cons, List.length_append, List.length_cons, Frame.length_onWire]
        omega
  have total : sending.bytes.size =
      (sending.frames.flatMap Frame.onWire ++ sending.cut).length := rfl
  have some := each sending.frames
  have fewer := (List.takeWhile_sublist isInterim (l := sending.frames)).length_le
  rw [same, total, List.length_append, interims]
  omega

end Sending

/-- The agent that is served is the one there is, and comes to the socket before time runs out. -/
theorem callerAt_eq_some_iff {files : FileTree} {socket : String} {timeout : UInt64}
    {caller : Option Caller} {c : Caller} :
    callerAt files socket timeout caller = some c ↔
      caller = some c ∧ timeout ≠ 0 ∧
        ∃ place, files.socketAt? c.socket = some place ∧ files.socketAt? socket = some place := by
  cases caller with
  | none => simp [callerAt]
  | some other =>
      rw [callerAt, Option.some_inj]
      constructor
      · intro reached
        split at reached
        · cases reached
        · rename_i place found
          split at reached
          · rename_i both
            cases reached
            exact ⟨rfl, both.2, place, found, both.1⟩
          · cases reached
      · rintro ⟨rfl, timely, place, found, same⟩
        simp only [found, same, true_and, if_pos timely]

/-- A frame that is not too long is sent. -/
theorem writeFrame_of_short {frame : ByteArray} (short : frame.size ≤ Frame.maxLength) :
    (Polled.writeFrame {} frame).1 = .ok () := by
  have moving : (none : Option Nat) ≠ some 0 := nofun
  obtain ⟨w, polled, -⟩ := (Polled.Writer.accepts_all .polled).write
    (s := {}) ⟨moving, rfl⟩ frame
  have polled : Polled.writeFrame {} frame = ((Frame.writing frame).1, w) := polled
  rw [polled, Frame.writing, if_neg (Nat.not_lt.2 short)]

/-- A controller that comes to serve an agent: what it has settled and read by then, the files as
it left them, and the agent that came in time.  The request is not too long to be sent. -/
structure Meeting (s : Surroundings) (config : Option String) (options : ControlOptions) where
  settings : Settings
  changes : List ClassDefinition
  files : FileTree
  caller : Caller
  configured : settingsOf s config = .ok settings
  read : options.classes.mapM (classOf s.files) = .ok changes
  listening : listen s.files (options.socket.getD settings.socketPath) = .ok files
  reached : callerAt files (options.socket.getD settings.socketPath) options.acceptTimeoutMs
    s.caller = some caller
  short : (Request.mk options.package options.restart changes).encode.size ≤ Frame.maxLength

namespace Meeting

variable {s : Surroundings} {config : Option String} {options : ControlOptions}

/-- The request that is sent. -/
def request (m : Meeting s config options) : Request :=
  ⟨options.package, options.restart, m.changes⟩

/-- A controller that meets an agent ends as its loop does. -/
theorem outcome_eq (m : Meeting s config options) (timely : options.responseTimeoutMs ≠ 0) :
    ((Invocation.run config (.control options)).outcome s).1 =
      { (awaitResponses m.caller.staysMs options.responseTimeoutMs (m.caller.sent.size + 1)
          { input := m.caller.sent }).1 with
        request := some m.request.encode } := by
  have sent : (Polled.writeFrame {} m.request.encode).1 = .ok () := writeFrame_of_short m.short
  rw [Invocation.outcome, m.configured]
  simp only [perform, control, m.read, m.listening, m.reached]
  show serve options m.request m.caller = _
  rw [serve, sent]
  simp only [if_neg timely]

/-- The surroundings with an agent that does the same, but sends something else. -/
def resent (m : Meeting s config options) (bytes : ByteArray) : Surroundings :=
  { s with caller := some { m.caller with sent := bytes } }

/-- The controller meets that agent as well. -/
def again (m : Meeting s config options) (bytes : ByteArray) :
    Meeting (m.resent bytes) config options where
  settings := m.settings
  changes := m.changes
  files := m.files
  caller := { m.caller with sent := bytes }
  configured := m.configured
  read := m.read
  listening := m.listening
  reached := by
    obtain ⟨-, timely, places⟩ := callerAt_eq_some_iff.1 m.reached
    exact callerAt_eq_some_iff.2 ⟨rfl, timely, places⟩
  short := m.short

/-- The loop over what an agent sends. -/
theorem awaitResponses_sent (m : Meeting s config options)
    (patient : m.caller.staysMs ≤ options.responseTimeoutMs.toNat) {sending : Sending}
    (sent : m.caller.sent = sending.bytes) {last : Outcome}
    (concludes : Concludes sending.behind sending.cut last) {limit : Nat}
    (room : sending.interims.length < limit) :
    awaitResponses m.caller.staysMs options.responseTimeoutMs limit { input := m.caller.sent } =
      (last.printing (interimLines sending.interims), sending.interims.length + 1) := by
  have moving : (none : Option Nat) ≠ some 0 := nofun
  have left : Polled.Reader.Left sending.bytes { input := sending.bytes }
      (sending.frames.flatMap Frame.onWire ++ sending.cut) :=
    ⟨⟨rfl, moving, Nat.zero_le _⟩, rfl⟩
  rw [sent]
  exact awaitResponses_concludes patient sending.told sending.broken left concludes room

/-- A controller that meets an agent ends with what the frames come to. -/
theorem outcome_concludes (m : Meeting s config options) (timely : options.responseTimeoutMs ≠ 0)
    (patient : m.caller.staysMs ≤ options.responseTimeoutMs.toNat) {sending : Sending}
    (sent : m.caller.sent = sending.bytes) {last : Outcome}
    (concludes : Concludes sending.behind sending.cut last) :
    ((Invocation.run config (.control options)).outcome s).1 =
      { last.printing (interimLines sending.interims) with request := some m.request.encode } := by
  rw [m.outcome_eq timely, m.awaitResponses_sent patient sent concludes (sending.room_sent sent)]

end Meeting

/-- **How the controller's exchange ends.**  The agent has come and got the request, sends frames
and perhaps the front part of one more, and hangs up before the controller's patience ends.  Then
something comes of the frames behind the interim ones, and that is how the command ends: with its
exit code and its texts, behind what the interim ones said.  The loop asks for one frame more than
there are interim ones, and whatever else may be sent behind the frame that decides, the command
ends the same. -/
theorem control_concludes {s : Surroundings} {config : Option String} {options : ControlOptions}
    (m : Meeting s config options) (timely : options.responseTimeoutMs ≠ 0)
    (patient : m.caller.staysMs ≤ options.responseTimeoutMs.toNat) (sending : Sending)
    (sent : m.caller.sent = sending.bytes) :
    (∃ last, Concludes sending.behind sending.cut last) ∧
      (∀ last, Concludes sending.behind sending.cut last →
        ((Invocation.run config (.control options)).outcome s).1 =
          { last.printing (interimLines sending.interims) with
            request := some m.request.encode }) ∧
      (awaitResponses m.caller.staysMs options.responseTimeoutMs (m.caller.sent.size + 1)
        { input := m.caller.sent }).2 = sending.interims.length + 1 ∧
      ∀ other : Sending, other.interims = sending.interims → sending.behind ≠ [] →
        other.behind.head? = sending.behind.head? →
          ((Invocation.run config (.control options)).outcome (m.resent other.bytes)).1 =
            ((Invocation.run config (.control options)).outcome s).1 := by
  obtain ⟨last, concludes⟩ := sending.exists_concludes
  refine ⟨⟨last, concludes⟩, ?_, ?_, ?_⟩
  · intro last concludes
    exact m.outcome_concludes timely patient sent concludes
  · rw [m.awaitResponses_sent patient sent concludes (sending.room_sent sent)]
  · intro other same some head
    have likewise : Concludes other.behind other.cut last := by
      cases behind : sending.behind with
      | nil => exact absurd behind some
      | cons frame rest =>
          rw [behind, List.head?_cons] at head
          obtain ⟨tail, later⟩ := List.head?_eq_some_iff.1 head
          rw [behind] at concludes
          rw [later]
          exact concludes
    rw [m.outcome_concludes timely patient sent concludes,
      (m.again other.bytes).outcome_concludes timely patient rfl likewise, same]
    rfl

/-- Without a file and an environment that says something, the settings are the initial ones. -/
theorem settingsOf_none {s : Surroundings} (quiet : s.env = fun _ => none) :
    settingsOf s none = .ok (.initial Settings.commonTemporaryDir) := by
  have temporary : s.temporaryDir = Settings.commonTemporaryDir := by
    rw [Surroundings.temporaryDir, quiet, Option.getD_none]
  rw [settingsOf, baseSettings, temporary]
  simp only [quiet]
  rfl

/-- An agent that waits for the activity, reports success, says something more, and hangs up in the
middle of a frame. -/
def sampleSending : Sending where
  frames := [(Response.needRestart 7).encode, (Response.ok 7).encode, "late".toUTF8]
  cut := [0]
  told := by decide
  broken := ⟨.empty, by decide, by decide, by decide⟩

/-- A file system where a socket may be opened, and an agent that comes to it. -/
def sampleSurroundings (sent : ByteArray) : Surroundings where
  files := { entries := [(["tmp"], .directory)] }
  caller := some { socket := "/tmp/agent.sock", sent }

/-- The options of a command without classes. -/
def sampleOptions : ControlOptions :=
  { socket := some "/tmp/agent.sock", package := "com.example" }

/-- The controller meets that agent. -/
def sampleMeeting (sent : ByteArray) : Meeting (sampleSurroundings sent) none sampleOptions where
  settings := .initial Settings.commonTemporaryDir
  changes := []
  files := { entries := [(["tmp", "agent.sock"], .socket), (["tmp"], .directory)] }
  caller := { socket := "/tmp/agent.sock", sent }
  configured := settingsOf_none rfl
  read := rfl
  listening := rfl
  reached := by
    have found : FileTree.socketAt?
        { entries := [(["tmp", "agent.sock"], .socket), (["tmp"], .directory)] } "/tmp/agent.sock" =
          some ["tmp", "agent.sock"] := by decide
    exact callerAt_eq_some_iff.2 ⟨rfl, by decide, _, found, found⟩
  short := by
    have small : (Request.mk "com.example" false []).encode.size ≤ Frame.maxLength := by decide
    exact small

theorem sampleExchange_applied :
    sampleOptions.responseTimeoutMs ≠ 0 ∧
      (sampleMeeting sampleSending.bytes).caller.staysMs ≤
        sampleOptions.responseTimeoutMs.toNat ∧
      (sampleMeeting sampleSending.bytes).caller.sent = sampleSending.bytes ∧
      ((Invocation.run none (.control sampleOptions)).outcome
          (sampleSurroundings sampleSending.bytes)).1 =
        { code := 0
          stdout :=
            "pid 7: NeedActivityRestart\nWaiting for the activity to restart...\npid 7: Ok\n"
          request := some (sampleMeeting sampleSending.bytes).request.encode } := by
  have timely : sampleOptions.responseTimeoutMs ≠ 0 := by decide
  have patient : (sampleMeeting sampleSending.bytes).caller.staysMs ≤
      sampleOptions.responseTimeoutMs.toNat := by decide
  have waits : heard? (Response.needRestart 7).encode = some (.needRestart 7) :=
    heard?_encode (by decide)
  have applied : heard? (Response.ok 7).encode = some (.ok 7) := heard?_encode (by decide)
  have interim : isInterim (Response.needRestart 7).encode = true := by rw [isInterim, waits]; rfl
  have final : isInterim (Response.ok 7).encode = false := by rw [isInterim, applied]; rfl
  have first : sampleSending.interims = [(Response.needRestart 7).encode] := by
    simp [Sending.interims, sampleSending, interim, final]
  have behind : sampleSending.behind = [(Response.ok 7).encode, "late".toUTF8] := by
    simp [Sending.behind, sampleSending, interim, final]
  have concludes : Concludes sampleSending.behind sampleSending.cut
      { code := 0, stdout := responseLine (.ok 7) } := by
    rw [behind]
    exact Decides.applied applied rfl
  have said : interimLines sampleSending.interims ++ responseLine (.ok 7) =
      "pid 7: NeedActivityRestart\nWaiting for the activity to restart...\npid 7: Ok\n" := by
    rw [first, interimLines, interimLines, waits]
    decide
  refine ⟨timely, patient, rfl, ?_⟩
  rw [(control_concludes (sampleMeeting sampleSending.bytes) timely patient sampleSending rfl).2.1 _
    concludes, Outcome.printing, said]

end Command

end HotSwap
