/-
# HotSwap.Proofs.Session.Docket -- what becomes of every request

A request comes in on a connection of its own, and a process answers it there.  `Docket`
lists the only ways in which a log may grow so that every answer is earned: "needs a
restart" may be written while nothing else was; a redefinition is made with the changes of
one request only, and the very next thing is to tell this request how it went; and a
request that is given up is told so without a redefinition.  Behind one of the last two a
request is decided and gets no other answer.  Everything else is `Calm` and says nothing.

That sessions and the handler's call back keep the docket is shown next to the places where
undecided requests lie.  Here it is a log, and what can be read off it.

`Docket.sent` says what lies behind each frame, `Docket.redefined` in front of which frame each
redefinition stands, and `Docket.count` that there are as many redefinitions as frames that
tell a request "OK".
-/
import HotSwap.Proofs.Message.Codec
import HotSwap.Proofs.Session.Frames

namespace HotSwap

set_option autoImplicit false

namespace Session

open Procedure

/-! ## The docket -/

/-- Says nothing about what becomes of a request. -/
def Calm : Event → Prop
  | ⟨.send .., _⟩ | ⟨.host (.redefineClasses _), _⟩ | ⟨.connect, .ok _⟩ => False
  | _ => True

/-- A request was the first that was read on a connection when it had been opened. -/
def Asked (link : LinkId) (request : Request) (past : List Event) : Prop :=
  ∃ before frame after,
    past = before ++ ⟨.connect, .ok link⟩ :: ⟨.receive link, .ok frame⟩ :: after ∧
      Request.decode frame = .ok request

/-- Nothing was written on a connection but that a restart is needed. -/
def Undecided (pid : UInt32) (link : LinkId) (past : List Event) : Prop :=
  ∀ frame arrived, ⟨.send link frame, arrived⟩ ∈ past →
    frame = (Response.needRestart pid).encode

/-- A request came in on a connection and its last answer is due there. -/
structure Due (pid : UInt32) (link : LinkId) (request : Request) (past : List Event) : Prop where
  asked : Asked link request past
  undecided : Undecided pid link past

/-- Every request was answered as it should be, and every redefinition was made for one. -/
inductive Docket (pid : UInt32) : List Event → Prop where
  | nil : Docket pid []
  | calm {past : List Event} {event : Event} (docket : Docket pid past) (calm : Calm event) :
      Docket pid (past ++ [event])
  | opened {past : List Event} {link : LinkId} (docket : Docket pid past)
      (unused : ⟨.connect, .ok link⟩ ∉ past) : Docket pid (past ++ [⟨.connect, .ok link⟩])
  | postponed {past : List Event} {link : LinkId} {request : Request}
      {arrived : Except TransportError Unit} (docket : Docket pid past)
      (due : Due pid link request past) :
      Docket pid (past ++ [⟨.send link (Response.needRestart pid).encode, arrived⟩])
  | tried {past : List Event} {link : LinkId} {request : Request} {answer : Except Host.Error Unit}
      {arrived : Except TransportError Unit} (docket : Docket pid past)
      (due : Due pid link request past) :
      Docket pid (past ++ [⟨.host (.redefineClasses request.changes), answer⟩,
        ⟨.send link (verdict pid answer).encode, arrived⟩])
  | abandoned {past : List Event} {link : LinkId} {request : Request} {detail : ErrorDetail}
      {arrived : Except TransportError Unit} (docket : Docket pid past)
      (due : Due pid link request past)
      (kind : detail.kind = superseded.kind ∨ detail.kind = handoffKind) :
      Docket pid (past ++ [⟨.send link (Response.error pid detail).encode, arrived⟩])

variable {pid : UInt32} {link : LinkId} {request : Request} {past log : List Event}

theorem send_inj {other : LinkId} {frame frame' : ByteArray}
    {arrived arrived' : Except TransportError Unit}
    (same : (⟨.send link frame, arrived⟩ : Event) = ⟨.send other frame', arrived'⟩) :
    link = other ∧ frame = frame' := by
  simpa using congrArg Event.question same

theorem Asked.connected (asked : Asked link request past) : ⟨.connect, .ok link⟩ ∈ past := by
  obtain ⟨before, frame, after, rfl, -⟩ := asked
  simp

theorem Asked.append (asked : Asked link request past) (later : List Event) :
    Asked link request (past ++ later) := by
  obtain ⟨before, frame, after, rfl, decoded⟩ := asked
  exact ⟨before, frame, after ++ later, by simp, decoded⟩

/-- A request stays due while nothing else is written on its connection. -/
theorem Due.append (due : Due pid link request past) {later : List Event}
    (undecided : Undecided pid link later) : Due pid link request (past ++ later) where
  asked := due.asked.append later
  undecided frame arrived member :=
    (List.mem_append.1 member).elim (due.undecided frame arrived) (undecided frame arrived)

theorem Calm.undecided {event : Event} (calm : Calm event) : Undecided pid link [event] := by
  intro frame arrived member
  obtain rfl := List.mem_singleton.1 member
  cases calm

/-! ### What is read off a docket -/

/-- An event of a log with one more event at its end is one of the earlier, or the last. -/
theorem split_concat {before after : List Event} {event last : Event}
    (split : past ++ [last] = before ++ event :: after) :
    (∃ rest, past = before ++ event :: rest ∧ after = rest ++ [last]) ∨
      before = past ∧ event = last ∧ after = [] := by
  rcases List.eq_nil_or_concat after with rfl | ⟨rest, other, rfl⟩
  · obtain ⟨rfl, same⟩ := List.append_inj' split rfl
    exact .inr ⟨rfl, (List.singleton_inj.1 same).symm, rfl⟩
  · rw [List.concat_eq_append, ← List.cons_append, ← List.append_assoc] at split
    obtain ⟨earlier, same⟩ := List.append_inj' split rfl
    exact .inl ⟨rest, earlier, by rw [List.concat_eq_append, same]⟩

/-- What may lie before and behind an event of a docket. -/
inductive Entry (pid : UInt32) : List Event → Event → List Event → Prop where
  | calm {before after : List Event} {event : Event} (calm : Calm event) :
      Entry pid before event after
  | opened {before after : List Event} {link : LinkId} (unused : ⟨.connect, .ok link⟩ ∉ before) :
      Entry pid before ⟨.connect, .ok link⟩ after
  | postponed {before after : List Event} {link : LinkId} {request : Request}
      {arrived : Except TransportError Unit} (due : Due pid link request before) :
      Entry pid before ⟨.send link (Response.needRestart pid).encode, arrived⟩ after
  | redefined {before after : List Event} {link : LinkId} {request : Request}
      {answer : Except Host.Error Unit} {arrived : Except TransportError Unit}
      (due : Due pid link request before) :
      Entry pid before ⟨.host (.redefineClasses request.changes), answer⟩
        (⟨.send link (verdict pid answer).encode, arrived⟩ :: after)
  | tried {before after : List Event} {link : LinkId} {request : Request}
      {answer : Except Host.Error Unit} {arrived : Except TransportError Unit}
      (due : Due pid link request before) :
      Entry pid (before ++ [⟨.host (.redefineClasses request.changes), answer⟩])
        ⟨.send link (verdict pid answer).encode, arrived⟩ after
  | abandoned {before after : List Event} {link : LinkId} {request : Request}
      {detail : ErrorDetail} {arrived : Except TransportError Unit}
      (due : Due pid link request before)
      (kind : detail.kind = superseded.kind ∨ detail.kind = handoffKind) :
      Entry pid before ⟨.send link (Response.error pid detail).encode, arrived⟩ after

variable {before after : List Event} {event : Event}

theorem Entry.append (entry : Entry pid before event after) (later : List Event) :
    Entry pid before event (after ++ later) := by
  cases entry with
  | calm calm => exact .calm calm
  | opened unused => exact .opened unused
  | postponed due => exact .postponed due
  | redefined due => exact .redefined due
  | tried due => exact .tried due
  | abandoned due kind => exact .abandoned due kind

/-- Every event of a docket is one of these. -/
theorem Docket.entry (docket : Docket pid log) (split : log = before ++ event :: after) :
    Entry pid before event after := by
  induction docket generalizing after with
  | nil => simp at split
  | calm docket calm ih =>
      rcases split_concat split with ⟨rest, earlier, rfl⟩ | ⟨rfl, rfl, -⟩
      · exact (ih earlier).append _
      · exact .calm calm
  | opened docket unused ih =>
      rcases split_concat split with ⟨rest, earlier, rfl⟩ | ⟨rfl, rfl, -⟩
      · exact (ih earlier).append _
      · exact .opened unused
  | postponed docket due ih =>
      rcases split_concat split with ⟨rest, earlier, rfl⟩ | ⟨rfl, rfl, -⟩
      · exact (ih earlier).append _
      · exact .postponed due
  | tried docket due ih =>
      rw [List.append_cons] at split
      rcases split_concat split with ⟨rest, earlier, rfl⟩ | ⟨rfl, rfl, -⟩
      · rcases split_concat earlier with ⟨rest, first, rfl⟩ | ⟨rfl, rfl, rfl⟩
        · exact ((ih first).append _).append _
        · exact .redefined due
      · exact .tried due
  | abandoned docket due kind ih =>
      rcases split_concat split with ⟨rest, earlier, rfl⟩ | ⟨rfl, rfl, -⟩
      · exact (ih earlier).append _
      · exact .abandoned due kind

/-- What goes before a frame that a process writes on the connection of a request. -/
inductive Grounds (pid : UInt32) (request : Request) (before : List Event) : ByteArray → Prop where
  | postponed : Grounds pid request before (Response.needRestart pid).encode
  | tried {earlier : List Event} {answer : Except Host.Error Unit}
      (behind : before = earlier ++ [⟨.host (.redefineClasses request.changes), answer⟩]) :
      Grounds pid request before (verdict pid answer).encode
  | abandoned {detail : ErrorDetail}
      (kind : detail.kind = superseded.kind ∨ detail.kind = handoffKind) :
      Grounds pid request before (Response.error pid detail).encode

/-- Every frame is written for a request that is due, and on grounds that go with it. -/
theorem Docket.sent (docket : Docket pid log) {frame : ByteArray}
    {arrived : Except TransportError Unit}
    (split : log = before ++ ⟨.send link frame, arrived⟩ :: after) :
    ∃ request, Due pid link request before ∧ Grounds pid request before frame := by
  cases docket.entry split with
  | calm calm => cases calm
  | postponed due => exact ⟨_, due, .postponed⟩
  | tried due => exact ⟨_, due.append nofun, .tried rfl⟩
  | abandoned due kind => exact ⟨_, due, .abandoned kind⟩

/-- Every redefinition is made for one request, which is told the answer at once. -/
theorem Docket.redefined (docket : Docket pid log) {changes : ChangeSet}
    {answer : Except Host.Error Unit}
    (split : log = before ++ ⟨.host (.redefineClasses changes), answer⟩ :: after) :
    ∃ link request arrived later, request.changes = changes ∧ Due pid link request before ∧
      after = ⟨.send link (verdict pid answer).encode, arrived⟩ :: later := by
  cases docket.entry split with
  | calm calm => cases calm
  | redefined due => exact ⟨_, _, _, _, rfl, due, rfl⟩

/-- No connection is opened twice. -/
theorem Docket.unused (docket : Docket pid log)
    (split : log = before ++ ⟨.connect, .ok link⟩ :: after) : ⟨.connect, .ok link⟩ ∉ before := by
  cases docket.entry split with
  | calm calm => cases calm
  | opened unused => exact unused

/-- There is one place in a log where something happens for the first time. -/
theorem split_unused {before' after' : List Event} (first : event ∉ before) (also : event ∉ before')
    (same : before ++ event :: after = before' ++ event :: after') : after = after' := by
  induction before generalizing before' with
  | nil =>
      cases before' with
      | nil => exact (List.cons.inj same).2
      | cons head rest => exact absurd ((List.cons.inj same).1 ▸ List.mem_cons_self ..) also
  | cons head before ih =>
      cases before' with
      | nil => exact absurd ((List.cons.inj same).1 ▸ List.mem_cons_self ..) first
      | cons head' rest =>
          exact ih (List.not_mem_of_not_mem_cons first) (List.not_mem_of_not_mem_cons also)
            (List.cons.inj same).2

/-- A connection brings one request. -/
theorem Docket.asked_unique (docket : Docket pid log) {other : Request}
    (asked : Asked link request log) (also : Asked link other log) : request = other := by
  obtain ⟨before, frame, after, split, decoded⟩ := asked
  obtain ⟨before', frame', after', split', decoded'⟩ := also
  cases split_unused (docket.unused split) (docket.unused split') (split.symm.trans split')
  simpa [decoded] using decoded'

/-! ### Counting -/

/-- Whether a redefinition was made. -/
def applies : Event → Bool
  | ⟨.host (.redefineClasses _), .ok ()⟩ => true
  | _ => false

/-- Whether a response was written, on whatever connection. -/
def tells (response : Response) : Event → Bool
  | ⟨.send _ frame, _⟩ => decide (frame = response.encode)
  | _ => false

theorem tells_send (response told : Response) (arrived : Except TransportError Unit) :
    tells response ⟨.send link told.encode, arrived⟩ = decide (told.encode = response.encode) := rfl

/-- Another status is no "OK". -/
theorem encode_ne_ok {response : Response} (other : response.status ≠ .ok) :
    response.encode ≠ (Response.ok pid).encode :=
  Response.encode_ne other

theorem Calm.uncounted {event : Event} (calm : Calm event) (response : Response) :
    applies event = false ∧ tells response event = false := by
  obtain ⟨q, answer⟩ := event
  cases q with
  | host call => cases call <;> first | exact ⟨rfl, rfl⟩ | exact calm.elim
  | _ => first | exact ⟨rfl, rfl⟩ | exact calm.elim

/-- As many redefinitions were made as requests were told so. -/
theorem Docket.count (docket : Docket pid log) :
    log.countP applies = log.countP (tells (.ok pid)) := by
  induction docket with
  | nil => rfl
  | calm docket calm ih =>
      obtain ⟨unapplied, untold⟩ := calm.uncounted (.ok pid)
      simp [List.countP_append, ih, unapplied, untold]
  | opened docket unused ih => simpa [List.countP_append, applies, tells] using ih
  | postponed docket due ih =>
      have other : (Response.needRestart pid).encode ≠ (Response.ok pid).encode :=
        encode_ne_ok nofun
      simp [List.countP_append, ih, applies, tells_send, other]
  | @tried past link request answer arrived docket due ih =>
      rcases answer with cause | ⟨⟩
      · have other : (verdict pid (.error cause)).encode ≠ (Response.ok pid).encode :=
          encode_ne_ok nofun
        simp [List.countP_append, List.countP_cons, ih, applies, tells_send, other]
        rfl
      · simp [List.countP_append, List.countP_cons, ih, applies, tells, verdict, Response.ok]
  | @abandoned past link request detail arrived docket due kind ih =>
      have other : (Response.error pid detail).encode ≠ (Response.ok pid).encode :=
        encode_ne_ok nofun
      simp [List.countP_append, ih, applies, tells_send, other]

end Session

end HotSwap
