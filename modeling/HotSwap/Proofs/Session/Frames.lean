/-
# HotSwap.Proofs.Session.Frames -- the frames that a session writes

A controller learns from frames alone how its swap went.  `Framed` says which of them a
session has written on its connection when it ends.  One that swapped at once wrote the
response of its report, which says what the host answered; one that parked its swap wrote
that a restart is needed, and one whose token was refused wrote that and, unless the
connection was lost, the reason.  A session that failed in any other way wrote nothing.
No frame at all is written before the natives are bound.

What a session writes on its connection depends on the table of parked swaps: a swap that
it finds there as superseded is answered on its own connection.  So the table is taken to
answer as it does, with nobody else at it, and the connection of the session to be none
that a parked swap holds (`Parked.serving`).
-/
import HotSwap.Proofs.Handoff.Table
import HotSwap.Proofs.Session.CallOrder
import HotSwap.Proofs.Session.Report
import HotSwap.Proofs.Simulated.Share

namespace HotSwap

set_option autoImplicit false

/-- A session is alone with the table, and given a connection on which no swap of `held` waits. -/
def Parked.serving (held : Parked) : Rules Parked where
  allows _ _ := True
  answers t
    | .connect, opened, t' =>
        t' = t ∧ ∀ link, opened = .ok link → ∀ entry ∈ held.swaps, entry.2.link ≠ link
    | .park swap, token, t' => (token, t') = t.park swap
    | .take token, swap, t' => (swap, t') = t.take token
    | .takeSuperseded pid current, swaps, t' => t.Supersedes pid current swaps t'
    | _, _, t' => t' = t

namespace Session

open Procedure

/-! ## What can be read off a log -/

/-- The connection that was opened, if one was. -/
@[simp] def opened : Event → List LinkId
  | ⟨.connect, .ok link⟩ => [link]
  | _ => []

/-- What the host was asked to redefine, with its answer. -/
@[simp] def redefinition : Event → List (ChangeSet × Except Host.Error Unit)
  | ⟨.host (.redefineClasses changes), answer⟩ => [(changes, answer)]
  | _ => []

/-- The frame that was written on a connection. -/
@[simp] def sent (link : LinkId) : Event → List ByteArray
  | ⟨.send other frame, .ok ()⟩ => if other = link then [frame] else []
  | _ => []

/-- The connections that were opened, the redefinitions that the host was asked for, and the
frames that were written on a connection, each in order. -/
def connections (log : List Event) : List LinkId := log.flatMap opened
def redefinitions (log : List Event) : List (ChangeSet × Except Host.Error Unit) :=
  log.flatMap redefinition
def written (link : LinkId) (log : List Event) : List ByteArray := log.flatMap (sent link)

section Reading

variable (event : Event) (log later : List Event) (link : LinkId)

@[simp] theorem connections_nil : connections [] = [] := rfl
@[simp] theorem redefinitions_nil : redefinitions [] = [] := rfl
@[simp] theorem written_nil : written link [] = [] := rfl

@[simp] theorem connections_cons :
    connections (event :: log) = opened event ++ connections log := rfl
@[simp] theorem redefinitions_cons :
    redefinitions (event :: log) = redefinition event ++ redefinitions log := rfl
@[simp] theorem written_cons :
    written link (event :: log) = sent link event ++ written link log := rfl

@[simp] theorem connections_append :
    connections (log ++ later) = connections log ++ connections later := List.flatMap_append ..
@[simp] theorem redefinitions_append :
    redefinitions (log ++ later) = redefinitions log ++ redefinitions later :=
  List.flatMap_append ..
@[simp] theorem written_append :
    written link (log ++ later) = written link log ++ written link later := List.flatMap_append ..

end Reading

/-! ## The law -/

/-- How the answer of a host is told. -/
def verdict (pid : UInt32) : Except Host.Error Unit → Response
  | .ok () => ⟨pid, .ok, none⟩
  | .error cause => ⟨pid, .error, some ⟨cause.code.name, cause.message⟩⟩

/-- What a session has written on its connection when it ends. -/
def Framed : Except AttachError Completion → List Event → Prop
  | .ok (.immediate response), log =>
      ∃ link pid changes answer,
        connections log = [link] ∧ ⟨.host .processId, pid⟩ ∈ log ∧
          redefinitions log = [(changes, answer)] ∧ response = verdict pid answer ∧
            written link log = [response.encode]
  | .ok (.deferred _), log =>
      ∃ link pid, connections log = [link] ∧ ⟨.host .processId, pid⟩ ∈ log ∧
        written link log = [(Response.needRestart pid).encode]
  | .error (.handoff (.transfer cause)), log =>
      ∃ link pid arrived frame, connections log = [link] ∧ ⟨.host .processId, pid⟩ ∈ log ∧
        frame = (Response.error pid ⟨"HANDOFF", cause.text⟩).encode ∧
        ⟨.send link frame, arrived⟩ ∈ log ∧
        written link log =
          (Response.needRestart pid).encode ::
            match arrived with
            | .ok () => [frame]
            | .error _ => []
  | .error _, log => ∀ link, written link log = []

/-- What may be asked by one who writes nothing before the natives are bound. -/
def MaySend (past : List Event) : Question → Prop
  | .send .. => Bound past
  | _ => True

/-- A session is watched that is alone with the table. -/
def wire (held : Parked) : Rules (Parked × List Event) := held.serving.recalling MaySend

variable {held t : Parked} {link : LinkId} {past log : List Event} {progress : Progress}
  {outcome : Except AttachError Completion}

theorem wire_ask {α : Type} {q : Question} {next : q.Answer → Procedure α}
    {post : α → Parked × List Event → Prop} (allowed : MaySend past q)
    (later : ∀ answer t', held.serving.answers t q answer t' →
      (next answer).Obeys (wire held) post (t', past ++ [⟨q, answer⟩])) :
    (ask q next).Obeys (wire held) post (t, past) :=
  recalling_ask.2 ⟨allowed, later⟩

/-- Behind the end of a session nothing changes by hanging up. -/
theorem Framed.hangUp (framed : Framed outcome past) (link : LinkId) :
    Framed outcome (past ++ [⟨.hangUp link, ()⟩]) := by
  unfold Framed at framed ⊢
  split
  all_goals simpa using framed

/-! ## Before the swap -/

/-- A session has opened its connection, and neither written on any nor touched the table or a
class. -/
structure Silent (held : Parked) (link : LinkId) (s : Parked × List Event) : Prop where
  table : s.1 = held
  connected : connections s.2 = [link]
  unchanged : redefinitions s.2 = []
  unwritten : ∀ other, written other s.2 = []

/-- What may be asked before the swap is nothing that a frame could come from. -/
theorem Preparatory.unread {q : Question} (preparatory : Preparatory q) (answer : q.Answer) :
    connections [⟨q, answer⟩] = [] ∧ redefinitions [⟨q, answer⟩] = [] ∧
      ∀ link, written link [⟨q, answer⟩] = [] := by
  cases q with
  | host call => cases call <;> first | exact ⟨rfl, rfl, fun _ => rfl⟩ | exact preparatory.elim
  | _ => first | exact ⟨rfl, rfl, fun _ => rfl⟩ | exact preparatory.elim

theorem Silent.kept {q : Question} {s s' : Parked × List Event} {answer : q.Answer}
    (silent : Silent held link s) (preparatory : Preparatory q)
    (comes : (wire held).answers s q answer s') : Silent held link s' := by
  obtain ⟨serves, grows⟩ := comes
  obtain ⟨unopened, unchanged, unwritten⟩ := preparatory.unread answer
  have same : s'.1 = s.1 := by
    cases q <;> first | exact serves | exact preparatory.elim
  exact
    { table := same.trans silent.table
      connected := by rw [grows, connections_append, silent.connected, unopened, List.append_nil]
      unchanged := by rw [grows, redefinitions_append, silent.unchanged, unchanged, List.append_nil]
      unwritten := fun other => by
        rw [grows, written_append, silent.unwritten, unwritten, List.append_nil] }

theorem Preparatory.mayAsk {q : Question} (preparatory : Preparatory q) : MaySend past q := by
  cases q <;> first | exact trivial | exact preparatory.elim

/-- The first half of a session writes nothing; behind it the natives are bound. -/
theorem prepare_silent (agent : Agent) (silent : Silent held link (t, past)) :
    (prepare agent link progress).Obeys (wire held)
      (EndsBound (Silent held link) fun s => Bound s.2) (t, past) := by
  refine prepare_obeys agent link (fun q s preparatory _ => preparatory.mayAsk)
    (fun q s answer s' preparatory silent comes => silent.kept preparatory comes) ?_ silent
  rintro s s' - ⟨-, grows⟩
  exact grows ▸ List.mem_append_right _ (List.mem_singleton.2 rfl)

/-! ## A swap at once -/

theorem execute_verdict (request : Request) :
    (execute request).Obeys (wire held)
      (fun response s => ∃ pid answer, response = verdict pid answer ∧
        s.2 = past ++ [⟨.host .processId, pid⟩, ⟨.host (.redefineClasses request.changes), answer⟩])
      (t, past) := by
  refine wire_ask trivial fun pid t _ => wire_ask trivial fun answer t _ => ?_
  rcases answer with cause | _
  · exact ⟨pid, .error cause, rfl, by simp⟩
  · exact ⟨pid, .ok (), rfl, by simp⟩

theorem swapNow_framed (request : Request) (silent : Silent held link (t, past))
    (bound : Bound past) (parts : progress.phase = .dispatch) :
    (swapNow request link progress).Obeys (wire held) (fun r s => Framed r.1 s.2) (t, past) := by
  have connected := silent.connected
  have unchanged := silent.unchanged
  have unwritten := silent.unwritten
  refine advance_andThen (by simp [parts, Phase.next]) (perform_andThen ?_)
  refine (execute_verdict request).mono ?_
  rintro _ ⟨t, _⟩ ⟨pid, answer, rfl, rfl⟩
  refine advance_andThen (by simp [Phase.next]) (attempt_andThen ?_)
  refine wire_ask (List.mem_append_left _ bound) fun arrived t _ => ?_
  rcases arrived with cause | _
  · intro other
    simp [unwritten]
  · refine advance_andThen (by simp [Phase.next]) ?_
    exact ⟨link, pid, request.changes, answer, by simp [connected], by simp, by simp [unchanged],
      rfl, by simp [unwritten]⟩

/-! ## A swap that waits -/

/-- A session has written on its connection that a restart is needed, and nothing else. -/
structure Announced (link : LinkId) (pid : UInt32) (past : List Event) : Prop where
  bound : Bound past
  connected : connections past = [link]
  asked : ⟨.host .processId, pid⟩ ∈ past
  wrote : written link past = [(Response.needRestart pid).encode]

variable {pid : UInt32}

/-- What is not written on the connection of a session does not count. -/
theorem Announced.snoc {q : Question} {answer : q.Answer} (announced : Announced link pid past)
    (unopened : connections [⟨q, answer⟩] = []) (elsewhere : written link [⟨q, answer⟩] = []) :
    Announced link pid (past ++ [⟨q, answer⟩]) where
  bound := List.mem_append_left _ announced.bound
  connected := by rw [connections_append, announced.connected, unopened, List.append_nil]
  asked := List.mem_append_left _ announced.asked
  wrote := by rw [written_append, announced.wrote, elsewhere, List.append_nil]

/-- Swaps that wait on other connections are answered there. -/
theorem abandonAll_announced {swaps : List PendingSwap}
    (elsewhere : ∀ swap ∈ swaps, swap.link ≠ link) (announced : Announced link pid past) :
    (abandonAll swaps).Obeys (wire held) (fun _ s => Announced link pid s.2) (t, past) := by
  induction swaps generalizing t past with
  | nil => exact announced
  | cons swap rest ih =>
      obtain ⟨other, later⟩ := List.forall_mem_cons.1 elsewhere
      refine wire_ask announced.bound fun arrived t _ => wire_ask trivial fun _ t _ => ?_
      refine ih later ((announced.snoc rfl ?_).snoc rfl rfl)
      rcases arrived with cause | _
      · rfl
      · simp [other]

/-- A swap whose token was refused is taken out again and answered on its own connection. -/
theorem takeBack_framed {swap : PendingSwap} {token : Int} {cause : Host.Error}
    (found : (t.take token).1 = some swap) (announced : Announced swap.link swap.pid past) :
    (takeBack token cause).Obeys (wire held)
      (fun _ s => Framed (.error (.handoff (.transfer cause))) s.2) (t, past) := by
  refine wire_ask trivial fun taken t' takes => ?_
  obtain rfl : taken = some swap := (congrArg Prod.fst takes).trans found
  refine wire_ask (List.mem_append_left _ announced.bound) fun arrived t _ => ?_
  refine wire_ask trivial fun _ t _ => ?_
  refine ⟨swap.link, swap.pid, arrived, (Response.error swap.pid ⟨handoffKind, cause.text⟩).encode,
    by simp [announced.connected], by simp [announced.asked], rfl, by simp, ?_⟩
  rcases arrived with lost | _ <;> simp [announced.wrote]

theorem transfer_framed (request : Request) (sound : held.Sound)
    (apart : ∀ entry ∈ held.swaps, entry.2.link ≠ link) (silent : Silent held link (t, past))
    (bound : Bound past) :
    (transfer request link).Obeys (wire held)
      (fun r s => match r with
        | .ok token => Framed (.ok (.deferred token)) s.2
        | .error e => Framed (.error e) s.2) (t, past) := by
  have table : t = held := silent.table
  subst table
  have connected := silent.connected
  have unwritten := silent.unwritten
  refine wire_ask trivial fun pid t' same => ?_
  cases same
  refine wire_ask (List.mem_append_left _ bound) fun arrived t' same => ?_
  cases same
  rcases arrived with cause | _
  · refine wire_ask trivial fun _ _ _ => ?_
    intro other
    simp [unwritten]
  have announced : Announced link pid
      (past ++ [⟨.host .processId, pid⟩] ++
        [⟨.send link (Response.needRestart pid).encode, .ok ()⟩]) :=
    { bound := List.mem_append_left _ (List.mem_append_left _ bound)
      connected := by simp [connected]
      asked := by simp
      wrote := by simp [unwritten] }
  refine wire_ask trivial fun token t' parks => ?_
  cases parks
  refine wire_ask trivial fun handed t' same => ?_
  cases same
  rcases handed with cause | _
  · refine (takeBack_framed (sound.take_park ⟨pid, request, link⟩)
      ((announced.snoc rfl rfl).snoc rfl rfl)).andThen fun _ _ framed => ?_
    exact framed
  · refine wire_ask trivial fun swaps t' takes => ?_
    refine (abandonAll_announced ?_ (((announced.snoc rfl rfl).snoc rfl rfl).snoc rfl rfl)).andThen
      fun _ _ announced => ?_
    · intro swap taken
      obtain ⟨token, member, -⟩ := Parked.mem_of_superseded takes taken
      exact apart _ member
    · exact ⟨link, pid, announced.connected, announced.asked, announced.wrote⟩

theorem swapLater_framed (request : Request) (sound : held.Sound)
    (apart : ∀ entry ∈ held.swaps, entry.2.link ≠ link) (silent : Silent held link (t, past))
    (bound : Bound past) (parts : progress.phase = .dispatch) :
    (swapLater request link progress).Obeys (wire held) (fun r s => Framed r.1 s.2) (t, past) := by
  refine advance_andThen (by simp [parts, Phase.next]) ?_
  refine advance_andThen (by simp [Phase.next]) (attempt_andThen ?_)
  refine (transfer_framed request sound apart silent bound).mono fun r s framed => ?_
  rcases r with e | token
  · exact framed
  · exact advance_andThen (by simp [Phase.next]) framed

/-! ## The whole -/

/-- A session that fails before its ways part has written nothing. -/
theorem Silent.framed {e : AttachError} (silent : Silent held link (t, past))
    (fails : Fails e progress) (early : progress.phase ≠ .respondPending) :
    Framed (.error e) past := by
  have unwritten := silent.unwritten
  cases e with
  | handoff cause =>
      cases cause with
      | registerNatives cause => exact unwritten
      | transfer cause => exact absurd (Phase.eq_respondPending_of_raises fails.raises) early
  | _ => exact unwritten

theorem session_framed (agent : Agent) (sound : held.Sound) :
    (session agent Progress.start).Obeys (wire held) (fun r s => Framed r.1 s.2) (held, []) := by
  refine attempt_andThen (wire_ask trivial fun opened t' opens => ?_)
  obtain ⟨rfl, apart⟩ := opens
  rcases opened with cause | link
  · exact fun _ => rfl
  have apart := apart link rfl
  have silent : Silent t' link (t', [⟨.connect, .ok link⟩]) := ⟨rfl, rfl, rfl, fun _ => rfl⟩
  have prepared := (prepare_silent agent silent).and
    (prepare_halfway (fun q s kind => kind.mayAsk) agent link)
  refine stage_andThen (hangingUpOnFailure_obeys (prepared.mono ?_))
  rintro ⟨e | request, progress⟩ ⟨t, now⟩ ⟨⟨silent, binds⟩, half⟩
  · exact wire_ask trivial fun _ _ _ => (silent.framed half.1 half.2).hangUp link
  have bound := binds request rfl
  cases later : request.restartActivity with
  | true =>
      simp only [later, if_true]
      exact swapLater_framed request sound apart silent bound half.2
  | false =>
      simp only [later]
      refine hangingUp_obeys ((swapNow_framed request silent bound half.2).mono ?_)
      rintro r ⟨t, now⟩ framed
      exact wire_ask trivial fun _ _ _ => framed.hangUp link

/-- Whatever the host and the connection answer, a session that has the table to itself has
written the frames that go with its report, and none before the natives were bound. -/
theorem attach_framed {agent : Agent} {report : SessionReport} (sound : held.Sound)
    (course : Course agent.attach log (done report)) (plays : held.serving.Plays held log t) :
    Framed report.outcome log ∧
      ∀ before link frame arrived after,
        log = before ++ ⟨.send link frame, arrived⟩ :: after → Bound before := by
  have obeys : agent.attach.Obeys (wire held) (fun report s => Framed report.outcome s.2)
      (held, []) := by
    refine attach_obeys ((session_framed agent sound).mono ?_)
    rintro ⟨e | completion, progress⟩ s framed <;> exact framed
  refine ⟨obeys.ends course (plays.recalling []), ?_⟩
  intro before link frame arrived after split
  exact course.recalled obeys plays split

/-! ## A process whose handler refuses the token -/

/-- A simulated process leaves the table to its sessions, which are to be given other connections
than its swaps have. -/
theorem answer_serving_of {door : Connector}
    (apart : ∀ w link, (door.connect w).1 = .ok link → ∀ entry ∈ held.swaps, entry.2.link ≠ link)
    (q : Question) (s : Scene SimulatedHost) :
    held.serving.answers s.world.parked q (Scene.answer door q s).1
      (Scene.answer door q s).2.world.parked := by
  cases q with
  | host call => exact SimulatedHost.answer_parked call s.host s.world
  | connect => exact ⟨connect_parked door s.world, apart s.world⟩
  | takeSuperseded pid current => exact s.world.parked.supersedes pid current
  | park _ | take _ => rfl
  | _ =>
      refine (answer_aside ?_ door s).2
      exact trivial

theorem answer_serving (door : Connector) (q : Question) (s : Scene SimulatedHost) :
    ({} : Parked).serving.answers s.world.parked q (Scene.answer door q s).1
      (Scene.answer door q s).2.world.parked :=
  answer_serving_of (fun _ _ _ _ member => absurd member List.not_mem_nil) q s

/-- A process whose class is not changed by the hooking, so that its handler will not take a
token, and a controller that wants the swap to wait. -/
def unhookedScene : Scene SimulatedHost where
  host := Simulation.Fixture.host 7
  world := { links := #[.frames { toAgent := [(⟨"app", true, []⟩ : Request).encode] }] }

/-- What the session asks. -/
def unhookedLog : List Event :=
  Simulation.Fixture.agent.attach.events (Scene.answer (.ready 0)) unhookedScene

/-- The report on the session. -/
def unhookedReport : SessionReport :=
  (Procedure.run (Scene.answer (.ready 0)) Simulation.Fixture.agent.attach unhookedScene).1

theorem unhookedLog_framed :
    (written 0 unhookedLog).length = 2 ∧
      Framed unhookedReport.outcome unhookedLog ∧
        ∀ before link frame arrived after,
          unhookedLog = before ++ ⟨.send link frame, arrived⟩ :: after → Bound before :=
  ⟨by decide +kernel,
    attach_framed Parked.sound_empty (course_events _ _ _)
      (events_plays (answer_serving (.ready 0)) _ unhookedScene)⟩

end Session
end HotSwap
