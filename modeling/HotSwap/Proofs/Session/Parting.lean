/-
# HotSwap.Proofs.Session.Parting -- a session parts where its natives are bound

A session binds its natives last before it comes to the parting of its ways.  Whatever the
host, the connection and the file system answer, it comes there exactly if the host bound
them (`attach_parted`), and it asks for no natives to be bound but the agent's
(`attach_registers`).  So what is said of the natives of a session can be said of its phases
as well.
-/
import HotSwap.Proofs.Session.CallOrder
import HotSwap.Proofs.Session.Report

namespace HotSwap.Session

set_option autoImplicit false

open Procedure

variable {α β ε : Type} {past log : List Event} {progress : Progress}

/-- Everything may be asked, and is remembered. -/
def remembering : Rules (List Event) := .past fun _ _ => True

theorem remembering_ask {q : Question} {next : q.Answer → Procedure α}
    {post : α → List Event → Prop}
    (later : ∀ answer, (next answer).Obeys remembering post (past ++ [⟨q, answer⟩])) :
    (ask q next).Obeys remembering post past :=
  past_ask.2 ⟨trivial, later⟩

/-- Natives that were bound stay so. -/
theorem Bound.stays (bound : Bound past) (p : Procedure α) :
    p.Obeys remembering (fun _ now => Bound now) past := by
  induction p generalizing past with
  | done a => exact bound
  | ask q next ih => exact remembering_ask fun answer => ih answer (List.mem_append_left _ bound)

/-- No natives are asked to be bound. -/
def Unbinding (q : Question) : Prop := ∀ bindings, q ≠ .host (.registerNatives bindings)

theorem Early.unbinding {q : Question} (early : Early q) : Unbinding q := by
  rintro bindings rfl
  exact early

theorem not_bound_snoc {event : Event} (unbound : ¬ Bound past)
    (other : event ≠ ⟨.host (.registerNatives nativeBindings), .ok ()⟩) :
    ¬ Bound (past ++ [event]) := by
  intro bound
  rcases List.mem_append.1 bound with earlier | last
  · exact unbound earlier
  · exact other (List.mem_singleton.1 last).symm

/-! ## Up to the parting -/

/-- A session has come to the parting of its ways exactly if its natives were bound. -/
def Parted (r : Except AttachError α × Progress) (past : List Event) : Prop :=
  .dispatch ∈ r.2.history ↔ Bound past

/-- A session has neither bound its natives nor come to the parting of its ways. -/
structure Approaching (progress : Progress) (past : List Event) : Prop where
  early : .dispatch ∉ progress.history
  unbound : ¬ Bound past

namespace Approaching

theorem parted {e : AttachError} (approaching : Approaching progress past) :
    Parted (α := α) (.error e, progress) past :=
  iff_of_false approaching.early approaching.unbound

/-- A move to another phase, and what comes behind it. -/
theorem advance {target : Phase} {f : Unit → Stage β}
    {post : Except AttachError β × Progress → List Event → Prop}
    (approaching : Approaching progress past) (allowed : target ∈ progress.phase.next)
    (other : target ≠ .dispatch)
    (later : ∀ history, Approaching ⟨target, history⟩ past →
      (f () ⟨target, history⟩).Obeys remembering post past) :
    ((Session.advance target >>= f) progress).Obeys remembering post past := by
  refine advance_andThen allowed (later _ ⟨?_, approaching.unbound⟩)
  simp [approaching.early, other.symm]

/-- A part of a session that binds no natives, and what comes behind it. -/
theorem attempt {wrap : ε → AttachError} {p : Procedure (Except ε α)} {f : α → Stage β}
    (approaching : Approaching progress past) (asks : p.Asks Unbinding)
    (later : ∀ a now, Approaching progress now → (f a progress).Obeys remembering Parted now) :
    ((Session.attempt wrap p >>= f) progress).Obeys remembering Parted past := by
  have kept (q : Question) (s : List Event) (answer : q.Answer) (s' : List Event)
      (unbinding : Unbinding q) (approaching : Approaching progress s)
      (comes : remembering.answers s q answer s') : Approaching progress s' := by
    have grown : s' = s ++ [⟨q, answer⟩] := comes
    rw [grown]
    refine ⟨approaching.early, not_bound_snoc approaching.unbound fun same => ?_⟩
    exact unbinding _ (congrArg Event.question same)
  exact attempt_kept asks (fun _ _ _ _ => trivial) kept approaching (fun _ _ => parted) later

/-- Where the natives are bound the session comes to its parting of ways. -/
theorem bindAndPart {request : Request} (approaching : Approaching progress past)
    (moves : .dispatch ∈ progress.phase.next) :
    (Session.bindAndPart request progress).Obeys remembering Parted past := by
  refine attempt_andThen (remembering_ask fun answer => ?_)
  rcases answer with cause | _
  · exact iff_of_false approaching.early (not_bound_snoc approaching.unbound (by simp))
  · refine advance_andThen moves (iff_of_true ?_ ?_)
    · exact List.mem_append_right _ (List.mem_singleton_self _)
    · exact List.mem_append_right _ (List.mem_singleton_self _)

theorem checkAndHook (agent : Agent) {request : Request} (approaching : Approaching progress past)
    (moves : .versionCheck ∈ progress.phase.next) :
    (Session.checkAndHook agent request progress).Obeys remembering Parted past := by
  refine approaching.advance moves (by decide) fun _ approaching => ?_
  have checks : (checkBuild agent.payload.fingerprint).Asks Unbinding :=
    (checkBuild_questions _).mono (by rintro _ rfl _ ⟨⟩)
  refine approaching.attempt checks fun marker now approaching => ?_
  have tells : (checkInstrumented marker).Asks Unbinding :=
    (checkInstrumented_questions marker).mono (by rintro _ rfl _ ⟨⟩)
  refine approaching.attempt tells fun hooked now approaching => ?_
  cases hooked with
  | true =>
      refine approaching.advance (by simp [Phase.next]) (by decide) fun _ approaching => ?_
      exact approaching.bindAndPart (by simp [Phase.next])
  | false =>
      refine approaching.advance (by simp [Phase.next]) (by decide) fun _ approaching => ?_
      have hooks : (instrument agent.plan marker).Asks Unbinding :=
        (instrument_questions agent.plan marker).mono fun _ asked => by
          cases asked <;> rintro _ ⟨⟩
      exact approaching.attempt hooks fun _ now approaching =>
        approaching.bindAndPart (by simp [Phase.next])

end Approaching

theorem prepare_parted (agent : Agent) (link : LinkId) (unbound : ¬ Bound past) :
    (prepare agent link Progress.start).Obeys remembering Parted past := by
  have approaching : Approaching Progress.start past := ⟨by decide, unbound⟩
  refine approaching.advance (by decide) (by decide) fun _ approaching => ?_
  refine approaching.attempt ⟨by rintro _ ⟨⟩, fun _ => trivial⟩ fun frame now approaching => ?_
  refine approaching.attempt (show Asks _ (.done _) from trivial) fun request now approaching => ?_
  refine approaching.advance (by simp [Phase.next]) (by decide) fun _ approaching => ?_
  refine approaching.attempt (negotiate_early.mono fun _ => Early.unbinding)
    fun _ now approaching => ?_
  refine approaching.advance (by simp [Phase.next]) (by decide) fun _ approaching => ?_
  cases agent.payloadDir.resolve request.packageName with
  | none => exact approaching.parted
  | some dir =>
      refine approaching.attempt ((install_early _ dir).mono fun _ => Early.unbinding)
        fun _ now approaching => ?_
      exact approaching.checkAndHook agent (by simp [Phase.next])

/-! ## From the parting on -/

/-- A session that came to the parting of its ways, and had bound its natives before. -/
def Beyond (r : Except AttachError α × Progress) (past : List Event) : Prop :=
  .dispatch ∈ r.2.history ∧ Bound past

theorem swapNow_beyond (request : Request) (link : LinkId) (parts : progress.phase = .dispatch)
    (came : .dispatch ∈ progress.history) (bound : Bound past) :
    (swapNow request link progress).Obeys remembering Beyond past := by
  refine advance_andThen (by simp [parts, Phase.next]) (perform_andThen ?_)
  refine (bound.stays _).mono fun response now bound => ?_
  refine advance_andThen (by simp [Phase.next]) (attempt_andThen ?_)
  refine (bound.stays _).mono fun sent now bound => ?_
  rcases sent with e | _
  · exact ⟨by simp [came], bound⟩
  · exact advance_andThen (by simp [Phase.next]) ⟨by simp [came], bound⟩

theorem swapLater_beyond (request : Request) (link : LinkId) (parts : progress.phase = .dispatch)
    (came : .dispatch ∈ progress.history) (bound : Bound past) :
    (swapLater request link progress).Obeys remembering Beyond past := by
  refine advance_andThen (by simp [parts, Phase.next]) ?_
  refine advance_andThen (by simp [Phase.next]) (attempt_andThen ?_)
  refine (bound.stays _).mono fun r now bound => ?_
  rcases r with e | token
  · exact ⟨by simp [came], bound⟩
  · exact advance_andThen (by simp [Phase.next]) ⟨by simp [came], bound⟩

/-! ## The whole -/

/-- A session that ended well came to the parting of its ways. -/
def Closed (r : Except AttachError Completion × Progress) (past : List Event) : Prop :=
  Parted r past ∧ ∀ completion, r.1 = .ok completion → Bound past

theorem Beyond.closed {r : Except AttachError Completion × Progress} (beyond : Beyond r past) :
    Closed r past :=
  ⟨iff_of_true beyond.1 beyond.2, fun _ _ => beyond.2⟩

theorem session_parted (agent : Agent) :
    (session agent Progress.start).Obeys remembering Closed [] := by
  refine attempt_andThen (remembering_ask fun opened => ?_)
  have unbound : ¬ Bound ([] ++ [⟨.connect, opened⟩]) := by simp [Bound]
  rcases opened with cause | link
  · exact ⟨iff_of_false (by simp [Progress.start]) unbound, by rintro _ ⟨⟩⟩
  have prepared := (prepare_parted agent link unbound).and
    (prepare_halfway (fun _ _ _ => trivial) agent link)
  refine stage_andThen (hangingUpOnFailure_obeys (prepared.mono ?_))
  rintro ⟨e | request, progress⟩ now ⟨parted, half⟩
  · refine remembering_ask fun _ => ⟨?_, by rintro _ ⟨⟩⟩
    have still : Bound (now ++ [⟨.hangUp link, ()⟩]) ↔ Bound now := by simp [Bound]
    exact parted.trans still.symm
  obtain ⟨running, parts⟩ := half
  have came : .dispatch ∈ progress.history := parts ▸ List.mem_of_getLast? running.path.ends
  have bound : Bound now := parted.1 came
  cases later : request.restartActivity with
  | true =>
      simp only [later, if_true]
      exact (swapLater_beyond request link parts came bound).mono fun _ _ => Beyond.closed
  | false =>
      simp only [later]
      refine hangingUp_obeys ((swapNow_beyond request link parts came bound).mono ?_)
      rintro r now ⟨came, bound⟩
      exact (bound.stays (hangUp link)).mono fun _ _ bound => Beyond.closed ⟨came, bound⟩

/-- A session comes to the parting of its ways exactly if the host bound its natives, and every
session that ends well does. -/
theorem attach_parted {agent : Agent} {report : SessionReport}
    (course : Course agent.attach log (done report)) :
    (report.visited .dispatch = true ↔ Bound log) ∧
      ∀ completion, report.outcome = .ok completion → Bound log := by
  have obeys : agent.attach.Obeys remembering
      (fun report now => (report.visited .dispatch = true ↔ Bound now) ∧
        ∀ completion, report.outcome = .ok completion → Bound now) [] := by
    refine attach_obeys ((session_parted agent).mono ?_)
    rintro ⟨e | completion, progress⟩ now ⟨parted, well⟩
    · have ends : .dispatch ∈ progress.fail.history ↔ .dispatch ∈ progress.history := by
        unfold Progress.fail
        split <;> simp
      exact ⟨List.contains_iff_mem.trans (ends.trans parted), by rintro _ ⟨⟩⟩
    · exact ⟨List.contains_iff_mem.trans parted, fun _ _ => well completion rfl⟩
  exact obeys.ends course (Rules.past_plays [] log)

/-- The only natives that a session asks to be bound are the agent's. -/
theorem attach_registers {agent : Agent} {rest : Procedure SessionReport}
    (course : Course agent.attach log rest) {event : Event} (asked : event ∈ log)
    {bindings : List NativeBinding}
    (registers : event.question = .host (.registerNatives bindings)) :
    bindings = nativeBindings := by
  obtain ⟨before, after, split⟩ := List.append_of_mem asked
  have may : MayCall agent before (.registerNatives bindings) :=
    course.allowed attach_ordered split _ registers
  exact may.2.1

end HotSwap.Session
