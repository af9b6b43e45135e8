/-
# HotSwap.Proofs.Handoff.Custody -- which connections a procedure has to answer

At every moment a procedure holds some connections in its own hands: none, one that it
has just made, one on which it has written a frame, or the connections of swaps that it
took out of the table and has yet to answer.  `Hold` is this state and `custody` are the
rules about it:

* a frame is written only on a connection in hand, and whoever took connections out only
  writes last answers from then on, one on each of them in their order;
* a swap is parked only with the connection on which its interim answer was just
  written, and leaves the procedure's hands with that;
* at its end a procedure owes no answer.

`attach_custody` and `redefineParked_custody` prove that a session and the handler's
call back keep the rules, whatever they are answered.  `answersOnce_of_due` draws the
conclusion for one connection: whoever keeps the rules and has it due writes on it
exactly once more, and what is written then is a last answer.
-/
import HotSwap.Proofs.Course
import HotSwap.Proofs.Session.Preparation

namespace HotSwap

set_option autoImplicit false

open Procedure Session

/-- The connections that a procedure has in its hands; once it has taken some out it only
answers them. -/
inductive Hold where
  | free
  | fresh (link : LinkId)
  | announced (link : LinkId) (frame : ByteArray)
  | due (links : List LinkId)

namespace Hold

/-- The connections that were taken out and are not answered yet. -/
@[simp] def dues : Hold → List LinkId
  | due links => links
  | free | fresh _ | announced .. => []

/-- What is in hand after a question was answered. -/
@[simp] def after (hold : Hold) : (q : Question) → q.Answer → Hold
  | .connect, .ok link => fresh link
  | .send _ frame, answer =>
      match hold, answer with
      | fresh link, .ok _ => announced link frame
      | fresh _, .error _ => free
      | due links, _ => due links.tail
      | hold, _ => hold
  | .park _, _ => free
  | .take _, swap => due (swap.toList.map PendingSwap.link)
  | .takeSuperseded .., swaps => due (swaps.map PendingSwap.link)
  | _, _ => hold

end Hold

/-- A frame that carries an answer behind which none follows. -/
def IsFinal (frame : ByteArray) : Prop :=
  ∃ response : Response, frame = response.encode ∧ response.status.isInterim = false

/-- The rules about connections in hand. -/
def custody : Rules Hold where
  allows
    | hold, .connect | hold, .take _ | hold, .takeSuperseded .. => hold = .free
    | hold, .send link frame =>
        hold = .fresh link ∨ ∃ links, hold = .due (link :: links) ∧ IsFinal frame
    | hold, .park swap => hold = .announced swap.link (Response.needRestart swap.pid).encode
    | _, _ => True
  answers hold q answer hold' := hold' = hold.after q answer

section Keeping

variable {α : Type}

theorem custody_ask {q : Question} {next : q.Answer → Procedure α} {post : α → Hold → Prop}
    {hold : Hold} (allowed : custody.allows hold q)
    (later : ∀ answer, (next answer).Obeys custody post (hold.after q answer)) :
    (ask q next).Obeys custody post hold :=
  ⟨allowed, fun answer hold' after => by subst after; exact later answer⟩

/-- Before its swap a session's hands do not change. -/
theorem prepare_custody (agent : Agent) (link : LinkId) (progress : Progress) (hold : Hold) :
    (prepare agent link progress).Obeys custody (fun _ hold' => hold' = hold) hold := by
  refine (prepare_obeys agent link ?_ ?_ (fun _ _ _ _ => trivial) rfl).mono
    fun r hold' kept => kept.1.symm
  · intro q hold' preparatory _
    cases q <;> first | exact trivial | exact preparatory.elim
  · rintro q hold' answer _ preparatory rfl rfl
    cases q <;> first | rfl | exact preparatory.elim

theorem execute_custody (request : Request) (hold : Hold) :
    (execute request).Obeys custody
      (fun response hold' => hold' = hold ∧ response.status.isInterim = false) hold := by
  refine custody_ask trivial fun pid => custody_ask trivial fun answer => ?_
  rcases answer with cause | _ <;> exact ⟨rfl, rfl⟩

/-! ## Swaps that were taken out -/

theorem complete_custody (swap : PendingSwap) (links : List LinkId) :
    (complete swap).Obeys custody (fun _ hold => hold = .due links) (.due (swap.link :: links)) := by
  have responded : (executeAndRespond swap.request swap.link).Obeys custody
      (fun _ hold => hold = .due links) (.due (swap.link :: links)) := by
    refine (execute_custody swap.request _).andThen fun response hold executed => ?_
    obtain ⟨rfl, final⟩ := executed
    refine custody_ask (.inr ⟨links, rfl, response, rfl, final⟩) fun answer => ?_
    rcases answer with e | _ <;> rfl
  refine responded.andThen fun result hold answered => ?_
  subst answered
  refine custody_ask trivial fun _ => ?_
  rcases result with e | response <;> rfl

theorem abandon_custody (swap : PendingSwap) (detail : ErrorDetail) (links : List LinkId) :
    (abandon swap detail).Obeys custody (fun _ hold => hold = .due links)
      (.due (swap.link :: links)) := by
  have final : IsFinal (Response.error swap.pid detail).encode := ⟨_, rfl, rfl⟩
  refine custody_ask (.inr ⟨links, rfl, final⟩) fun answer => ?_
  exact custody_ask trivial fun _ => rfl

theorem abandonAll_custody (swaps : List PendingSwap) :
    (abandonAll swaps).Obeys custody (fun _ hold => hold = .due [])
      (.due (swaps.map PendingSwap.link)) := by
  induction swaps with
  | nil => rfl
  | cons swap rest ih =>
      refine (abandon_custody swap superseded _).andThen fun _ hold answered => ?_
      subst answered
      exact ih

/-- The handler's call back answers the connection of the swap that it takes out. -/
theorem redefineParked_custody (args : List Host.Value) :
    (redefineParked args).Obeys custody (fun _ hold => hold.dues = []) .free := by
  unfold redefineParked
  cases args.head?.bind Host.Value.long? with
  | none => rfl
  | some token =>
      refine custody_ask rfl fun swap => ?_
      cases swap with
      | none => rfl
      | some swap =>
          refine (complete_custody swap []).andThen fun applied hold answered => ?_
          subst answered
          rfl

/-! ## Sessions -/

theorem takeBack_custody (token : Int) (cause : Host.Error) :
    (takeBack token cause).Obeys custody (fun _ hold => hold.dues = []) .free := by
  refine custody_ask rfl fun swap => ?_
  cases swap with
  | none => rfl
  | some swap =>
      refine (abandon_custody swap _ []).mono fun _ hold answered => ?_
      subst answered
      rfl

theorem transfer_custody (request : Request) (link : LinkId) :
    (transfer request link).Obeys custody (fun _ hold => hold.dues = []) (.fresh link) := by
  refine custody_ask trivial fun pid => custody_ask (.inl rfl) fun sent => ?_
  rcases sent with e | _
  · exact custody_ask trivial fun _ => rfl
  refine custody_ask rfl fun token => custody_ask trivial fun accepted => ?_
  rcases accepted with cause | _
  · exact (takeBack_custody token cause).andThen fun _ _ answered => answered
  · refine custody_ask rfl fun swaps => ?_
    refine (abandonAll_custody swaps).andThen fun _ hold answered => ?_
    subst answered
    rfl

theorem swapNow_custody (request : Request) (link : LinkId) (progress : Progress) :
    (swapNow request link progress).Obeys custody (fun _ hold => hold.dues = []) (.fresh link) := by
  refine advance_either (fun _ => perform_andThen ?_) fun _ => rfl
  refine (execute_custody request _).mono fun response hold executed => ?_
  obtain ⟨rfl, -⟩ := executed
  refine advance_either (fun _ => attempt_andThen (custody_ask (.inl rfl) fun sent => ?_))
    fun _ => rfl
  rcases sent with e | _
  · rfl
  · exact advance_either (fun _ => rfl) fun _ => rfl

theorem swapLater_custody (request : Request) (link : LinkId) (progress : Progress) :
    (swapLater request link progress).Obeys custody
      (fun _ hold => hold.dues = []) (.fresh link) := by
  refine advance_either (fun _ => advance_either (fun _ => attempt_andThen ?_) fun _ => rfl)
    fun _ => rfl
  refine (transfer_custody request link).mono fun r hold answered => ?_
  rcases r with e | token
  · exact answered
  · exact advance_either (fun _ => answered) fun _ => answered

/-- A session owes no answer at its end. -/
theorem attach_custody (agent : Agent) :
    agent.attach.Obeys custody (fun _ hold => hold.dues = []) .free := by
  refine attach_obeys (attempt_andThen (custody_ask rfl fun connected => ?_))
  rcases connected with e | link
  · rfl
  refine stage_andThen (hangingUpOnFailure_obeys ?_)
  refine (prepare_custody agent link _ _).mono fun r hold same => ?_
  subst same
  rcases r with ⟨e | request, progress⟩
  · exact custody_ask trivial fun _ => rfl
  cases later : request.restartActivity with
  | true =>
      simp only [later, if_true]
      refine (swapLater_custody request link progress).mono fun r hold answered => ?_
      rcases r with ⟨_ | _, _⟩ <;> exact answered
  | false =>
      simp only [later]
      refine hangingUp_obeys ((swapNow_custody request link progress).mono fun r hold answered => ?_)
      refine custody_ask trivial fun _ => ?_
      rcases r with ⟨_ | _, _⟩ <;> exact answered

end Keeping

/-! ## Answers that are due -/

/-- The frames that were written, or tried to be written, on a connection. -/
def writtenOn (link : LinkId) (log : List Event) : List ByteArray :=
  log.filterMap fun event =>
    match event.question with
    | .send addressee frame => if addressee = link then some frame else none
    | _ => none

/-- However a procedure goes on, it writes on a connection exactly once, and that is a last
answer. -/
def Procedure.AnswersOnce {α : Type} (link : LinkId) (p : Procedure α) : Prop :=
  ∀ log a, Course p log (done a) → ∃ frame, writtenOn link log = [frame] ∧ IsFinal frame

section Due

variable {α : Type} {link : LinkId} {p rest : Procedure α} {log : List Event}
  {links : List LinkId}

/-- Whoever only has answers due asks nothing by which that would change but for writing
the next of them. -/
theorem due_after {q : Question} (allowed : custody.allows (.due links) q) (answer : q.Answer) :
    ((Hold.due links).after q answer = .due links ∧ ∀ link, writtenOn link [⟨q, answer⟩] = []) ∨
      ∃ next later frame, links = next :: later ∧ IsFinal frame ∧
        (Hold.due links).after q answer = .due later ∧
        ∀ link, writtenOn link [⟨q, answer⟩] = if next = link then [frame] else [] := by
  cases q with
  | send addressee frame =>
      rcases allowed with fresh | ⟨later, due, final⟩
      · cases fresh
      · cases due
        refine .inr ⟨addressee, later, frame, rfl, final, rfl, fun link => ?_⟩
        by_cases same : addressee = link <;> simp [writtenOn, same]
  | connect => cases allowed
  | take token => cases allowed
  | takeSuperseded pid current => cases allowed
  | park swap => cases allowed
  | _ => exact .inl ⟨rfl, fun _ => rfl⟩

theorem writtenOn_cons (event : Event) :
    writtenOn link (event :: log) = writtenOn link [event] ++ writtenOn link log := by
  rw [← List.singleton_append]
  exact List.filterMap_append

/-- Who does not have to answer a connection and only answers does not write on it. -/
theorem writtenOn_of_not_due {post : α → Hold → Prop} (course : Course p log rest)
    (obeys : p.Obeys custody post (.due links)) (absent : link ∉ links) :
    writtenOn link log = [] := by
  induction course generalizing links with
  | here p => rfl
  | @ask q next answer log rest later ih =>
      have goesOn := obeys.2 answer _ rfl
      rw [writtenOn_cons]
      rcases due_after obeys.1 answer with
        ⟨same, silent⟩ | ⟨addressee, others, frame, rfl, -, fewer, writes⟩
      · rw [silent, ih (same ▸ goesOn) absent]
        rfl
      · have other : addressee ≠ link := fun same => absent (by simp [same])
        rw [writes, if_neg other, ih (fewer ▸ goesOn) fun member => absent (by simp [member])]
        rfl

/-- Who keeps the rules to the end answers each connection that is due exactly once. -/
theorem answersOnce_of_due
    (obeys : p.Obeys custody (fun _ hold => hold.dues = []) (.due links)) (once : links.Nodup)
    (due : link ∈ links) : p.AnswersOnce link := by
  intro log a course
  generalize ended : done a = last at course
  induction course generalizing links with
  | here p =>
      subst ended
      have none : links = [] := obeys
      simp [none] at due
  | @ask q next answer log rest later ih =>
      have goesOn := obeys.2 answer _ rfl
      rw [writtenOn_cons]
      rcases due_after obeys.1 answer with
        ⟨same, silent⟩ | ⟨addressee, others, frame, rfl, final, fewer, writes⟩
      · rw [silent]
        exact ih (same ▸ goesOn) once due ended
      · obtain ⟨absent, once⟩ := List.nodup_cons.1 once
        rw [fewer] at goesOn
        by_cases same : addressee = link
        · subst same
          refine ⟨frame, ?_, final⟩
          rw [writes, if_pos rfl, writtenOn_of_not_due later goesOn absent]
          rfl
        · rw [writes, if_neg same]
          exact ih goesOn once ((List.mem_cons.1 due).resolve_left fun h => same h.symm) ended

end Due

end HotSwap
