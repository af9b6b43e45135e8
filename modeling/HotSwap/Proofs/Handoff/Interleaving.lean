/-
# HotSwap.Proofs.Handoff.Interleaving -- sessions and call backs side by side

Any number of sessions and of call backs from hooked handlers run at once.  Each is a
thread; one step of the `Machine` starts a thread or answers the next question of one
thread.  So a call back may come between any two steps of a session, in particular
while the session waits for the handler to accept a token.

The machine knows one thing only, the table of parked swaps, and answers the questions
about it, older swaps of a process in any order.  What hosts, connections and file systems
answer is left open, but for this: an agent that connects gets a connection that nobody had
before.

`parkings` is the list of all swaps that were ever parked, under their tokens.  It is in
the order of the tokens, and the table never holds anything else: `Reachable.counted`.
-/
import HotSwap.Proofs.Course
import HotSwap.Proofs.Handoff.Table
import HotSwap.Session.Attach

namespace HotSwap

set_option autoImplicit false

/-! ## Threads -/

/-- What is run. -/
inductive Job where
  | attach (agent : Agent)
  | callBack (args : List Host.Value)

/-- What comes of a job. -/
inductive Outcome where
  | report (report : SessionReport)
  | value (value : Host.Value)

/-- What a job does: a whole session, or the handler's call back with some arguments. -/
def Job.procedure : Job → Procedure Outcome
  | attach agent => agent.attach.bind fun report => .done (.report report)
  | callBack args =>
      (Session.callNative .tryRedefineClasses args).bind fun value => .done (.value value)

/-- A job and what is left of it to do. -/
structure Thread where
  job : Job
  rest : Procedure Outcome

/-- A job of which nothing is done. -/
def Job.begin (job : Job) : Thread := ⟨job, job.procedure⟩

/-- A question of a thread, with its answer. -/
structure Act where
  thread : Nat
  event : Event

/-- All threads, the table, and what happened so far, the oldest first. -/
structure Machine where
  threads : List Thread := []
  parked : Parked := {}
  log : List Act := []

/-- No agent was given a connection yet. -/
def Unused (link : LinkId) (log : List Act) : Prop := ∀ act ∈ log, act.event ≠ ⟨.connect, .ok link⟩

namespace Machine

/-- What may be answered to a question, and the table behind the answer. -/
def Answers (m : Machine) : (q : Question) → q.Answer → Parked → Prop
  | .connect, .ok link, parked => Unused link m.log ∧ parked = m.parked
  | .park swap, token, parked => (token, parked) = m.parked.park swap
  | .take token, swap, parked => (swap, parked) = m.parked.take token
  | .takeSuperseded pid current, swaps, parked => m.parked.Supersedes pid current swaps parked
  | _, _, parked => parked = m.parked

/-- A thread is answered its next question. -/
inductive Moves (m : Machine) (i : Nat) : Machine → Prop where
  | ask {job : Job} {q : Question} {next : q.Answer → Procedure Outcome} {answer : q.Answer}
      {parked : Parked} (at_ : m.threads[i]? = some ⟨job, .ask q next⟩)
      (answers : m.Answers q answer parked) :
      Moves m i ⟨m.threads.set i ⟨job, next answer⟩, parked, m.log ++ [⟨i, ⟨q, answer⟩⟩]⟩

/-- One step: a job begins, or a thread moves. -/
inductive Step (m : Machine) : Machine → Prop where
  | start (job : Job) : Step m { m with threads := m.threads ++ [job.begin] }
  | move {i : Nat} {m' : Machine} (moves : m.Moves i m') : Step m m'

/-- A machine that was started with nothing. -/
inductive Reachable : Machine → Prop where
  | empty : Reachable {}
  | step {m m' : Machine} (reached : Reachable m) (step : m.Step m') : Reachable m'

end Machine

/-! ## Tokens -/

/-- The swaps that were parked, under their tokens, the oldest first. -/
def parkings (log : List Act) : List (Int × PendingSwap) :=
  log.filterMap fun act =>
    match act.event with
    | ⟨.park swap, token⟩ => some (token, swap)
    | _ => none

/-- The swaps that an event took out of the table. -/
def Event.takenOut : Event → List PendingSwap
  | ⟨.take _, swap⟩ => swap.toList
  | ⟨.takeSuperseded .., swaps⟩ => swaps
  | _ => []

/-- What is true of the tokens: they count up, and what is in the table was parked. -/
structure Counted (parked : Parked) (log : List Act) : Prop where
  sound : Parked.Sound ⟨parked.next, parkings log⟩
  table : parked.swaps.Sublist (parkings log)

namespace Counted

variable {parked parked' : Parked} {log : List Act} {m m' : Machine}

theorem ordered (counted : Counted parked log) : Parked.Ordered parked.swaps :=
  counted.sound.ordered.sublist counted.table

theorem park (counted : Counted parked log) (i : Nat) (swap : PendingSwap) :
    Counted (parked.park swap).2 (log ++ [⟨i, ⟨.park swap, (parked.park swap).1⟩⟩]) := by
  have longer : parkings (log ++ [⟨i, ⟨.park swap, (parked.park swap).1⟩⟩]) =
      parkings log ++ [(parked.next, swap)] := by simp [parkings, Parked.park]
  constructor
  · rw [longer]
    exact counted.sound.park swap
  · rw [longer]
    exact counted.table.append (List.Sublist.refl _)

theorem takesOut (counted : Counted parked log) {taken : List PendingSwap}
    (takes : parked.TakesOut taken parked') {act : Act} (other : parkings [act] = []) :
    Counted parked' (log ++ [act]) := by
  have same : parkings (log ++ [act]) = parkings log := by
    rw [parkings, List.filterMap_append]
    show parkings log ++ parkings [act] = _
    rw [other, List.append_nil]
  obtain ⟨next, chosen, -, rest⟩ := takes
  constructor
  · rw [same, next]
    exact counted.sound
  · rw [same, rest]
    exact List.filter_sublist.trans counted.table

/-- What is true of the tokens stays true when a thread moves. -/
theorem moves {i : Nat} (counted : Counted m.parked m.log) (moves : m.Moves i m') :
    Counted m'.parked m'.log := by
  obtain ⟨-, answers⟩ := moves
  rename_i q _ answer parked
  have keeps (other : parkings [⟨i, ⟨q, answer⟩⟩] = []) (same : parked = m.parked) :
      Counted parked (m.log ++ [⟨i, ⟨q, answer⟩⟩]) := by
    subst same
    refine counted.takesOut ⟨rfl, fun _ => false, .refl _, ?_⟩ other
    exact (List.filter_eq_self.2 fun _ _ => rfl).symm
  cases q with
  | park swap =>
      obtain ⟨rfl, rfl⟩ := Prod.mk.inj answers
      exact counted.park i swap
  | take token =>
      obtain ⟨rfl, rfl⟩ := Prod.mk.inj answers
      exact counted.takesOut (Parked.take_takesOut counted.ordered token) rfl
  | takeSuperseded pid current =>
      exact counted.takesOut (Parked.Supersedes.takesOut answers) rfl
  | connect =>
      rcases answer with e | link
      · exact keeps rfl answers
      · exact keeps rfl answers.2
  | _ => exact keeps rfl answers

end Counted

theorem Machine.Reachable.counted {m : Machine} (reached : m.Reachable) :
    Counted m.parked m.log := by
  induction reached with
  | empty => exact ⟨Parked.sound_empty, List.Sublist.refl _⟩
  | step _ step ih =>
      cases step with
      | start job => exact ih
      | move moves => exact ih.moves moves

end HotSwap
