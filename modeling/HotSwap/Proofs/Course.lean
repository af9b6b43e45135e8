/-
# HotSwap.Proofs.Course -- what a procedure asked and was told so far

An `Event` is a question with its answer.  `Course p log rest` says that `p` may have
asked exactly the questions of `log` so far, in this order and with these answers, and
that `rest` is what is left of it to do.  Nothing is said about who answers, so what
holds of every course holds against every host, connection and file system.

The rules `Rules.past` watch a procedure with its own past as their state.  A procedure
that obeys them asks each question of each of its courses with a past that allows it
(`Course.allowed`).

A course of a procedure that was run against one way of answering is what `run` went
through: `course_events`.  The courses that come to the end of a procedure are put
together as the procedure is: `course_ask_iff`, `course_bind_iff`.
-/
import HotSwap.Proofs.Rules

namespace HotSwap

set_option autoImplicit false

/-- A question and what came back. -/
structure Event where
  question : Question
  answer : question.Answer

namespace Procedure

variable {α β σ : Type}

/-- What a procedure asked and was told so far, the oldest first, and what is left of it. -/
inductive Course : Procedure α → List Event → Procedure α → Prop where
  | here (p : Procedure α) : Course p [] p
  | ask {q : Question} {next : q.Answer → Procedure α} (answer : q.Answer) {log : List Event}
      {rest : Procedure α} (later : Course (next answer) log rest) :
      Course (ask q next) (⟨q, answer⟩ :: log) rest

/-- The events of a run against one way of answering. -/
def events (answer : (q : Question) → σ → q.Answer × σ) : Procedure α → σ → List Event
  | done _, _ => []
  | ask q next, s => ⟨q, (answer q s).1⟩ :: (next (answer q s).1).events answer (answer q s).2

/-- A run goes through a course and comes to its end. -/
theorem course_events (answer : (q : Question) → σ → q.Answer × σ) (p : Procedure α) (s : σ) :
    Course p (p.events answer s) (done (p.run answer s).1) := by
  induction p generalizing s with
  | done a => exact .here _
  | ask q next ih => exact .ask _ (ih _ _)

@[simp] theorem course_done_iff {a b : α} {log : List Event} :
    Course (done a) log (done b) ↔ log = [] ∧ a = b := by
  constructor
  · rintro ⟨⟩
    exact ⟨rfl, rfl⟩
  · rintro ⟨rfl, rfl⟩
    exact .here _

@[simp] theorem course_ask_iff {q : Question} {next : q.Answer → Procedure α} {log : List Event}
    {a : α} :
    Course (ask q next) log (done a) ↔
      ∃ answer later, log = ⟨q, answer⟩ :: later ∧ Course (next answer) later (done a) := by
  constructor
  · intro course
    cases course with
    | ask answer later => exact ⟨answer, _, rfl, later⟩
  · rintro ⟨answer, later, rfl, course⟩
    exact .ask answer course

end Procedure

/-- The answers of a log may come back one after another, and lead from one state to another. -/
inductive Rules.Plays {σ : Type} (rules : Rules σ) : σ → List Event → σ → Prop where
  | nil (s : σ) : rules.Plays s [] s
  | cons {s s' s'' : σ} {q : Question} {answer : q.Answer} {log : List Event}
      (comes : rules.answers s q answer s') (later : rules.Plays s' log s'') :
      rules.Plays s (⟨q, answer⟩ :: log) s''

/-- Between any two events there is a state, which the ones lead to and the others start from. -/
theorem Rules.Plays.split {σ : Type} {rules : Rules σ} {s s' : σ} {before after : List Event}
    (plays : rules.Plays s (before ++ after) s') :
    ∃ middle, rules.Plays s before middle ∧ rules.Plays middle after s' := by
  induction before generalizing s with
  | nil => exact ⟨s, .nil s, plays⟩
  | cons event before ih =>
      cases plays with
      | cons comes later =>
          obtain ⟨middle, first, rest⟩ := ih later
          exact ⟨middle, .cons comes first, rest⟩

/-- Where the answers of a course may come back, its end is one of those with the postcondition. -/
theorem Procedure.Obeys.ends {α σ : Type} {rules : Rules σ} {post : α → σ → Prop}
    {p : Procedure α} {s s' : σ} {log : List Event} {a : α} (obeys : p.Obeys rules post s)
    (course : p.Course log (done a)) (plays : rules.Plays s log s') : post a s' := by
  induction p generalizing s log with
  | done b =>
      obtain ⟨rfl, rfl⟩ := course_done_iff.1 course
      cases plays
      exact obeys
  | ask q next ih =>
      obtain ⟨answer, _, rfl, later⟩ := course_ask_iff.1 course
      cases plays with
      | cons comes plays => exact ih answer (obeys.2 answer _ comes) later plays

/-- Every question of a course whose answers may come back was allowed where it was asked. -/
theorem Procedure.Course.allows {α σ : Type} {rules : Rules σ} {post : α → σ → Prop}
    {p rest : Procedure α} {s s' : σ} {log before after : List Event} {event : Event}
    (course : p.Course log rest) (obeys : p.Obeys rules post s) (plays : rules.Plays s log s')
    (split : log = before ++ event :: after) :
    ∃ t, rules.Plays s before t ∧ rules.allows t event.question := by
  induction course generalizing s before with
  | here p => simp at split
  | @ask q next answer log rest later ih =>
      cases plays with
      | cons comes plays =>
          cases before with
          | nil =>
              obtain ⟨rfl, -⟩ := List.cons.inj split
              exact ⟨s, .nil s, obeys.1⟩
          | cons first before =>
              obtain ⟨rfl, same⟩ := List.cons.inj split
              obtain ⟨t, led, allowed⟩ := ih (obeys.2 answer _ comes) plays same
              exact ⟨t, .cons comes led, allowed⟩

/-- A way of answering that keeps to rules, seen through `view`, keeps to them in a whole run.  It
may do so only as long as something holds of it that every answer keeps. -/
theorem Procedure.events_plays_of {α σ τ : Type} {rules : Rules σ}
    {answer : (q : Question) → τ → q.Answer × τ} {view : τ → σ} {inv : τ → Prop}
    (sees : ∀ q t, inv t →
      rules.answers (view t) q (answer q t).1 (view (answer q t).2) ∧ inv (answer q t).2)
    (p : Procedure α) {t : τ} (holds : inv t) :
    rules.Plays (view t) (p.events answer t) (view (p.run answer t).2) := by
  induction p generalizing t with
  | done a => exact .nil _
  | ask q next ih =>
      obtain ⟨comes, still⟩ := sees q t holds
      exact .cons comes (ih _ still)

theorem Procedure.events_plays {α σ τ : Type} {rules : Rules σ}
    {answer : (q : Question) → τ → q.Answer × τ} {view : τ → σ}
    (sees : ∀ q t, rules.answers (view t) q (answer q t).1 (view (answer q t).2))
    (p : Procedure α) (t : τ) :
    rules.Plays (view t) (p.events answer t) (view (p.run answer t).2) := by
  have kept : ∀ q t, True →
      rules.answers (view t) q (answer q t).1 (view (answer q t).2) ∧ True :=
    fun q t _ => ⟨sees q t, trivial⟩
  exact events_plays_of kept p trivial

/-- Rules of which it is known besides which events are possible. -/
def Rules.guarded {σ : Type} (rules : Rules σ) (possible : Event → Prop) : Rules σ where
  allows := rules.allows
  answers s q answer s' := rules.answers s q answer s' ∧ possible ⟨q, answer⟩

theorem Rules.Plays.guarded {σ : Type} {rules : Rules σ} {possible : Event → Prop} {s s' : σ}
    {log : List Event} (plays : rules.Plays s log s') (all : ∀ event ∈ log, possible event) :
    (rules.guarded possible).Plays s log s' := by
  induction plays with
  | nil s => exact .nil s
  | cons comes later ih =>
      obtain ⟨first, rest⟩ := List.forall_mem_cons.1 all
      exact .cons ⟨comes, first⟩ (ih rest)

/-- The rules of one who remembers everything that was asked and answered. -/
def Rules.past (allows : List Event → Question → Prop) : Rules (List Event) where
  allows := allows
  answers before q answer after := after = before ++ [⟨q, answer⟩]

theorem Rules.past_plays {allows : List Event → Question → Prop} (before log : List Event) :
    (Rules.past allows).Plays before log (before ++ log) := by
  induction log generalizing before with
  | nil => simpa using Plays.nil before
  | cons event log ih => exact .cons rfl (by simpa using ih (before ++ [event]))

theorem Rules.Plays.remembered {allows : List Event → Question → Prop}
    {before log now : List Event} (plays : (Rules.past allows).Plays before log now) :
    now = before ++ log := by
  induction plays with
  | nil s => simp
  | cons comes later ih => simp [ih, show _ = _ from comes]

namespace Procedure

variable {α : Type} {allows : List Event → Question → Prop}

@[simp] theorem past_ask {post : α → List Event → Prop} {q : Question}
    {next : q.Answer → Procedure α} {before : List Event} :
    (ask q next).Obeys (Rules.past allows) post before ↔
      allows before q ∧
        ∀ answer, (next answer).Obeys (Rules.past allows) post (before ++ [⟨q, answer⟩]) := by
  simp [Rules.past]

/-- Every question of a course was allowed by what lay before it. -/
theorem Course.allowed {p rest : Procedure α} {log : List Event} (course : Course p log rest)
    {post : α → List Event → Prop} {past : List Event}
    (obeys : p.Obeys (Rules.past allows) post past) {before after : List Event} {event : Event}
    (split : log = before ++ event :: after) : allows (past ++ before) event.question := by
  obtain ⟨now, led, allowed⟩ := course.allows obeys (Rules.past_plays past log) split
  exact led.remembered ▸ allowed

end Procedure

/-! ## A state and everything that happened -/

/-- Rules about a state, kept by one who also remembers everything that was asked and answered,
and allows what the past allows. -/
def Rules.recalling {σ : Type} (rules : Rules σ) (allows : List Event → Question → Prop) :
    Rules (σ × List Event) where
  allows s q := allows s.2 q
  answers s q answer s' := rules.answers s.1 q answer s'.1 ∧ s'.2 = s.2 ++ [⟨q, answer⟩]

section Recalling

variable {α σ : Type} {rules : Rules σ} {allows : List Event → Question → Prop}

theorem Rules.Plays.recalling {s s' : σ} {log : List Event} (plays : rules.Plays s log s')
    (past : List Event) : (rules.recalling allows).Plays (s, past) log (s', past ++ log) := by
  induction plays generalizing past with
  | nil s => rw [List.append_nil]; exact .nil _
  | @cons _ s' _ q answer _ comes later ih =>
      rw [List.append_cons]
      exact .cons ⟨comes, rfl⟩ (ih _)

theorem Rules.Plays.recalled {s s' : σ × List Event} {log : List Event}
    (plays : (rules.recalling allows).Plays s log s') : s'.2 = s.2 ++ log := by
  induction plays with
  | nil s => simp
  | cons comes later ih => simp [ih, comes.2]

namespace Procedure

@[simp] theorem recalling_ask {post : α → σ × List Event → Prop} {q : Question}
    {next : q.Answer → Procedure α} {s : σ} {past : List Event} :
    (ask q next).Obeys (rules.recalling allows) post (s, past) ↔
      allows past q ∧ ∀ answer s', rules.answers s q answer s' →
        (next answer).Obeys (rules.recalling allows) post (s', past ++ [⟨q, answer⟩]) := by
  simp [Rules.recalling]

/-- Every question of a course whose answers may come back was allowed by what lay before it. -/
theorem Course.recalled {p rest : Procedure α} {log : List Event} (course : Course p log rest)
    {post : α → σ × List Event → Prop} {s s' : σ} {past : List Event}
    (obeys : p.Obeys (rules.recalling allows) post (s, past)) (plays : rules.Plays s log s')
    {before after : List Event} {event : Event} (split : log = before ++ event :: after) :
    allows (past ++ before) event.question := by
  obtain ⟨now, led, allowed⟩ := course.allows obeys (plays.recalling past) split
  exact led.recalled ▸ allowed

end Procedure

end Recalling

end HotSwap
