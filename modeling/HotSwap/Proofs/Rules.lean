/-
# HotSwap.Proofs.Rules -- procedures that keep to rules

A `Rules σ` is kept by somebody who watches a procedure and has a state of type `σ`:
it says which questions are allowed in a state, and which answers may come back,
each with the state behind it.  `Procedure.Obeys` says that a procedure asks only what
is allowed, whatever it is answered, and that a postcondition holds where it ends.

* `obeys_bind`: one procedure after another obeys the rules if the first does and the
  second does wherever the first may end;
* `Obeys.run`: what is proved for all answers holds of the one way of answering that
  a run plays against, looked at through any view of its state;
* `Asks` forgets the state: it only says of which kind the questions are, which is
  enough for parts of a session that a theorem is not about (`Obeys.of_asks`).
-/
import HotSwap.Procedure

namespace HotSwap

set_option autoImplicit false

/-- What may be asked in a state, and what may come back. -/
structure Rules (σ : Type) where
  allows : σ → Question → Prop
  answers : σ → (question : Question) → question.Answer → σ → Prop

namespace Procedure

variable {α β σ τ : Type}

/-- Whatever the answers, only allowed questions are asked, and a postcondition holds in
the end. -/
def Obeys (rules : Rules σ) (post : α → σ → Prop) : Procedure α → σ → Prop
  | done a, s => post a s
  | ask q next, s =>
      rules.allows s q ∧ ∀ answer s', rules.answers s q answer s' → (next answer).Obeys rules post s'

variable {rules : Rules σ}

@[simp] theorem obeys_done {post : α → σ → Prop} {a : α} {s : σ} :
    (done a).Obeys rules post s ↔ post a s := Iff.rfl

@[simp] theorem obeys_ask {post : α → σ → Prop} {q : Question} {next : q.Answer → Procedure α}
    {s : σ} :
    (ask q next).Obeys rules post s ↔
      rules.allows s q ∧
        ∀ answer s', rules.answers s q answer s' → (next answer).Obeys rules post s' := Iff.rfl

theorem obeys_bind {p : Procedure α} {f : α → Procedure β} {post : β → σ → Prop} {s : σ} :
    (p.bind f).Obeys rules post s ↔ p.Obeys rules (fun a s => (f a).Obeys rules post s) s := by
  induction p generalizing s with
  | done a => rfl
  | ask q next ih => simp only [ask_bind, obeys_ask, ih]

/-- A weaker postcondition holds as well. -/
theorem Obeys.mono {p : Procedure α} {post post' : α → σ → Prop} {s : σ}
    (obeys : p.Obeys rules post s) (weaker : ∀ a s, post a s → post' a s) :
    p.Obeys rules post' s := by
  induction p generalizing s with
  | done a => exact weaker a s obeys
  | ask q next ih => exact ⟨obeys.1, fun answer s' come => ih answer (obeys.2 answer s' come)⟩

/-- Two postconditions hold together. -/
theorem Obeys.and {p : Procedure α} {post post' : α → σ → Prop} {s : σ}
    (obeys : p.Obeys rules post s) (also : p.Obeys rules post' s) :
    p.Obeys rules (fun a s => post a s ∧ post' a s) s := by
  induction p generalizing s with
  | done a => exact ⟨obeys, also⟩
  | ask q next ih =>
      exact ⟨obeys.1, fun answer s' come => ih answer (obeys.2 answer s' come) (also.2 answer s' come)⟩

/-- Where everything may be asked, what holds wherever a procedure may end is a postcondition. -/
theorem obeys_of_free (free : ∀ s q, rules.allows s q) {post : α → σ → Prop}
    (holds : ∀ a s, post a s) (p : Procedure α) (s : σ) : p.Obeys rules post s := by
  induction p generalizing s with
  | done a => exact holds a s
  | ask q next ih => exact ⟨free s q, fun answer s' _ => ih answer s'⟩

/-- One procedure after another, the first with a postcondition of its own. -/
theorem Obeys.andThen {p : Procedure α} {f : α → Procedure β} {middle : α → σ → Prop}
    {post : β → σ → Prop} {s : σ} (first : p.Obeys rules middle s)
    (second : ∀ a s, middle a s → (f a).Obeys rules post s) : (p.bind f).Obeys rules post s :=
  obeys_bind.2 (first.mono second)

/-- What holds for all answers holds of a run, whose state is seen through `view`.  What must
be true of the state for this may depend on the rules being kept. -/
theorem Obeys.run {answer : (q : Question) → τ → q.Answer × τ} {view : τ → σ} {inv : τ → Prop}
    (sees : ∀ q t, inv t → rules.allows (view t) q →
      rules.answers (view t) q (answer q t).1 (view (answer q t).2) ∧ inv (answer q t).2)
    {p : Procedure α} {post : α → σ → Prop} {t : τ} (holds : inv t)
    (obeys : p.Obeys rules post (view t)) :
    post (Procedure.run answer p t).1 (view (Procedure.run answer p t).2) ∧
      inv (Procedure.run answer p t).2 := by
  induction p generalizing t with
  | done a => exact ⟨obeys, holds⟩
  | ask q next ih =>
      have seen := sees q t holds obeys.1
      exact ih _ seen.2 (obeys.2 _ _ seen.1)

/-! ## Questions of one kind -/

/-- Only questions of a certain kind are asked. -/
def Asks (kind : Question → Prop) : Procedure α → Prop
  | done _ => True
  | ask q next => kind q ∧ ∀ answer, (next answer).Asks kind

variable {kind : Question → Prop}

@[simp] theorem asks_done {a : α} : (done a).Asks kind ↔ True := Iff.rfl

theorem Asks.bind {p : Procedure α} {f : α → Procedure β} (first : p.Asks kind)
    (second : ∀ a, (f a).Asks kind) : (p.bind f).Asks kind := by
  induction p with
  | done a => exact second a
  | ask q next ih => exact ⟨first.1, fun answer => ih answer (first.2 answer)⟩

/-- Questions of one kind are also of any wider kind. -/
theorem Asks.mono {wider : Question → Prop} {p : Procedure α} (asks : p.Asks kind)
    (within : ∀ q, kind q → wider q) : p.Asks wider := by
  induction p with
  | done a => trivial
  | ask q next ih => exact ⟨within q asks.1, fun answer => ih answer (asks.2 answer)⟩

/-- What every question of a kind keeps is kept by a procedure that asks only such. -/
theorem Obeys.of_asks {p : Procedure α} {inv : σ → Prop} (asks : p.Asks kind)
    (allowed : ∀ q s, kind q → inv s → rules.allows s q)
    (kept : ∀ q s answer s', kind q → inv s → rules.answers s q answer s' → inv s')
    {s : σ} (holds : inv s) : p.Obeys rules (fun _ s => inv s) s := by
  induction p generalizing s with
  | done a => exact holds
  | ask q next ih =>
      refine ⟨allowed q s asks.1 holds, fun answer s' come => ?_⟩
      exact ih answer (asks.2 answer) (kept q s answer s' asks.1 holds come)

end Procedure

end HotSwap
