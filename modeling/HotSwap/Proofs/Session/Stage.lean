/-
# HotSwap.Proofs.Session.Stage -- the parts of a session under rules

A `Stage` takes the progress of the session along and may fail.  Each way of putting
stages together has one lemma here that says when the whole obeys given rules: what
comes behind is met only where the first part succeeded, and a failure goes straight to
the postcondition.
-/
import HotSwap.Proofs.Rules
import HotSwap.Session.Attach

namespace HotSwap

set_option autoImplicit false

/-- Moving on is possible to exactly the phases that may follow. -/
theorem Phase.advance_of_mem {source target : Phase} (allowed : target ∈ source.next) :
    source.advance target = .ok target := by
  simp [Phase.advance, allowed]

namespace Session

variable {α β ε σ : Type} {rules : Rules σ}

/-! ## The end of the preparation

The last steps of `prepare` have names here, so that what is shown of them is shown once for
both ways in which a session comes to them. -/

/-- The natives are bound, and the session comes to where its ways part. -/
def bindAndPart (request : Request) : Stage Request := do
  attempt .handoff bindNatives
  advance .dispatch
  return request

/-- The build is checked, the process is hooked unless it was, and the natives are bound. -/
def checkAndHook (agent : Agent) (request : Request) : Stage Request := do
  advance .versionCheck
  let marker ← attempt .version (checkBuild agent.payload.fingerprint)
  if ← attempt .instrumentation (checkInstrumented marker) then
    advance .alreadyInstrumented
  else
    advance .instrumentOnce
    attempt .instrumentation (instrument agent.plan marker)
  bindAndPart request

/-! ## One part after another -/

theorem stage_bind (x : Stage α) (f : α → Stage β) (progress : Progress) :
    (x >>= f) progress = (x progress).bind fun r =>
      match r with
      | (.ok a, progress) => f a progress
      | (.error e, progress) => .done (.error e, progress) := by
  show (x progress).bind _ = _
  congr 1
  funext r
  rcases r with ⟨_ | _, _⟩ <;> rfl

/-- A stage, and what comes behind it where it succeeds. -/
theorem stage_andThen {x : Stage α} {f : α → Stage β} {progress : Progress}
    {post : Except AttachError β × Progress → σ → Prop} {s : σ}
    (obeys : (x progress).Obeys rules
      (fun r s =>
        match r with
        | (.ok a, progress) => (f a progress).Obeys rules post s
        | (.error e, progress) => post (.error e, progress) s) s) :
    ((x >>= f) progress).Obeys rules post s := by
  rw [stage_bind, Procedure.obeys_bind]
  refine obeys.mono fun r s holds => ?_
  rcases r with ⟨_ | _, _⟩ <;> exact holds

/-- A move that the phases allow never fails. -/
theorem advance_andThen {target : Phase} {f : Unit → Stage β} {progress : Progress}
    {post : Except AttachError β × Progress → σ → Prop} {s : σ}
    (allowed : target ∈ progress.phase.next)
    (later : (f () ⟨target, progress.history ++ [target]⟩).Obeys rules post s) :
    ((advance target >>= f) progress).Obeys rules post s := by
  apply stage_andThen
  simp only [advance, Phase.advance_of_mem allowed, Procedure.pure_eq, Procedure.obeys_done]
  exact later

/-- A move about which nothing is known succeeds or fails, and asks nothing. -/
theorem advance_either {target : Phase} {f : Unit → Stage β} {progress : Progress}
    {post : Except AttachError β × Progress → σ → Prop} {s : σ}
    (later : ∀ progress, (f () progress).Obeys rules post s)
    (refused : ∀ move, post (.error (.illegalMove move), progress) s) :
    ((advance target >>= f) progress).Obeys rules post s := by
  apply stage_andThen
  unfold advance
  cases progress.phase.advance target with
  | error move => exact refused _
  | ok phase => exact later _

/-- A procedure whose failure is the session's. -/
theorem attempt_obeys {wrap : ε → AttachError} {p : Procedure (Except ε α)} {progress : Progress}
    {post : Except AttachError α × Progress → σ → Prop} {s : σ}
    (obeys : p.Obeys rules
      (fun r s =>
        match r with
        | .ok a => post (.ok a, progress) s
        | .error e => post (.error (wrap e), progress) s) s) :
    (attempt wrap p progress).Obeys rules post s := by
  refine Procedure.Obeys.andThen obeys fun r s holds => ?_
  cases r <;> exact holds

/-- A procedure whose failure is the session's, and what comes behind it otherwise. -/
theorem attempt_andThen {wrap : ε → AttachError} {p : Procedure (Except ε α)} {f : α → Stage β}
    {progress : Progress} {post : Except AttachError β × Progress → σ → Prop} {s : σ}
    (obeys : p.Obeys rules
      (fun r s =>
        match r with
        | .ok a => (f a progress).Obeys rules post s
        | .error e => post (.error (wrap e), progress) s) s) :
    ((attempt wrap p >>= f) progress).Obeys rules post s := by
  apply stage_andThen
  apply attempt_obeys
  refine obeys.mono fun r s holds => ?_
  cases r <;> exact holds

/-- A procedure that does not fail, and what comes behind it. -/
theorem perform_andThen {p : Procedure α} {f : α → Stage β} {progress : Progress}
    {post : Except AttachError β × Progress → σ → Prop} {s : σ}
    (obeys : p.Obeys rules (fun a s => (f a progress).Obeys rules post s) s) :
    ((perform p >>= f) progress).Obeys rules post s :=
  stage_andThen (Procedure.Obeys.andThen obeys fun _ _ holds => holds)

/-- Where a stage may fail, the connection is hung up. -/
theorem hangingUpOnFailure_obeys {link : LinkId} {x : Stage α} {progress : Progress}
    {post : Except AttachError α × Progress → σ → Prop} {s : σ}
    (obeys : (x progress).Obeys rules
      (fun r s =>
        match r with
        | (.ok a, progress) => post (.ok a, progress) s
        | (.error e, progress) =>
            (Procedure.hangUp link).Obeys rules (fun _ s => post (.error e, progress) s) s) s) :
    (hangingUpOnFailure link x progress).Obeys rules post s := by
  refine Procedure.Obeys.andThen obeys fun r s holds => ?_
  rcases r with ⟨_ | _, _⟩
  · exact Procedure.Obeys.andThen holds fun _ _ ends => ends
  · exact holds

/-- However a stage ends, the connection is hung up. -/
theorem hangingUp_obeys {link : LinkId} {x : Stage α} {progress : Progress}
    {post : Except AttachError α × Progress → σ → Prop} {s : σ}
    (obeys : (x progress).Obeys rules
      (fun r s => (Procedure.hangUp link).Obeys rules (fun _ s => post r s) s) s) :
    (hangingUp link x progress).Obeys rules post s :=
  Procedure.Obeys.andThen obeys fun _ _ holds =>
    Procedure.Obeys.andThen holds fun _ _ ends => ends

/-- A whole attach: the session, and the report on it. -/
theorem attach_obeys {agent : Agent} {post : SessionReport → σ → Prop} {s : σ}
    (obeys : (session agent Progress.start).Obeys rules
      (fun r s =>
        match r with
        | (.ok completion, progress) => post ⟨progress.phase, progress.history, .ok completion⟩ s
        | (.error e, progress) => post ⟨progress.fail.phase, progress.fail.history, .error e⟩ s) s) :
    agent.attach.Obeys rules post s := by
  refine Procedure.Obeys.andThen obeys fun r s holds => ?_
  rcases r with ⟨_ | _, _⟩ <;> exact holds

end Session

end HotSwap
