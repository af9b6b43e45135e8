/-
# HotSwap.Proofs.Simulated.Faltering -- a process that may refuse a call

A `FalteringHost` is a simulated process of which any call that can be refused may be,
and then does nothing.  Where it refuses what, is free.

The class is loaded again in one call and the marker is told in a later one, and the next
session goes by what the marker says.  So there is one call whose refusal costs the
promise that a process is hooked once: `onceHooked_iff` says that it is kept by exactly
the lives in which the marker never refused to be told.  Every other refusal, at any step of
any session, leaves it alone.  Behind it stands an account (`Accounted`): a class was
loaded again as often as the marker refused to be told of it, and once more if the marker
was told.

`hookedTwice` is the shortest life that breaks the promise: the hook is applied on top of
itself.
-/
import HotSwap.Proofs.Simulated.Answers
import HotSwap.Proofs.Simulated.Rewriting
import HotSwap.Simulation.Fixture

namespace HotSwap

set_option autoImplicit false

open Procedure Session

/-! ## The host -/

/-- What comes back from a call that is refused, if it can be. -/
def HostCall.refused? (e : Host.Error) : (call : HostCall) → Option call.Answer
  | .potentialCapabilities | .findClass _ | .processId => none
  | .callStatic .. => some (.error e)
  | .addCapabilities _ | .setLoadHook _ | .setLoadNotification _ | .retransformClass _
  | .redefineClasses _ | .appendToBootstrapSearch _ | .registerNatives _ => some (.error e)

/-- A simulated process, and what befalls its next calls, the first one first: nothing, or a
refusal. -/
structure FalteringHost where
  process : SimulatedHost
  fates : List (Option Host.Error)

instance : Host.Model FalteringHost where
  answer call h w :=
    match h.fates.head?.join.bind fun e => call.refused? e with
    | some answer => (answer, { h with fates := h.fates.tail }, w)
    | none =>
        ((Host.Model.answer call h.process w).1,
          ⟨(Host.Model.answer call h.process w).2.1, h.fates.tail⟩,
          (Host.Model.answer call h.process w).2.2)

/-- What a process lived through, in which sessions were attached to it one after another, by
whatever agents and in whatever worlds, and any of its calls were refused. -/
inductive Endured : List Event → SimulatedHost → Prop where
  | start {h : SimulatedHost} (started : h.Started) : Endured [] h
  | attach {past : List Event} {h : SimulatedHost} (endured : Endured past h) (agent : Agent)
      (door : Connector) (world : World) (fates : List (Option Host.Error)) :
      Endured (past ++ agent.attach.events (Scene.answer door) (⟨⟨h, fates⟩, world⟩ : Scene FalteringHost))
        (Scene.perform (⟨⟨h, fates⟩, world⟩ : Scene FalteringHost) door agent.attach).2.host.process

/-- The marker refused to be told that a class was loaded again. -/
def noteRefused : Event → Bool
  | ⟨.host (.callStatic className method _), .error _⟩ =>
      className == markerClass && method == setFinishedInstrumenting
  | _ => false

/-- A class was loaded again at most once, and if it was the marker knows. -/
def OnceHooked (past : List Event) (h : SimulatedHost) : Prop :=
  past.countP reloads ≤ 1 ∧ (past.countP reloads ≠ 0 → h.instrumented = true)

/-! ## What a question does -/

/-- A call was refused. -/
def WasRefused : (q : Question) → q.Answer → Prop
  | .host call, answer => ∃ e, call.refused? e = some answer
  | _, _ => False

/-- The rules of one who sees the facts of a process of which any call may be refused. -/
def stumbling : Rules Facts where
  allows _ _ := True
  answers f q answer f' := seeing.answers f q answer f' ∨ WasRefused q answer ∧ f' = f

/-- The same of one who remembers besides what was asked and answered. -/
def faltering : Rules (Facts × List Event) := stumbling.recalling fun _ _ => True

/-- A scene with a faltering process answers so. -/
theorem answer_faltering (door : Connector) (q : Question) (s : Scene FalteringHost) :
    stumbling.answers s.host.process.facts q (Scene.answer door q s).1
      (Scene.answer door q s).2.host.process.facts := by
  cases q with
  | host call =>
      show seeing.answers _ (.host call) (Host.Model.answer call s.host s.world).1
          (Host.Model.answer call s.host s.world).2.1.process.facts ∨
        (∃ e, call.refused? e = some (Host.Model.answer call s.host s.world).1) ∧
          (Host.Model.answer call s.host s.world).2.1.process.facts = _
      simp only [Host.Model.answer]
      cases fate : s.host.fates.head?.join.bind fun e => call.refused? e with
      | some answer =>
          obtain ⟨e, -, refused⟩ := Option.bind_eq_some_iff.1 fate
          exact .inr ⟨⟨e, refused⟩, rfl⟩
      | none => exact .inl ⟨door, ⟨s.host.process, s.world⟩, rfl, rfl, rfl⟩
  | deposit dir payload =>
      refine .inl ⟨door, ⟨s.host.process, s.world⟩, rfl, ?_, ?_⟩ <;>
        simp only [Scene.answer_deposit]
  | _ => exact .inl ⟨door, ⟨s.host.process, s.world⟩, rfl, rfl, rfl⟩

/-! ## The account -/

/-- A class was loaded again as often as the marker refused to be told, and once more if it was
told. -/
def Accounted (s : Facts × List Event) : Prop :=
  s.2.countP reloads = s.2.countP noteRefused + if s.1.instrumented then 1 else 0

/-- The marker is loaded and does not know of a hook; a class was loaded again so many times more
than the marker refused to be told. -/
structure Untold (times : Nat) (s : Facts × List Event) : Prop where
  marked : s.1.marked = true
  unnoted : s.1.instrumented = false
  count : s.2.countP reloads = s.2.countP noteRefused + times

section Faltering

variable {s s' : Facts × List Event} {times : Nat}

theorem Untold.accounted (untold : Untold 0 s) : Accounted s := by
  simp [Accounted, untold.count, untold.unnoted]

/-- What an idle question leaves, whether it is refused or not. -/
structure Undisturbed (s s' : Facts × List Event) : Prop where
  instrumented : s'.1.instrumented = s.1.instrumented
  marked : s.1.marked = true → s'.1.marked = true
  reloads : s'.2.countP reloads = s.2.countP reloads
  refused : s'.2.countP noteRefused = s.2.countP noteRefused

theorem Undisturbed.accounted (same : Undisturbed s s') (accounted : Accounted s) :
    Accounted s' := by
  rw [Accounted, same.reloads, same.refused, same.instrumented]
  exact accounted

theorem Undisturbed.untold (same : Undisturbed s s') (untold : Untold times s) :
    Untold times s' where
  marked := same.marked untold.marked
  unnoted := same.instrumented.trans untold.unnoted
  count := by rw [same.reloads, same.refused, untold.count]

theorem Idle.undisturbed {q : Question} {answer : q.Answer} (idle : Idle q)
    (comes : faltering.answers s q answer s') : Undisturbed s s' := by
  obtain ⟨answers, grows⟩ := comes
  have kept : s'.1.instrumented = s.1.instrumented ∧ (s.1.marked = true → s'.1.marked = true) := by
    rcases answers with answers | ⟨-, same⟩
    · exact seeing_idle idle answers
    · rw [same]
      exact ⟨rfl, id⟩
  have uncounted : reloads ⟨q, answer⟩ = false := idle.unreloaded
  have unrefused : noteRefused ⟨q, answer⟩ = false := by
    cases q with
    | host call =>
        cases call with
        | callStatic className method args =>
            rcases answer with e | value
            · simpa [noteRefused, Idle] using idle
            · rfl
        | _ => rfl
    | _ => rfl
  refine ⟨kept.1, kept.2, ?_, ?_⟩
  · rw [grows, List.countP_append, List.countP_singleton, uncounted]
    rfl
  · rw [grows, List.countP_append, List.countP_singleton, unrefused]
    rfl

/-- An idle question in a process that does not know of a hook, and what comes behind it. -/
theorem Untold.andThen {α : Type} (untold : Untold times s) {q : Question}
    {next : q.Answer → Procedure α} {post : α → Facts × List Event → Prop} (idle : Idle q)
    (later : ∀ answer s', Untold times s' → (next answer).Obeys faltering post s') :
    (ask q next).Obeys faltering post s :=
  ⟨trivial, fun answer s' comes => later answer s' ((idle.undisturbed comes).untold untold)⟩

theorem checkBuild_accounted (build : Fingerprint) (accounted : Accounted s) :
    (checkBuild build).Obeys faltering
      (fun r s => Accounted s ∧ ∀ marker, r = .ok marker → s.1.marked = true) s := by
  have idle : Idle (.host (.callStatic markerClass checkHash [.str build.hex])) := by
    simp [Idle, checkHash, setFinishedInstrumenting]
  refine ⟨trivial, fun answer s' comes => ?_⟩
  have same := idle.undisturbed comes
  have accounted := same.accounted accounted
  rcases answer with cause | reply
  · exact ⟨accounted, by rintro _ ⟨⟩⟩
  have marked : s.1.marked = true := by
    rcases comes.1 with answers | ⟨⟨e, refused⟩, -⟩
    · exact seeing_callStatic_ok answers
    · cases refused
  have marked := same.marked marked
  rcases reply with _ | (_ | _) | _ | _ | _ <;> exact ⟨accounted, fun _ _ => marked⟩

theorem checkInstrumented_accounted (marker : VerifiedMarker) (accounted : Accounted s)
    (marked : s.1.marked = true) :
    (checkInstrumented marker).Obeys faltering
      (fun r s => Accounted s ∧ (r = .ok false → Untold 0 s)) s := by
  have idle : Idle (.host (.callStatic markerClass isFinishedInstrumenting [])) := by
    simp [Idle, isFinishedInstrumenting, setFinishedInstrumenting]
  refine ⟨trivial, fun answer s' comes => ?_⟩
  have same := idle.undisturbed comes
  have accounted' := same.accounted accounted
  rcases comes.1 with answers | ⟨⟨e, refused⟩, -⟩
  · obtain ⟨rfl, -⟩ := seeing_isFinishedInstrumenting marked answers
    refine ⟨accounted', fun told => same.untold ?_⟩
    have unnoted : s.1.instrumented = false := by
      cases flag : s.1.instrumented with
      | false => rfl
      | true => simp [flag] at told
    exact ⟨marked, unnoted, by simpa [Accounted, unnoted] using accounted⟩
  · obtain rfl := Option.some.inj refused
    exact ⟨accounted', by rintro ⟨⟩⟩

/-- The target is loaded again if the host says so, and else nothing happens. -/
theorem retransformHooked_untold (target : String) (untold : Untold 0 s) :
    (retransformHooked target).Obeys faltering
      (fun r s =>
        match r with
        | .ok (.ok ()) => Untold 1 s
        | _ => Untold 0 s) s := by
  refine untold.andThen trivial fun found s untold => ?_
  cases found with
  | false => exact untold
  | true =>
  refine untold.andThen trivial fun opened s untold => ?_
  rcases opened with cause | _
  · exact untold
  refine ⟨trivial, fun answer s' comes => ?_⟩
  obtain ⟨answers, grows⟩ := comes
  have facts : s'.1.marked = s.1.marked ∧ s'.1.instrumented = s.1.instrumented := by
    rcases answers with answers | ⟨-, same⟩
    · rcases seeing_retransformClass answers with ⟨-, same⟩ | ⟨-, same⟩ <;> rw [same] <;>
        exact ⟨rfl, rfl⟩
    · rw [same]
      exact ⟨rfl, rfl⟩
  have again : Untold (if reloads ⟨.host (.retransformClass target), answer⟩ then 1 else 0) s' := by
    refine ⟨facts.1.trans untold.marked, facts.2.trans untold.unnoted, ?_⟩
    rw [grows, List.countP_append, List.countP_append, untold.count, List.countP_singleton,
      List.countP_singleton]
    rfl
  refine again.andThen trivial fun _ s'' again => ?_
  rcases answer with cause | ⟨⟩ <;> exact again

/-- Either nothing was loaded again, or the marker is told, or it refuses to be. -/
theorem instrument_accounted (plan : Plan) (marker : VerifiedMarker) (untold : Untold 0 s) :
    (instrument plan marker).Obeys faltering (fun _ s => Accounted s) s := by
  refine untold.andThen trivial fun registry s untold => ?_
  refine untold.andThen trivial fun installed s untold => ?_
  rcases installed with cause | _
  · exact untold.accounted
  refine (retransformHooked_untold plan.target untold).andThen fun outcome s ends => ?_
  have removed {times : Nat} {s : Facts × List Event} (untold : Untold times s)
      {next : Procedure (Except InstrumentationError Unit)}
      (later : ∀ s, Untold times s → next.Obeys faltering (fun _ s => Accounted s) s) :
      ((removeHook registry).bind fun _ => next).Obeys faltering (fun _ s => Accounted s) s :=
    untold.andThen trivial fun _ _ untold => untold.andThen trivial fun _ s untold => later s untold
  rcases outcome with e | cause | ⟨⟩
  · exact removed ends fun _ untold => untold.accounted
  · exact removed ends fun _ untold => untold.accounted
  refine removed ends fun s ready => ⟨trivial, fun answer s' comes => ?_⟩
  obtain ⟨answers, grows⟩ := comes
  rcases answers with answers | ⟨⟨e, refused⟩, same⟩
  · obtain ⟨rfl, noted⟩ := seeing_setFinishedInstrumenting ready.marked answers
    show Accounted s'
    rw [Accounted, noted, grows, List.countP_append, List.countP_append, ready.count]
    rfl
  · obtain rfl := Option.some.inj refused
    show Accounted s'
    have unnoted : s'.1.instrumented = false := same ▸ ready.unnoted
    rw [Accounted, unnoted, grows, List.countP_append, List.countP_append, ready.count]
    rfl

theorem keepsAccounted : KeepsHook faltering Accounted (fun s => s.1.marked = true) (Untold 0) where
  free _ _ := trivial
  idle _ _ _ _ idle accounted comes := (idle.undisturbed comes).accounted accounted
  checks build _ accounted := checkBuild_accounted build accounted
  asks marker _ accounted marked := checkInstrumented_accounted marker accounted marked
  hooks plan marker _ ready := instrument_accounted plan marker ready

end Faltering

/-! ## Lives -/

theorem Endured.accounted {past : List Event} {h : SimulatedHost} (endured : Endured past h) :
    Accounted (h.facts, past) := by
  induction endured with
  | start started => simp [Accounted, SimulatedHost.facts, started.blank.instrumented]
  | @attach past h _ agent door world fates ih =>
      have obeys := keepsAccounted.attach agent ih
      have plays := events_plays (answer_faltering door) agent.attach ⟨⟨h, fates⟩, world⟩
      exact obeys.ends (course_events (Scene.answer door) agent.attach _) (plays.recalling _)

/-- A process is hooked at most once, and never without its marker knowing, in exactly those lives
in which the marker never refused to be told. -/
theorem onceHooked_iff {past : List Event} {h : SimulatedHost} (endured : Endured past h) :
    OnceHooked past h ↔ ∀ event ∈ past, noteRefused event = false := by
  have accounted : past.countP reloads =
      past.countP noteRefused + if h.instrumented then 1 else 0 := endured.accounted
  have refusals : (∀ event ∈ past, noteRefused event = false) ↔ past.countP noteRefused = 0 := by
    simp [List.countP_eq_zero]
  rw [refusals, OnceHooked]
  cases flag : h.instrumented with
  | true =>
      simp only [flag, if_true] at accounted
      simp only [implies_true, and_true]
      omega
  | false =>
      simp only [flag, Bool.false_eq_true, if_false] at accounted
      simp only [Bool.false_eq_true, imp_false, ne_eq, Decidable.not_not]
      omega

/-! ## Two sessions -/

namespace Faltering

/-- A refusal. -/
def refusal : Host.Error := ⟨.exception, "not now"⟩

/-- An agent whose transformation shows each time that it was applied. -/
def agent : Agent :=
  { Simulation.Fixture.agent with plan := { transform := Simulation.hookTransform } }

/-- A controller that wants a swap at once. -/
def world : World where
  links := #[.frames { toAgent := [(Simulation.Fixture.request false).encode] }]

/-- What a session on a process goes through whose calls fare as they are told. -/
def log (h : SimulatedHost) (fates : List (Option Host.Error)) : List Event :=
  agent.attach.events (Scene.answer (.ready 0)) (⟨⟨h, fates⟩, world⟩ : Scene FalteringHost)

/-- The process that such a session leaves. -/
def left (h : SimulatedHost) (fates : List (Option Host.Error)) : SimulatedHost :=
  (Scene.perform (⟨⟨h, fates⟩, world⟩ : Scene FalteringHost) (.ready 0) agent.attach).2.host.process

theorem endured_session {past : List Event} {h : SimulatedHost} (endured : Endured past h)
    (fates : List (Option Host.Error)) : Endured (past ++ log h fates) (left h fates) :=
  endured.attach agent (.ready 0) world fates

theorem endured_first (fates : List (Option Host.Error)) :
    Endured (log (Simulation.Fixture.host 7) fates) (left (Simulation.Fixture.host 7) fates) := by
  have started : (Simulation.Fixture.host 7).Started :=
    (SimulatedHost.Started.fresh 7).withClass _ _
  simpa using endured_session (.start started) fates

/-- The process behind a first session in which the class is refused to be loaded again. -/
def unloaded : SimulatedHost :=
  left (Simulation.Fixture.host 7) (List.replicate 10 none ++ [some refusal])

/-- What happened in that session and the next one. -/
def unloadedLog : List Event :=
  log (Simulation.Fixture.host 7) (List.replicate 10 none ++ [some refusal]) ++ log unloaded []

/-- The class was not loaded again in the first session, and was in the second. -/
theorem unloadedLog_onceHooked :
    unloaded.retransformCount hookTarget = 0 ∧ (∀ event ∈ unloadedLog, noteRefused event = false) ∧
      OnceHooked unloadedLog (left unloaded []) := by
  have endured : Endured unloadedLog (left unloaded []) := endured_session (endured_first _) []
  have seen : unloaded.retransformCount hookTarget = 0 ∧
      unloadedLog.all (fun event => !noteRefused event) = true := by
    decide +kernel
  have told : ∀ event ∈ unloadedLog, noteRefused event = false := by simpa using seen.2
  exact ⟨seen.1, told, (onceHooked_iff endured).2 told⟩

/-- The process behind a first session in which the marker refuses to be told. -/
def untold : SimulatedHost :=
  left (Simulation.Fixture.host 7) (List.replicate 13 none ++ [some refusal])

/-- What happened in that session and the next one. -/
def untoldLog : List Event :=
  log (Simulation.Fixture.host 7) (List.replicate 13 none ++ [some refusal]) ++ log untold []

/-- The first session leaves a class transformed of which the marker does not know, and the second
applies the hook on top of itself. -/
theorem hookedTwice :
    Endured untoldLog (left untold []) ∧ ¬ OnceHooked untoldLog (left untold []) ∧
      untold.instrumented = false ∧
      untold.classBytes hookTarget = some "ActivityThread$H#hooked".toUTF8 ∧
      untoldLog.countP reloads = 2 ∧
      (left untold []).classBytes hookTarget =
        some "ActivityThread$H#hooked#hooked".toUTF8 := by
  have seen : untold.instrumented = false ∧
      untold.classBytes hookTarget = some "ActivityThread$H#hooked".toUTF8 ∧
      untoldLog.countP reloads = 2 ∧
      (left untold []).classBytes hookTarget =
        some "ActivityThread$H#hooked#hooked".toUTF8 := by
    decide +kernel
  refine ⟨endured_session (endured_first _) [], ?_, seen⟩
  rintro ⟨once, -⟩
  have twice := seen.2.2.1
  omega

end Faltering

end HotSwap
