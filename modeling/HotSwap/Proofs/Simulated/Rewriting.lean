/-
# HotSwap.Proofs.Simulated.Rewriting -- a class is loaded again once

A process that came with the marker preloaded may be hooked before any build has claimed
it, so its facts do not agree as those of a process do that got the marker from an agent.
Its classes are loaded again once in all the same: `Hooked` ties the log of the process to
what its marker says, and needs nothing but that the marker, once it answered, is there to
be told.

Only two questions matter for this, and all others are `Idle`.  Between the two the tie is
broken (`Reloaded`), and `instrument_hooked` shows that no way leads out there.
-/
import HotSwap.Proofs.Course
import HotSwap.Proofs.Session.Preparation
import HotSwap.Proofs.Simulated.Facts

namespace HotSwap

set_option autoImplicit false

open Procedure Session

/-- Whether a class was loaded again. -/
def reloads : Event → Bool
  | ⟨.host (.retransformClass _), .ok ()⟩ => true
  | _ => false

/-- Neither loads a class again nor notes that this was done. -/
def Idle : Question → Prop
  | .host (.retransformClass _) => False
  | .host (.callStatic className method _) =>
      ¬ (className = markerClass ∧ method = setFinishedInstrumenting)
  | _ => True

/-- The rules of one who sees the facts of a process and remembers what was asked of it. -/
def recording : Rules (Facts × List Event) := seeing.recalling fun _ _ => True

/-- A class was loaded again, once, in a process that is hooked, and none in any other. -/
def Hooked (s : Facts × List Event) : Prop :=
  s.2.countP reloads = if s.1.instrumented then 1 else 0

/-- The marker is loaded and does not know of a hook; classes were loaded again so many times. -/
structure Reloaded (times : Nat) (s : Facts × List Event) : Prop where
  marked : s.1.marked = true
  unnoted : s.1.instrumented = false
  count : s.2.countP reloads = times

/-! ## Idle questions -/

theorem SimulatedHost.callStatic_instrumented (h : SimulatedHost) {className : String}
    {method : Host.Method} (idle : ¬ (className = markerClass ∧ method = setFinishedInstrumenting))
    (args : List Host.Value) :
    (h.callStatic className method args).2.instrumented = h.instrumented := by
  by_cases marker : className = markerClass
  · subst marker
    have other : method ≠ setFinishedInstrumenting := fun same => idle ⟨rfl, same⟩
    have handled : ¬ markerClass = handlerClass := by decide
    simp only [callStatic, other, handled, and_false, false_and, if_false]
    unfold checkHash
    repeat' split
    all_goals rfl
  · obtain ⟨token, called⟩ := h.callStatic_other_cases marker method args
    rw [called]

theorem seeing_idle {f f' : Facts} {q : Question} {answer : q.Answer} (idle : Idle q)
    (answers : seeing.answers f q answer f') :
    f'.instrumented = f.instrumented ∧ (f.marked = true → f'.marked = true) := by
  by_cases unmoved : Unmoved q
  · rw [seeing_unmoved unmoved answers]
    exact ⟨rfl, id⟩
  cases q with
  | host call =>
      cases call with
      | addCapabilities wanted =>
          rcases seeing_addCapabilities answers with rfl | ⟨-, rfl⟩ <;> exact ⟨rfl, id⟩
      | setLoadHook hook =>
          obtain ⟨-, rfl⟩ := seeing_setLoadHook answers
          exact ⟨rfl, id⟩
      | setLoadNotification enabled =>
          obtain ⟨-, rfl⟩ := seeing_setLoadNotification answers
          exact ⟨rfl, id⟩
      | appendToBootstrapSearch path =>
          rcases seeing_appendToBootstrapSearch answers with ⟨-, rfl⟩ | ⟨-, rfl⟩
          · exact ⟨rfl, id⟩
          · exact ⟨rfl, fun _ => rfl⟩
      | callStatic className method args =>
          obtain ⟨door, s, rfl, -, rfl⟩ := answers
          refine ⟨s.host.enter.callStatic_instrumented idle args, fun marked => ?_⟩
          have marker : className = markerClass := Classical.not_not.1 unmoved
          subst marker
          obtain ⟨resident, instrumented, called⟩ :=
            s.host.enter.callStatic_marker_cases method args
          show (s.host.enter.callStatic markerClass method args).2.facts.marked = true
          rw [called]
          exact marked
      | _ => first | exact absurd trivial unmoved | exact idle.elim
  | _ => exact absurd trivial unmoved

/-- What an idle question leaves. -/
structure Still (s s' : Facts × List Event) : Prop where
  instrumented : s'.1.instrumented = s.1.instrumented
  marked : s.1.marked = true → s'.1.marked = true
  count : s'.2.countP reloads = s.2.countP reloads

section Recording

variable {α : Type} {s s' s'' : Facts × List Event} {times : Nat}

theorem Still.refl (s : Facts × List Event) : Still s s := ⟨rfl, id, rfl⟩

theorem Still.trans (first : Still s s') (second : Still s' s'') : Still s s'' where
  instrumented := second.instrumented.trans first.instrumented
  marked marked := second.marked (first.marked marked)
  count := second.count.trans first.count

theorem Still.hooked (still : Still s s') (hooked : Hooked s) : Hooked s' := by
  rw [Hooked, still.count, still.instrumented]
  exact hooked

theorem Still.reloaded (still : Still s s') (reloaded : Reloaded times s) : Reloaded times s' where
  marked := still.marked reloaded.marked
  unnoted := still.instrumented.trans reloaded.unnoted
  count := still.count.trans reloaded.count

/-- A process that is not hooked, and of whose classes none was loaded again. -/
theorem Reloaded.hooked (reloaded : Reloaded 0 s) : Hooked s := by
  simp [Hooked, reloaded.count, reloaded.unnoted]

theorem Idle.unreloaded {q : Question} {answer : q.Answer} (idle : Idle q) :
    reloads ⟨q, answer⟩ = false := by
  cases q with
  | host call => cases call <;> first | rfl | exact idle.elim
  | _ => rfl

theorem Idle.still {q : Question} {answer : q.Answer} (idle : Idle q)
    (comes : recording.answers s q answer s') : Still s s' := by
  obtain ⟨answers, grows⟩ := comes
  obtain ⟨instrumented, marked⟩ := seeing_idle idle answers
  refine ⟨instrumented, marked, ?_⟩
  rw [grows, List.countP_append, List.countP_singleton, idle.unreloaded]
  rfl

/-- An idle question, and what comes behind it. -/
theorem idle_andThen {q : Question} {next : q.Answer → Procedure α}
    {post : α → Facts × List Event → Prop} (idle : Idle q)
    (later : ∀ answer s', Still s s' → (next answer).Obeys recording post s') :
    (ask q next).Obeys recording post s :=
  ⟨trivial, fun answer s' comes => later answer s' (idle.still comes)⟩

/-- What leaves all facts as they are is idle. -/
theorem Unmoved.idle {q : Question} (unmoved : Unmoved q) : Idle q := by
  cases q with
  | host call =>
      cases call with
      | callStatic className method args => exact fun marker => unmoved marker.1
      | _ => first | exact trivial | exact unmoved
  | _ => trivial

theorem Early.idle {q : Question} (early : Early q) : Idle q := by
  cases q with
  | host call => cases call <;> trivial
  | _ => trivial

/-! ## The parts of a session -/

/-- A class that answers is loaded. -/
theorem seeing_callStatic_ok {f f' : Facts} {method : Host.Method} {args : List Host.Value}
    {value : Host.Value}
    (answers : seeing.answers f (.host (.callStatic markerClass method args)) (.ok value) f') :
    f.marked = true := by
  obtain ⟨door, s, rfl, called, -⟩ := answers
  have called : (s.host.enter.callStatic markerClass method args).1 = .ok value := called
  cases marked : s.host.isLoaded markerClass with
  | true => exact marked
  | false =>
      have absent : s.host.enter.isLoaded markerClass = false := marked
      simp [SimulatedHost.callStatic, absent] at called

/-- A marker that says yes is there. -/
theorem checkBuild_hooked (build : Fingerprint) (hooked : Hooked s) :
    (checkBuild build).Obeys recording
      (fun r s => Hooked s ∧ ∀ marker, r = .ok marker → s.1.marked = true) s := by
  have idle : Idle (.host (.callStatic markerClass checkHash [.str build.hex])) := by
    simp [Idle, checkHash, setFinishedInstrumenting]
  refine ⟨trivial, fun answer s' comes => ?_⟩
  have still := idle.still comes
  have hooked := still.hooked hooked
  rcases answer with cause | reply
  · exact ⟨hooked, by rintro _ ⟨⟩⟩
  have marked := still.marked (seeing_callStatic_ok comes.1)
  rcases reply with _ | (_ | _) | _ | _ | _ <;> exact ⟨hooked, fun _ _ => marked⟩

theorem checkInstrumented_hooked (marker : VerifiedMarker) (hooked : Hooked s)
    (marked : s.1.marked = true) :
    (checkInstrumented marker).Obeys recording
      (fun r s => Hooked s ∧ (r = .ok false → Reloaded 0 s)) s := by
  refine ⟨trivial, fun answer s' comes => ?_⟩
  obtain ⟨answers, grows⟩ := comes
  obtain ⟨rfl, same⟩ := seeing_isFinishedInstrumenting marked answers
  have idle : Idle (.host (.callStatic markerClass isFinishedInstrumenting [])) := by
    simp [Idle, isFinishedInstrumenting, setFinishedInstrumenting]
  have still : Still s s' := idle.still ⟨answers, grows⟩
  refine ⟨still.hooked hooked, fun told => still.reloaded ?_⟩
  have unnoted : s.1.instrumented = false := by
    cases flag : s.1.instrumented with
    | false => rfl
    | true => simp [flag] at told
  exact ⟨marked, unnoted, by simpa [Hooked, unnoted] using hooked⟩

/-- A class is loaded again where that is granted. -/
theorem Reloaded.retransform {name : String} {answer : Except Host.Error Unit}
    (reloaded : Reloaded 0 s)
    (comes : recording.answers s (.host (.retransformClass name)) answer s') :
    Reloaded (if reloads ⟨.host (.retransformClass name), answer⟩ then 1 else 0) s' := by
  obtain ⟨answers, grows⟩ := comes
  have count : s'.2.countP reloads =
      if reloads ⟨.host (.retransformClass name), answer⟩ then 1 else 0 := by
    rw [grows, List.countP_append, reloaded.count, List.countP_singleton, Nat.zero_add]
  rcases seeing_retransformClass answers with ⟨-, same⟩ | ⟨-, same⟩
  · exact ⟨same ▸ reloaded.marked, same ▸ reloaded.unnoted, count⟩
  · exact ⟨same ▸ reloaded.marked, same ▸ reloaded.unnoted, count⟩

/-- The target is loaded again if the host says so, and else nothing happens. -/
theorem retransformHooked_reloaded (target : String) (reloaded : Reloaded 0 s) :
    (retransformHooked target).Obeys recording
      (fun r s =>
        match r with
        | .ok (.ok ()) => Reloaded 1 s
        | _ => Reloaded 0 s) s := by
  refine idle_andThen trivial fun found s' still => ?_
  have reloaded := still.reloaded reloaded
  cases found with
  | false => exact reloaded
  | true =>
  refine idle_andThen trivial fun opened s' still => ?_
  have reloaded := still.reloaded reloaded
  rcases opened with cause | _
  · exact reloaded
  refine ⟨trivial, fun answer s' comes => idle_andThen trivial fun _ s'' still => ?_⟩
  have again := still.reloaded (reloaded.retransform comes)
  rcases answer with cause | ⟨⟩ <;> exact again

/-- Either nothing was loaded again, or the marker is told that it was. -/
theorem instrument_hooked (plan : Plan) (marker : VerifiedMarker) (reloaded : Reloaded 0 s) :
    (instrument plan marker).Obeys recording (fun _ s => Hooked s) s := by
  refine idle_andThen trivial fun registry s' still => ?_
  have reloaded := still.reloaded reloaded
  refine idle_andThen trivial fun installed s' still => ?_
  have reloaded := still.reloaded reloaded
  rcases installed with cause | _
  · exact reloaded.hooked
  refine (retransformHooked_reloaded plan.target reloaded).andThen fun outcome s' ends => ?_
  refine idle_andThen trivial fun _ s' still => idle_andThen trivial fun _ s'' still' => ?_
  have still := still.trans still'
  rcases outcome with e | cause | ⟨⟩
  · exact (still.reloaded ends).hooked
  · exact (still.reloaded ends).hooked
  have ready := still.reloaded ends
  refine ⟨trivial, fun answer s' comes => ?_⟩
  obtain ⟨answers, grows⟩ := comes
  obtain ⟨rfl, noted⟩ := seeing_setFinishedInstrumenting ready.marked answers
  have hooked : Hooked s' := by
    rw [Hooked, noted, grows, List.countP_append, ready.count]
    rfl
  exact hooked

end Recording

/-! ## A whole session -/

section Whole

variable {σ : Type} {rules : Rules σ} {inv verified ready : σ → Prop} {s : σ} {agent : Agent}
  {progress : Progress} {link : LinkId} {request : Request}

/-- An invariant of a session that no idle question breaks.  It is broken at most while the
process is hooked, where it was `ready` for that, as the marker said; and the marker speaks for
a process where it was `verified`. -/
structure KeepsHook (rules : Rules σ) (inv verified ready : σ → Prop) : Prop where
  free : ∀ s q, rules.allows s q
  idle : ∀ q s answer s', Idle q → inv s → rules.answers s q answer s' → inv s'
  checks : ∀ build s, inv s →
    (checkBuild build).Obeys rules (fun r s => inv s ∧ ∀ marker, r = .ok marker → verified s) s
  asks : ∀ marker s, inv s → verified s →
    (checkInstrumented marker).Obeys rules (fun r s => inv s ∧ (r = .ok false → ready s)) s
  hooks : ∀ plan marker s, ready s → (instrument plan marker).Obeys rules (fun _ s => inv s) s

namespace KeepsHook

theorem obeys (keeps : KeepsHook rules inv verified ready) {α : Type} {p : Procedure α}
    (asks : p.Asks Idle) (holds : inv s) : p.Obeys rules (fun _ s => inv s) s :=
  Obeys.of_asks asks (fun q s _ _ => keeps.free s q) keeps.idle holds

/-- An idle question, and what comes behind it. -/
theorem andThen (keeps : KeepsHook rules inv verified ready) {α : Type} {q : Question}
    {next : q.Answer → Procedure α} {post : α → σ → Prop} (idle : Idle q) (holds : inv s)
    (later : ∀ answer s, inv s → (next answer).Obeys rules post s) :
    (ask q next).Obeys rules post s :=
  ⟨keeps.free s q, fun answer s' comes => later answer s' (keeps.idle _ _ _ _ idle holds comes)⟩

theorem bindAndPart (keeps : KeepsHook rules inv verified ready) (holds : inv s) :
    (bindAndPart request progress).Obeys rules (fun _ s => inv s) s := by
  refine attempt_andThen ((keeps.obeys (bindNatives_unmoved.mono fun _ => Unmoved.idle) holds).mono ?_)
  intro r s holds
  rcases r with cause | _
  · exact holds
  · exact advance_either (fun _ => holds) fun _ => holds

theorem checkAndHook (keeps : KeepsHook rules inv verified ready) (holds : inv s) :
    (checkAndHook agent request progress).Obeys rules (fun _ s => inv s) s := by
  refine advance_either (fun _ => attempt_andThen ?_) fun _ => holds
  refine (keeps.checks _ s holds).mono fun r s checked => ?_
  obtain ⟨holds, verified⟩ := checked
  rcases r with e | marker
  · exact holds
  refine attempt_andThen ((keeps.asks marker s holds (verified marker rfl)).mono fun r s told => ?_)
  obtain ⟨holds, ready⟩ := told
  rcases r with e | _ | _
  · exact holds
  · refine advance_either (fun _ => attempt_andThen ?_) fun _ => holds
    refine (keeps.hooks agent.plan marker s (ready rfl)).mono fun r s holds => ?_
    rcases r with e | _
    · exact holds
    · exact keeps.bindAndPart holds
  · exact advance_either (fun _ => keeps.bindAndPart holds) fun _ => holds

theorem prepare (keeps : KeepsHook rules inv verified ready) (holds : inv s) :
    (prepare agent link progress).Obeys rules (fun _ s => inv s) s := by
  refine advance_either (fun _ => attempt_andThen ?_) fun _ => holds
  refine keeps.andThen trivial holds fun received s holds => ?_
  rcases received with e | frame
  · exact holds
  refine attempt_andThen ?_
  simp only [Procedure.pure_eq, obeys_done]
  cases Request.decode frame with
  | error e => exact holds
  | ok request =>
  refine advance_either (fun _ => attempt_andThen ?_) fun _ => holds
  refine (keeps.obeys (negotiate_early.mono fun _ => Early.idle) holds).mono fun r s holds => ?_
  rcases r with e | granted
  · exact holds
  refine advance_either (fun _ => ?_) fun _ => holds
  cases agent.payloadDir.resolve request.packageName with
  | none => exact holds
  | some dir =>
  refine attempt_andThen ?_
  refine (keeps.obeys ((install_early agent.payload dir).mono fun _ => Early.idle) holds).mono ?_
  intro r s holds
  rcases r with e | installed
  · exact holds
  · exact keeps.checkAndHook holds

theorem swapNow (keeps : KeepsHook rules inv verified ready) (holds : inv s) :
    (swapNow request link progress).Obeys rules (fun _ s => inv s) s := by
  refine advance_either (fun _ => perform_andThen ?_) fun _ => holds
  refine (keeps.obeys ((execute_unmoved request).mono fun _ => Unmoved.idle) holds).mono ?_
  intro response s holds
  refine advance_either (fun _ => attempt_andThen ?_) fun _ => holds
  refine keeps.andThen trivial holds fun arrived s holds => ?_
  rcases arrived with e | _
  · exact holds
  · exact advance_either (fun _ => holds) fun _ => holds

theorem swapLater (keeps : KeepsHook rules inv verified ready) (holds : inv s) :
    (swapLater request link progress).Obeys rules (fun _ s => inv s) s := by
  refine advance_either (fun _ => advance_either (fun _ => attempt_andThen ?_) fun _ => holds)
    fun _ => holds
  refine (keeps.obeys ((transfer_unmoved request link).mono fun _ => Unmoved.idle) holds).mono ?_
  intro r s holds
  rcases r with e | token
  · exact holds
  · exact advance_either (fun _ => holds) fun _ => holds

/-- However a session ends, the invariant holds behind it. -/
theorem attach (keeps : KeepsHook rules inv verified ready) (agent : Agent) (holds : inv s) :
    agent.attach.Obeys rules (fun _ s => inv s) s := by
  refine attach_obeys (attempt_andThen (keeps.andThen trivial holds fun connected s holds => ?_))
  rcases connected with e | link
  · exact holds
  refine stage_andThen (hangingUpOnFailure_obeys ((keeps.prepare holds).mono ?_))
  rintro ⟨e | request, progress⟩ s holds
  · exact keeps.andThen trivial holds fun _ _ holds => holds
  cases later : request.restartActivity with
  | true =>
      simp only [later, if_true]
      refine (keeps.swapLater holds).mono ?_
      rintro ⟨e | completion, progress⟩ s holds <;> exact holds
  | false =>
      simp only [later]
      refine hangingUp_obeys ((keeps.swapNow holds).mono ?_)
      rintro ⟨e | completion, progress⟩ s holds
      all_goals exact keeps.andThen trivial holds fun _ _ holds => holds

end KeepsHook

end Whole

/-! ## A process that refuses nothing -/

section Recording

variable {s : Facts × List Event}

theorem keepsHooked :
    KeepsHook recording Hooked (fun s => s.1.marked = true) (Reloaded 0) where
  free _ _ := trivial
  idle _ _ _ _ idle hooked comes := (idle.still comes).hooked hooked
  checks build _ hooked := checkBuild_hooked build hooked
  asks marker _ hooked marked := checkInstrumented_hooked marker hooked marked
  hooks plan marker _ ready := instrument_hooked plan marker ready

/-- However a session ends, classes were loaded again as often as the marker knows. -/
theorem attach_hooked (agent : Agent) (hooked : Hooked s) :
    agent.attach.Obeys recording (fun _ s => Hooked s) s :=
  keepsHooked.attach agent hooked

/-- No native loads a class again. -/
theorem callNative_hooked (native : Native) (args : List Host.Value) (hooked : Hooked s) :
    (callNative native args).Obeys recording (fun _ s => Hooked s) s :=
  keepsHooked.obeys ((callNative_unmoved native args).mono fun _ => Unmoved.idle) hooked

end Recording

end HotSwap
