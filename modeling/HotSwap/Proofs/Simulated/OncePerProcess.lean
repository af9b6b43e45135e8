/-
# HotSwap.Proofs.Simulated.OncePerProcess -- what is done once in a process

Two things are done to a process once, by whichever session comes to them first: an
archive is brought in and its build claims the process, and a class is loaded again so
that it is hooked.  Neither can be undone, and a session may fail between any two of its
steps; what was done is kept in different places, in different steps.

`Once` says that these places never disagree when no session runs.  While one runs they
do: an archive lies in a process that no build has claimed yet (`Brought`).
`attach_once` takes every way through a session back to `Once`, whatever the host, the
connection and the disk refuse, and `oncePerProcess_of_lived` says what follows for every
process that was started without the marker, after whatever sessions and restarts it lived
through.
-/
import HotSwap.Proofs.Session.Route
import HotSwap.Proofs.Simulated.Facts
import HotSwap.Simulation.Fixture
import Mathlib.Algebra.BigOperators.Finprod
import Mathlib.Logic.Relation

namespace HotSwap

set_option autoImplicit false

open Procedure Session

/-! ## Abilities -/

namespace Capabilities

variable {a b c : Capabilities}

theorem union_assoc (a b c : Capabilities) : (a.union b).union c = a.union (b.union c) := by
  simp [union, Bool.or_assoc]

theorem Covers.refl (a : Capabilities) : a.Covers a := by
  simp [Covers, union]

theorem covers_none (a : Capabilities) : a.Covers none := by
  simp [Covers, union, none]

theorem union_covers (a b : Capabilities) : (a.union b).Covers a := by
  simp [Covers, union, Bool.or_right_comm]

theorem Covers.trans (first : a.Covers b) (second : b.Covers c) : a.Covers c := by
  unfold Covers at *
  rw [← first, union_assoc, second]

theorem Covers.union (first : a.Covers b) (second : a.Covers c) : a.Covers (b.union c) := by
  unfold Covers at *
  rw [← union_assoc, first, second]

end Capabilities

namespace Facts

/-! ## What is true between sessions -/

/-- What a process keeps of the sessions in it is in agreement. -/
structure Once (f : Facts) : Prop where
  /-- The marker is there exactly if a build claimed the process. -/
  marked : f.marked = f.resident.isSome
  /-- And with it one archive, which is called as the build says. -/
  archives :
    match f.resident with
    | none => f.archives = []
    | some hex => ∃ path, f.archives = [path] ∧
        Path.fileName? path = some (Fingerprint.fileStart ++ hex ++ Fingerprint.fileEnd)
  /-- A process that is hooked loaded one class again, once, and any other none. -/
  retransforms : ∃ target, f.retransforms = if f.instrumented then [(target, 1)] else []
  covers : f.potential.Covers f.granted
  hookless : f.hookless = true
  silent : f.notification = false

/-- What a process does not lose any more. -/
structure Since (start now : Facts) : Prop where
  granted : now.granted.Covers start.granted
  resident : start.resident.isSome → now.resident = start.resident

theorem Since.refl (f : Facts) : Since f f := ⟨.refl _, fun _ => rfl⟩

theorem Since.trans {first second third : Facts} (one : Since first second)
    (two : Since second third) : Since first third where
  granted := two.granted.trans one.granted
  resident claimed := by
    have same := one.resident claimed
    rw [two.resident (by rwa [same]), same]

/-! ## The parts of a session -/

/-- Where a session is that has not hooked the process yet. -/
structure Going (start now : Facts) : Prop where
  once : Once now
  since : Since start now
  instrumented : now.instrumented = start.instrumented

/-- An archive of a build lies in the process, and a build has claimed it, or none yet. -/
def Brought (payload : Payload) (start now : Facts) : Prop :=
  Going start now ∧ now.resident.isSome ∨
    ∃ before path, Going start before ∧ before.resident = none ∧
      Path.fileName? path = some payload.fileName ∧
      now = { before with archives := [path], marked := true }

section Parts

variable {start f : Facts}

theorem negotiate_once (going : Going start f) :
    negotiate.Obeys seeing (fun _ now => Going start now) f := by
  refine unmoved_andThen trivial fun potential => ?_
  cases missing : Capabilities.required.missingFrom potential with
  | cons name names => simpa [missing] using going
  | nil =>
      simp only [done_bind, missing]
      refine ⟨trivial, fun answer now answers => ?_⟩
      have granted : Going start now := by
        rcases seeing_addCapabilities answers with rfl | ⟨covers, rfl⟩
        · exact going
        · obtain ⟨once, since, instrumented⟩ := going
          exact ⟨{ once with covers := once.covers.union covers },
            ⟨(Capabilities.union_covers _ _).trans since.granted, since.resident⟩, instrumented⟩
      rcases answer with cause | _ <;> exact granted

theorem install_once (payload : Payload) (dir : String) (going : Going start f) :
    (install payload dir).Obeys seeing
      (fun r now =>
        match r with
        | .ok _ => Brought payload start now
        | .error _ => Going start now) f := by
  refine ⟨trivial, fun stored now answers => ?_⟩
  obtain rfl := seeing_unmoved (q := .deposit dir payload) trivial answers
  rcases stored with cause | path
  · exact going
  have named : Path.fileName? path = some payload.fileName := by
    rw [seeing_deposit answers, fileName?_target]
  refine ⟨trivial, fun found now' answers => ?_⟩
  obtain ⟨rfl, rfl⟩ := seeing_findClass answers
  cases resident : now'.resident with
  | some hex =>
      have claimed : now'.resident.isSome = true := by rw [resident]; rfl
      rw [going.once.marked, claimed]
      exact .inl ⟨going, claimed⟩
  | none =>
      have empty : now'.archives = [] := by
        have archives := going.once.archives
        rwa [resident] at archives
      rw [going.once.marked, resident]
      refine ⟨trivial, fun injected now answers => ?_⟩
      rcases seeing_appendToBootstrapSearch answers with ⟨⟨cause, rfl⟩, rfl⟩ | ⟨rfl, rfl⟩
      · exact going
      refine ⟨trivial, fun found now answers => ?_⟩
      obtain ⟨rfl, rfl⟩ := seeing_findClass answers
      exact .inr ⟨now', path, going, resident, named, by simp [empty]⟩

/-- The build claims the process in which its archive lies. -/
theorem checkBuild_once {payload : Payload} (brought : Brought payload start f) :
    (checkBuild payload.fingerprint).Obeys seeing
      (fun _ now => Going start now ∧ now.resident.isSome) f := by
  refine ⟨trivial, fun answer now answers => ?_⟩
  have claimed : Going start now ∧ now.resident.isSome := by
    rcases brought with ⟨going, claimed⟩ | ⟨before, path, going, vacant, named, rfl⟩
    · have marked : f.marked = true := by rw [going.once.marked, claimed]
      rcases seeing_checkHash marked answers with ⟨-, rfl⟩ | ⟨vacant, -, -⟩
      · exact ⟨going, claimed⟩
      · simp [vacant] at claimed
    · rcases seeing_checkHash rfl answers with ⟨claimed, -⟩ | ⟨-, -, rfl⟩
      · simp [vacant] at claimed
      · obtain ⟨once, since, instrumented⟩ := going
        have kept : Since start { before with
            archives := [path], marked := true, resident := some payload.fingerprint.hex } := by
          refine ⟨since.granted, fun claimed => ?_⟩
          rw [← since.resident claimed, vacant] at claimed
          cases claimed
        exact ⟨⟨{ once with marked := rfl, archives := ⟨path, rfl, named⟩ }, kept, instrumented⟩,
          rfl⟩
  rcases answer with cause | reply
  · exact claimed
  · rcases reply with _ | (_ | _) | _ | _ | _ <;> exact claimed

/-- The marker says whether the process is hooked. -/
theorem checkInstrumented_once (marker : VerifiedMarker) (marked : f.marked = true) :
    (checkInstrumented marker).Obeys seeing
      (fun r now => now = f ∧ r = .ok f.instrumented) f := by
  refine ⟨trivial, fun answer now answers => ?_⟩
  obtain ⟨rfl, rfl⟩ := seeing_isFinishedInstrumenting marked answers
  exact ⟨rfl, rfl⟩

/-- The target was loaded again, once, or nothing happened. -/
theorem retransformHooked_once (target : String) (silent : f.notification = false)
    (none : f.retransforms = []) :
    (retransformHooked target).Obeys seeing
      (fun r now => r ≠ .ok (.ok ()) ∧ now = f ∨
        r = .ok (.ok ()) ∧ now = { f with retransforms := [(target, 1)] }) f := by
  -- The fields are named, so that a switch turned on and off again is seen to be as before.
  obtain ⟨potential, granted, marked, archives, resident, instrumented, retransforms, hookless,
    notification⟩ := f
  dsimp only at silent none
  subst silent none
  refine unmoved_andThen trivial fun found => ?_
  cases found with
  | false => exact .inl ⟨by simp, rfl⟩
  | true =>
  refine ⟨trivial, fun opened now answers => ?_⟩
  obtain ⟨rfl, rfl⟩ := seeing_setLoadNotification answers
  refine ⟨trivial, fun again now answers => ?_⟩
  rcases seeing_retransformClass answers with ⟨⟨cause, rfl⟩, rfl⟩ | ⟨rfl, rfl⟩
  · refine ⟨trivial, fun closed now answers => ?_⟩
    obtain ⟨-, rfl⟩ := seeing_setLoadNotification answers
    exact .inl ⟨by simp, rfl⟩
  · refine ⟨trivial, fun closed now answers => ?_⟩
    obtain ⟨-, rfl⟩ := seeing_setLoadNotification answers
    exact .inr ⟨rfl, rfl⟩

theorem markInstrumented_once (marker : VerifiedMarker) (marked : f.marked = true) :
    marker.markInstrumented.Obeys seeing
      (fun _ now => now = { f with instrumented := true }) f := by
  refine ⟨trivial, fun answer now answers => ?_⟩
  obtain ⟨rfl, rfl⟩ := seeing_setFinishedInstrumenting marked answers
  rfl

/-- The process is hooked, or stays as it was. -/
theorem instrument_once (plan : Plan) (marker : VerifiedMarker) (once : Once f)
    (marked : f.marked = true) (fresh : f.instrumented = false) :
    (instrument plan marker).Obeys seeing (fun _ now => Once now ∧ Since f now) f := by
  have none : f.retransforms = [] := by
    obtain ⟨target, retransforms⟩ := once.retransforms
    simpa [fresh] using retransforms
  refine unmoved_andThen trivial fun registry => ⟨trivial, fun installed now answers => ?_⟩
  obtain ⟨rfl, rfl⟩ := seeing_setLoadHook answers
  have loaded := retransformHooked_once
    (f := { f with hookless := false }) plan.target once.silent none
  refine loaded.andThen fun outcome now ends => ?_
  refine unmoved_andThen trivial fun _ => ⟨trivial, fun removed now' answers => ?_⟩
  obtain ⟨-, rfl⟩ := seeing_setLoadHook answers
  have restored : { f with hookless := true } = f := by rw [← once.hookless]
  rcases ends with ⟨failed, rfl⟩ | ⟨rfl, rfl⟩
  · have kept : Once { f with hookless := true } ∧ Since f { f with hookless := true } := by
      rw [restored]
      exact ⟨once, .refl f⟩
    rcases outcome with e | cause | _
    · exact kept
    · exact kept
    · exact absurd rfl failed
  · have hooked : Once { f with
        retransforms := [(plan.target, 1)], hookless := true, instrumented := true } :=
      { once with retransforms := ⟨plan.target, rfl⟩, hookless := rfl }
    have noted := markInstrumented_once
      (f := { f with retransforms := [(plan.target, 1)], hookless := true }) marker marked
    refine noted.andThen fun r now same => ?_
    subst same
    rcases r with cause | _ <;> exact ⟨hooked, ⟨.refl _, fun _ => rfl⟩⟩

end Parts

/-! ## A whole session -/

section Whole

variable {α : Type} {start f : Facts} {link : LinkId}

/-- What is true where a part of a session ends, in whichever way. -/
def Left (start : Facts) (r : Except AttachError α × Progress) (now : Facts) : Prop :=
  Once now ∧ Since start now ∧ Along start.instrumented r.2.history

/-- A session that was made ready stands where its ways part. -/
def Readied (start : Facts) (r : Except AttachError Request × Progress) (now : Facts) : Prop :=
  Left start r now ∧
    ∀ request, r.1 = .ok request → r.2 = ⟨.dispatch, stem start.instrumented⟩

theorem readied_error {e : AttachError} {progress : Progress} (once : Once f)
    (since : Since start f) (along : Along start.instrumented progress.history) :
    Readied start (.error e, progress) f :=
  ⟨⟨once, since, along⟩, by rintro _ ⟨⟩⟩

theorem Going.stopped {e : AttachError} {progress : Progress} (going : Going start f)
    (along : Along start.instrumented progress.history) : Readied start (.error e, progress) f :=
  readied_error going.once going.since along

/-- The natives are bound and the session comes to its parting of ways. -/
theorem bindAndPart_once {request : Request} {progress : Progress}
    (stage : .dispatch ∈ progress.phase.next) (once : Once f) (since : Since start f)
    (whole : progress.history ++ [.dispatch] = stem start.instrumented) :
    (bindAndPart request progress).Obeys seeing (Readied start) f := by
  have stemmed : Along start.instrumented (stem start.instrumented) :=
    ⟨true, List.prefix_append ..⟩
  refine attempt_andThen ((unmoved_obeys bindNatives_unmoved).mono fun r now same => ?_)
  subst same
  rcases r with cause | _
  · have before : progress.history <+: stem start.instrumented := whole ▸ List.prefix_append ..
    exact readied_error once since ⟨true, before.trans (List.prefix_append ..)⟩
  refine advance_andThen stage ?_
  rw [whole]
  exact ⟨⟨once, since, stemmed⟩, fun _ _ => rfl⟩

/-- From the check of the build on, in a process that has an archive. -/
theorem checkAndHook_once {agent : Agent} {request : Request} {progress : Progress}
    (fresh : progress = ⟨.bootstrapCheck,
      [.connecting, .awaitingRequest, .capabilityAcquisition, .bootstrapCheck]⟩)
    (brought : Brought agent.payload start f) :
    (checkAndHook agent request progress).Obeys seeing (Readied start) f := by
  subst fresh
  refine advance_andThen (by decide) (attempt_andThen ?_)
  refine (checkBuild_once brought).mono fun r now claimed => ?_
  obtain ⟨going, claimed⟩ := claimed
  rcases r with e | marker
  · exact going.stopped ⟨true, by simp [route, stem]⟩
  have marked : now.marked = true := by rw [going.once.marked, claimed]
  refine attempt_andThen ((checkInstrumented_once marker marked).mono fun r now' told => ?_)
  obtain ⟨rfl, rfl⟩ := told
  cases hooked : now'.instrumented with
  | true =>
      have before : start.instrumented = true := going.instrumented ▸ hooked
      simp only [if_true]
      refine advance_andThen (by decide) ?_
      exact bindAndPart_once (by decide) going.once going.since (by simp [before, stem])
  | false =>
      have before : start.instrumented = false := going.instrumented ▸ hooked
      simp only [Bool.false_eq_true, if_false]
      refine advance_andThen (by decide) (attempt_andThen ?_)
      refine (instrument_once agent.plan marker going.once marked hooked).mono fun r now ends => ?_
      obtain ⟨once, since⟩ := ends
      have since := going.since.trans since
      rcases r with e | _
      · exact readied_error once since ⟨true, by simp [before, route, stem]⟩
      · exact bindAndPart_once (by decide) once since (by simp [before, stem])

theorem prepare_once (agent : Agent) (link : LinkId) (once : Once f) :
    (prepare agent link .start).Obeys seeing (Readied f) f := by
  have going : Going f f := ⟨once, .refl f, rfl⟩
  refine advance_andThen (by decide) (attempt_andThen (unmoved_andThen trivial fun received => ?_))
  rcases received with e | frame
  · exact going.stopped ⟨true, by simp [Progress.start, route, stem]⟩
  refine attempt_andThen ?_
  cases decoded : Request.decode frame with
  | error e => exact going.stopped ⟨true, by simp [Progress.start, route, stem]⟩
  | ok request =>
      simp only [Procedure.pure_eq, obeys_done]
      refine advance_andThen (by decide) (attempt_andThen ?_)
      refine (negotiate_once going).mono fun r now going => ?_
      rcases r with e | granted
      · exact going.stopped ⟨true, by simp [Progress.start, route, stem]⟩
      refine advance_andThen (by decide) ?_
      cases agent.payloadDir.resolve request.packageName with
      | none => exact going.stopped ⟨true, by simp [Progress.start, route, stem]⟩
      | some dir =>
          refine attempt_andThen ?_
          refine (install_once agent.payload dir going).mono fun r now stored => ?_
          rcases r with e | installed
          · exact Going.stopped stored ⟨true, by simp [Progress.start, route, stem]⟩
          · exact checkAndHook_once rfl stored

theorem swapNow_once (request : Request) (once : Once f) (since : Since start f) :
    (swapNow request link ⟨.dispatch, stem start.instrumented⟩).Obeys seeing (Left start) f := by
  have left {r : Except AttachError Completion} {progress : Progress}
      (along : progress.history <+: route start.instrumented false) :
      Left start (r, progress) f := ⟨once, since, false, along⟩
  refine advance_andThen (by simp [Phase.next]) (perform_andThen ?_)
  refine (unmoved_obeys (execute_unmoved request)).mono fun response now same => ?_
  subst same
  refine advance_andThen (by simp [Phase.next]) (attempt_andThen ?_)
  refine unmoved_andThen trivial fun sent => ?_
  rcases sent with e | _
  · exact left (by simp [route])
  · exact advance_andThen (by simp [Phase.next]) (left (by simp [route]))

theorem swapLater_once (request : Request) (once : Once f) (since : Since start f) :
    (swapLater request link ⟨.dispatch, stem start.instrumented⟩).Obeys seeing (Left start) f := by
  have left {r : Except AttachError Completion} {progress : Progress}
      (along : progress.history <+: route start.instrumented true) :
      Left start (r, progress) f := ⟨once, since, true, along⟩
  refine advance_andThen (by simp [Phase.next]) ?_
  refine advance_andThen (by simp [Phase.next]) (attempt_andThen ?_)
  refine (unmoved_obeys (transfer_unmoved request link)).mono fun r now same => ?_
  subst same
  rcases r with e | token
  · exact left (by simp [route])
  · exact advance_andThen (by simp [Phase.next]) (left (by simp [route]))

/-- However a session ends, what the process keeps is in agreement, nothing of it was lost, and
the session went along the route of the process that it found. -/
theorem attach_once (agent : Agent) (once : Once f) :
    agent.attach.Obeys seeing
      (fun report now => Once now ∧ Since f now ∧ Routed f.instrumented report.history) f := by
  refine attach_obeys (attempt_andThen (unmoved_andThen trivial fun connected => ?_))
  rcases connected with e | link
  · exact ⟨once, .refl f, Along.failed ⟨true, by simp [Progress.start, route, stem]⟩⟩
  refine stage_andThen (hangingUpOnFailure_obeys ?_)
  refine (prepare_once agent link once).mono fun r now readied => ?_
  obtain ⟨⟨once, since, along⟩, stands⟩ := readied
  rcases r with ⟨e | request, progress⟩
  · exact unmoved_andThen trivial fun _ => ⟨once, since, along.failed⟩
  obtain rfl : progress = _ := stands request rfl
  cases later : request.restartActivity with
  | true =>
      simp only [later, if_true]
      refine (swapLater_once request once since).mono fun r now left => ?_
      obtain ⟨once, since, along⟩ := left
      rcases r with ⟨e | completion, progress⟩
      · exact ⟨once, since, along.failed⟩
      · exact ⟨once, since, progress.history, along, .inl rfl⟩
  | false =>
      simp only [later]
      refine hangingUp_obeys ((swapNow_once request once since).mono fun r now left => ?_)
      obtain ⟨once, since, along⟩ := left
      refine unmoved_andThen trivial fun _ => ?_
      rcases r with ⟨e | completion, progress⟩
      · exact ⟨once, since, along.failed⟩
      · exact ⟨once, since, progress.history, along, .inl rfl⟩

end Whole

end Facts

/-! ## The life of a process -/

namespace SimulatedHost

/-- A session comes and goes, or the activity restarts, each in whatever world. -/
inductive Step : SimulatedHost → SimulatedHost → Prop where
  | attach {h : SimulatedHost} (agent : Agent) (door : Connector) (world : World) :
      Step h (Scene.perform ⟨h, world⟩ door agent.attach).2.host
  | restart {h : SimulatedHost} (world : World) :
      Step h (Scene.signalRestart ⟨h, world⟩).2.host

/-- A process that was started without the marker, after any sessions and restarts. -/
def Lived (h : SimulatedHost) : Prop :=
  ∃ fresh, Started fresh ∧ fresh.isLoaded markerClass = false ∧ Relation.ReflTransGen Step fresh h

variable {h h' : SimulatedHost}

theorem Started.once (started : Started h) (unmarked : h.isLoaded markerClass = false) :
    h.facts.Once := by
  have blank := started.blank
  have resident : h.facts.resident = none := blank.residentFingerprint
  exact
    { marked := by rw [show h.facts.marked = false from unmarked, resident]; rfl
      archives := by rw [resident]; exact blank.archives
      retransforms := ⟨hookTarget, by simp [facts, blank.retransforms, blank.instrumented]⟩
      covers := by simpa [facts, blank.granted] using Capabilities.covers_none _
      hookless := by simp [facts, blank.hook]
      silent := blank.notification }

theorem Step.once (step : Step h h') (once : h.facts.Once) :
    h'.facts.Once ∧ h.facts.Since h'.facts := by
  cases step with
  | attach agent door world =>
      have attached := perform_seeing (s := ⟨h, world⟩) door (Facts.attach_once agent once)
      exact ⟨attached.1, attached.2.1⟩
  | restart world =>
      have same : (Scene.signalRestart ⟨h, world⟩).2.host.facts = h.facts := signalRestart_facts
      rw [same]
      exact ⟨once, .refl _⟩

theorem once_of_steps (steps : Relation.ReflTransGen Step h h') (once : h.facts.Once) :
    h'.facts.Once ∧ h.facts.Since h'.facts := by
  induction steps with
  | refl => exact ⟨once, .refl _⟩
  | tail _ step ih =>
      obtain ⟨once, since⟩ := ih
      obtain ⟨once, further⟩ := step.once once
      exact ⟨once, since.trans further⟩

theorem Lived.once (lived : Lived h) : h.facts.Once := by
  obtain ⟨fresh, started, unmarked, steps⟩ := lived
  exact (once_of_steps steps (started.once unmarked)).1

/-- One class was loaded again, once, in a process that is hooked, and none in any other. -/
theorem finsum_retransformCount (once : h.facts.Once) :
    ∑ᶠ name, h.retransformCount name = if h.instrumented then 1 else 0 := by
  obtain ⟨target, retransforms⟩ := once.retransforms
  have retransforms : h.retransforms = if h.instrumented then [(target, 1)] else [] := retransforms
  have others (name : String) (other : name ≠ target) : h.retransformCount name = 0 := by
    have passes : (name == target) = false := by simpa using other
    rw [retransformCount, retransforms]
    cases h.instrumented <;> simp [List.lookup_cons, passes]
  rw [finsum_eq_single _ target others, retransformCount, retransforms]
  cases h.instrumented <;> simp

/-- What is promised of a process between its sessions. -/
structure OncePerProcess (h : SimulatedHost) : Prop where
  /-- The build that claimed the process keeps it. -/
  resident : ∀ h', Relation.ReflTransGen Step h h' → ∀ hex, h.residentFingerprint = some hex →
    h'.residentFingerprint = some hex
  /-- No archive was brought in, or the one of this build. -/
  archives : h.residentFingerprint = none ∧ h.archives = [] ∨
    ∃ hex path, h.residentFingerprint = some hex ∧ h.archives = [path] ∧
      Path.fileName? path = some ("instruments-" ++ hex ++ ".jar")
  /-- Classes were loaded again once in all if the process is hooked, and else never.  The counts
  are a list, so only finitely many are not zero. -/
  retransforms : ∑ᶠ name, h.retransformCount name = if h.instrumented then 1 else 0
  /-- Nothing is left on that taxes the process. -/
  quiet : h.notification = false ∧ h.hook = none
  /-- Only what could be granted was granted, and it is not taken back. -/
  granted : h.potential.Covers h.granted ∧
    ∀ h', Relation.ReflTransGen Step h h' → h'.granted.Covers h.granted
  /-- A session that comes past the check of the build hooks the process unless it is. -/
  branch : ∀ (agent : Agent) (door : Connector) (world : World) (report : SessionReport),
    (Scene.perform ⟨h, world⟩ door agent.attach).1 = report → report.PastVersionCheck →
      report.visited .instrumentOnce = !h.instrumented ∧
        report.visited .alreadyInstrumented = h.instrumented

/-- Whatever sessions and restarts a process has lived through, what is done once in it was
done once at most, and every trace of it agrees. -/
theorem oncePerProcess_of_lived (lived : Lived h) : OncePerProcess h where
  resident h' steps hex claimed := by
    have since := (once_of_steps steps lived.once).2
    have same : h'.residentFingerprint = h.residentFingerprint :=
      since.resident (by simp [facts, claimed])
    rw [same, claimed]
  archives := by
    have archives := lived.once.archives
    cases claimed : h.residentFingerprint with
    | none =>
        simp only [facts, claimed] at archives
        exact .inl ⟨rfl, archives⟩
    | some hex =>
        simp only [facts, claimed] at archives
        obtain ⟨path, one, named⟩ := archives
        exact .inr ⟨hex, path, rfl, one, named⟩
  retransforms := finsum_retransformCount lived.once
  quiet := ⟨lived.once.silent, Option.isNone_iff_eq_none.1 lived.once.hookless⟩
  granted := ⟨lived.once.covers, fun h' steps => (once_of_steps steps lived.once).2.granted⟩
  branch agent door world report reported past := by
    subst reported
    have attached := perform_seeing (s := ⟨h, world⟩) door (Facts.attach_once agent lived.once)
    exact attached.2.2.branch past

/-! ## A process that was hooked -/

/-- A controller that wants a swap at once. -/
def sampleWorld : World where
  links := #[.frames { toAgent := [(Simulation.Fixture.request false).encode] }]

/-- The first session in a process, and what it leaves. -/
def sampleRun : SessionReport × Scene SimulatedHost :=
  Scene.perform ⟨Simulation.Fixture.host 7, sampleWorld⟩ (.ready 0) Simulation.Fixture.agent.attach

theorem sampleRun_oncePerProcess :
    sampleRun.1.PastVersionCheck ∧ sampleRun.1.visited .instrumentOnce ∧
      sampleRun.2.host.instrumented ∧ sampleRun.2.host.archives.length = 1 ∧
      OncePerProcess sampleRun.2.host := by
  have started : (Simulation.Fixture.host 7).Started := (Started.fresh 7).withClass _ _
  have attached : Step (Simulation.Fixture.host 7) sampleRun.2.host := by
    rw [sampleRun]
    exact .attach Simulation.Fixture.agent (.ready 0) sampleWorld
  have lived : Lived sampleRun.2.host := ⟨_, started, by decide +kernel, .single attached⟩
  have hooked : [.versionCheck, .instrumentOnce] <:+: sampleRun.1.history ∧
      sampleRun.1.visited .instrumentOnce ∧ sampleRun.2.host.instrumented ∧
      sampleRun.2.host.archives.length = 1 := by
    decide +kernel
  exact ⟨⟨.instrumentOnce, by decide, hooked.1⟩, hooked.2.1, hooked.2.2.1, hooked.2.2.2,
    oncePerProcess_of_lived lived⟩

end SimulatedHost

end HotSwap
