/-
# HotSwap.Proofs.Session.Report -- what the report on a session says

The phases a session notes and the ways in which its parts fail are written apart from
each other.  `Lawful` says how they fit: the history of a report starts at `connecting`,
makes only moves that the phases allow, and ends in the phase of the report, the only end
in it; that phase goes with the outcome; no move is ever refused; and the phase in which a
session failed could raise the error that it failed with (`Phase.raises`).

A session that has not ended is `Running`.  Each move to a phase that is no end keeps it so
(`Running.advance`), and each part of a session that fails does so where it is running and
with an error of its phase (`Fails`).  `attach_lawful` puts the parts together.
-/
import HotSwap.Host.Scripted
import HotSwap.Proofs.Course
import HotSwap.Proofs.Session.Preparation
import HotSwap.Simulation.Fixture
import Mathlib.Data.List.Chain

namespace HotSwap

set_option autoImplicit false

/-! ## The law -/

/-- The errors with which a session may fail in a phase. -/
def Phase.raises : Phase → AttachError → Bool
  | .connecting, .transport _ => true
  | .awaitingRequest, .transport _ => true
  | .awaitingRequest, .decode _ => true
  | .capabilityAcquisition, .capability _ => true
  | .bootstrapCheck, .install _ => true
  | .versionCheck, .version _ => true
  | .versionCheck, .instrumentation (.marker _) => true
  | .alreadyInstrumented, .handoff (.registerNatives _) => true
  | .instrumentOnce, .instrumentation _ => true
  | .instrumentOnce, .handoff (.registerNatives _) => true
  | .respond, .transport _ => true
  | .respondPending, .transport _ => true
  | .respondPending, .handoff (.transfer _) => true
  | _, _ => false

/-- A history of allowed moves from the first phase to a given one. -/
structure Phase.Path (phase : Phase) (history : List Phase) : Prop where
  begins : history.head? = some .connecting
  moves : history.IsChain fun source target => target ∈ source.next
  ends : history.getLast? = some phase

/-- The history, the phase and the outcome of a report fit. -/
structure SessionReport.Lawful (report : SessionReport) : Prop where
  path : report.phase.Path report.history
  /-- The session ended once, in the phase of the report. -/
  terminal : report.history.filter Phase.isTerminal = [report.phase]
  legal : ∀ move, report.outcome ≠ .error (.illegalMove move)
  done : report.phase = .done ↔ ∃ response, report.outcome = .ok (.immediate response)
  deferred : report.phase = .doneDeferred ↔ ∃ token, report.outcome = .ok (.deferred token)
  failed : report.phase = .failed ↔ ∃ e, report.outcome = .error e
  /-- There is a completion or an error, and not both. -/
  settled : report.isSuccess = !report.error?.isSome
  /-- The phase in which the session failed raises the error. -/
  caused : ∀ e, report.outcome = .error e →
    ∃ earlier last, report.history = earlier ++ [last, .failed] ∧ last.raises e = true

theorem Phase.Path.move {phase target : Phase} {history : List Phase}
    (path : phase.Path history) (allowed : target ∈ phase.next) :
    target.Path (history ++ [target]) where
  begins := by rw [List.head?_append, path.begins]; rfl
  moves := by
    refine List.isChain_append.2 ⟨path.moves, List.isChain_singleton _, ?_⟩
    intro source last first only
    rw [path.ends] at last
    cases last
    cases only
    exact allowed
  ends := List.getLast?_concat ..

/-- No phase refuses a move. -/
theorem Phase.raises_illegalMove (phase : Phase) (move : Phase.IllegalMove) :
    phase.raises (.illegalMove move) = false := by
  cases phase <;> rfl

/-- A token is refused in one phase. -/
theorem Phase.eq_respondPending_of_raises {phase : Phase} {cause : Host.Error}
    (raises : phase.raises (.handoff (.transfer cause)) = true) : phase = .respondPending := by
  cases phase <;> first | rfl | cases raises

/-- What may fail has not ended, and may come to the failure. -/
theorem Phase.failed_mem_next {phase : Phase} (running : phase.isTerminal = false) :
    .failed ∈ phase.next := by
  cases phase <;> first | decide | cases running

namespace Session

open Procedure

variable {α β ε σ : Type} {rules : Rules σ} {progress : Progress} {s : σ}

/-! ## Sessions that have not ended -/

/-- A session came to its phase by allowed moves and has not ended. -/
structure Running (progress : Progress) : Prop where
  path : progress.phase.Path progress.history
  alive : ∀ phase ∈ progress.history, phase.isTerminal = false

namespace Running

theorem start : Running Progress.start where
  path := ⟨rfl, List.isChain_singleton _, rfl⟩
  alive := by decide

theorem here (running : Running progress) : progress.phase.isTerminal = false :=
  running.alive _ (List.mem_of_getLast? running.path.ends)

theorem advance (running : Running progress) {target : Phase}
    (allowed : target ∈ progress.phase.next) (lasts : target.isTerminal = false) :
    Running ⟨target, progress.history ++ [target]⟩ where
  path := running.path.move allowed
  alive := List.forall_mem_append.2 ⟨running.alive, by simpa using lasts⟩

end Running

/-! ## Parts of a session that fail -/

/-- A session that fails has not ended, and its phase raises the error. -/
structure Fails (e : AttachError) (progress : Progress) : Prop where
  running : Running progress
  raises : progress.phase.raises e = true

/-- A session is where its ways part, or failed before it wrote anything. -/
def Halfway : Except AttachError Request × Progress → σ → Prop
  | (.ok _, progress), _ => Running progress ∧ progress.phase = .dispatch
  | (.error e, progress), _ => Fails e progress ∧ progress.phase ≠ .respondPending

/-- A session came to an end that goes with its completion, or failed. -/
def Ends : Except AttachError Completion × Progress → σ → Prop
  | (.ok completion, progress), _ =>
      progress.phase.Path progress.history ∧
        progress.history.filter Phase.isTerminal = [progress.phase] ∧
          progress.phase = match completion with
            | .immediate _ => .done
            | .deferred _ => .doneDeferred
  | (.error e, progress), _ => Fails e progress

/-- A move to a phase that is no end, and what comes behind it there. -/
theorem Running.advance_andThen (running : Running progress) {target : Phase} {f : Unit → Stage β}
    {post : Except AttachError β × Progress → σ → Prop}
    (allowed : target ∈ progress.phase.next) (lasts : target.isTerminal = false)
    (later : ∀ history, Running ⟨target, history⟩ →
      (f () ⟨target, history⟩).Obeys rules post s) :
    ((Session.advance target >>= f) progress).Obeys rules post s :=
  Session.advance_andThen allowed (later _ (running.advance allowed lasts))

/-- A move to an end. -/
theorem Running.advance_done (running : Running progress) {target : Phase}
    {completion : Completion} (allowed : target ∈ progress.phase.next)
    (ends : target.isTerminal = true)
    (goes : target = match completion with
      | .immediate _ => .done
      | .deferred _ => .doneDeferred) :
    ((Session.advance target >>= fun _ => pure completion) progress).Obeys rules Ends s := by
  refine Session.advance_andThen allowed ⟨running.path.move allowed, ?_, goes⟩
  have none : progress.history.filter Phase.isTerminal = [] :=
    List.filter_eq_nil_iff.2 fun phase member => by simp [running.alive phase member]
  simp [none, ends]

/-! ## The first half -/

section Preparing

variable (allowed : ∀ q s, Preparatory q → rules.allows s q)
include allowed

/-- A procedure about which only its questions and the errors of the session are known, and what
comes behind it. -/
theorem attempt_asks {wrap : ε → AttachError} {p : Procedure (Except ε α)} {f : α → Stage β}
    {post : Except AttachError β × Progress → σ → Prop} (asks : p.Asks Preparatory)
    (failed : ∀ e s, post (.error (wrap e), progress) s)
    (later : ∀ a s, (f a progress).Obeys rules post s) :
    ((attempt wrap p >>= f) progress).Obeys rules post s := by
  have obeys : p.Obeys rules (fun _ _ => True) s :=
    Obeys.of_asks asks (fun q s kind _ => allowed q s kind) (fun _ _ _ _ _ _ _ => trivial) trivial
  refine attempt_andThen (obeys.mono fun r s _ => ?_)
  cases r with
  | error e => exact failed e s
  | ok a => exact later a s

theorem bindAndPart_halfway {request : Request} (running : Running progress)
    (moves : .dispatch ∈ progress.phase.next)
    (raises : ∀ cause, progress.phase.raises (.handoff (.registerNatives cause)) = true)
    (early : progress.phase ≠ .respondPending) :
    (bindAndPart request progress).Obeys rules Halfway s := by
  refine attempt_andThen ⟨allowed _ _ rfl, fun answer s' _ => ?_⟩
  rcases answer with cause | _
  · exact ⟨⟨running, raises cause⟩, early⟩
  · exact running.advance_andThen moves rfl fun _ running => ⟨running, rfl⟩

theorem checkInstrumented_raises (marker : VerifiedMarker) :
    (checkInstrumented marker).Obeys rules
      (fun r _ => ∀ e, r = .error e → ∃ cause, e = .marker cause) s := by
  refine ⟨allowed _ _ rfl, fun answer s' _ => ?_⟩
  rcases answer with cause | reply
  · rintro _ ⟨⟩
    exact ⟨cause, rfl⟩
  · rcases reply with _ | truth | _ | _ | _ <;> rintro _ ⟨⟩
    all_goals exact ⟨_, rfl⟩

theorem checkAndHook_halfway (agent : Agent) {request : Request} (running : Running progress)
    (moves : .versionCheck ∈ progress.phase.next) :
    (checkAndHook agent request progress).Obeys rules Halfway s := by
  refine running.advance_andThen moves rfl fun _ running => ?_
  refine attempt_asks allowed (checkBuild_asks _) (fun _ _ => ⟨⟨running, rfl⟩, nofun⟩) ?_
  intro marker s
  refine attempt_andThen ((checkInstrumented_raises allowed marker).mono fun r s raises => ?_)
  rcases r with e | hooked
  · obtain ⟨cause, rfl⟩ := raises e rfl
    exact ⟨⟨running, rfl⟩, nofun⟩
  cases hooked with
  | true =>
      exact running.advance_andThen (by simp [Phase.next]) rfl fun _ running =>
        bindAndPart_halfway allowed running (by simp [Phase.next]) (fun _ => rfl) nofun
  | false =>
      refine running.advance_andThen (by simp [Phase.next]) rfl fun _ running => ?_
      exact attempt_asks allowed (instrument_asks _ marker) (fun _ _ => ⟨⟨running, rfl⟩, nofun⟩)
        fun _ _ =>
          bindAndPart_halfway allowed running (by simp [Phase.next]) (fun _ => rfl) nofun

theorem prepare_halfway (agent : Agent) (link : LinkId) :
    (prepare agent link Progress.start).Obeys rules Halfway s := by
  refine Running.start.advance_andThen (by decide) rfl fun _ running => ?_
  refine attempt_asks allowed ⟨trivial, fun _ => trivial⟩ (fun _ _ => ⟨⟨running, rfl⟩, nofun⟩)
    fun frame s => ?_
  refine attempt_asks allowed (show Asks _ (.done _) from trivial)
    (fun _ _ => ⟨⟨running, rfl⟩, nofun⟩) fun request s => ?_
  refine running.advance_andThen (by simp [Phase.next]) rfl fun _ running => ?_
  refine attempt_asks allowed negotiate_asks (fun _ _ => ⟨⟨running, rfl⟩, nofun⟩) fun _ s => ?_
  refine running.advance_andThen (by simp [Phase.next]) rfl fun _ running => ?_
  cases agent.payloadDir.resolve request.packageName with
  | none => exact ⟨⟨running, rfl⟩, nofun⟩
  | some dir =>
      exact attempt_asks allowed (install_asks _ dir) (fun _ _ => ⟨⟨running, rfl⟩, nofun⟩)
        fun _ s => checkAndHook_halfway allowed agent running (by simp [Phase.next])

end Preparing

/-! ## The second half -/

section Parts

variable (free : ∀ s q, rules.allows s q)
include free

theorem swapNow_ends (request : Request) (link : LinkId) (running : Running progress)
    (moves : .immediateSwap ∈ progress.phase.next) :
    (swapNow request link progress).Obeys rules Ends s := by
  refine running.advance_andThen moves rfl fun _ running => ?_
  refine perform_andThen (obeys_of_free free (fun response s => ?_) _ _)
  refine running.advance_andThen (by simp [Phase.next]) rfl fun _ running => ?_
  refine attempt_andThen ⟨free _ _, fun sent s _ => ?_⟩
  rcases sent with cause | _
  · exact ⟨running, rfl⟩
  · exact running.advance_done (by simp [Phase.next]) rfl rfl

/-- The parking of a swap fails where the interim answer cannot be sent, or where the handler
refuses the token. -/
theorem transfer_raises (request : Request) (link : LinkId) :
    (transfer request link).Obeys rules
      (fun r _ => ∀ e, r = .error e → Phase.respondPending.raises e = true) s := by
  refine ⟨free _ _, fun pid s _ => ⟨free _ _, fun sent s _ => ?_⟩⟩
  rcases sent with cause | _
  · refine ⟨free _ _, fun _ _ _ => ?_⟩
    rintro _ ⟨⟩
    rfl
  refine ⟨free _ _, fun token s _ => ⟨free _ _, fun handed s _ => ?_⟩⟩
  rcases handed with cause | _
  · have back : (takeBack token cause).Obeys rules (fun _ _ => True) s :=
      obeys_of_free free (fun _ _ => trivial) _ _
    refine back.andThen fun _ _ _ => ?_
    rintro _ ⟨⟩
    rfl
  · refine ⟨free _ _, fun swaps s _ => ?_⟩
    have answered : (abandonAll swaps).Obeys rules (fun _ _ => True) s :=
      obeys_of_free free (fun _ _ => trivial) _ _
    refine answered.andThen fun _ _ _ => ?_
    rintro _ ⟨⟩

theorem swapLater_ends (request : Request) (link : LinkId) (running : Running progress)
    (moves : .deferredHandoff ∈ progress.phase.next) :
    (swapLater request link progress).Obeys rules Ends s := by
  refine running.advance_andThen moves rfl fun _ running => ?_
  refine running.advance_andThen (by simp [Phase.next]) rfl fun _ running => ?_
  refine attempt_andThen ((transfer_raises free request link).mono fun r s raises => ?_)
  rcases r with e | token
  · exact ⟨running, raises e rfl⟩
  · exact running.advance_done (by simp [Phase.next]) rfl rfl

theorem session_ends (agent : Agent) : (session agent Progress.start).Obeys rules Ends s := by
  refine attempt_andThen ⟨free _ _, fun opened s _ => ?_⟩
  rcases opened with cause | link
  · exact ⟨.start, rfl⟩
  refine stage_andThen (hangingUpOnFailure_obeys
    ((prepare_halfway (fun q s _ => free s q) agent link).mono ?_))
  rintro ⟨e | request, progress⟩ s prepared
  · exact ⟨free _ _, fun _ _ _ => prepared.1⟩
  obtain ⟨running, parts⟩ := prepared
  cases later : request.restartActivity with
  | true =>
      simp only [later, if_true]
      exact swapLater_ends free request link running (by simp [parts, Phase.next])
  | false =>
      simp only [later]
      refine hangingUp_obeys ((swapNow_ends free request link running
        (by simp [parts, Phase.next])).mono fun r s ends => ?_)
      cases r with
      | mk r progress => cases r <;> exact ⟨free _ _, fun _ _ _ => ends⟩

end Parts

/-! ## The whole -/

theorem Fails.lawful {e : AttachError} (fails : Fails e progress) :
    SessionReport.Lawful ⟨progress.fail.phase, progress.fail.history, .error e⟩ := by
  have here := fails.running.here
  have failed : progress.fail = ⟨.failed, progress.history ++ [.failed]⟩ := by
    simp [Progress.fail, here]
  have none : progress.history.filter Phase.isTerminal = [] :=
    List.filter_eq_nil_iff.2 fun phase member => by simp [fails.running.alive phase member]
  obtain ⟨earlier, before⟩ := List.getLast?_eq_some_iff.1 fails.running.path.ends
  rw [failed]
  refine
    { path := fails.running.path.move (Phase.failed_mem_next here)
      terminal := by simp [none, Phase.isTerminal]
      legal := ?_
      done := by simp
      deferred := by simp
      failed := by simp
      settled := rfl
      caused := ?_ }
  · rintro move ⟨⟩
    exact absurd fails.raises (by simp [Phase.raises_illegalMove])
  · rintro _ ⟨⟩
    exact ⟨earlier, progress.phase, by simp [before], fails.raises⟩

/-- A completion that goes with its phase is reported as the law says. -/
theorem Ends.lawful {completion : Completion} (ends : Ends (.ok completion, progress) s) :
    SessionReport.Lawful ⟨progress.phase, progress.history, .ok completion⟩ := by
  obtain ⟨path, terminal, goes⟩ := ends
  refine
    { path, terminal
      legal := nofun
      done := ?_
      deferred := ?_
      failed := ?_
      settled := rfl
      caused := nofun }
  all_goals cases completion <;> simp [goes]

/-- Whatever the host, the connection and the file system answer, the report on a session is
lawful. -/
theorem attach_lawful {agent : Agent} {log : List Event} {report : SessionReport}
    (course : Course agent.attach log (done report)) : report.Lawful := by
  have obeys : agent.attach.Obeys (Rules.past fun _ _ => True)
      (fun report _ => report.Lawful) [] := by
    refine attach_obeys ((session_ends (fun _ _ => trivial) agent).mono ?_)
    rintro ⟨e | completion, progress⟩ s ends
    · exact Fails.lawful ends
    · exact Ends.lawful ends
  exact obeys.ends course (Rules.past_plays [] log)

/-! ## A session whose token is refused -/

/-- A host whose handler refuses the token of a swap, and a controller that wants the swap to
wait. -/
def refusingScene : Scene ScriptedHost where
  host :=
    { replies :=
        [("call_static",
          [.value (.bool true), .value (.bool true), .refusal ⟨.exception, "busy"⟩])] }
  world := { links := #[.frames { toAgent := [(⟨"app", true, []⟩ : Request).encode] }] }

/-- The report on the session. -/
def refusedReport : SessionReport :=
  (Procedure.run (Scene.answer (.ready 0)) Simulation.Fixture.agent.attach refusingScene).1

theorem refusedReport_lawful :
    refusedReport.outcome = .error (.handoff (.transfer ⟨.exception, "busy"⟩)) ∧
      refusedReport.Lawful :=
  ⟨by decide +kernel, attach_lawful (course_events _ _ _)⟩

end Session
end HotSwap
