/-
# HotSwap.Proofs.Session.Preparation -- what a session touches before it swaps

Up to the parting of its ways a session reads, stores the payload, calls its host and
opens and empties a registry.  It writes nothing on any connection and does not touch
the table of parked swaps; of its host it asks for no static method but the marker's
and binds no natives but the agent's.  So a theorem about connections, tokens or the
handler may take the whole first half of a session as one step that changes nothing it is
about: `prepare_ready` says that what each `Preparatory` question keeps is kept, and that
where the half succeeds the session goes on with the request that it read and the agent's
natives were bound last.
-/
import HotSwap.Proofs.Session.Questions
import HotSwap.Proofs.Session.Stage

namespace HotSwap.Session

set_option autoImplicit false

open Procedure

/-- What may be asked before the swap. -/
def Preparatory : Question → Prop
  | .host (.callStatic className _ _) => className = markerClass
  | .host (.registerNatives bindings) => bindings = nativeBindings
  | .host (.redefineClasses _) => False
  | .host _ | .receive _ | .deposit .. | .openRegistry .. | .emptyRegistry _ => True
  | .connect | .send .. | .hangUp _ | .park _ | .take _ | .takeSuperseded .. => False

/-- What is asked before anything is known of the marker. -/
def Early : Question → Prop
  | .host .potentialCapabilities | .host (.addCapabilities _) | .host (.findClass _)
  | .host (.appendToBootstrapSearch _) | .deposit .. => True
  | _ => False

theorem Early.preparatory {q : Question} (early : Early q) : Preparatory q := by
  cases q with
  | host call => cases call <;> trivial
  | _ => trivial

/-! ## The parts -/

theorem negotiate_early : negotiate.Asks Early :=
  negotiate_questions.mono (by simp [Early])

theorem install_early (payload : Payload) (dir : String) : (install payload dir).Asks Early :=
  (install_questions payload dir).mono fun _ asked => by cases asked <;> trivial

theorem negotiate_asks : negotiate.Asks Preparatory :=
  negotiate_early.mono fun _ => Early.preparatory

theorem install_asks (payload : Payload) (dir : String) :
    (install payload dir).Asks Preparatory :=
  (install_early payload dir).mono fun _ => Early.preparatory

theorem checkBuild_asks (build : Fingerprint) : (checkBuild build).Asks Preparatory :=
  (checkBuild_questions build).mono (by rintro _ rfl; rfl)

theorem checkInstrumented_asks (marker : VerifiedMarker) :
    (checkInstrumented marker).Asks Preparatory :=
  (checkInstrumented_questions marker).mono (by rintro _ rfl; rfl)

theorem instrument_asks (plan : Plan) (marker : VerifiedMarker) :
    (instrument plan marker).Asks Preparatory :=
  (instrument_questions plan marker).mono fun _ asked => by
    cases asked <;> trivial

/-! ## The whole -/

section Whole

variable {α β ε σ : Type} {rules : Rules σ} {inv bound : σ → Prop} {progress : Progress} {s : σ}

/-- A part of a session that only asks questions of a kind, and what comes behind it: an invariant
that each of them keeps is kept on both ways out. -/
theorem attempt_kept {wrap : ε → AttachError} {p : Procedure (Except ε α)} {f : α → Stage β}
    {kind : Question → Prop} {post : Except AttachError β × Progress → σ → Prop} (asks : p.Asks kind)
    (allowed : ∀ q s, kind q → inv s → rules.allows s q)
    (kept : ∀ q s answer s', kind q → inv s → rules.answers s q answer s' → inv s')
    (holds : inv s) (failed : ∀ e s, inv s → post (.error (wrap e), progress) s)
    (later : ∀ a s, inv s → (f a progress).Obeys rules post s) :
    ((attempt wrap p >>= f) progress).Obeys rules post s := by
  refine attempt_andThen ((Obeys.of_asks asks allowed kept holds).mono fun r s holds => ?_)
  rcases r with e | a
  · exact failed _ s holds
  · exact later a s holds

/-- What is known when a session read one frame or none, and where it goes on with a request,
what the binding of the natives brings. -/
def EndsReady (inv : Option ByteArray → σ → Prop) (bound : σ → Prop)
    (r : Except AttachError Request × Progress) (s : σ) : Prop :=
  match r.1 with
  | .error _ => ∃ read, inv read s
  | .ok request => ∃ frame, Request.decode frame = .ok request ∧ inv (some frame) s ∧ bound s

theorem bindAndPart_kept {inv : Option ByteArray → σ → Prop} {frame : ByteArray}
    {request : Request} (decoded : Request.decode frame = .ok request)
    (allowed : ∀ q s, Preparatory q → inv (some frame) s → rules.allows s q)
    (kept : ∀ q s answer s', Preparatory q → inv (some frame) s →
      rules.answers s q answer s' → inv (some frame) s')
    (binds : ∀ s s', inv (some frame) s →
      rules.answers s (.host (.registerNatives nativeBindings)) (.ok ()) s' → bound s')
    (holds : inv (some frame) s) :
    (bindAndPart request progress).Obeys rules (EndsReady inv bound) s := by
  have own : Preparatory (.host (.registerNatives nativeBindings)) := rfl
  refine attempt_andThen ⟨allowed _ _ own holds, fun answer s' comes => ?_⟩
  have still := kept _ _ _ _ own holds comes
  rcases answer with cause | _
  · exact ⟨_, still⟩
  · exact advance_either (fun _ => ⟨frame, decoded, still, binds s s' holds comes⟩)
      fun _ => ⟨_, still⟩

/-- The first half of a session keeps what each of its questions keeps.  Where it succeeds it
goes on with the request that it read, and the natives were bound last. -/
theorem prepare_ready (agent : Agent) (link : LinkId) {inv : Option ByteArray → σ → Prop}
    (allowed : ∀ read q s, Preparatory q → inv read s → rules.allows s q)
    (kept : ∀ read q s answer s', Preparatory q → inv read s →
      rules.answers s q answer s' → inv read s')
    (reads : ∀ frame s', rules.answers s (.receive link) (.ok frame) s' → inv (some frame) s')
    (binds : ∀ frame s s', inv (some frame) s →
      rules.answers s (.host (.registerNatives nativeBindings)) (.ok ()) s' → bound s')
    (holds : inv none s) :
    (prepare agent link progress).Obeys rules (EndsReady inv bound) s := by
  refine advance_either (fun _ => ?_) fun _ => ⟨_, holds⟩
  refine attempt_andThen ⟨allowed _ _ _ trivial holds, fun received s' comes => ?_⟩
  rcases received with e | frame
  · exact ⟨none, kept none (.receive link) _ _ _ trivial holds comes⟩
  have holds := reads frame s' comes
  have allowed := allowed (some frame)
  have kept := kept (some frame)
  have failed {e : AttachError} {progress : Progress} {s : σ} (holds : inv (some frame) s) :
      EndsReady inv bound (.error e, progress) s := ⟨_, holds⟩
  cases decoded : Request.decode frame with
  | error e => exact attempt_andThen (by simpa [decoded] using failed holds)
  | ok request =>
  refine attempt_andThen ?_
  simp only [Procedure.pure_eq, obeys_done, decoded]
  refine advance_either (fun _ => ?_) fun _ => failed holds
  refine attempt_kept negotiate_asks allowed kept holds (fun _ _ => failed) fun _ s holds => ?_
  refine advance_either (fun _ => ?_) fun _ => failed holds
  cases agent.payloadDir.resolve request.packageName with
  | none => exact failed holds
  | some dir =>
  refine attempt_kept (install_asks _ dir) allowed kept holds (fun _ _ => failed) ?_
  intro _ s holds
  refine advance_either (fun _ => ?_) fun _ => failed holds
  refine attempt_kept (checkBuild_asks _) allowed kept holds (fun _ _ => failed) ?_
  intro marker s holds
  refine attempt_kept (checkInstrumented_asks marker) allowed kept holds (fun _ _ => failed) ?_
  intro hooked s holds
  have parts {s : σ} {progress : Progress} (holds : inv (some frame) s) :
      (bindAndPart request progress).Obeys rules (EndsReady inv bound) s :=
    bindAndPart_kept decoded allowed kept (binds frame) holds
  cases hooked with
  | true => exact advance_either (fun _ => parts holds) fun _ => failed holds
  | false =>
      refine advance_either (fun _ => ?_) fun _ => failed holds
      exact attempt_kept (instrument_asks agent.plan marker) allowed kept holds (fun _ _ => failed)
        fun _ s holds => parts holds

/-- An invariant, and what the binding of the natives brings where it succeeds. -/
def EndsBound (inv bound : σ → Prop) (r : Except AttachError Request × Progress) (s : σ) : Prop :=
  inv s ∧ ∀ request, r.1 = .ok request → bound s

/-- The same where it does not matter what was read. -/
theorem prepare_obeys (agent : Agent) (link : LinkId)
    (allowed : ∀ q s, Preparatory q → inv s → rules.allows s q)
    (kept : ∀ q s answer s', Preparatory q → inv s → rules.answers s q answer s' → inv s')
    (binds : ∀ s s', inv s →
      rules.answers s (.host (.registerNatives nativeBindings)) (.ok ()) s' → bound s')
    (holds : inv s) : (prepare agent link progress).Obeys rules (EndsBound inv bound) s := by
  have ready : (prepare agent link progress).Obeys rules (EndsReady (fun _ => inv) bound) s :=
    prepare_ready agent link (fun _ => allowed) (fun _ => kept)
      (fun _ _ comes => kept (.receive link) _ _ _ trivial holds comes) (fun _ => binds) holds
  refine ready.mono ?_
  rintro ⟨e | request, progress⟩ s ends
  · obtain ⟨-, holds⟩ := ends
    exact ⟨holds, nofun⟩
  · obtain ⟨-, -, holds, bound⟩ := ends
    exact ⟨holds, fun _ _ => bound⟩

end Whole

end HotSwap.Session
