/-
# HotSwap.Proofs.Simulated.Willing -- sessions that a process has nothing against

What each part of a session brings, and what it leaves of the process and the world, where
the process has what the part needs.  Where `Simulated.Facts` says what may happen in any
process, this says what does happen in a willing one, so that a session can be followed
from its beginning to its end.
-/
import HotSwap.Proofs.Files.Storing
import HotSwap.Proofs.Session.Stage
import HotSwap.Proofs.Simulated.Answers
import HotSwap.Proofs.Simulated.Share

namespace HotSwap

set_option autoImplicit false

open Procedure Session

variable {door : Connector} {s : Scene SimulatedHost}

/-- What is asked with a known answer, and what comes behind it. -/
theorem playing_step {α : Type} {q : Question} {next : q.Answer → Procedure α}
    {post : α → Scene SimulatedHost → Prop} {a : q.Answer} {t : Scene SimulatedHost}
    (answers : Scene.answer door q s = (a, t))
    (later : (next a).Obeys (playing door) post t) :
    (ask q next).Obeys (playing door) post s := by
  rw [playing_ask, answers]
  exact later

/-- A call with a known outcome, and what comes behind it. -/
theorem host_step {α : Type} {call : HostCall} {next : call.Answer → Procedure α}
    {post : α → Scene SimulatedHost → Prop} {answer : call.Answer} {h : SimulatedHost} {w : World}
    (answers : Host.Model.answer call s.host s.world = (answer, h, w))
    (later : (next answer).Obeys (playing door) post ⟨h, w⟩) :
    (ask (.host call) next).Obeys (playing door) post s :=
  playing_step (by simp only [Scene.answer, answers]) later

/-- A class is looked for whose presence is known. -/
theorem findClass_step {α : Type} {name : String} {found : Bool} {next : Bool → Procedure α}
    {post : α → Scene SimulatedHost → Prop} (loaded : s.host.isLoaded name = found)
    (later : (next found).Obeys (playing door) post ⟨s.host.enter, s.world⟩) :
    (ask (.host (.findClass name)) next).Obeys (playing door) post s :=
  playing_step (by rw [Scene.answer_findClass, loaded]) later

/-! ## Before the swap -/

/-- A process that can do everything grants everything. -/
theorem negotiate_granted (able : s.host.potential = .all) :
    negotiate.Obeys (playing door) (fun r s' => r = .ok .required ∧
      ∃ calls, s' = ⟨{ s.host with granted := .all, calls := calls }, s.world⟩) s := by
  have granted : s.host.enter.enter.addCapabilities .required =
      (.ok (), { s.host.enter.enter with granted := .all }) := by
    have none : Capabilities.required.missingFrom s.host.enter.enter.potential = [] := by
      rw [show s.host.enter.enter.potential = .all from able]
      rfl
    rw [SimulatedHost.addCapabilities, none]
    simp [Capabilities.union, Capabilities.required, Capabilities.all]
  refine playing_step (Scene.answer_potentialCapabilities door s) ?_
  rw [able]
  refine playing_step (Scene.answer_addCapabilities door _ _) ?_
  rw [granted]
  exact ⟨rfl, _, rfl⟩

section Install

variable {payload : Payload} {dir path : String} {t : FileTree}

/-- A payload that is in the process is not brought in again. -/
theorem install_resident (marked : s.host.isLoaded markerClass = true)
    (stored : Depot.deposit s.world.files dir payload = (.ok path, t)) :
    (install payload dir).Obeys (playing door) (fun r s' => r = .ok ⟨path, false⟩ ∧
      ∃ calls, s' = ⟨{ s.host with calls := calls }, { s.world with files := t }⟩) s := by
  refine playing_step (Scene.answer_deposit door s dir payload) ?_
  rw [stored]
  refine findClass_step marked ?_
  exact ⟨rfl, _, rfl⟩

/-- A payload that is a file is brought in, and with it the marker and the handler. -/
theorem install_injected (unmarked : s.host.isLoaded markerClass = false)
    (stored : Depot.deposit s.world.files dir payload = (.ok path, t)) (file : t.isFile path = true) :
    (install payload dir).Obeys (playing door) (fun r s' => r = .ok ⟨path, true⟩ ∧
      ∃ calls classes, (∀ other, (classes.lookup other).isSome =
          (s.host.isLoaded other || other == markerClass || other == handlerClass)) ∧
        s' = ⟨{ s.host with archives := s.host.archives ++ [path], classes := classes, calls := calls },
          { s.world with files := t }⟩) s := by
  refine playing_step (Scene.answer_deposit door s dir payload) ?_
  rw [stored]
  refine findClass_step unmarked ?_
  rcases s.host.enter.enter.appendArchive_cases { s.world with files := t } path with
    ⟨e, refused⟩ | ⟨classes, loaded, appended⟩
  · simp [SimulatedHost.appendArchive, file] at refused
  refine playing_step (by rw [Scene.answer_appendToBootstrapSearch, appended]) ?_
  have marked : (classes.lookup markerClass).isSome = true := by rw [loaded]; simp
  refine findClass_step (by exact marked) ?_
  exact ⟨rfl, _, classes, loaded, rfl⟩

/-- A payload that is no file in the end is not brought in, whatever is said of it. -/
theorem install_lacking (unmarked : s.host.isLoaded markerClass = false)
    (lacks : ¬ Depot.Stores s.world.files dir payload) :
    (install payload dir).Obeys (playing door) (fun r s' => (∃ e, r = .error e) ∧
      ∃ calls, s' = ⟨{ s.host with calls := calls },
        { s.world with files := (Depot.deposit s.world.files dir payload).2 }⟩) s := by
  refine playing_step (Scene.answer_deposit door s dir payload) ?_
  rw [Depot.Stores] at lacks
  generalize Depot.deposit s.world.files dir payload = stored at lacks ⊢
  obtain ⟨e | path, t⟩ := stored
  · exact ⟨⟨_, rfl⟩, s.host.calls, rfl⟩
  refine findClass_step unmarked ?_
  refine playing_step (Scene.answer_appendToBootstrapSearch door _ _) ?_
  have absent : t.isFile path = false := by
    cases file : t.isFile path with
    | false => rfl
    | true => exact absurd ⟨path, rfl, file⟩ lacks
  simp only [SimulatedHost.appendArchive, absent, Bool.not_false, if_true]
  exact ⟨⟨_, rfl⟩, _, rfl⟩

end Install

section Marker

variable {build : Fingerprint} (marker : VerifiedMarker)

/-- The first build to ask claims the process. -/
theorem checkBuild_claims (marked : s.host.isLoaded markerClass = true)
    (free : s.host.residentFingerprint = none) :
    (checkBuild build).Obeys (playing door) (fun r s' => r = .ok ⟨build⟩ ∧
      ∃ calls, s' =
        ⟨{ s.host with residentFingerprint := some build.hex, calls := calls }, s.world⟩) s := by
  have told := SimulatedHost.callStatic_checkHash_free (h := s.host.enter) build.hex marked free
  refine playing_step (by rw [Scene.answer_callStatic, told]) ?_
  exact ⟨rfl, _, rfl⟩

/-- A build that has claimed the process is told so. -/
theorem checkBuild_own (marked : s.host.isLoaded markerClass = true)
    (own : s.host.residentFingerprint = some build.hex) :
    (checkBuild build).Obeys (playing door) (fun r s' => r = .ok ⟨build⟩ ∧
      ∃ calls, s' = ⟨{ s.host with calls := calls }, s.world⟩) s := by
  have told := SimulatedHost.callStatic_checkHash (h := s.host.enter) build.hex marked own
  rw [beq_self_eq_true] at told
  refine playing_step (by rw [Scene.answer_callStatic, told]) ?_
  exact ⟨rfl, _, rfl⟩

/-- The marker says whether the process is hooked. -/
theorem checkInstrumented_told (marked : s.host.isLoaded markerClass = true) :
    (checkInstrumented marker).Obeys (playing door) (fun r s' => r = .ok s.host.instrumented ∧
      ∃ calls, s' = ⟨{ s.host with calls := calls }, s.world⟩) s := by
  have told := SimulatedHost.callStatic_isFinishedInstrumenting (h := s.host.enter) marked
  refine playing_step (by rw [Scene.answer_callStatic, told]) ?_
  exact ⟨rfl, _, rfl⟩

/-- The marker notes that the process is hooked. -/
theorem markInstrumented_noted (marked : s.host.isLoaded markerClass = true) :
    marker.markInstrumented.Obeys (playing door) (fun r s' => r = .ok () ∧
      ∃ calls, s' = ⟨{ s.host with instrumented := true, calls := calls }, s.world⟩) s := by
  have noted := SimulatedHost.callStatic_setFinishedInstrumenting (h := s.host.enter) marked
  refine playing_step (by rw [Scene.answer_callStatic, noted]) ?_
  exact ⟨rfl, _, rfl⟩

/-- A class is loaded again that a registry's rule transforms. -/
theorem retransform_registry {h : SimulatedHost} {w : World} {name : String} {id : Nat}
    {transform : Transform} {data : ByteArray}
    (transforms : ∀ data, transform name data ≠ none)
    (able : h.granted.retransformClasses = true) (held : h.classes.lookup name = some data)
    (on : h.notification = true) (hook : h.hook = some (.registry id))
    (there : w.registries[id]? = some (({} : Registry).add name transform)) :
    ∃ transformed registries, h.retransform w name =
        (.ok (), { h with
          retransforms := assign name ((h.retransforms.lookup name).getD 0 + 1) h.retransforms
          hooked := h.hooked || name == hookTarget
          classes := assign name transformed h.classes },
          { w with registries := registries }) := by
  obtain ⟨transformed, transforms⟩ := Option.ne_none_iff_exists'.1 (transforms data)
  refine ⟨transformed, w.registries.setIfInBounds id
    { ({} : Registry).add name transform with uses := 1 }, ?_⟩
  have bytes : h.classBytes name = some data := held
  simp [SimulatedHost.retransform, SimulatedHost.retransformCount, able, bytes, on, hook,
    World.load, there, Registry.load, Registry.add, transforms]

/-- The class is loaded again while its registry is installed, and transformed. -/
theorem retransformHooked_hooks {target : String} {transform : Transform} {id : Nat}
    (transforms : ∀ data, transform target data ≠ none)
    (able : s.host.granted.retransformClasses = true) (loaded : s.host.isLoaded target = true)
    (hook : s.host.hook = some (.registry id))
    (there : s.world.registries[id]? = some (({} : Registry).add target transform)) :
    (retransformHooked target).Obeys (playing door) (fun r s' => r = .ok (.ok ()) ∧
      ∃ calls transformed registries, s' = ⟨{ s.host with
            retransforms :=
              assign target ((s.host.retransforms.lookup target).getD 0 + 1) s.host.retransforms
            hooked := s.host.hooked || target == hookTarget
            classes := assign target transformed s.host.classes
            notification := false, calls := calls },
          { s.world with registries := registries }⟩) s := by
  obtain ⟨data, held⟩ := Option.isSome_iff_exists.1 loaded
  obtain ⟨transformed, registries, again⟩ := retransform_registry
    (h := { s.host with notification := true, calls := s.host.calls + 3 }) (w := s.world)
    transforms able held rfl hook there
  refine findClass_step loaded ?_
  refine host_step (h := { s.host with notification := true, calls := s.host.calls + 2 }) rfl ?_
  refine host_step again ?_
  refine host_step (h := { s.host with
    retransforms :=
      assign target ((s.host.retransforms.lookup target).getD 0 + 1) s.host.retransforms
    hooked := s.host.hooked || target == hookTarget
    classes := assign target transformed s.host.classes
    notification := false, calls := s.host.calls + 4 }) rfl ?_
  exact ⟨rfl, _, transformed, registries, rfl⟩

/-- The target is loaded again under the hook, which transforms it, and the marker notes that. -/
theorem instrument_hooks {plan : Plan} (target : plan.target = hookTarget)
    (transforms : ∀ data, plan.transform plan.target data ≠ none)
    (able : s.host.granted.retransformClasses = true)
    (loaded : s.host.isLoaded plan.target = true) (marked : s.host.isLoaded markerClass = true) :
    (instrument plan marker).Obeys (playing door) (fun r s' => r = .ok () ∧
      ∃ calls transformed registries, s' = ⟨{ s.host with
            retransforms :=
              assign plan.target ((s.host.retransforms.lookup plan.target).getD 0 + 1)
                s.host.retransforms
            hooked := true
            classes := assign plan.target transformed s.host.classes
            hook := none, notification := false, instrumented := true, calls := calls },
          { s.world with registries := registries }⟩) s := by
  have hooks : (s.host.hooked || plan.target == hookTarget) = true := by simp [target]
  have there : (s.world.registries.push (({} : Registry).add plan.target plan.transform))[
      s.world.registries.size]? = some (({} : Registry).add plan.target plan.transform) := by simp
  refine playing_step rfl ?_
  refine host_step rfl ?_
  show ((retransformHooked plan.target).bind _).Obeys _ _ _
  refine Obeys.andThen (retransformHooked_hooks transforms able loaded rfl there) ?_
  rintro _ _ ⟨rfl, calls, transformed, registries, rfl⟩
  refine playing_step rfl ?_
  refine host_step rfl ?_
  show ((marker.markInstrumented).bind _).Obeys _ _ _
  refine Obeys.andThen (markInstrumented_noted marker ?_) ?_
  · exact (isSome_lookup_assign transformed loaded markerClass).trans marked
  rintro _ _ ⟨rfl, calls, rfl⟩
  refine ⟨rfl, calls, transformed, registries.modify s.world.registries.size Registry.clear, ?_⟩
  rw [← hooks]
  rfl

end Marker

/-! ## The swap -/

/-- Where the handler is loaded, the agent's natives are bound. -/
theorem bindNatives_bound (handled : s.host.isLoaded handlerClass = true) :
    bindNatives.Obeys (playing door) (fun r s' => r = .ok () ∧
      ∃ calls natives, natives.lookup (handlerClass, tryRedefineClasses) = some .tryRedefineClasses ∧
        s' = ⟨{ s.host with natives := natives, calls := calls }, s.world⟩) s := by
  rcases s.host.enter.registerNatives_cases with ⟨e, refused⟩ | ⟨natives, updates, bound⟩
  · simp [SimulatedHost.registerNatives, nativeBindings,
      show s.host.enter.isLoaded handlerClass = true from handled] at refused
  · refine playing_step (by rw [Scene.answer_registerNatives, bound]) ?_
    exact ⟨rfl, _, natives, updates.callable, rfl⟩

/-- What a process that may redefine classes answers to a request, and what it is behind it. -/
def SimulatedHost.swap (h : SimulatedHost) (request : Request) : Response × SimulatedHost :=
  match request.changes.findSome? h.fault? with
  | some cause => (.error h.pid (.ofHost cause), h)
  | none =>
      (.ok h.pid, { h with
        classes := SimulatedHost.define request.changes h.classes
        redefinitions := h.redefinitions + 1 })

/-- A swap changes bytes of classes that are loaded, and nothing else but the count. -/
theorem SimulatedHost.swap_frame (h : SimulatedHost) (request : Request) :
    ∃ classes redefinitions, (∀ other, (classes.lookup other).isSome = h.isLoaded other) ∧
      (h.swap request).2 = { h with classes := classes, redefinitions := redefinitions } := by
  unfold SimulatedHost.swap
  cases faulty : request.changes.findSome? h.fault? with
  | some cause => exact ⟨h.classes, h.redefinitions, fun _ => rfl, rfl⟩
  | none =>
      exact ⟨_, _, isSome_lookup_define request.changes h.classes
        (h.loaded_of_faultless faulty), rfl⟩

/-- A swap is tried and answered. -/
theorem execute_swaps {request : Request} (able : s.host.granted.redefineClasses = true) :
    (execute request).Obeys (playing door) (fun response s' =>
      response = (s.host.swap request).1 ∧
      ∃ calls, s' = ⟨{ (s.host.swap request).2 with calls := calls }, s.world⟩) s := by
  refine host_step rfl ?_
  have able : s.host.enter.granted.redefineClasses = true := able
  have fault : s.host.enter.fault? = s.host.fault? := rfl
  cases faulty : request.changes.findSome? s.host.fault? with
  | none =>
      have redefined : s.host.enter.redefine request.changes =
          (.ok (), { s.host.enter with
            classes := SimulatedHost.define request.changes s.host.classes
            redefinitions := s.host.redefinitions + 1 }) := by
        rw [SimulatedHost.redefine, able, fault, faulty]
        rfl
      refine playing_step (by rw [Scene.answer_redefineClasses, redefined]) ?_
      simp only [SimulatedHost.swap, faulty]
      exact ⟨rfl, _, rfl⟩
  | some cause =>
      have refused : s.host.enter.redefine request.changes = (.error cause, s.host.enter) := by
        rw [SimulatedHost.redefine, able, fault, faulty]
        rfl
      refine playing_step (by rw [Scene.answer_redefineClasses, refused]) ?_
      simp only [SimulatedHost.swap, faulty]
      exact ⟨rfl, _, rfl⟩

end HotSwap
