/-
# HotSwap.Proofs.Session.Questions -- what each part of a session asks

Each part of a session is read once here for the questions that it may ask, whatever it is answered.
That they are all of some kind follows for every kind there is, by `Asks.mono`.
-/
import HotSwap.Proofs.Rules
import HotSwap.Session.Attach

namespace HotSwap.Session

set_option autoImplicit false

open Procedure

theorem negotiate_questions :
    negotiate.Asks (· ∈ [.host .potentialCapabilities, .host (.addCapabilities .required)]) := by
  refine ⟨by simp, fun potential => ?_⟩
  cases missing : Capabilities.required.missingFrom potential with
  | cons name names => simp [missing]
  | nil =>
      simp only [done_bind, missing]
      exact ⟨by simp, fun answer => by rcases answer with cause | _ <;> trivial⟩

/-- What is asked when a payload is installed from a directory. -/
inductive Installs (payload : Payload) (dir : String) : Question → Prop where
  | deposit : Installs payload dir (.deposit dir payload)
  | resident : Installs payload dir (.host (.findClass markerClass))
  | inject (path : String) : Installs payload dir (.host (.appendToBootstrapSearch path))

theorem install_questions (payload : Payload) (dir : String) :
    (install payload dir).Asks (Installs payload dir) := by
  refine ⟨.deposit, fun stored => ?_⟩
  rcases stored with cause | path
  · trivial
  refine ⟨.resident, fun resident => ?_⟩
  rcases resident with _ | _
  · refine ⟨.inject path, fun injected => ?_⟩
    rcases injected with cause | _
    · trivial
    · exact ⟨.resident, fun resident => by rcases resident with _ | _ <;> trivial⟩
  · trivial

theorem checkBuild_questions (build : Fingerprint) :
    (checkBuild build).Asks (· = .host (.callStatic markerClass checkHash [.str build.hex])) := by
  refine ⟨rfl, fun answer => ?_⟩
  rcases answer with cause | reply
  · trivial
  · rcases reply with _ | (_ | _) | _ | _ | _ <;> trivial

theorem checkInstrumented_questions (marker : VerifiedMarker) :
    (checkInstrumented marker).Asks
      (· = .host (.callStatic markerClass isFinishedInstrumenting [])) := by
  refine ⟨rfl, fun answer => ?_⟩
  rcases answer with cause | reply
  · trivial
  · rcases reply with _ | (_ | _) | _ | _ | _ <;> trivial

theorem retransformHooked_questions (target : String) :
    (retransformHooked target).Asks
      (· ∈ [.host (.findClass target), .host (.setLoadNotification true),
        .host (.retransformClass target), .host (.setLoadNotification false)]) := by
  refine ⟨by simp, fun found => ?_⟩
  rcases found with _ | _
  · trivial
  refine ⟨by simp, fun opened => ?_⟩
  rcases opened with cause | _
  · trivial
  · exact ⟨by simp, fun _ => ⟨by simp, fun _ => trivial⟩⟩

theorem markInstrumented_questions (marker : VerifiedMarker) :
    marker.markInstrumented.Asks
      (· = .host (.callStatic markerClass setFinishedInstrumenting [])) :=
  ⟨rfl, fun answer => by rcases answer with cause | _ <;> trivial⟩

/-- What is asked when the process is hooked. -/
inductive Instruments (plan : Plan) : Question → Prop where
  | openRegistry : Instruments plan (.openRegistry plan.target plan.transform)
  | setHook (registry : Nat) : Instruments plan (.host (.setLoadHook (some (.registry registry))))
  | find : Instruments plan (.host (.findClass plan.target))
  | notify (enabled : Bool) : Instruments plan (.host (.setLoadNotification enabled))
  | retransform : Instruments plan (.host (.retransformClass plan.target))
  | emptyRegistry (registry : Nat) : Instruments plan (.emptyRegistry registry)
  | removeHook : Instruments plan (.host (.setLoadHook none))
  | mark : Instruments plan (.host (.callStatic markerClass setFinishedInstrumenting []))

theorem instrument_questions (plan : Plan) (marker : VerifiedMarker) :
    (instrument plan marker).Asks (Instruments plan) := by
  refine ⟨.openRegistry, fun registry => ⟨.setHook registry, fun hooked => ?_⟩⟩
  rcases hooked with cause | _
  · trivial
  have retransforms : (retransformHooked plan.target).Asks (Instruments plan) := by
    refine (retransformHooked_questions plan.target).mono fun q member => ?_
    simp only [List.mem_cons, List.not_mem_nil, or_false] at member
    rcases member with rfl | rfl | rfl | rfl
    · exact .find
    · exact .notify true
    · exact .retransform
    · exact .notify false
  refine retransforms.bind fun outcome => ?_
  refine ⟨.emptyRegistry registry, fun _ => ⟨.removeHook, fun _ => ?_⟩⟩
  rcases outcome with e | cause | _
  · trivial
  · trivial
  · have marks : marker.markInstrumented.Asks (Instruments plan) :=
      (markInstrumented_questions marker).mono (by rintro _ rfl; exact .mark)
    exact marks.bind fun r => by rcases r with cause | _ <;> trivial

theorem bindNatives_questions :
    bindNatives.Asks (· = .host (.registerNatives nativeBindings)) :=
  ⟨rfl, fun answer => by rcases answer with cause | _ <;> trivial⟩

theorem execute_questions (request : Request) :
    (execute request).Asks
      (· ∈ [.host .processId, .host (.redefineClasses request.changes)]) :=
  ⟨by simp, fun _ => ⟨by simp, fun answer => by rcases answer with cause | _ <;> trivial⟩⟩

/-- What is asked when a swap is parked. -/
inductive Transfers : Question → Prop where
  | processId : Transfers (.host .processId)
  | send (link : LinkId) (frame : ByteArray) : Transfers (.send link frame)
  | hangUp (link : LinkId) : Transfers (.hangUp link)
  | park (swap : PendingSwap) : Transfers (.park swap)
  | give (token : Int) :
      Transfers (.host (.callStatic handlerClass prepareForHotSwap [.long token]))
  | take (token : Int) : Transfers (.take token)
  | takeSuperseded (pid : UInt32) (token : Int) : Transfers (.takeSuperseded pid token)

theorem abandonAll_questions (swaps : List PendingSwap) : (abandonAll swaps).Asks Transfers := by
  induction swaps with
  | nil => trivial
  | cons swap rest ih => exact ⟨.send _ _, fun _ => ⟨.hangUp _, fun _ => ih⟩⟩

theorem transfer_questions (request : Request) (link : LinkId) :
    (transfer request link).Asks Transfers := by
  refine ⟨.processId, fun pid => ⟨.send _ _, fun arrived => ?_⟩⟩
  rcases arrived with cause | _
  · exact ⟨.hangUp link, fun _ => trivial⟩
  refine ⟨.park _, fun token => ⟨.give token, fun accepted => ?_⟩⟩
  rcases accepted with cause | reply
  · refine ⟨.take token, fun swap => ?_⟩
    rcases swap with _ | swap
    · trivial
    · exact ⟨.send _ _, fun _ => ⟨.hangUp _, fun _ => trivial⟩⟩
  · exact ⟨.takeSuperseded pid token, fun swaps =>
      (abandonAll_questions swaps).bind fun _ => trivial⟩

end HotSwap.Session
