/-
# HotSwap.Proofs.Simulated.Answers -- what one question does to a simulated process

What a scene answers to a call of its simulated process, and what it leaves: the call is
counted, and then the process does what it does.  These are the equations by which a
procedure is played in a scene step by step.
-/
import HotSwap.Proofs.Playing
import HotSwap.Proofs.Simulated.Process

namespace HotSwap

set_option autoImplicit false

open Procedure Session

namespace Scene

variable (door : Connector) (s : Scene SimulatedHost)

theorem answer_potentialCapabilities :
    answer door (.host .potentialCapabilities) s = (s.host.potential, ⟨s.host.enter, s.world⟩) :=
  rfl

theorem answer_addCapabilities (wanted : Capabilities) :
    answer door (.host (.addCapabilities wanted)) s =
      ((s.host.enter.addCapabilities wanted).1,
        ⟨(s.host.enter.addCapabilities wanted).2, s.world⟩) := rfl

theorem answer_redefineClasses (changes : ChangeSet) :
    answer door (.host (.redefineClasses changes)) s =
      ((s.host.enter.redefine changes).1, ⟨(s.host.enter.redefine changes).2, s.world⟩) := rfl

theorem answer_findClass (name : String) :
    answer door (.host (.findClass name)) s =
      (s.host.isLoaded name, ⟨s.host.enter, s.world⟩) := rfl

theorem answer_appendToBootstrapSearch (archive : String) :
    answer door (.host (.appendToBootstrapSearch archive)) s =
      ((s.host.enter.appendArchive s.world archive).1,
        ⟨(s.host.enter.appendArchive s.world archive).2, s.world⟩) := rfl

theorem answer_callStatic (className : String) (method : Host.Method) (args : List Host.Value) :
    answer door (.host (.callStatic className method args)) s =
      ((s.host.enter.callStatic className method args).1,
        ⟨(s.host.enter.callStatic className method args).2, s.world⟩) := rfl

theorem answer_registerNatives (bindings : List NativeBinding) :
    answer door (.host (.registerNatives bindings)) s =
      ((s.host.enter.registerNatives bindings).1,
        ⟨(s.host.enter.registerNatives bindings).2, s.world⟩) := rfl

end Scene

namespace SimulatedHost

variable {h : SimulatedHost}

/-- The marker says whether a build is the one that claimed the process. -/
theorem callStatic_checkHash {claim : String} (build : String) (marked : h.isLoaded markerClass = true)
    (claimed : h.residentFingerprint = some claim) :
    h.callStatic markerClass Session.checkHash [.str build] = (.ok (.bool (claim == build)), h) := by
  simp [callStatic, SimulatedHost.checkHash, marked, claimed]

/-- The first build to ask claims the process. -/
theorem callStatic_checkHash_free (build : String) (marked : h.isLoaded markerClass = true)
    (free : h.residentFingerprint = none) :
    h.callStatic markerClass Session.checkHash [.str build] =
      (.ok (.bool true), { h with residentFingerprint := some build }) := by
  simp [callStatic, SimulatedHost.checkHash, marked, free]

/-- The marker says whether the process is hooked. -/
theorem callStatic_isFinishedInstrumenting (marked : h.isLoaded markerClass = true) :
    h.callStatic markerClass isFinishedInstrumenting [] = (.ok (.bool h.instrumented), h) := by
  simp [callStatic, isFinishedInstrumenting, Session.checkHash, marked]

/-- The marker notes that the process is hooked. -/
theorem callStatic_setFinishedInstrumenting (marked : h.isLoaded markerClass = true) :
    h.callStatic markerClass setFinishedInstrumenting [] =
      (.ok .void, { h with instrumented := true }) := by
  simp [callStatic, isFinishedInstrumenting, Session.checkHash, setFinishedInstrumenting, marked]

/-- The hooked handler takes a token. -/
theorem callStatic_prepareForHotSwap (token : Int) (handled : h.isLoaded handlerClass = true)
    (hooked : h.hooked = true) :
    h.callStatic handlerClass Session.prepareForHotSwap [.long token] =
      (.ok .void, { h with pendingToken := some token }) := by
  have marker : ¬ handlerClass = markerClass := by decide
  simp [callStatic, SimulatedHost.prepareForHotSwap, handled, hooked, marker, Host.Value.long?]

end SimulatedHost

end HotSwap
