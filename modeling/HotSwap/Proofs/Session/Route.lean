/-
# HotSwap.Proofs.Session.Route -- the phases that a session comes to

A session that does not fail comes to the phases of a `route`, which depends on two
things only: whether the process was hooked already, and whether the swap is to wait.
One that fails goes some way along a route and then fails (`Routed`).  So a session that
came past the check of the build shows by its phases whether it had to hook the process
(`Routed.branch`).
-/
import HotSwap.Session.Attach
import Mathlib.Data.List.Infix

namespace HotSwap

set_option autoImplicit false

/-- A session came past the check of the build: to another phase right behind it, and not
to a failure. -/
def SessionReport.PastVersionCheck (r : SessionReport) : Prop :=
  ∃ phase, phase ≠ .failed ∧ [.versionCheck, phase] <:+: r.history

theorem Phase.mem_all (phase : Phase) : phase ∈ Phase.all := by
  cases phase <;> decide

namespace Session

/-- The phases up to the parting of the ways, in a process that is hooked or is not. -/
def stem (hooked : Bool) : List Phase :=
  [.connecting, .awaitingRequest, .capabilityAcquisition, .bootstrapCheck, .versionCheck,
    if hooked then .alreadyInstrumented else .instrumentOnce, .dispatch]

/-- All phases of a session that does not fail. -/
def route (hooked later : Bool) : List Phase :=
  stem hooked ++
    if later then [.deferredHandoff, .respondPending, .doneDeferred]
    else [.immediateSwap, .respond, .done]

/-- Some way along a route. -/
def Along (hooked : Bool) (history : List Phase) : Prop :=
  ∃ later, history <+: route hooked later

/-- Some way along a route, and perhaps a failure there. -/
def Routed (hooked : Bool) (history : List Phase) : Prop :=
  ∃ taken, Along hooked taken ∧ (history = taken ∨ history = taken ++ [.failed])

theorem Along.failed {hooked : Bool} {progress : Progress}
    (along : Along hooked progress.history) : Routed hooked progress.fail.history := by
  refine ⟨progress.history, along, ?_⟩
  unfold Progress.fail
  split
  · exact .inl rfl
  · exact .inr rfl

/-- A session that came past the check of the build hooked the process if that was not done
yet, and otherwise found that it was. -/
theorem Routed.branch {hooked : Bool} {report : SessionReport}
    (routed : Routed hooked report.history) (past : report.PastVersionCheck) :
    report.visited .instrumentOnce = !hooked ∧ report.visited .alreadyInstrumented = hooked := by
  -- There are few routes, so few ways along them; each is looked at.
  have each : ∀ hooked later, ∀ taken ∈ (route hooked later).inits,
      ∀ history ∈ [taken, taken ++ [.failed]], ∀ phase ∈ Phase.all,
        phase ≠ .failed → [.versionCheck, phase] <:+: history →
          history.contains .instrumentOnce = !hooked ∧
            history.contains .alreadyInstrumented = hooked := by
    intro hooked later
    cases hooked <;> cases later <;> decide +kernel
  obtain ⟨taken, ⟨later, along⟩, ends⟩ := routed
  obtain ⟨phase, alive, behind⟩ := past
  exact each hooked later taken ((List.mem_inits ..).2 along) report.history (by simpa using ends)
    phase phase.mem_all alive behind

end Session

end HotSwap
