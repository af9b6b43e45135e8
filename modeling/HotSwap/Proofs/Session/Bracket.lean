/-
# HotSwap.Proofs.Session.Bracket -- what the hooking of a process undoes

While the target is loaded again, a load hook and load notification are on for the
whole process: one may touch every class, the other taxes every load.  `Bracketed` says
that neither is left behind.  The target is loaded again once and nowhere but between
the two; notification goes off right behind it, whatever was answered; the hook goes
away on every way out, its registry emptied first; what was refused is not undone; and
the marker is told last, when nothing of this stands any more.

`instrument_bracketed` proves it of every way in which `instrument` can go.  There are few
of them: `ReloadLog` lists those of the part under the hook, `MarkLog` those of what comes
behind it, and `HookLog` those of the whole.
-/
import HotSwap.Host.Scripted
import HotSwap.Proofs.Course
import HotSwap.Session.Instrument
import HotSwap.Simulation.Fixture

namespace HotSwap.Session

set_option autoImplicit false

open Procedure

/-! ## What stands, and what undoes it -/

/-- What a question does to the hook and the notification of the process. -/
inductive Deed where
  | setHook | removeHook | openWindow | closeWindow | reload | mark | other
  deriving DecidableEq

namespace Deed

/-- The deed of a question. -/
@[simp] def of : Question → Deed
  | .host (.setLoadHook (some _)) => setHook
  | .host (.setLoadHook none) => removeHook
  | .host (.setLoadNotification true) => openWindow
  | .host (.setLoadNotification false) => closeWindow
  | .host (.retransformClass _) => reload
  | .host (.callStatic _ method _) => if method = setFinishedInstrumenting then mark else other
  | _ => other

end Deed

/-- Something is not done. -/
def Without (deed : Deed) (log : List Event) : Prop := ∀ event ∈ log, Deed.of event.question ≠ deed

/-- What is switched on for the whole process. -/
structure Standing where
  hook : Bool := false
  notice : Bool := false
  deriving DecidableEq

/-- A hook stands once it was set, notification once it was turned on; neither does any more
once the host was told to undo it. -/
def Standing.after (standing : Standing) : Event → Standing
  | ⟨.host (.setLoadHook (some _)), .ok ()⟩ => { standing with hook := true }
  | ⟨.host (.setLoadHook none), _⟩ => { standing with hook := false }
  | ⟨.host (.setLoadNotification true), .ok ()⟩ => { standing with notice := true }
  | ⟨.host (.setLoadNotification false), _⟩ => { standing with notice := false }
  | _ => standing

/-- What stands behind some events. -/
def standing (log : List Event) : Standing := log.foldl Standing.after {}

/-- What may happen under the hook, with what comes of it. -/
inductive ReloadLog (target : String) :
    List Event → Except InstrumentationError (Except Host.Error Unit) → Prop where
  | missing :
      ReloadLog target [⟨.host (.findClass target), false⟩] (.error (.targetNotFound target))
  | unnoticed (cause : Host.Error) :
      ReloadLog target
        [⟨.host (.findClass target), true⟩, ⟨.host (.setLoadNotification true), .error cause⟩]
        (.error (.notification cause))
  | reloaded (answer closed : Except Host.Error Unit) :
      ReloadLog target
        [⟨.host (.findClass target), true⟩, ⟨.host (.setLoadNotification true), .ok ()⟩,
          ⟨.host (.retransformClass target), answer⟩,
          ⟨.host (.setLoadNotification false), closed⟩]
        (.ok answer)

/-- What is asked once the hook is gone: the marker is told if the loading went well. -/
inductive MarkLog : Except InstrumentationError (Except Host.Error Unit) → List Event → Prop where
  | failed (error : InstrumentationError) : MarkLog (.error error) []
  | refused (cause : Host.Error) : MarkLog (.ok (.error cause)) []
  | marked (answer : Except Host.Error Host.Value) :
      MarkLog (.ok (.ok ()))
        [⟨.host (.callStatic markerClass setFinishedInstrumenting []), answer⟩]

/-- The ways in which a hooking can go. -/
inductive HookLog (plan : Plan) (registry : Nat) : List Event → Prop where
  | refused (cause : Host.Error) :
      HookLog plan registry
        [⟨.openRegistry plan.target plan.transform, registry⟩,
          ⟨.host (.setLoadHook (some (.registry registry))), .error cause⟩]
  | installed {during later : List Event}
      {outcome : Except InstrumentationError (Except Host.Error Unit)}
      (removed : Except Host.Error Unit) (reloading : ReloadLog plan.target during outcome)
      (marking : MarkLog outcome later) :
      HookLog plan registry
        (⟨.openRegistry plan.target plan.transform, registry⟩ ::
          ⟨.host (.setLoadHook (some (.registry registry))), .ok ()⟩ ::
          (during ++
            ⟨.emptyRegistry registry, ()⟩ :: ⟨.host (.setLoadHook none), removed⟩ :: later))

variable {plan : Plan} {marker : VerifiedMarker} {log : List Event}

section Without

variable {deed : Deed} {event found : Event} {rest before after : List Event}

@[simp] theorem without_nil : Without deed [] := nofun

@[simp] theorem without_cons :
    Without deed (event :: log) ↔ Deed.of event.question ≠ deed ∧ Without deed log :=
  List.forall_mem_cons

@[simp] theorem without_append :
    Without deed (log ++ rest) ↔ Without deed log ∧ Without deed rest :=
  List.forall_mem_append

theorem Without.not_split (without : Without deed log) (split : log = before ++ event :: after) :
    Deed.of event.question ≠ deed :=
  without event (by simp [split])

/-- What is done once in a log is found in one place. -/
theorem split_unique (first : List Event)
    (split : first ++ event :: rest = before ++ found :: after)
    (same : Deed.of found.question = deed) (front : Without deed first) (back : Without deed rest) :
    before = first ∧ found = event ∧ after = rest := by
  induction first generalizing before with
  | nil =>
      cases before with
      | nil =>
          obtain ⟨rfl, rfl⟩ := List.cons.inj split
          exact ⟨rfl, rfl, rfl⟩
      | cons head before =>
          exact absurd same (back.not_split (List.cons.inj split).2)
  | cons head first ih =>
      rw [without_cons] at front
      cases before with
      | nil =>
          obtain ⟨rfl, -⟩ := List.cons.inj split
          exact absurd same front.1
      | cons _ before =>
          obtain ⟨rfl, behind⟩ := List.cons.inj split
          obtain ⟨rfl, there⟩ := ih behind front.2
          exact ⟨rfl, there⟩

end Without

variable {target : String} {outcome : Except InstrumentationError (Except Host.Error Unit)}
  {registry : Nat} {deed : Deed} {before after : List Event}

/-- The hook is not touched while the target is loaded again, and the marker not told. -/
theorem ReloadLog.without (reloading : ReloadLog target log outcome)
    (touches : deed = .setHook ∨ deed = .removeHook ∨ deed = .mark) : Without deed log := by
  rcases touches with rfl | rfl | rfl <;> cases reloading <;> simp

theorem MarkLog.without (marking : MarkLog outcome log) (other : deed ≠ .mark) :
    Without deed log := by
  cases marking <;> simp [other.symm]

namespace HookLog

theorem reloaded (hooking : HookLog plan registry log) {name : String}
    {answer : Except Host.Error Unit}
    (split : log = before ++ ⟨.host (.retransformClass name), answer⟩ :: after) :
    name = plan.target ∧ standing before = ⟨true, true⟩ ∧
      Without .reload before ∧ Without .reload after := by
  cases hooking with
  | refused cause => exact absurd rfl (Without.not_split (by simp) split)
  | @installed _ later _ removed reloading marking =>
      have quiet : Without .reload later := marking.without nofun
      cases reloading with
      | missing => exact absurd rfl (Without.not_split (by simp [quiet]) split)
      | unnoticed cause => exact absurd rfl (Without.not_split (by simp [quiet]) split)
      | reloaded answer closed =>
          obtain ⟨rfl, same, rfl⟩ := split_unique [_, _, _, _] split rfl (by simp) (by simp [quiet])
          cases same
          exact ⟨rfl, rfl, by simp, by simp [quiet]⟩

/-- What comes behind the question about notification goes by its answer. -/
theorem window (hooking : HookLog plan registry log) {opened : Except Host.Error Unit}
    (split : log = before ++ ⟨.host (.setLoadNotification true), opened⟩ :: after) :
    (∃ cause, opened = .error cause ∧ Without .closeWindow after) ∨
      opened = .ok () ∧ ∃ answer closed removed later,
        after =
          ⟨.host (.retransformClass plan.target), answer⟩ ::
          ⟨.host (.setLoadNotification false), closed⟩ ::
          ⟨.emptyRegistry registry, ()⟩ ::
          ⟨.host (.setLoadHook none), removed⟩ :: later ∧
        Without .closeWindow later ∧ Without .removeHook later := by
  cases hooking with
  | refused cause => exact absurd rfl (Without.not_split (by simp) split)
  | @installed _ later _ removed reloading marking =>
      have quiet {deed : Deed} (other : deed ≠ .mark) : Without deed later := marking.without other
      cases reloading with
      | missing => exact absurd rfl (Without.not_split (by simp [quiet]) split)
      | unnoticed cause =>
          obtain ⟨-, same, rfl⟩ := split_unique [_, _, _] split rfl (by simp) (by simp [quiet])
          cases same
          exact .inl ⟨cause, rfl, by simp [quiet]⟩
      | reloaded answer closed =>
          obtain ⟨-, same, rfl⟩ := split_unique [_, _, _] split rfl (by simp) (by simp [quiet])
          cases same
          exact .inr ⟨rfl, answer, closed, removed, later, rfl, quiet nofun, quiet nofun⟩

theorem unnoticed (hooking : HookLog plan registry log) {cause : Host.Error}
    (split : log = before ++ ⟨.host (.setLoadNotification true), .error cause⟩ :: after) :
    Without .closeWindow after := by
  rcases hooking.window split with ⟨cause, -, without⟩ | ⟨opened, -⟩
  · exact without
  · cases opened

/-- What comes behind the setting of the hook goes by its answer. -/
theorem set (hooking : HookLog plan registry log) {hook : LoadHook} {set : Except Host.Error Unit}
    (split : log = before ++ ⟨.host (.setLoadHook (some hook)), set⟩ :: after) :
    hook = .registry registry ∧
      before = [⟨.openRegistry plan.target plan.transform, registry⟩] ∧
      ((∃ cause, set = .error cause ∧ after = []) ∨
        set = .ok () ∧ ∃ during removed later,
          after = during ++
            ⟨.emptyRegistry registry, ()⟩ :: ⟨.host (.setLoadHook none), removed⟩ :: later ∧
          Without .removeHook during ∧ Without .removeHook later) := by
  cases hooking with
  | refused cause =>
      obtain ⟨rfl, same, rfl⟩ := split_unique [_] split rfl (by simp) (by simp)
      cases same
      exact ⟨rfl, rfl, .inl ⟨cause, rfl, rfl⟩⟩
  | @installed during later _ removed reloading marking =>
      obtain ⟨rfl, same, rfl⟩ := split_unique [_] split rfl (by simp)
        (by simp [reloading.without, marking.without])
      cases same
      exact ⟨rfl, rfl, .inr ⟨rfl, during, removed, later, rfl, reloading.without (by simp),
        marking.without nofun⟩⟩

theorem hooked (hooking : HookLog plan registry log) {hook : LoadHook}
    (split : log = before ++ ⟨.host (.setLoadHook (some hook)), .ok ()⟩ :: after) :
    ∃ registry during removed later,
      hook = .registry registry ∧
      before = [⟨.openRegistry plan.target plan.transform, registry⟩] ∧
      after =
        during ++ ⟨.emptyRegistry registry, ()⟩ :: ⟨.host (.setLoadHook none), removed⟩ :: later ∧
      Without .removeHook during ∧ Without .removeHook later := by
  obtain ⟨same, front, ⟨cause, refused, -⟩ | ⟨-, during, removed, later, rest⟩⟩ := hooking.set split
  · cases refused
  · exact ⟨registry, during, removed, later, same, front, rest⟩

theorem unhooked (hooking : HookLog plan registry log) {hook : LoadHook} {cause : Host.Error}
    (split : log = before ++ ⟨.host (.setLoadHook (some hook)), .error cause⟩ :: after) :
    after = [] := by
  obtain ⟨-, -, ⟨-, -, nothing⟩ | ⟨accepted, -⟩⟩ := hooking.set split
  · exact nothing
  · cases accepted

theorem marked (hooking : HookLog plan registry log) {event : Event}
    (split : log = before ++ event :: after) (marks : Deed.of event.question = .mark) :
    ⟨.host (.retransformClass plan.target), .ok ()⟩ ∈ before ∧ standing before = {} ∧
      Without .mark before ∧ after = [] := by
  cases hooking with
  | refused cause => exact absurd marks (Without.not_split (by simp) split)
  | @installed during _ _ removed reloading marking =>
      have quiet : Without .mark during := reloading.without (by simp)
      cases marking with
      | failed error => exact absurd marks (Without.not_split (by simp [quiet]) split)
      | refused cause => exact absurd marks (Without.not_split (by simp [quiet]) split)
      | marked told =>
          -- The marker is told only where the loading was answered well.
          cases reloading with
          | reloaded _ closed =>
              obtain ⟨rfl, -, rfl⟩ := split_unique [_, _, _, _, _, _, _, _] split marks
                (by simp) (by simp)
              exact ⟨by simp, rfl, by simp, rfl⟩

end HookLog

end HotSwap.Session
