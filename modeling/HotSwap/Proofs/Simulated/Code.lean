/-
# HotSwap.Proofs.Simulated.Code -- how the classes of a process change

The `Code` of a simulated process is what can be seen of its classes: the bytes of each
that is loaded, and how often some were redefined.  `Effect` says what a question changes
of it, given how it was answered.  Three kinds of questions change something, and only
where they are granted: a redefinition gives each class that it names the bytes of its
last definition (`lookup_define`), a class that is loaded again may be rewritten, and an
archive provides the two classes of the payload where they were not loaded.  A question
that is refused, and any other, leaves every class and the count as they were.  So a class
that was loaded gets other bytes by being redefined or loaded again only (`Effect.cause`).

`answer_effect` says that a simulated process keeps to this, whatever its state and the
world around it.
-/
import HotSwap.Proofs.Course
import HotSwap.Proofs.Simulated.Share
import Mathlib.Logic.Function.Basic

namespace HotSwap

set_option autoImplicit false

open Procedure Session

/-- What can be seen of the classes of a process. -/
structure Code where
  bytes : String → Option ByteArray
  redefinitions : Nat

/-- The classes of a simulated process. -/
def SimulatedHost.code (h : SimulatedHost) : Code := ⟨h.classBytes, h.redefinitions⟩

namespace Code

/-- A change set was applied: each class that it names has the bytes of its last definition. -/
def redefined (c : Code) (changes : ChangeSet) : Code where
  bytes name :=
    match changes.reverse.find? (·.name == name) with
    | some d => some d.bytecode
    | none => c.bytes name
  redefinitions := c.redefinitions + 1

/-- One class has other bytes. -/
def rewritten (c : Code) (name : String) (data : ByteArray) : Code :=
  { c with bytes := Function.update c.bytes name (some data) }

/-- A class is loaded, and has no bytes unless it was loaded before. -/
def provided (c : Code) (name : String) : Code :=
  { c with bytes := Function.update c.bytes name (some ((c.bytes name).getD .empty)) }

end Code

/-- What a question changes of the classes, given its answer. -/
def Effect : Event → Code → Code → Prop
  | ⟨.host (.redefineClasses changes), .ok ()⟩, c, c' => c' = c.redefined changes
  | ⟨.host (.retransformClass name), .ok ()⟩, c, c' => ∃ data, c' = c.rewritten name data
  | ⟨.host (.appendToBootstrapSearch _), .ok ()⟩, c, c' =>
      c' = (c.provided markerClass).provided handlerClass
  | _, c, c' => c' = c

/-- Why a class has other bytes behind an event: it was redefined or loaded again, or it was not
loaded before and the payload brought it. -/
inductive Cause (name : String) (c c' : Code) : Event → Prop where
  | redefined {changes : ChangeSet} {d : ClassDefinition} (member : d ∈ changes)
      (named : d.name = name) : Cause name c c' ⟨.host (.redefineClasses changes), .ok ()⟩
  | reloaded : Cause name c c' ⟨.host (.retransformClass name), .ok ()⟩
  | provided {path : String} (new : c.bytes name = none) (bare : c'.bytes name = some .empty) :
      Cause name c c' ⟨.host (.appendToBootstrapSearch path), .ok ()⟩

theorem Code.provided_bytes (c : Code) (one name : String) :
    (c.provided one).bytes name = c.bytes name ∨
      c.bytes name = none ∧ (c.provided one).bytes name = some .empty := by
  by_cases same : name = one
  · subst same
    cases loaded : c.bytes name <;> simp [provided, loaded]
  · exact .inl (Function.update_of_ne same ..)

/-- No class has other bytes without a cause. -/
theorem Effect.cause {event : Event} {c c' : Code} {name : String} (does : Effect event c c')
    (changed : c'.bytes name ≠ c.bytes name) : Cause name c c' event := by
  have unless_kept (same : c' = c) : Cause name c c' event := absurd (by rw [same]) changed
  obtain ⟨q, answer⟩ := event
  cases q with
  | host call =>
      cases call with
      | redefineClasses changes =>
          rcases answer with cause | _
          · exact unless_kept does
          cases found : changes.reverse.find? (·.name == name) with
          | none =>
              have does : c' = c.redefined changes := does
              exact absurd (by simp [does, Code.redefined, found]) changed
          | some d =>
              have member := List.mem_reverse.1 (List.mem_of_find?_eq_some found)
              exact .redefined member (by simpa using List.find?_some found)
      | retransformClass target =>
          rcases answer with cause | _
          · exact unless_kept does
          obtain ⟨data, rfl⟩ := does
          by_cases same : name = target
          · subst same
            exact .reloaded
          · exact absurd (Function.update_of_ne same ..) changed
      | appendToBootstrapSearch path =>
          rcases answer with cause | _
          · exact unless_kept does
          obtain rfl : c' = (c.provided markerClass).provided handlerClass := does
          rcases c.provided_bytes markerClass name with same | ⟨new, bare⟩
          · rcases (c.provided markerClass).provided_bytes handlerClass name with also | ⟨new, bare⟩
            · exact absurd (also.trans same) changed
            · exact .provided (same ▸ new) bare
          · rcases (c.provided markerClass).provided_bytes handlerClass name with also | ⟨absent, -⟩
            · exact .provided new (also.trans bare)
            · exact absurd (bare.symm.trans absent) nofun
      | _ => exact unless_kept does
  | _ => exact unless_kept does

namespace SimulatedHost

/-! ## The calls that change classes -/

/-- The last definition of a class in a change set is the one that counts. -/
theorem lookup_define (changes : ChangeSet) (classes : List (String × ByteArray)) (name : String) :
    (define changes classes).lookup name =
      match changes.reverse.find? (·.name == name) with
      | some d => some d.bytecode
      | none => classes.lookup name := by
  induction changes generalizing classes with
  | nil => rfl
  | cons d rest ih =>
      rw [show define (d :: rest) classes = define rest (assign d.name d.bytecode classes) from rfl,
        ih, List.reverse_cons, List.find?_append]
      cases rest.reverse.find? (·.name == name) with
      | some later => rfl
      | none =>
          simp only [Option.none_or, lookup_assign, BEq.comm (a := name)]
          cases same : d.name == name <;> simp [same]

variable (h : SimulatedHost)

theorem redefine_effect (changes : ChangeSet) :
    Effect ⟨.host (.redefineClasses changes), (h.redefine changes).1⟩ h.code
      (h.redefine changes).2.code := by
  unfold redefine
  split
  · exact rfl
  · cases changes.findSome? h.fault? with
    | some e => exact rfl
    | none => exact congrArg (Code.mk · _) (funext fun name => lookup_define changes h.classes name)

/-- A class that is loaded again has its old bytes, or those that the load hook gave it. -/
theorem retransform_effect (w : World) (name : String) :
    Effect ⟨.host (.retransformClass name), (h.retransform w name).1⟩ h.code
      (h.retransform w name).2.1.code := by
  unfold retransform
  split
  · exact rfl
  cases loaded : h.classBytes name with
  | none => exact rfl
  | some data =>
      have kept : ∃ old, h.code = h.code.rewritten name old :=
        ⟨data, congrArg (Code.mk · _) (Function.update_eq_self_iff.2 loaded.symm).symm⟩
      dsimp only
      cases if h.notification then h.hook else none with
      | none => exact kept
      | some hook =>
          dsimp only
          generalize w.load hook name data = result
          rcases result with ⟨_ | transformed, w'⟩
          · exact kept
          · refine ⟨transformed, congrArg (Code.mk · _) (funext fun other => ?_)⟩
            show (assign name transformed h.classes).lookup other = _
            rw [lookup_assign, Function.update_apply]
            by_cases same : other = name <;> simp [same, code, classBytes]

theorem provide_code (name : String) : (h.provide name).code = h.code.provided name := by
  unfold provide
  cases found : h.classes.lookup name with
  | some data =>
      have same : h.code.bytes name = some data := found
      simp only [isLoaded, found, Option.isSome_some, if_true, Code.provided, same,
        Option.getD_some]
      rw [← same, Function.update_eq_self]
  | none =>
      simp only [isLoaded, found, Option.isSome_none, Bool.false_eq_true, if_false]
      refine congrArg (Code.mk · _) (funext fun other => ?_)
      show (h.classes ++ [(name, ByteArray.empty)]).lookup other = _
      rw [List.lookup_append, Function.update_apply]
      by_cases same : other = name
      · subst same
        simp [code, classBytes, found]
      · have passes : (other == name) = false := by simpa using same
        simp [code, classBytes, same, List.lookup_cons, passes]

theorem appendArchive_effect (w : World) (archive : String) :
    Effect ⟨.host (.appendToBootstrapSearch archive), (h.appendArchive w archive).1⟩ h.code
      (h.appendArchive w archive).2.code := by
  unfold appendArchive
  split
  · exact rfl
  · show SimulatedHost.code _ = _
    rw [provide_code, provide_code]
    rfl

/-- What a call does to the classes of a simulated process. -/
theorem answer_effect (call : HostCall) (w : World) :
    Effect ⟨.host call, (Host.Model.answer call h w).1⟩ h.code
      (Host.Model.answer call h w).2.1.code := by
  cases call with
  | redefineClasses changes => exact h.enter.redefine_effect changes
  | retransformClass name => exact h.enter.retransform_effect w name
  | appendToBootstrapSearch archive => exact h.enter.appendArchive_effect w archive
  | addCapabilities wanted =>
      show (h.enter.addCapabilities wanted).2.code = _
      rcases h.enter.addCapabilities_cases wanted with ⟨e, same⟩ | ⟨-, granted⟩
      · rw [same]
        rfl
      · rw [granted]
        rfl
  | callStatic className method args =>
      show (h.enter.callStatic className method args).2.code = _
      by_cases marker : className = markerClass
      · subst marker
        obtain ⟨resident, instrumented, called⟩ := h.enter.callStatic_marker_cases method args
        rw [called]
        rfl
      · obtain ⟨token, called⟩ := h.enter.callStatic_other_cases marker method args
        rw [called]
        rfl
  | registerNatives bindings =>
      obtain ⟨natives, bound⟩ := h.enter.registerNatives_frame bindings
      show (h.enter.registerNatives bindings).2.code = _
      rw [bound]
      rfl
  | _ => rfl

end SimulatedHost

/-- What a question does to the classes of the process in a scene. -/
theorem answer_effect (door : Connector) (q : Question) (s : Scene SimulatedHost) :
    Effect ⟨q, (Scene.answer door q s).1⟩ s.host.code (Scene.answer door q s).2.host.code := by
  cases q with
  | host call => exact s.host.answer_effect call s.world
  | deposit dir payload => simp [Scene.answer, Effect]
  | _ => rfl

end HotSwap
