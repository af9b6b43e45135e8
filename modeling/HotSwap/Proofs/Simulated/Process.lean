/-
# HotSwap.Proofs.Simulated.Process -- how a simulated process lives

A simulated process is started fresh, with whatever classes and abilities its builders
give it (`Started`), and then answers calls.  Each call that may change it has one lemma
here that says all it can do: most are refused and leave the process as it was, or change
a few of its fields.  What is true of a process over a whole session is shown from these
lemmas, and no proof looks into a call again.
-/
import HotSwap.Host.Simulated
import HotSwap.Proofs.Session.Preparation

namespace HotSwap

set_option autoImplicit false

open Procedure Session

theorem lookup_assign {α β : Type} [BEq α] [LawfulBEq α] (key other : α) (value : β)
    (l : List (α × β)) :
    (assign key value l).lookup other = if other == key then some value else l.lookup other := by
  induction l with
  | nil =>
      simp only [assign, List.lookup_cons, List.lookup_nil]
      cases other == key <;> rfl
  | cons first rest ih =>
      obtain ⟨name, old⟩ := first
      by_cases same : name = key
      · subst same
        simp only [assign, beq_self_eq_true, if_true, List.lookup_cons]
        cases other == name <;> rfl
      · have skips : (name == key) = false := by simpa using same
        simp only [assign, skips, Bool.false_eq_true, if_false, List.lookup_cons]
        by_cases here : other = name
        · subst here
          simp [skips]
        · have passes : (other == name) = false := by simpa using here
          simpa only [passes] using ih

/-- A value that is replaced brings no new key. -/
theorem isSome_lookup_assign {α β : Type} [BEq α] [LawfulBEq α] {key : α} (value : β)
    {l : List (α × β)} (known : (l.lookup key).isSome) (other : α) :
    ((assign key value l).lookup other).isSome = (l.lookup other).isSome := by
  rw [lookup_assign]
  by_cases same : other = key
  · subst same
    simp [known]
  · have passes : (other == key) = false := by simpa using same
    simp [passes]

/-- Functions were bound, each in place of what was there, and nothing else has changed. -/
structure Updates (bindings : List NativeBinding)
    (before after : List ((String × Host.Method) × Native)) : Prop where
  own : ∀ b ∈ bindings, after.lookup (b.className, b.method) = some b.native
  others : ∀ key, (∀ b ∈ bindings, key ≠ (b.className, b.method)) →
    after.lookup key = before.lookup key

namespace Updates

variable {bindings : List NativeBinding}
  {first second third : List ((String × Host.Method) × Native)}

theorem trans (one : Updates bindings first second) (two : Updates bindings second third) :
    Updates bindings first third where
  own := two.own
  others key apart := (two.others key apart).trans (one.others key apart)

/-- Where the agent's natives were bound, the handler's call back is one of them. -/
theorem callable (updates : Updates nativeBindings first second) :
    second.lookup (handlerClass, tryRedefineClasses) = some .tryRedefineClasses :=
  updates.own ⟨handlerClass, tryRedefineClasses, .tryRedefineClasses⟩ (by simp [nativeBindings])

end Updates

/-- Loading a class touches nothing but the registry that it is offered to. -/
theorem World.load_frame (w : World) (hook : LoadHook) (name : String) (data : ByteArray) :
    ∃ registries, (w.load hook name data).2 = { w with registries := registries } := by
  cases hook with
  | always transform => exact ⟨_, rfl⟩
  | registry id =>
      simp only [World.load]
      cases w.registries[id]? <;> exact ⟨_, rfl⟩

namespace SimulatedHost

/-- A process that was just started. -/
inductive Started : SimulatedHost → Prop where
  | fresh (pid : UInt32) : Started (fresh pid)
  | withCapabilities {h : SimulatedHost} (started : Started h) (potential : Capabilities) :
      Started (h.withCapabilities potential)
  | withClass {h : SimulatedHost} (started : Started h) (name : String) (data : ByteArray) :
      Started (h.withClass name data)
  | withIncompatibleClass {h : SimulatedHost} (started : Started h) (name : String) :
      Started (h.withIncompatibleClass name)

/-- A process in which nothing was done yet. -/
structure Blank (h : SimulatedHost) : Prop where
  granted : h.granted = .none
  archives : h.archives = []
  residentFingerprint : h.residentFingerprint = none
  instrumented : h.instrumented = false
  hooked : h.hooked = false
  hook : h.hook = none
  notification : h.notification = false
  retransforms : h.retransforms = []
  redefinitions : h.redefinitions = 0
  natives : h.natives = []
  pendingToken : h.pendingToken = none

/-- The builders of a process do nothing in it. -/
theorem Started.blank {h : SimulatedHost} (started : Started h) : h.Blank := by
  induction started with
  | fresh pid => exact ⟨rfl, rfl, rfl, rfl, rfl, rfl, rfl, rfl, rfl, rfl, rfl⟩
  | withCapabilities _ _ ih => exact { ih with }
  | withClass _ _ _ ih => exact { ih with }
  | withIncompatibleClass _ _ ih => exact { ih with }

/-! ## What a call does -/

section Calls

variable (h : SimulatedHost) (w : World)

theorem addCapabilities_cases (wanted : Capabilities) :
    (∃ e, h.addCapabilities wanted = (.error e, h)) ∨
      h.potential.Covers wanted ∧
        h.addCapabilities wanted = (.ok (), { h with granted := h.granted.union wanted }) := by
  unfold addCapabilities
  cases missing : wanted.missingFrom h.potential with
  | cons name names => exact .inl ⟨_, rfl⟩
  | nil => exact .inr ⟨(Capabilities.missingFrom_eq_nil_iff _ _).1 missing, rfl⟩

/-- A class is loaded again, or cannot be because the ability was not granted or the class is
not there. -/
theorem retransform_cases (name : String) :
    (∃ e, h.retransform w name = (.error e, h, w) ∧
      (h.granted.retransformClasses = false ∨ h.isLoaded name = false)) ∨
    ∃ hooked classes registries, (h.hooked = true → hooked = true) ∧
      (∀ other, (classes.lookup other).isSome = h.isLoaded other) ∧
      h.retransform w name =
        (.ok (), { h with
          retransforms := assign name (h.retransformCount name + 1) h.retransforms
          hooked := hooked
          classes := classes }, { w with registries := registries }) := by
  unfold retransform
  cases granted : h.granted.retransformClasses with
  | false => exact .inl ⟨_, rfl, .inl rfl⟩
  | true =>
      cases loaded : h.classBytes name with
      | none => exact .inl ⟨_, rfl, .inr (by simpa [isLoaded, classBytes] using loaded)⟩
      | some data =>
          right
          simp only [Bool.not_true, Bool.false_eq_true, if_false]
          cases if h.notification then h.hook else none with
          | none => exact ⟨h.hooked, h.classes, w.registries, id, fun _ => rfl, rfl⟩
          | some hook =>
              obtain ⟨registries, frame⟩ := w.load_frame hook name data
              dsimp only
              generalize w.load hook name data = result at frame
              obtain ⟨_ | transformed, w'⟩ := result
              all_goals obtain rfl : w' = { w with registries := registries } := frame
              · exact ⟨h.hooked, h.classes, registries, id, fun _ => rfl, rfl⟩
              · refine ⟨_, _, registries, ?_, ?_, rfl⟩
                · intro hooked
                  simp [hooked]
                · intro other
                  have known : h.classes.lookup name = some data := loaded
                  exact isSome_lookup_assign _ (by simp [known]) other

theorem provide_cases (name : String) :
    ∃ classes, h.provide name = { h with classes := classes } ∧
      ∀ other, (classes.lookup other).isSome = (h.isLoaded other || other == name) := by
  unfold provide
  by_cases loaded : h.isLoaded name
  · refine ⟨h.classes, by simp [loaded], fun other => ?_⟩
    by_cases same : other = name
    · subst same
      rw [beq_self_eq_true, Bool.or_true]
      exact loaded
    · simp [same, isLoaded]
  · refine ⟨h.classes ++ [(name, .empty)], by simp [loaded], fun other => ?_⟩
    rw [List.lookup_append, isLoaded]
    cases h.classes.lookup other with
    | some data => simp
    | none =>
        simp only [List.lookup_cons]
        cases other == name <;> rfl

/-- An archive is appended, with which the marker and the handler come, or is not there. -/
theorem appendArchive_cases (archive : String) :
    (∃ e, h.appendArchive w archive = (.error e, h)) ∨
    ∃ classes, (∀ other, (classes.lookup other).isSome =
        (h.isLoaded other || other == markerClass || other == handlerClass)) ∧
      h.appendArchive w archive =
        (.ok (), { h with archives := h.archives ++ [archive], classes := classes }) := by
  unfold appendArchive
  cases w.files.isFile archive with
  | false => exact .inl ⟨_, rfl⟩
  | true =>
      obtain ⟨first, marked, has⟩ :=
        { h with archives := h.archives ++ [archive] }.provide_cases markerClass
      obtain ⟨second, handled, hasBoth⟩ :=
        { h with archives := h.archives ++ [archive], classes := first }.provide_cases handlerClass
      refine .inr ⟨second, fun other => ?_, ?_⟩
      · rw [hasBoth]
        simp only [isLoaded] at has ⊢
        rw [has]
      · simp only [Bool.not_true, Bool.false_eq_true, if_false]
        rw [marked, handled]

/-- A method of the marker touches nothing but the marker's two facts. -/
theorem callStatic_marker_cases (method : Host.Method) (args : List Host.Value) :
    ∃ resident instrumented, (h.callStatic markerClass method args).2 =
      { h with residentFingerprint := resident, instrumented := instrumented } := by
  have handled : ¬ markerClass = handlerClass := by decide
  unfold callStatic
  simp only [handled, true_and, false_and, if_false]
  split
  · exact ⟨h.residentFingerprint, h.instrumented, rfl⟩
  split
  · unfold checkHash
    split
    · split
      · exact ⟨h.residentFingerprint, h.instrumented, rfl⟩
      · exact ⟨_, h.instrumented, rfl⟩
    · exact ⟨h.residentFingerprint, h.instrumented, rfl⟩
  split
  · exact ⟨h.residentFingerprint, h.instrumented, rfl⟩
  split
  · exact ⟨h.residentFingerprint, true, rfl⟩
  · exact ⟨h.residentFingerprint, h.instrumented, rfl⟩

/-- A method of any other class touches nothing but the token that the handler holds. -/
theorem callStatic_other_cases {className : String} (other : className ≠ markerClass)
    (method : Host.Method) (args : List Host.Value) :
    ∃ token, (h.callStatic className method args).2 = { h with pendingToken := token } := by
  simp only [callStatic, other, false_and, if_false]
  split
  · exact ⟨h.pendingToken, rfl⟩
  split
  · unfold prepareForHotSwap
    split
    · exact ⟨h.pendingToken, rfl⟩
    · split
      · exact ⟨h.pendingToken, rfl⟩
      · exact ⟨_, rfl⟩
  · exact ⟨h.pendingToken, rfl⟩

/-- The handler is given a token and holds it from then on, if it is there and was hooked. -/
theorem callStatic_prepareForHotSwap_cases (token : Int) :
    (∃ e, h.callStatic handlerClass Session.prepareForHotSwap [.long token] = (.error e, h)) ∨
      h.hooked = true ∧ h.callStatic handlerClass Session.prepareForHotSwap [.long token] =
        (.ok .void, { h with pendingToken := some token }) := by
  have marker : ¬ handlerClass = markerClass := by decide
  unfold callStatic
  simp only [marker, false_and, and_self, if_false, if_true]
  split
  · exact .inl ⟨_, rfl⟩
  · unfold prepareForHotSwap
    cases hooked : h.hooked with
    | false => exact .inl ⟨_, rfl⟩
    | true => exact .inr ⟨rfl, rfl⟩

theorem foldl_seedNative (bindings : List NativeBinding) :
    ∃ natives, bindings.foldl seedNative h = { h with natives := natives } := by
  induction bindings generalizing h with
  | nil => exact ⟨h.natives, rfl⟩
  | cons b rest ih =>
      obtain ⟨natives, same⟩ := ih (h.seedNative b)
      exact ⟨natives, same⟩

/-- Binding natives touches nothing but their table. -/
theorem registerNatives_frame (bindings : List NativeBinding) :
    ∃ natives, (h.registerNatives bindings).2 = { h with natives := natives } := by
  unfold registerNatives
  split
  · exact ⟨h.natives, rfl⟩
  · exact h.foldl_seedNative bindings

/-- Functions that are bound one after another are all bound, if no two have the same name. -/
theorem foldl_seedNative_updates {bindings : List NativeBinding}
    (distinct : (bindings.map fun b => (b.className, b.method)).Nodup) :
    Updates bindings h.natives (bindings.foldl seedNative h).natives := by
  induction bindings generalizing h with
  | nil => exact ⟨List.forall_mem_nil _, fun _ _ => rfl⟩
  | cons first rest ih =>
      obtain ⟨new, distinct⟩ := List.nodup_cons.1 distinct
      have later := ih (h.seedNative first) distinct
      have seeded (key : String × Host.Method) : (h.seedNative first).natives.lookup key =
          if key == (first.className, first.method) then some first.native
          else h.natives.lookup key :=
        lookup_assign ..
      refine ⟨List.forall_mem_cons.2 ⟨?_, later.own⟩, fun key apart => ?_⟩
      · have kept := later.others (first.className, first.method) fun b member same =>
          new (List.mem_map.2 ⟨b, member, same.symm⟩)
        exact kept.trans (by simp [seeded])
      · obtain ⟨other, apart⟩ := List.forall_mem_cons.1 apart
        exact (later.others key apart).trans (by simp [seeded, other])

/-- The agent's natives are bound both at once, or not at all. -/
theorem registerNatives_cases :
    (∃ e, h.registerNatives nativeBindings = (.error e, h)) ∨
    ∃ natives, Updates nativeBindings h.natives natives ∧
      h.registerNatives nativeBindings = (.ok (), { h with natives := natives }) := by
  unfold registerNatives
  cases nativeBindings.find? fun b => !h.isLoaded b.className with
  | some missing => exact .inl ⟨_, rfl⟩
  | none => exact .inr ⟨_, h.foldl_seedNative_updates (by decide), rfl⟩

theorem isSome_lookup_define (changes : ChangeSet) (classes : List (String × ByteArray))
    (known : ∀ d ∈ changes, (classes.lookup d.name).isSome) (other : String) :
    ((define changes classes).lookup other).isSome = (classes.lookup other).isSome := by
  induction changes generalizing classes with
  | nil => rfl
  | cons d rest ih =>
      have same (name : String) :=
        isSome_lookup_assign d.bytecode (known d (List.mem_cons_self ..)) name
      refine (ih (assign d.name d.bytecode classes) fun e member => ?_).trans (same other)
      rw [same]
      exact known e (List.mem_cons_of_mem d member)

/-- Where no definition has a fault every class is loaded that is to get new bytes. -/
theorem loaded_of_faultless {changes : ChangeSet} (faultless : changes.findSome? h.fault? = none) :
    ∀ d ∈ changes, (h.classes.lookup d.name).isSome := by
  intro d member
  have sound := List.findSome?_eq_none_iff.1 faultless d member
  cases loaded : h.isLoaded d.name with
  | true => exact loaded
  | false => simp [fault?, loaded] at sound

/-- Classes get their new bytes all at once, or not at all. -/
theorem redefine_cases (changes : ChangeSet) :
    (∃ e, h.redefine changes = (.error e, h)) ∨
    ∃ classes redefinitions, (∀ other, (classes.lookup other).isSome = h.isLoaded other) ∧
      h.redefine changes =
        (.ok (), { h with classes := classes, redefinitions := redefinitions }) := by
  unfold redefine
  split
  · exact .inl ⟨_, rfl⟩
  cases faulty : changes.findSome? h.fault? with
  | some e => exact .inl ⟨_, rfl⟩
  | none =>
      exact .inr ⟨_, _, isSome_lookup_define changes h.classes (h.loaded_of_faultless faulty), rfl⟩

end Calls

end SimulatedHost

end HotSwap
