/-
# HotSwap.Proofs.Simulated.Redefinition -- all classes or none

A change set is gone through twice: once to look for a definition that cannot be applied, and
then to apply them all.  That the second pass never stops halfway rests on the first, and the
first looks at the process as it was, though a class may be defined more than once.

`Blames` says what is wrong with a definition, and of two reasons gives the first;
`Applicable` says that nothing is.  `redefineClasses_allOrNothing` puts the two passes together:
a redefinition that is granted is refused for the first definition that cannot be applied, and
leaves nothing behind but the count of calls, or it gives every class that it names the bytes of
its last definition.
-/
import HotSwap.Proofs.Simulated.Code

namespace HotSwap

set_option autoImplicit false

namespace SimulatedHost

/-- A definition that a process can take: of a class that is loaded, with bytecode, and of a
class that does not refuse new definitions. -/
structure Applicable (h : SimulatedHost) (d : ClassDefinition) : Prop where
  loaded : (h.classBytes d.name).isSome = true
  bytecode : d.bytecode.size ≠ 0
  compatible : d.name ∉ h.incompatible

/-- What a process has against a definition.  That the class is not loaded comes before that
there is no bytecode, and that before the shape of the class. -/
inductive Blames (h : SimulatedHost) (d : ClassDefinition) : Host.Error → Prop where
  | unknown (absent : h.classBytes d.name = none) : Blames h d ⟨.classNotFound, d.name⟩
  | bare (loaded : (h.classBytes d.name).isSome = true) (none : d.bytecode.size = 0) :
      Blames h d ⟨.invalidClassFormat, d.name ++ " has no bytecode"⟩
  | shape (loaded : (h.classBytes d.name).isSome = true) (some : d.bytecode.size ≠ 0)
      (marked : d.name ∈ h.incompatible) :
      Blames h d ⟨.unsupportedChange, d.name ++ " changes class shape"⟩

/-- The first definition of a change set that cannot be applied, and what is wrong with it. -/
def FirstBlamed (h : SimulatedHost) (changes : ChangeSet) (e : Host.Error) : Prop :=
  ∃ before d after, changes = before ++ d :: after ∧ (∀ earlier ∈ before, h.Applicable earlier) ∧
    h.Blames d e

/-- A process in which a change set was applied. -/
structure Applied (h : SimulatedHost) (changes : ChangeSet) (h' : SimulatedHost) : Prop where
  last : ∀ before d after, changes = before ++ d :: after →
    (∀ later ∈ after, later.name ≠ d.name) → h'.classBytes d.name = some d.bytecode
  others : ∀ name, (∀ d ∈ changes, d.name ≠ name) → h'.classBytes name = h.classBytes name
  counted : h'.redefinitions = h.redefinitions + 1
  rest : h' = { h with
    classes := h'.classes, redefinitions := h'.redefinitions, calls := h.calls + 1 }

variable (h : SimulatedHost)

/-! ## The first pass -/

theorem fault?_eq_none_iff (d : ClassDefinition) : h.fault? d = none ↔ h.Applicable d := by
  constructor
  · intro faultless
    unfold fault? at faultless
    split at faultless
    · cases faultless
    rename_i loaded
    have loaded : h.isLoaded d.name = true := by simpa using loaded
    split at faultless
    · cases faultless
    rename_i bytecode
    split at faultless
    · cases faultless
    rename_i compatible
    exact ⟨loaded, bytecode, by simpa using compatible⟩
  · rintro ⟨loaded, bytecode, compatible⟩
    have loaded : h.isLoaded d.name = true := loaded
    simp [fault?, loaded, bytecode, compatible]

instance (d : ClassDefinition) : Decidable (h.Applicable d) :=
  decidable_of_iff ((h.fault? d).isNone = true)
    (Option.isNone_iff_eq_none.trans (h.fault?_eq_none_iff d))

theorem fault?_eq_some_iff (d : ClassDefinition) (e : Host.Error) :
    h.fault? d = some e ↔ h.Blames d e := by
  constructor
  · intro faulty
    unfold fault? at faulty
    split at faulty
    · rename_i absent
      obtain rfl := Option.some.inj faulty
      have absent : h.isLoaded d.name = false := by simpa using absent
      exact .unknown (Option.not_isSome_iff_eq_none.1 (Bool.eq_false_iff.1 absent))
    rename_i loaded
    have loaded : h.isLoaded d.name = true := by simpa using loaded
    split at faulty
    · rename_i none
      obtain rfl := Option.some.inj faulty
      exact .bare loaded none
    rename_i some
    split at faulty
    · rename_i marked
      obtain rfl := Option.some.inj faulty
      exact .shape loaded some (by simpa using marked)
    · cases faulty
  · intro blames
    cases blames with
    | unknown absent =>
        have absent : h.isLoaded d.name = false := congrArg Option.isSome absent
        simp [fault?, absent, classNotFound]
    | bare loaded none =>
        have loaded : h.isLoaded d.name = true := loaded
        simp [fault?, loaded, none]
    | shape loaded some marked =>
        have loaded : h.isLoaded d.name = true := loaded
        simp [fault?, loaded, some, marked]

/-- The first pass finds nothing just if every definition can be applied. -/
theorem faultless_iff (changes : ChangeSet) :
    changes.findSome? h.fault? = none ↔ ∀ d ∈ changes, h.Applicable d := by
  simp only [List.findSome?_eq_none_iff, fault?_eq_none_iff]

/-- The first pass stops at the first definition that cannot be applied. -/
theorem faulty_iff (changes : ChangeSet) (e : Host.Error) :
    changes.findSome? h.fault? = some e ↔ h.FirstBlamed changes e := by
  simp only [List.findSome?_eq_some_iff, fault?_eq_none_iff, fault?_eq_some_iff, FirstBlamed]
  constructor
  · rintro ⟨before, d, after, split, blames, applicable⟩
    exact ⟨before, d, after, split, applicable, blames⟩
  · rintro ⟨before, d, after, split, applicable, blames⟩
    exact ⟨before, d, after, split, blames, applicable⟩

/-! ## The second pass -/

/-- A class that is defined has the bytes of its last definition. -/
theorem lookup_define_last {before after : ChangeSet} {d : ClassDefinition}
    (last : ∀ later ∈ after, later.name ≠ d.name) (classes : List (String × ByteArray)) :
    (define (before ++ d :: after) classes).lookup d.name = some d.bytecode := by
  have passed : after.reverse.find? (·.name == d.name) = none := by
    simpa using last
  rw [lookup_define, List.reverse_append, List.reverse_cons, List.find?_append, List.find?_append,
    passed]
  simp

/-- A class that is not defined keeps its bytes. -/
theorem lookup_define_other {changes : ChangeSet} {name : String}
    (other : ∀ d ∈ changes, d.name ≠ name) (classes : List (String × ByteArray)) :
    (define changes classes).lookup name = classes.lookup name := by
  have passed : changes.reverse.find? (·.name == name) = none := by
    simpa using other
  rw [lookup_define, passed]

theorem applied_define (changes : ChangeSet) :
    h.Applied changes { h.enter with
      classes := define changes h.classes, redefinitions := h.redefinitions + 1 } where
  last before d after split last := by
    subst split
    exact lookup_define_last last h.classes
  others name other := lookup_define_other other h.classes
  counted := rfl
  rest := rfl

/-! ## Both -/

theorem enter_redefine (changes : ChangeSet) : h.enter.redefine changes =
    if !h.granted.redefineClasses then (.error (notGranted "redefine"), h.enter)
    else
      match changes.findSome? h.fault? with
      | some e => (.error e, h.enter)
      | none => (.ok (), { h.enter with
          classes := define changes h.classes, redefinitions := h.redefinitions + 1 }) := rfl

/-- **A redefinition applies all of a change set or nothing, and tells the first culprit.**  It is
refused where it was not granted, and for the first definition that cannot be applied; it succeeds
just if there is none.  A process that refused has counted the call and is otherwise as it was. -/
theorem redefineClasses_allOrNothing (w : World) (changes : ChangeSet) :
    ∃ result h', Host.Model.answer (.redefineClasses changes) h w = (result, h', w) ∧
      (h.granted.redefineClasses = false →
        result = .error ⟨.notAvailable, "redefine capability not granted"⟩) ∧
      (h.granted.redefineClasses = true →
        (result = .ok () ↔ ∀ d ∈ changes, h.Applicable d) ∧
          ∀ e, result = .error e ↔ h.FirstBlamed changes e) ∧
      (result = .ok () → h.Applied changes h') ∧
      ∀ e, result = .error e → h' = { h with calls := h.calls + 1 } := by
  refine ⟨(h.enter.redefine changes).1, (h.enter.redefine changes).2, rfl, ?_⟩
  rw [← faultless_iff]
  simp only [← faulty_iff]
  rw [enter_redefine]
  cases granted : h.granted.redefineClasses with
  | false => exact ⟨fun _ => rfl, by simp, by simp, fun _ _ => rfl⟩
  | true =>
      cases changes.findSome? h.fault? with
      | some e => exact ⟨by simp, by simp, by simp, fun _ _ => rfl⟩
      | none => exact ⟨by simp, by simp, fun _ => h.applied_define changes, by simp⟩

/-- Two classes are loaded, one of which keeps its shape. -/
def twoClasses : SimulatedHost :=
  { (((fresh 1).withClass "A" "1".toUTF8).withClass "B" "1".toUTF8).withIncompatibleClass "B" with
    granted := .all }

/-- A class that is defined twice. -/
def definedTwice : ChangeSet := [⟨"A", "2".toUTF8⟩, ⟨"A", "3".toUTF8⟩]

/-- Two culprits behind a definition that could be applied; there are two reasons for the first. -/
def twoCulprits : ChangeSet := [⟨"A", "2".toUTF8⟩, ⟨"B", .empty⟩, ⟨"C", "2".toUTF8⟩]

theorem twoClasses_allOrNothing :
    (∃ h', Host.Model.answer (.redefineClasses definedTwice) twoClasses {} = (.ok (), h', {}) ∧
        h'.classBytes "A" = some "3".toUTF8 ∧ h'.redefinitions = 1) ∧
      Host.Model.answer (.redefineClasses twoCulprits) twoClasses {} =
        (.error ⟨.invalidClassFormat, "B has no bytecode"⟩, { twoClasses with calls := 1 }, {}) := by
  have able : twoClasses.granted.redefineClasses = true := rfl
  constructor
  · obtain ⟨result, h', answered, -, granted, applied, -⟩ :=
      twoClasses.redefineClasses_allOrNothing {} definedTwice
    obtain rfl := (granted able).1.2 (by decide)
    have last := (applied rfl).last [⟨"A", "2".toUTF8⟩] ⟨"A", "3".toUTF8⟩ [] rfl nofun
    exact ⟨h', answered, last, (applied rfl).counted⟩
  · obtain ⟨result, h', answered, -, granted, -, refused⟩ :=
      twoClasses.redefineClasses_allOrNothing {} twoCulprits
    have blamed : twoClasses.FirstBlamed twoCulprits
        ⟨.invalidClassFormat, "B has no bytecode"⟩ :=
      ⟨[⟨"A", "2".toUTF8⟩], ⟨"B", .empty⟩, [⟨"C", "2".toUTF8⟩], rfl, by decide,
        .bare (by decide) rfl⟩
    obtain rfl := ((granted able).2 _).2 blamed
    rw [answered, refused _ rfl]
    rfl

end SimulatedHost

end HotSwap
