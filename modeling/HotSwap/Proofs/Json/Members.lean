/-
# HotSwap.Proofs.Json.Members -- what the members of an object give

The members of an object that are declared fields are one list (`found`), and whether the object
is read at all is said of it without regard to order: every key has to be a text, and no field
may come twice (`Admitted`).  `record?_object` puts the two together.
-/
import HotSwap.Json.Record
import Mathlib.Data.List.Nodup

namespace HotSwap.Json

set_option autoImplicit false

/-- A member that is a field, under its name. -/
def field? (names : List String) (m : Raw × Value) : Option (String × Value) :=
  m.1.decode?.bind fun key => if key ∈ names then some (key, m.2) else none

/-- The members that are fields, in the order they come in. -/
def found (names : List String) (ms : List (Raw × Value)) : Fields := ms.filterMap (field? names)

section

variable {names : List String} {ms : List (Raw × Value)} {key : Raw} {name : String} {v : Value}

theorem found_known (known : name ∈ names) (decoded : key.decode? = some name) :
    found names ((key, v) :: ms) = (name, v) :: found names ms :=
  List.filterMap_cons_some (by simp [field?, decoded, known])

theorem found_unknown (unknown : name ∉ names) (decoded : key.decode? = some name) :
    found names ((key, v) :: ms) = found names ms :=
  List.filterMap_cons_none (by simp [field?, decoded, unknown])

/-- A field is found if a member has its name. -/
theorem mem_found : (name, v) ∈ found names ms ↔
    name ∈ names ∧ ∃ key, (key, v) ∈ ms ∧ key.decode? = some name := by
  simp only [found, List.mem_filterMap, field?, Option.bind_eq_some_iff, Prod.exists]
  constructor
  · rintro ⟨key, w, member, found, decoded, taken⟩
    split at taken
    · obtain ⟨rfl, rfl⟩ := Prod.mk.inj (Option.some.inj taken)
      exact ⟨‹_›, key, member, decoded⟩
    · cases taken
  · rintro ⟨known, key, member, decoded⟩
    exact ⟨key, v, member, name, decoded, if_pos known⟩

end

/-- Members that are no reason to refuse an object: every key is a text, and no field comes
twice. -/
structure Admitted (names : List String) (ms : List (Raw × Value)) : Prop where
  decoded : ∀ m ∈ ms, m.1.decode?.isSome
  apart : ((found names ms).map (·.1)).Nodup

theorem Admitted.cons_known {names : List String} {ms : List (Raw × Value)} {key : Raw}
    {name : String} {v : Value} (known : name ∈ names) (decoded : key.decode? = some name) :
    Admitted names ((key, v) :: ms) ↔
      Admitted names ms ∧ ∀ field ∈ found names ms, field.1 ≠ name := by
  constructor
  · intro admitted
    have apart := admitted.apart
    rw [found_known known decoded, List.map_cons, List.nodup_cons] at apart
    refine ⟨⟨fun m member => admitted.decoded m (List.mem_cons_of_mem _ member), apart.2⟩, ?_⟩
    rintro field member rfl
    exact apart.1 (List.mem_map.2 ⟨field, member, rfl⟩)
  · rintro ⟨admitted, other⟩
    refine ⟨?_, ?_⟩
    · rintro m (_ | ⟨_, member⟩)
      · simp [decoded]
      · exact admitted.decoded m member
    · rw [found_known known decoded, List.map_cons, List.nodup_cons]
      refine ⟨fun again => ?_, admitted.apart⟩
      obtain ⟨field, member, same⟩ := List.mem_map.1 again
      exact other field member same

theorem Admitted.cons_unknown {names : List String} {ms : List (Raw × Value)} {key : Raw}
    {name : String} {v : Value} (unknown : name ∉ names) (decoded : key.decode? = some name) :
    Admitted names ((key, v) :: ms) ↔ Admitted names ms := by
  constructor
  · intro admitted
    have apart := admitted.apart
    rw [found_unknown unknown decoded] at apart
    exact ⟨fun m member => admitted.decoded m (List.mem_cons_of_mem _ member), apart⟩
  · intro admitted
    refine ⟨?_, by rw [found_unknown unknown decoded]; exact admitted.apart⟩
    rintro m (_ | ⟨_, member⟩)
    · simp [decoded]
    · exact admitted.decoded m member

/-- Names are unheld behind a new one if they are other names, and were unheld. -/
theorem lookup_cons_eq_none_iff {name : String} {v : Value} {before fields : Fields} :
    (∀ field ∈ fields, ((name, v) :: before).lookup field.1 = none) ↔
      (∀ field ∈ fields, field.1 ≠ name) ∧ ∀ field ∈ fields, before.lookup field.1 = none := by
  rw [← forall₂_and]
  refine forall₂_congr fun field _ => ?_
  rw [List.lookup_cons]
  by_cases same : field.1 = name
  · simp [same]
  · have passes : (field.1 == name) = false := by simpa using same
    simp [same, passes]

theorem ofMembers?_iff {names : List String} {before result : Fields} {ms : List (Raw × Value)} :
    ofMembers? names before ms = some result ↔
      Admitted names ms ∧ (∀ field ∈ found names ms, before.lookup field.1 = none) ∧
        result = (found names ms).reverse ++ before := by
  induction ms generalizing before with
  | nil =>
      rw [ofMembers?, Option.some.injEq, eq_comm]
      exact ⟨fun same => ⟨⟨nofun, .nil⟩, nofun, same⟩, fun all => all.2.2⟩
  | cons m ms ih =>
      obtain ⟨key, v⟩ := m
      rw [ofMembers?, addMember?]
      cases decoded : key.decode? with
      | none =>
          refine iff_of_false (by simp) fun refused => ?_
          have text := refused.1.decoded (key, v) (List.mem_cons_self ..)
          simp [decoded] at text
      | some name =>
          by_cases known : name ∈ names
          · have contained : names.contains name = true := by simpa using known
            rw [Admitted.cons_known known decoded, found_known known decoded]
            cases held : before.lookup name with
            | some w =>
                simp only [contained, if_true, held, Option.isSome_some]
                refine iff_of_false (by simp) fun refused => ?_
                have absent := refused.2.1 (name, v) (List.mem_cons_self ..)
                cases held.symm.trans absent
            | none =>
                simp only [contained, if_true, Option.isSome_none, Bool.false_eq_true, if_false,
                  held, ih, lookup_cons_eq_none_iff, List.mem_cons, forall_eq_or_imp,
                  List.reverse_cons, List.append_assoc, List.singleton_append, true_and, and_assoc]
          · have passed : names.contains name = false := by simpa using known
            rw [Admitted.cons_unknown known decoded, found_unknown known decoded]
            simp only [passed, Bool.false_eq_true, if_false, ih]

/-- An object is read just if its members are admitted. -/
theorem record?_object {names : List String} {ms : List (Raw × Value)} {fields : Fields} :
    (Value.object ms).record? names = some fields ↔
      Admitted names ms ∧ fields = (found names ms).reverse := by
  rw [Value.record?, ofMembers?_iff]
  simp

end HotSwap.Json
