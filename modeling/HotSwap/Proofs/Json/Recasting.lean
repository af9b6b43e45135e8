/-
# HotSwap.Proofs.Json.Recasting -- other documents for the same record

A record is known by its declared fields (`Layout`), each with its name, how it is read and what
it is when it is left out.  `Recast` is one step from a document to another that is to mean the
same record: members change their order, a member that is no field is put in or given another
value, a key is written in another way, a member goes whose value is what its absence means, or
the whole becomes an array of its fields.  `Within` and `InItem` take a step to a field and to an
item of an array.

What an object gives does not depend on the order of its members (`record?_object`), so a step
may be looked at where it stands in front of the others.  It keeps what each field reads as
(`Recast.keeps`, `Within.keeps`), while a field that is doubled leaves nothing to read
(`Doubled.refused`).
-/
import HotSwap.Proofs.Json.RoundTrip

namespace HotSwap.Json

set_option autoImplicit false

/-! ## Characters -/

/-- The ways to write a character in a string: its bytes, its unit, or the pair of units that
stands for it. -/
inductive Form (c : Char) : Raw → Prop where
  | bytes : Form c ((String.utf8EncodeChar c).map .byte)
  | unit (short : c.toNat < 0x10000) : Form c [.unit (UInt16.ofNat c.toNat)]
  | pair (long : 0x10000 ≤ c.toNat) :
      Form c [.unit (UInt16.ofNat (0xd800 + (c.toNat - 0x10000) / 0x400)),
        .unit (UInt16.ofNat (0xdc00 + (c.toNat - 0x10000) % 0x400))]

/-- Strings of the same characters, each written in any way. -/
inductive Raw.Alike : Raw → Raw → Prop where
  | nil : Alike [] []
  | byte (b : UInt8) {raw raw' : Raw} (rest : Alike raw raw') :
      Alike (.byte b :: raw) (.byte b :: raw')
  | char {c : Char} {form form' raw raw' : Raw} (one : Form c form) (other : Form c form')
      (rest : Alike raw raw') : Alike (form ++ raw) (form' ++ raw')

theorem isHigh_iff (u : UInt16) : isHigh u = true ↔ 0xd800 ≤ u.toNat ∧ u.toNat < 0xdc00 := by
  simp [isHigh, UInt16.le_iff_toNat_le, UInt16.lt_iff_toNat_lt]

theorem isLow_iff (u : UInt16) : isLow u = true ↔ 0xdc00 ≤ u.toNat ∧ u.toNat < 0xe000 := by
  simp [isLow, UInt16.le_iff_toNat_le, UInt16.lt_iff_toNat_lt]

/-- A character is no half of a pair, and no number above the last character. -/
theorem char_bounds (c : Char) :
    (c.toNat < 0xd800 ∨ 0xe000 ≤ c.toNat) ∧ c.toNat < 0x110000 := by
  have valid : c.toNat < 0xd800 ∨ 0xdfff < c.toNat ∧ c.toNat < 0x110000 := c.valid
  omega

theorem bytesOnto?_bytes (done bytes : List UInt8) (raw : Raw) :
    Raw.bytesOnto? done (bytes.map .byte ++ raw) = Raw.bytesOnto? (bytes.reverse ++ done) raw := by
  induction bytes generalizing done with
  | nil => rfl
  | cons b bytes ih =>
      rw [List.map_cons, List.cons_append, Raw.bytesOnto?, ih]
      simp

/-- A character stands for its bytes in whatever way it is written. -/
theorem bytesOnto?_form {c : Char} {form : Raw} (written : Form c form) (done : List UInt8)
    (raw : Raw) :
    Raw.bytesOnto? done (form ++ raw) =
      Raw.bytesOnto? ((String.utf8EncodeChar c).reverse ++ done) raw := by
  obtain ⟨whole, last⟩ := char_bounds c
  cases written with
  | bytes => exact bytesOnto?_bytes done _ raw
  | unit short =>
      have value : (UInt16.ofNat c.toNat).toNat = c.toNat := by
        rw [UInt16.toNat_ofNat']
        omega
      have high : isHigh (UInt16.ofNat c.toNat) = false := by
        rw [← Bool.not_eq_true, isHigh_iff, value]
        omega
      have low : isLow (UInt16.ofNat c.toNat) = false := by
        rw [← Bool.not_eq_true, isLow_iff, value]
        omega
      rw [List.singleton_append, bytesOnto?_unit high low, value, Char.ofNat_toNat]
  | pair long =>
      have first : (UInt16.ofNat (0xd800 + (c.toNat - 0x10000) / 0x400)).toNat =
          0xd800 + (c.toNat - 0x10000) / 0x400 := by
        rw [UInt16.toNat_ofNat']
        omega
      have second : (UInt16.ofNat (0xdc00 + (c.toNat - 0x10000) % 0x400)).toNat =
          0xdc00 + (c.toNat - 0x10000) % 0x400 := by
        rw [UInt16.toNat_ofNat']
        omega
      have high := (isHigh_iff (.ofNat (0xd800 + (c.toNat - 0x10000) / 0x400))).2 (by omega)
      have low := (isLow_iff (.ofNat (0xdc00 + (c.toNat - 0x10000) % 0x400))).2 (by omega)
      have paired : pairChar (.ofNat (0xd800 + (c.toNat - 0x10000) / 0x400))
          (.ofNat (0xdc00 + (c.toNat - 0x10000) % 0x400)) = c := by
        rw [pairChar, first, second]
        refine (congrArg Char.ofNat ?_).trans (Char.ofNat_toNat c)
        omega
      rw [List.cons_append, List.cons_append, List.nil_append, Raw.bytesOnto?, if_pos high,
        if_pos low, paired]

theorem Raw.Alike.decode? {raw raw' : Raw} (alike : Raw.Alike raw raw') :
    raw.decode? = raw'.decode? := by
  have bytes (done : List UInt8) : Raw.bytesOnto? done raw = Raw.bytesOnto? done raw' := by
    induction alike generalizing done with
    | nil => rfl
    | byte b _ ih =>
        rw [Raw.bytesOnto?, Raw.bytesOnto?]
        exact ih _
    | char one other _ ih =>
        rw [bytesOnto?_form one, bytesOnto?_form other]
        exact ih _
  rw [Raw.decode?, Raw.decode?, bytes]

/-! ## Fields -/

/-- A field of a record: its name, how it is read, and what it is when it is left out, if it may
be. -/
structure Field where
  name : String
  Data : Type
  read : Value → Option Data
  absent : Option Data

namespace Field

/-- What a field comes to among the fields that were found. -/
def of (f : Field) (fields : Fields) : Option f.Data :=
  match fields.lookup f.name with
  | none => f.absent
  | some v => f.read v

/-- A value that says what is meant when the field is left out. -/
def Idle (f : Field) (v : Value) : Prop := f.absent.isSome ∧ f.read v = f.absent

theorem of_none {f : Field} {fields : Fields} (absent : fields.lookup f.name = none) :
    f.of fields = f.absent := by
  rw [of, absent]

theorem of_some {f : Field} {fields : Fields} {v : Value}
    (held : fields.lookup f.name = some v) : f.of fields = f.read v := by
  rw [of, held]

theorem of_congr {f : Field} {fields fields' : Fields}
    (same : fields.lookup f.name = fields'.lookup f.name) : f.of fields = f.of fields' := by
  rw [of, of, same]

end Field

/-- The fields of a record in the declared order, no two of one name. -/
structure Layout where
  fields : List Field
  apart : (fields.map (·.name)).Nodup

/-- The names of the fields of a record. -/
def Layout.names (layout : Layout) : List String := layout.fields.map (·.name)

theorem Layout.mem_names {layout : Layout} {f : Field} (declared : f ∈ layout.fields) :
    f.name ∈ layout.names := List.mem_map.2 ⟨f, declared, rfl⟩

/-! ### Fields under different names -/

section

variable {fields fields' front back : Fields} {key name : String} {v w : Value}

theorem lookup_first (new : ∀ field ∈ front, field.1 ≠ key) :
    (front ++ (key, v) :: back).lookup key = some v :=
  List.lookup_eq_some_iff.2 ⟨front, back, rfl, fun field member => by
    simpa using (new field member).symm⟩

theorem lookup_absent (absent : ∀ field ∈ fields, field.1 ≠ key) : fields.lookup key = none :=
  List.lookup_eq_none_iff.2 fun field member => by simpa using (absent field member).symm

theorem lookup_other (other : key ≠ name) :
    (front ++ (name, v) :: back).lookup key = (front ++ back).lookup key := by
  have passes : (key == name) = false := by simpa using other
  simp only [List.lookup_append, List.lookup_cons, passes]

theorem lookup_of_mem (apart : (fields.map (·.1)).Nodup) (member : (key, v) ∈ fields) :
    fields.lookup key = some v := by
  obtain ⟨front, back, rfl⟩ := List.append_of_mem member
  rw [List.map_append, List.map_cons, List.nodup_append] at apart
  exact lookup_first fun field held =>
    apart.2.2 field.1 (List.mem_map.2 ⟨field, held, rfl⟩) key (List.mem_cons_self ..)

theorem lookup_perm (apart : (fields.map (·.1)).Nodup) (perm : fields.Perm fields')
    (key : String) : fields.lookup key = fields'.lookup key := by
  cases held : fields'.lookup key with
  | none =>
      rw [List.lookup_eq_none_iff] at held ⊢
      exact fun field member => held field (perm.subset member)
  | some v =>
      obtain ⟨front, back, rfl, -⟩ := List.lookup_eq_some_iff.1 held
      exact lookup_of_mem apart (perm.symm.subset (by simp))

end

namespace Field

theorem of_absent {f : Field} {fields : Fields} (absent : ∀ field ∈ fields, field.1 ≠ f.name) :
    f.of fields = f.absent := of_none (lookup_absent absent)

theorem of_first {f : Field} {front back : Fields} {v : Value}
    (new : ∀ field ∈ front, field.1 ≠ f.name) : f.of (front ++ (f.name, v) :: back) = f.read v :=
  of_some (lookup_first new)

theorem of_other {f : Field} {front back : Fields} {name : String} {v : Value}
    (other : f.name ≠ name) : f.of (front ++ (name, v) :: back) = f.of (front ++ back) :=
  of_congr (lookup_other other)

theorem of_head {f : Field} {fields : Fields} {v : Value} :
    f.of ((f.name, v) :: fields) = f.read v := of_some List.lookup_cons_self

theorem of_tail {f : Field} {fields : Fields} {name : String} {v : Value}
    (other : f.name ≠ name) : f.of ((name, v) :: fields) = f.of fields :=
  @of_other f [] fields name v other

end Field

/-! ## Steps -/

/-- Whatever the fields of one document come to, they come to the same in the other. -/
def Keeps (layout : Layout) (v v' : Value) : Prop :=
  ∀ fields, v.record? layout.names = some fields →
    ∃ fields', v'.record? layout.names = some fields' ∧
      ∀ f ∈ layout.fields, ∀ a, f.of fields = some a → f.of fields' = some a

/-- The values of the fields of an object in the declared order.  For a field that the object
leaves out stands a value that says the same; at the end there may stand none. -/
inductive Row (ms : List (Raw × Value)) : List Field → List Value → Prop where
  | ended {fields : List Field}
      (absent : ∀ f ∈ fields, ∀ m ∈ ms, m.1.decode? ≠ some f.name) : Row ms fields []
  | held {f : Field} {fields : List Field} {key : Raw} {v : Value} {items : List Value}
      (member : (key, v) ∈ ms) (decoded : key.decode? = some f.name)
      (rest : Row ms fields items) : Row ms (f :: fields) (v :: items)
  | idle {f : Field} {fields : List Field} {v : Value} {items : List Value}
      (absent : ∀ m ∈ ms, m.1.decode? ≠ some f.name) (idle : f.Idle v)
      (rest : Row ms fields items) : Row ms (f :: fields) (v :: items)

/-- One step to another document for the same record. -/
inductive Recast (layout : Layout) : Value → Value → Prop where
  /-- The members of an object come in another order. -/
  | reordered {ms ms' : List (Raw × Value)} (perm : ms.Perm ms') :
      Recast layout (.object ms) (.object ms')
  /-- A member comes in that is no field. -/
  | added {ms ms' : List (Raw × Value)} {key : Raw} {name : String} (v : Value)
      (decoded : key.decode? = some name) (unknown : name ∉ layout.names) :
      Recast layout (.object (ms ++ ms')) (.object (ms ++ (key, v) :: ms'))
  /-- A member that is no field gets another value. -/
  | changed {ms ms' : List (Raw × Value)} {key : Raw} {name : String} (v v' : Value)
      (decoded : key.decode? = some name) (unknown : name ∉ layout.names) :
      Recast layout (.object (ms ++ (key, v) :: ms')) (.object (ms ++ (key, v') :: ms'))
  /-- A key is written in another way. -/
  | renamed {ms ms' : List (Raw × Value)} {key key' : Raw} {v : Value} (alike : key.Alike key') :
      Recast layout (.object (ms ++ (key, v) :: ms')) (.object (ms ++ (key', v) :: ms'))
  /-- A member goes whose value is what its absence means. -/
  | dropped {ms ms' : List (Raw × Value)} {key : Raw} {f : Field} {v : Value}
      (declared : f ∈ layout.fields) (decoded : key.decode? = some f.name) (idle : f.Idle v) :
      Recast layout (.object (ms ++ (key, v) :: ms')) (.object (ms ++ ms'))
  /-- An object becomes the array of its fields. -/
  | listed {ms : List (Raw × Value)} {items : List Value} (row : Row ms layout.fields items) :
      Recast layout (.object ms) (.array items)

/-- A change to the value of a field, which stands in an object under its name or in an array at
its place. -/
inductive Within (names : List String) (name : String) (change : Value → Value → Prop) :
    Value → Value → Prop where
  | member {ms ms' : List (Raw × Value)} {key : Raw} {v v' : Value}
      (decoded : key.decode? = some name) (changes : change v v') :
      Within names name change (.object (ms ++ (key, v) :: ms')) (.object (ms ++ (key, v') :: ms'))
  | item {before after : List String} {vs vs' : List Value} {v v' : Value}
      (declared : names = before ++ name :: after) (place : before.length = vs.length)
      (changes : change v v') :
      Within names name change (.array (vs ++ v :: vs')) (.array (vs ++ v' :: vs'))

/-- A change to an item of an array. -/
inductive InItem (change : Value → Value → Prop) : Value → Value → Prop where
  | item {vs vs' : List Value} {v v' : Value} (changes : change v v') :
      InItem change (.array (vs ++ v :: vs')) (.array (vs ++ v' :: vs'))

/-- A text that is written in another way. -/
inductive Respelled : Value → Value → Prop where
  | string {raw raw' : Raw} (alike : raw.Alike raw') : Respelled (.string raw) (.string raw')

/-- An object with a second member for a field that it has. -/
inductive Doubled (names : List String) : Value → Value → Prop where
  | again {ms ms' : List (Raw × Value)} {m m' : Raw × Value} {name : String}
      (known : name ∈ names) (member : m ∈ ms ++ ms') (decoded : m.1.decode? = some name)
      (same : m'.1.decode? = some name) :
      Doubled names (.object (ms ++ ms')) (.object (ms ++ m' :: ms'))

/-! ### What a step keeps -/

section

variable {layout : Layout} {ms ms' rest : List (Raw × Value)} {m m' : Raw × Value} {key : Raw}
  {v v' w : Value}

theorem Keeps.trans (first : Keeps layout v v') (second : Keeps layout v' w) :
    Keeps layout v w := by
  intro fields read
  obtain ⟨fields', read', same⟩ := first fields read
  obtain ⟨fields'', read'', same'⟩ := second fields' read'
  exact ⟨fields'', read'', fun f declared a of => same' f declared a (same f declared a of)⟩

theorem Admitted.perm {names : List String} (admitted : Admitted names ms) (perm : ms.Perm ms') :
    Admitted names ms' where
  decoded m member := admitted.decoded m (perm.symm.subset member)
  apart := ((perm.filterMap _).map _).nodup_iff.1 admitted.apart

/-- What a field of an object comes to, whatever the order of the fields that were found. -/
theorem Field.of_object {f : Field} {names : List String} {fields fields' : Fields}
    (read : (Value.object ms).record? names = some fields)
    (perm : (found names ms).Perm fields') : f.of fields = f.of fields' := by
  obtain ⟨admitted, rfl⟩ := record?_object.1 read
  have turned := perm.symm.trans (List.reverse_perm _).symm
  have apart := (perm.map (·.1)).nodup_iff.1 admitted.apart
  exact (Field.of_congr (lookup_perm apart turned f.name)).symm

/-- For an object it is enough to look at the members that are fields. -/
theorem Keeps.object (still : Admitted layout.names ms → Admitted layout.names ms' ∧
    ∀ f ∈ layout.fields, ∀ a, f.of (found layout.names ms) = some a →
      f.of (found layout.names ms') = some a) : Keeps layout (.object ms) (.object ms') := by
  intro fields read
  obtain ⟨admitted', same⟩ := still (record?_object.1 read).1
  have read' := record?_object.2 ⟨admitted', rfl⟩
  refine ⟨_, read', fun f declared a of => ?_⟩
  rw [Field.of_object read (.refl _)] at of
  exact (Field.of_object read' (.refl _)).trans (same f declared a of)

theorem Keeps.perm (perm : ms.Perm ms') : Keeps layout (.object ms) (.object ms') := by
  refine .object fun admitted => ⟨admitted.perm perm, fun f _ a of => ?_⟩
  rw [← of]
  exact (Field.of_congr (lookup_perm admitted.apart (perm.filterMap _) f.name)).symm

/-- What happens to a member may be looked at in front of the others. -/
theorem Keeps.middle
    (front : Keeps layout (.object (m :: (ms ++ rest))) (.object (m' :: (ms ++ rest)))) :
    Keeps layout (.object (ms ++ m :: rest)) (.object (ms ++ m' :: rest)) :=
  ((Keeps.perm List.perm_middle).trans front).trans (Keeps.perm List.perm_middle.symm)

theorem Layout.eq_of_name {f g : Field} (declared : f ∈ layout.fields)
    (declared' : g ∈ layout.fields) (same : f.name = g.name) : f = g :=
  List.inj_on_of_nodup_map layout.apart declared declared' same

/-- A row reads as the object does whose fields it holds. -/
theorem Row.reads {names : List String} {fields : List Field} {items : List Value}
    (row : Row ms fields items) (admitted : Admitted names ms)
    (known : ∀ f ∈ fields, f.name ∈ names) (apart : (fields.map (·.name)).Nodup) :
    items.length ≤ fields.length ∧ ∀ f ∈ fields, ∀ a, f.of (found names ms) = some a →
      f.of ((fields.map (·.name)).zip items) = some a := by
  have missing {f : Field} (absent : ∀ m ∈ ms, m.1.decode? ≠ some f.name) :
      f.of (found names ms) = f.absent := by
    refine Field.of_absent ?_
    rintro ⟨name, v⟩ member rfl
    obtain ⟨-, key, member, decoded⟩ := mem_found.1 member
    exact absent (key, v) member decoded
  -- one more field, whose value reads as the field does, in front of a row that does so
  have one {f : Field} {fields : List Field} {v : Value} {items : List Value}
      (apart : ((f :: fields).map (·.name)).Nodup) (head : f.of (found names ms) = f.read v)
      (rest : ∀ g ∈ fields, ∀ a, g.of (found names ms) = some a →
        g.of ((fields.map (·.name)).zip items) = some a) :
      ∀ g ∈ f :: fields, ∀ a, g.of (found names ms) = some a →
        g.of (((f :: fields).map (·.name)).zip (v :: items)) = some a := by
    rintro g (_ | ⟨_, later⟩) a of
    · rw [List.map_cons, List.zip_cons_cons, Field.of_head, ← head]
      exact of
    · have other : g.name ≠ f.name := fun same =>
        (List.nodup_cons.1 apart).1 (List.mem_map.2 ⟨g, later, same⟩)
      rw [List.map_cons, List.zip_cons_cons, Field.of_tail other]
      exact rest g later a of
  induction row with
  | @ended fields absent =>
      refine ⟨Nat.zero_le _, fun f declared a of => ?_⟩
      rw [missing (absent f declared)] at of
      rwa [List.zip_nil_right, Field.of_absent (List.forall_mem_nil _)]
  | @held f fields key v items member decoded row ih =>
      obtain ⟨short, rest⟩ := ih (fun g later => known g (List.mem_cons_of_mem _ later))
        (List.nodup_cons.1 apart).2
      have held : (f.name, v) ∈ found names ms :=
        mem_found.2 ⟨known f (List.mem_cons_self ..), key, member, decoded⟩
      exact ⟨Nat.succ_le_succ short,
        one apart (Field.of_some (lookup_of_mem admitted.apart held)) rest⟩
  | @idle f fields v items absent idle row ih =>
      obtain ⟨short, rest⟩ := ih (fun g later => known g (List.mem_cons_of_mem _ later))
        (List.nodup_cons.1 apart).2
      exact ⟨Nat.succ_le_succ short, one apart ((missing absent).trans idle.2.symm) rest⟩

theorem Recast.keeps (recast : Recast layout v v') : Keeps layout v v' := by
  cases recast with
  | reordered perm => exact .perm perm
  | @added ms ms' key name v decoded unknown =>
      refine Keeps.trans (.object fun admitted => ?_) (Keeps.perm List.perm_middle.symm)
      refine ⟨(Admitted.cons_unknown unknown decoded).2 admitted, fun f _ a of => ?_⟩
      rwa [found_unknown unknown decoded]
  | @changed ms ms' key name v v' decoded unknown =>
      refine .middle (.object fun admitted => ?_)
      have rest := (Admitted.cons_unknown unknown decoded).1 admitted
      refine ⟨(Admitted.cons_unknown unknown decoded).2 rest, fun f _ a of => ?_⟩
      rwa [found_unknown unknown decoded] at of ⊢
  | @renamed ms ms' key key' v alike =>
      refine .middle (.object fun admitted => ?_)
      have same : found layout.names ((key', v) :: (ms ++ ms')) =
          found layout.names ((key, v) :: (ms ++ ms')) := by
        simp only [found, List.filterMap_cons, field?, alike.decode?]
      refine ⟨⟨?_, by rw [same]; exact admitted.apart⟩, fun f _ a of => by rwa [same]⟩
      rintro m (_ | ⟨_, member⟩)
      · have text := admitted.decoded (key, v) (List.mem_cons_self ..)
        rwa [alike.decode?] at text
      · exact admitted.decoded m (List.mem_cons_of_mem _ member)
  | @dropped ms ms' key f v declared decoded idle =>
      refine Keeps.trans (Keeps.perm List.perm_middle) (.object fun admitted => ?_)
      have known := layout.mem_names declared
      obtain ⟨rest, other⟩ := (Admitted.cons_known known decoded).1 admitted
      refine ⟨rest, fun g declared' a of => ?_⟩
      rw [found_known known decoded] at of
      by_cases same : g.name = f.name
      · obtain rfl := layout.eq_of_name declared' declared same
        rw [Field.of_absent other, ← of, Field.of_head]
        exact idle.2.symm
      · rwa [Field.of_tail same] at of
  | @listed ms items row =>
      intro fields read
      obtain ⟨short, same⟩ := row.reads (record?_object.1 read).1
        (fun f declared => layout.mem_names declared) layout.apart
      have length : items.length ≤ layout.names.length := by
        rw [Layout.names, List.length_map]
        exact short
      refine ⟨layout.names.zip items, if_pos length, fun f declared a of => same f declared a ?_⟩
      rwa [Field.of_object read (.refl _)] at of

/-! ### What a step inside keeps and spoils -/

/-- A change behind which a reading gives what it gave. -/
def Preserves {α : Type} (change : Value → Value → Prop) (read : Value → Option α) : Prop :=
  ∀ v v' a, change v v' → read v = some a → read v' = some a

/-- A change behind which a reading gives nothing. -/
def Spoils {α : Type} (change : Value → Value → Prop) (read : Value → Option α) : Prop :=
  ∀ v v', change v v' → read v' = none

theorem respelled_preserves : Preserves Respelled Value.string? := by
  rintro _ _ a ⟨alike⟩ read
  rw [← read]
  exact alike.decode?.symm

theorem Within.flip {names : List String} {name : String} {change : Value → Value → Prop}
    (within : Within names name change v v') : Within names name (fun w w' => change w' w) v' v := by
  cases within with
  | member decoded changes => exact .member decoded changes
  | item declared place changes => exact .item declared place changes

/-- A change inside a field leaves the others alone. -/
theorem Within.reads {f : Field} (declared : f ∈ layout.fields) {change : Value → Value → Prop}
    (within : Within layout.names f.name change v v') :
    ∃ w w', change w w' ∧ ∀ fields, v.record? layout.names = some fields →
      f.of fields = f.read w ∧ ∃ fields', v'.record? layout.names = some fields' ∧
        f.of fields' = f.read w' ∧ ∀ g : Field, g.name ≠ f.name → g.of fields' = g.of fields := by
  cases within with
  | @member ms ms' key w w' decoded changes =>
      have known := layout.mem_names declared
      have perm (w : Value) : (found layout.names (ms ++ (key, w) :: ms')).Perm
          ((f.name, w) :: found layout.names (ms ++ ms')) := by
        rw [← found_known known decoded]
        exact List.perm_middle.filterMap _
      refine ⟨w, w', changes, fun fields read => ?_⟩
      have rest := (Admitted.cons_known known decoded).1
        ((record?_object.1 read).1.perm List.perm_middle)
      have admitted' : Admitted layout.names (ms ++ (key, w') :: ms') :=
        ((Admitted.cons_known known decoded).2 rest).perm List.perm_middle.symm
      have read' := record?_object.2 ⟨admitted', rfl⟩
      refine ⟨(Field.of_object read (perm w)).trans Field.of_head, _, read',
        (Field.of_object read' (perm w')).trans Field.of_head, fun g other => ?_⟩
      rw [Field.of_object read' (perm w'), Field.of_object read (perm w), Field.of_tail other,
        Field.of_tail other]
  | @item before after vs vs' w w' names place changes =>
      have zipped (w : Value) : layout.names.zip (vs ++ w :: vs') =
          before.zip vs ++ (f.name, w) :: after.zip vs' := by
        rw [names, List.zip_append place, List.zip_cons_cons]
      have new : ∀ field ∈ before.zip vs, field.1 ≠ f.name := by
        rintro ⟨name, v⟩ member rfl
        have apart : layout.names.Nodup := layout.apart
        rw [names, List.nodup_middle, List.nodup_cons] at apart
        exact apart.1 (List.mem_append_left _ (List.of_mem_zip member).1)
      refine ⟨w, w', changes, fun fields read => ?_⟩
      obtain ⟨short, rfl⟩ : (vs ++ w :: vs').length ≤ layout.names.length ∧
          layout.names.zip (vs ++ w :: vs') = fields := by
        simpa [Value.record?] using read
      rw [zipped w]
      refine ⟨Field.of_first new, before.zip vs ++ (f.name, w') :: after.zip vs', ?_,
        Field.of_first new, fun g other => ?_⟩
      · rw [← zipped w', Value.record?, if_pos]
        simpa using short
      · rw [Field.of_other other, Field.of_other other]

theorem Within.keeps {f : Field} (declared : f ∈ layout.fields) {change : Value → Value → Prop}
    (within : Within layout.names f.name change v v') (preserves : Preserves change f.read) :
    Keeps layout v v' := by
  intro fields read
  obtain ⟨w, w', changes, reads⟩ := within.reads declared
  obtain ⟨held, fields', read', held', other⟩ := reads fields read
  refine ⟨fields', read', fun g declared' a of => ?_⟩
  by_cases same : g.name = f.name
  · obtain rfl := layout.eq_of_name declared' declared same
    exact held'.trans (preserves w w' a changes (held.symm.trans of))
  · exact (other g same).trans of

theorem Within.spoils {f : Field} (declared : f ∈ layout.fields) {change : Value → Value → Prop}
    (within : Within layout.names f.name change v v') (spoils : Spoils change f.read)
    {fields : Fields} (read : v'.record? layout.names = some fields) : f.of fields = none := by
  obtain ⟨w', w, changes, reads⟩ := within.flip.reads declared
  exact (reads fields read).1.trans (spoils w w' changes)

theorem Doubled.refused {names : List String} (doubled : Doubled names v v') :
    v'.record? names = none := by
  cases doubled with
  | @again ms ms' m m' name known member decoded same =>
      rw [Option.eq_none_iff_forall_ne_some]
      intro fields read
      obtain ⟨admitted, -⟩ := record?_object.1 read
      have other := ((Admitted.cons_known known same).1 (admitted.perm List.perm_middle)).2
      exact other (name, m.2) (mem_found.2 ⟨known, m.1, member, decoded⟩) rfl

end

/-! ### What is read behind a step -/

/-- A way to read a record: every declared field has to be read, and nothing else is looked at. -/
structure Reads {α : Type} (layout : Layout) (read : Value → Option α)
    (means : Fields → α → Prop) : Prop where
  read_iff : ∀ {v : Value} {a : α},
    read v = some a ↔ ∃ fields, v.record? layout.names = some fields ∧ means fields a
  whole : ∀ {fields : Fields} {a : α}, means fields a → ∀ f ∈ layout.fields, f.of fields ≠ none
  only : ∀ {fields fields' : Fields} {a : α},
    (∀ f ∈ layout.fields, ∀ b, f.of fields = some b → f.of fields' = some b) →
      means fields a → means fields' a

namespace Reads

variable {α : Type} {layout : Layout} {read : Value → Option α} {means : Fields → α → Prop}
  {change : Value → Value → Prop} {f : Field}

theorem keeps (reads : Reads layout read means) : Preserves (Keeps layout) read := by
  intro v v' a keeps first
  obtain ⟨fields, found, said⟩ := reads.read_iff.1 first
  obtain ⟨fields', found', same⟩ := keeps fields found
  exact reads.read_iff.2 ⟨fields', found', reads.only same said⟩

theorem recast (reads : Reads layout read means) : Preserves (Recast layout) read :=
  fun v v' a recast => reads.keeps v v' a recast.keeps

theorem within (reads : Reads layout read means) (declared : f ∈ layout.fields)
    (preserves : Preserves change f.read) :
    Preserves (Within layout.names f.name change) read :=
  fun v v' a within => reads.keeps v v' a (within.keeps declared preserves)

theorem doubled (reads : Reads layout read means) : Spoils (Doubled layout.names) read := by
  intro v v' doubled
  rw [Option.eq_none_iff_forall_ne_some]
  intro a given
  obtain ⟨fields, found, -⟩ := reads.read_iff.1 given
  cases doubled.refused.symm.trans found

theorem spoiled (reads : Reads layout read means) (declared : f ∈ layout.fields)
    (spoils : Spoils change f.read) : Spoils (Within layout.names f.name change) read := by
  intro v v' within
  rw [Option.eq_none_iff_forall_ne_some]
  intro a given
  obtain ⟨fields, found, said⟩ := reads.read_iff.1 given
  exact reads.whole said f declared (within.spoils declared spoils found)

end Reads

/-- The items of an array, all read in one way. -/
def itemsRead? {α : Type} (read : Value → Option α) (v : Value) : Option (List α) :=
  v.items?.bind (readAll? read)

section

variable {α : Type} {change : Value → Value → Prop} {read : Value → Option α}

theorem readAll?_cons (v : Value) (vs : List Value) :
    readAll? read (v :: vs) = (read v).bind fun a => (readAll? read vs).map (a :: ·) := by
  rw [readAll?, readAll?, List.mapM_cons]
  cases read v <;> cases vs.mapM read <;> rfl

theorem InItem.preserves (preserves : Preserves change read) :
    Preserves (InItem change) (itemsRead? read) := by
  rintro _ _ all ⟨changes⟩ done
  rename_i vs vs' v v'
  change readAll? read (vs ++ v :: vs') = some all at done
  show readAll? read (vs ++ v' :: vs') = some all
  induction vs generalizing all with
  | nil =>
      rw [List.nil_append, readAll?_cons] at done ⊢
      obtain ⟨a, first, rest⟩ := Option.bind_eq_some_iff.1 done
      rw [preserves v v' a changes first]
      exact rest
  | cons w vs ih =>
      rw [List.cons_append, readAll?_cons] at done ⊢
      obtain ⟨a, first, rest⟩ := Option.bind_eq_some_iff.1 done
      obtain ⟨others, later, rfl⟩ := Option.map_eq_some_iff.1 rest
      rw [first, ih others later]
      rfl

theorem InItem.spoils (spoils : Spoils change read) : Spoils (InItem change) (itemsRead? read) := by
  rintro _ _ ⟨changes⟩
  rename_i vs vs' v v'
  show readAll? read (vs ++ v' :: vs') = none
  induction vs with
  | nil =>
      rw [List.nil_append, readAll?_cons, spoils v v' changes]
      rfl
  | cons w vs ih =>
      rw [List.cons_append, readAll?_cons, ih]
      cases read w <;> rfl

end

end HotSwap.Json
