/-
# HotSwap.Proofs.Message.Tolerance -- requests that are written in other ways

A request, its change set and each of its classes are records (`layout`, `changesLayout`,
`classLayout`), and each may be put into another form by itself, wherever it stands (`Rewrite`).
One such step leaves what is read as it was (`rewrite_preserves`), so any number of them does; and
the text may spell the outcome in any way.  `tolerates` says so of every frame that is accepted,
and that a second member for a field makes it malformed, at whichever of the three levels
(`Doubling`).
-/
import HotSwap.Proofs.Json.Recasting
import HotSwap.Proofs.Message.Codec
import Mathlib.Logic.Relation

namespace HotSwap.Request

set_option autoImplicit false

open Json

/-! ## The records of a request -/

def nameField : Field := ⟨"name", String, Value.string?, none⟩

def bytecodeField : Field := ⟨"bytecode", ByteArray, bytesOf?, some .empty⟩

def classesField : Field := ⟨"classes", ChangeSet, itemsRead? classOf?, some []⟩

def packageField : Field := ⟨"package_name", String, Value.string?, none⟩

def restartField : Field := ⟨"restart_activity", Bool, Value.bool?, some false⟩

def changesField : Field := ⟨"change_set", ChangeSet, changesOf?, some []⟩

/-- The fields of a class. -/
def classLayout : Layout := ⟨[nameField, bytecodeField], by decide⟩

/-- The field of a change set. -/
def changesLayout : Layout := ⟨[classesField], by decide⟩

/-- The fields of a request. -/
def layout : Layout := ⟨[packageField, restartField, changesField], by decide⟩

theorem classOf?_reads : Reads classLayout classOf? fun fields c =>
    nameField.of fields = some c.name ∧ bytecodeField.of fields = some c.bytecode where
  read_iff {v c} := by
    obtain ⟨name, code⟩ := c
    simp only [classOf?, Option.bind_eq_bind, Option.bind_eq_some_iff, Option.pure_def,
      Option.some.injEq, ClassDefinition.mk.injEq]
    constructor
    · rintro ⟨fields, read, n, first, b, second, rfl, rfl⟩
      exact ⟨fields, read, first, second⟩
    · rintro ⟨fields, read, first, second⟩
      exact ⟨fields, read, name, first, code, second, rfl, rfl⟩
  whole said := by
    simp [classLayout, said]
  only same said :=
    ⟨same nameField (by simp [classLayout]) _ said.1,
      same bytecodeField (by simp [classLayout]) _ said.2⟩

theorem changesOf?_reads : Reads changesLayout changesOf? fun fields changes =>
    classesField.of fields = some changes where
  read_iff := by
    simp only [changesOf?, Option.bind_eq_bind, Option.bind_eq_some_iff]
    rfl
  whole said := by
    simp [changesLayout, said]
  only same said := same classesField (by simp [changesLayout]) _ said

theorem ofValue?_reads : Reads layout ofValue? fun fields r =>
    packageField.of fields = some r.packageName ∧
      restartField.of fields = some r.restartActivity ∧
      changesField.of fields = some r.changes where
  read_iff {v r} := by
    obtain ⟨name, restart, changes⟩ := r
    simp only [ofValue?, Option.bind_eq_bind, Option.bind_eq_some_iff, Option.pure_def,
      Option.some.injEq, Request.mk.injEq]
    constructor
    · rintro ⟨fields, read, n, first, b, second, cs, third, rfl, rfl, rfl⟩
      exact ⟨fields, read, first, second, third⟩
    · rintro ⟨fields, read, first, second, third⟩
      exact ⟨fields, read, name, first, restart, second, changes, third, rfl, rfl, rfl⟩
  whole said := by
    simp [layout, said]
  only same said :=
    ⟨same packageField (by simp [layout]) _ said.1, same restartField (by simp [layout]) _ said.2.1,
      same changesField (by simp [layout]) _ said.2.2⟩

/-! ## Steps -/

/-- One step to another document for a class. -/
inductive ClassRewrite : Value → Value → Prop where
  | recast {v v' : Value} (recast : Recast classLayout v v') : ClassRewrite v v'
  | name {v v' : Value} (within : Within classLayout.names "name" Respelled v v') :
      ClassRewrite v v'

/-- One step to another document for a change set. -/
inductive ChangesRewrite : Value → Value → Prop where
  | recast {v v' : Value} (recast : Recast changesLayout v v') : ChangesRewrite v v'
  | classes {v v' : Value}
      (within : Within changesLayout.names "classes" (InItem ClassRewrite) v v') :
      ChangesRewrite v v'

/-- One step to another document for a request. -/
inductive Rewrite : Value → Value → Prop where
  | recast {v v' : Value} (recast : Recast layout v v') : Rewrite v v'
  | packageName {v v' : Value} (within : Within layout.names "package_name" Respelled v v') :
      Rewrite v v'
  | changes {v v' : Value} (within : Within layout.names "change_set" ChangesRewrite v v') :
      Rewrite v v'

/-- A second member for a field, in a request, its change set or one of its classes. -/
inductive Doubling : Value → Value → Prop where
  | request {v v' : Value} (doubled : Doubled layout.names v v') : Doubling v v'
  | changes {v v' : Value}
      (within : Within layout.names "change_set" (Doubled changesLayout.names) v v') :
      Doubling v v'
  | aClass {v v' : Value}
      (within : Within layout.names "change_set"
        (Within changesLayout.names "classes" (InItem (Doubled classLayout.names))) v v') :
      Doubling v v'

/-! ### What is read behind a step -/

theorem classRewrite_preserves : Preserves ClassRewrite classOf? := by
  intro v v' c rewrite
  cases rewrite with
  | recast recast => exact classOf?_reads.recast v v' c recast
  | name within =>
      exact classOf?_reads.within (f := nameField) (by simp [classLayout]) respelled_preserves
        v v' c within

theorem changesRewrite_preserves : Preserves ChangesRewrite changesOf? := by
  intro v v' changes rewrite
  cases rewrite with
  | recast recast => exact changesOf?_reads.recast v v' changes recast
  | classes within =>
      exact changesOf?_reads.within (f := classesField) (by simp [changesLayout])
        (InItem.preserves classRewrite_preserves) v v' changes within

/-- A step leaves the request that is read as it was. -/
theorem rewrite_preserves : Preserves Rewrite ofValue? := by
  intro v v' r rewrite
  cases rewrite with
  | recast recast => exact ofValue?_reads.recast v v' r recast
  | packageName within =>
      exact ofValue?_reads.within (f := packageField) (by simp [layout]) respelled_preserves
        v v' r within
  | changes within =>
      exact ofValue?_reads.within (f := changesField) (by simp [layout]) changesRewrite_preserves
        v v' r within

/-- Any number of steps leaves it as it was. -/
theorem rewrites_preserve : Preserves (Relation.ReflTransGen Rewrite) ofValue? := by
  intro v v' r rewrites read
  induction rewrites with
  | refl => exact read
  | tail _ step ih => exact rewrite_preserves _ _ r step ih

/-- Behind a second member for a field no request is read. -/
theorem doubling_spoils : Spoils Doubling ofValue? := by
  have inside {change : Value → Value → Prop} (spoils : Spoils change changesOf?) :
      Spoils (Within layout.names "change_set" change) ofValue? :=
    ofValue?_reads.spoiled (f := changesField) (by simp [layout]) spoils
  intro v v' doubling
  cases doubling with
  | request doubled => exact ofValue?_reads.doubled v v' doubled
  | changes within => exact inside changesOf?_reads.doubled v v' within
  | aClass within =>
      have spoils := changesOf?_reads.spoiled (f := classesField) (by simp [changesLayout])
        (InItem.spoils classOf?_reads.doubled)
      exact inside spoils v v' within

/-! ## Frames -/

/-- A frame that says a document. -/
def Written (v : Value) (frame : ByteArray) : Prop := Spells v.tokens frame.data.toList

/-- A frame that says a document is decoded by what is read of it. -/
theorem decode_written {v : Value} {frame : ByteArray} (written : Written v frame) :
    decode frame = (ofValue? v).elim (.error .malformed) check := by
  have parsed := parse?_iff.2 written
  have some : frame.size ≠ 0 := by
    intro none
    have empty : frame.data.toList = [] := List.eq_nil_of_length_eq_zero none
    rw [empty] at parsed
    cases parsed
  simp only [decode, if_neg some, parsed]
  cases ofValue? v <;> rfl

/-- **A request may be written in other ways.**  A frame that is accepted says one document; every
frame that says it with any number of steps in between is accepted as the same request; and every
frame that says such a document with a second member for a field is malformed. -/
theorem tolerates {frame : ByteArray} {r : Request} (accepted : decode frame = .ok r) :
    ∃ v, (∀ w, Written w frame ↔ w = v) ∧
      ∀ v', Relation.ReflTransGen Rewrite v v' →
        (∀ frame', Written v' frame' → decode frame' = .ok r) ∧
        ∀ v'' frame', Doubling v' v'' → Written v'' frame' →
          decode frame' = .error .malformed := by
  obtain ⟨v, s, parsed, read, passed⟩ := parsed_of_decode accepted
  have written : Written v frame := parse?_iff.1 parsed
  refine ⟨v, fun w => ⟨fun other => other.unique written, fun same => same ▸ written⟩,
    fun v' rewrites => ⟨fun frame' written' => ?_, fun v'' frame' doubling written' => ?_⟩⟩
  · rw [decode_written written', rewrites_preserve v v' s rewrites read, Option.elim_some, passed]
  · rw [decode_written written', doubling_spoils v' v'' doubling, Option.elim_none]

/-- A request to redefine a class. -/
def plain : Request := ⟨"a", false, [⟨"B", .empty⟩]⟩

/-- Its class with no bytecode at all. -/
def bareClass : Value := .record [("name", .ofString "B")]

/-- The key of the classes, one character of which is written by its number. -/
def oddKey : Raw :=
  [.byte 0x63, .byte 0x6c, .unit 0x61, .byte 0x73, .byte 0x73, .byte 0x65, .byte 0x73]

/-- A member that is no field of a change set. -/
def oddMember : Raw × Value := (Raw.ofString "x", .array [.array []])

/-- Its change set with one more member and with another key. -/
def oddChanges : Value := .object [oddMember, (oddKey, .array [bareClass])]

/-- The request as the array of its fields. -/
def row (name changes : Value) : Value := .array [name, .bool false, changes]

/-- The request in another form. -/
def oddValue : Value := row (.string [.unit 0x61]) oddChanges

/-- The same with the classes a second time. -/
def doubledValue : Value :=
  row (.string [.unit 0x61])
    (.object [oddMember, (oddKey, .array [bareClass]), (Raw.ofString "classes", .null)])

def oddFrame : ByteArray :=
  " [\"\\u0061\" , false,\x7b \"x\":[[]],\"cl\\u0061sses\":[\x7b\"name\":\"B\"\x7d]\x7d]\n".toUTF8

def doubledFrame : ByteArray :=
  "[\"\\u0061\",false,\x7b\"x\":[[]],\"cl\\u0061sses\":[\x7b\"name\":\"B\"\x7d],".toUTF8 ++
    "\"classes\":null\x7d]".toUTF8

theorem alike_oddKey : Raw.Alike (Raw.ofString "classes") oddKey :=
  .byte _ (.byte _ (.char (c := 'a') .bytes (.unit (by decide))
    (.byte _ (.byte _ (.byte _ (.byte _ .nil))))))

theorem plain_rewrites : Relation.ReflTransGen Rewrite plain.toValue oddValue := by
  have dropped : ClassRewrite (classValue ⟨"B", .empty⟩) bareClass :=
    .recast (@Recast.dropped classLayout [(Raw.ofString "name", .ofString "B")] [] _
      bytecodeField _ (by simp [classLayout]) (decode?_ofString _) ⟨rfl, rfl⟩)
  have bare : ChangesRewrite (.record [("classes", .array [classValue ⟨"B", .empty⟩])])
      (.record [("classes", .array [bareClass])]) :=
    .classes (@Within.member _ _ _ [] [] _ _ _ (decode?_ofString _)
      (@InItem.item _ [] [] _ _ dropped))
  have renamed : ChangesRewrite (.record [("classes", .array [bareClass])])
      (.object [(oddKey, .array [bareClass])]) :=
    .recast (@Recast.renamed _ [] [] _ _ _ alike_oddKey)
  have added : ChangesRewrite (.object [(oddKey, .array [bareClass])]) oddChanges :=
    .recast (@Recast.added _ [] _ _ _ _ (decode?_ofString "x") (by decide))
  have inside {changes changes' : Value} (step : ChangesRewrite changes changes') :
      Rewrite (row (.ofString "a") changes) (row (.ofString "a") changes') :=
    .changes (@Within.item _ _ _ ["package_name", "restart_activity"] [] [_, _] [] _ _ rfl rfl step)
  have listed : Rewrite plain.toValue
      (row (.ofString "a") (.record [("classes", .array [classValue ⟨"B", .empty⟩])])) :=
    .recast (.listed (.held (List.mem_cons_self ..) (decode?_ofString _)
      (.held (List.mem_cons_of_mem _ (List.mem_cons_self ..)) (decode?_ofString _)
        (.held (List.mem_cons_of_mem _ (List.mem_cons_of_mem _ (List.mem_cons_self ..)))
          (decode?_ofString _) (.ended nofun)))))
  have respelled : Rewrite (row (.ofString "a") oddChanges) oddValue :=
    .packageName (@Within.item _ _ _ [] _ [] _ _ _ rfl rfl
      (.string (.char (c := 'a') .bytes (.unit (by decide)) .nil)))
  exact .head listed (.head (inside bare) (.head (inside renamed) (.head (inside added)
    (.single respelled))))

theorem oddValue_doubling : Doubling oddValue doubledValue := by
  have again : Doubled changesLayout.names oddChanges (.object [oddMember,
      (oddKey, .array [bareClass]), (Raw.ofString "classes", .null)]) :=
    @Doubled.again _ [oddMember, (oddKey, .array [bareClass])] [] _ _ "classes"
      (by decide) (List.mem_cons_of_mem _ (List.mem_cons_self ..))
      (alike_oddKey.decode?.symm.trans (decode?_ofString _)) (decode?_ofString _)
  exact .changes
    (@Within.item _ _ _ ["package_name", "restart_activity"] [] [_, _] [] _ _ rfl rfl again)

theorem plain_tolerated :
    decode plain.encode = .ok plain ∧ decode oddFrame = .ok plain ∧
      decode doubledFrame = .error .malformed := by
  have accepted : decode plain.encode = .ok plain := plain.decode_encode.trans (by rfl)
  have odd : Written oddValue oddFrame := parse?_iff.1 (by rfl)
  have doubled : Written doubledValue doubledFrame := parse?_iff.1 (by rfl)
  obtain ⟨v, said, tolerated⟩ := tolerates accepted
  obtain rfl : plain.toValue = v := (said _).1 (spells_print plain.sound_toValue)
  obtain ⟨again, refused⟩ := tolerated oddValue plain_rewrites
  exact ⟨accepted, again oddFrame odd, refused doubledValue doubledFrame oddValue_doubling doubled⟩

end HotSwap.Request
