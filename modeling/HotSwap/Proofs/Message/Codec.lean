/-
# HotSwap.Proofs.Message.Codec -- messages that are sent are had again

A request and a response are printed as documents, which are read again as they are
(`Json.parse?_print`); so all that is left is to find each field under its name.  A request
that was written is refused for nothing but its package name (`Request.decode_encode`), and
`Request.arrives_or_refused` says for which names, in terms of the characters they have
(`Request.PlainName`).  A response is had again whatever it says (`Response.decode_encode`),
so no two of them are the same frame (`Response.encode_inj`).
-/
import HotSwap.Message.Request
import HotSwap.Message.Response
import HotSwap.Proofs.Json.RoundTrip

namespace HotSwap

set_option autoImplicit false

open Json

/-- A document is printed with some bytes. -/
theorem Json.print_record_ne_nil (members : List (String × Value)) :
    (Value.record members).print ≠ [] := by
  cases members <;> simp [Value.print, Value.record, Value.tokens, printToken]

/-- A frame that holds a document is not empty, and the document is read from it. -/
theorem Json.parse?_frame {members : List (String × Value)}
    (sound : (Value.record members).Sound) {frame : ByteArray}
    (holds : frame = ⟨(Value.record members).print.toArray⟩) :
    frame.size ≠ 0 ∧ parse? frame.data.toList = some (Value.record members) := by
  subst holds
  constructor
  · have print := print_record_ne_nil members
    simpa [ByteArray.size] using print
  · simpa using parse?_print sound

namespace Request

/-! ## Requests -/

theorem sound_toValue (r : Request) : r.toValue.Sound := by
  have bytes (b : ByteArray) : (bytesValue b).Sound :=
    Value.sound_array fun v member => by
      obtain ⟨b, -, rfl⟩ := List.mem_map.1 member
      exact Value.sound_ofNat _
  have definition (c : ClassDefinition) : (classValue c).Sound :=
    Value.sound_record fun m member => by
      obtain rfl | rfl : m = _ ∨ m = _ := by simpa using member
      · exact Value.sound_string c.name
      · exact bytes c.bytecode
  have classes : (Value.array (r.changes.map classValue)).Sound :=
    Value.sound_array fun v member => by
      obtain ⟨c, -, rfl⟩ := List.mem_map.1 member
      exact definition c
  refine Value.sound_record fun m member => ?_
  obtain rfl | rfl | rfl : m = _ ∨ m = _ ∨ m = _ := by simpa using member
  · exact Value.sound_string r.packageName
  · exact Value.sound_bool r.restartActivity
  · refine Value.sound_record fun m member => ?_
    obtain rfl : m = _ := by simpa using member
    exact classes

theorem bytesOf?_bytesValue (bytes : ByteArray) : bytesOf? (bytesValue bytes) = some bytes := by
  have byte (b : UInt8) : Value.byte? (Value.ofNat b.toNat) = some b := by
    rw [Value.byte?, natUpTo?_ofNat (by have := b.toNat_lt; omega)]
    simp
  simp [bytesOf?, bytesValue, Value.items?, readAll?_map byte]

theorem classOf?_classValue (c : ClassDefinition) : classOf? (classValue c) = some c := by
  have fields := record?_record ["name", "bytecode"]
    [("name", .ofString c.name), ("bytecode", bytesValue c.bytecode)] (by simp) (by simp)
  simp [classOf?, classValue, fields, Fields.required, Fields.optional, List.lookup_cons,
    string?_ofString, bytesOf?_bytesValue]

/-- A request is had again from its document. -/
theorem ofValue?_toValue (r : Request) : ofValue? r.toValue = some r := by
  have inner := record?_record ["classes"] [("classes", .array (r.changes.map classValue))]
    (by simp) (by simp)
  have changes : changesOf? (.record [("classes", .array (r.changes.map classValue))]) =
      some r.changes := by
    simp [changesOf?, inner, Fields.optional, Value.items?, readAll?_map classOf?_classValue]
  have fields := record?_record ["package_name", "restart_activity", "change_set"]
    [("package_name", .ofString r.packageName), ("restart_activity", .bool r.restartActivity),
      ("change_set", .record [("classes", .array (r.changes.map classValue))])]
    (by simp) (by simp)
  simp [ofValue?, toValue, fields, Fields.required, Fields.optional, List.lookup_cons,
    string?_ofString, Value.bool?, changes]

/-- A frame that is accepted says a document, from which a request is read and let through. -/
theorem parsed_of_decode {frame : ByteArray} {r : Request} (accepted : decode frame = .ok r) :
    ∃ v s, parse? frame.data.toList = some v ∧ ofValue? v = some s ∧ check s = .ok r := by
  unfold decode at accepted
  split at accepted
  · cases accepted
  split at accepted
  · cases accepted
  rename_i v parsed
  split at accepted
  · cases accepted
  rename_i s read
  exact ⟨v, s, parsed, read, accepted⟩

/-- A request that is sent is refused for nothing but its package name. -/
theorem decode_encode (r : Request) : decode r.encode = check r := by
  obtain ⟨some, parsed⟩ : r.encode.size ≠ 0 ∧ parse? r.encode.data.toList = .some r.toValue :=
    parse?_frame r.sound_toValue rfl
  rw [decode, if_neg some, parsed]
  simp only [ofValue?_toValue]

/-! ## Package names -/

/-- A text with a character that is no blank. -/
def Named (text : String) : Prop := ∃ c ∈ text.toList, Text.isBlank c = false

/-- A name that means an entry of the directory it is looked up in, and no other place. -/
structure PlainName (name : String) : Prop where
  notHere : name ≠ "."
  noDoubleDot : ¬ ['.', '.'] <:+: name.toList
  noSlash : '/' ∉ name.toList
  noBackslash : '\\' ∉ name.toList
  zeroless : '\x00' ∉ name.toList

instance (text : String) : Decidable (Named text) :=
  inferInstanceAs (Decidable (∃ c ∈ text.toList, Text.isBlank c = false))

theorem isAllBlank_iff (text : String) : Text.isAllBlank text = true ↔ ¬ Named text := by
  simp [Text.isAllBlank, Named]

/-- Two dots in a row are found wherever they stand. -/
theorem hasDoubleDot_iff (cs : List Char) : hasDoubleDot cs = true ↔ ['.', '.'] <:+: cs := by
  fun_induction hasDoubleDot cs with
  | case1 rest =>
      simp only [true_iff]
      exact ⟨[], rest, rfl⟩
  | case2 c rest single ih =>
      rw [ih, List.infix_cons_iff]
      constructor
      · exact .inr
      · rintro (⟨behind, start⟩ | later)
        · obtain ⟨rfl, rfl⟩ := List.cons.inj start
          exact absurd rfl (single behind rfl)
        · exact later
  | case3 => simp

/-- The names that are let through are the plain ones. -/
theorem isPlainName_iff (name : String) : isPlainName name = true ↔ PlainName name := by
  have here : name.toList = ['.'] ↔ name = "." := by
    rw [← String.toList_inj]
    rfl
  have dots : hasDoubleDot name.toList = false ↔ ¬ ['.', '.'] <:+: name.toList := by
    rw [← hasDoubleDot_iff, Bool.not_eq_true]
  simp only [isPlainName, Bool.and_eq_true, bne_iff_ne, ne_eq, Bool.not_eq_true', here, dots,
    List.any_eq_false, Bool.or_eq_true, beq_iff_eq, not_or]
  constructor
  · rintro ⟨⟨notHere, noDoubleDot⟩, each⟩
    refine ⟨notHere, noDoubleDot, ?_, ?_, ?_⟩
    · exact fun member => (each _ member).1.1 rfl
    · exact fun member => (each _ member).1.2 rfl
    · exact fun member => (each _ member).2 rfl
  · rintro ⟨notHere, noDoubleDot, noSlash, noBackslash, zeroless⟩
    refine ⟨⟨notHere, noDoubleDot⟩, ?_⟩
    intro c member
    refine ⟨⟨?_, ?_⟩, ?_⟩
    · exact fun slash => noSlash (slash ▸ member)
    · exact fun backslash => noBackslash (backslash ▸ member)
    · exact fun zero => zeroless (zero ▸ member)

instance (name : String) : Decidable (PlainName name) :=
  decidable_of_iff _ (isPlainName_iff name)

/-- **A request arrives as it was sent, or is refused for its package name.**  It arrives if the
name has a character that is no blank and is plain.  A blank name is missing, any other is
invalid and comes back in the error; and a request that was sent is neither empty nor malformed. -/
theorem arrives_or_refused (r : Request) :
    (∀ s, decode r.encode = .ok s ↔ s = r ∧ Named r.packageName ∧ PlainName r.packageName) ∧
      (decode r.encode = .error .missingPackageName ↔ ¬ Named r.packageName) ∧
      (∀ name, decode r.encode = .error (.invalidPackageName name) ↔
        name = r.packageName ∧ Named r.packageName ∧ ¬ PlainName r.packageName) ∧
      decode r.encode ≠ .error .empty ∧ decode r.encode ≠ .error .malformed := by
  rw [decode_encode, check]
  by_cases blank : Text.isAllBlank r.packageName = true
  · have unnamed : ¬ Named r.packageName := (isAllBlank_iff _).1 blank
    simp [blank, unnamed]
  have named : Named r.packageName := Decidable.not_not.1 (mt (isAllBlank_iff _).2 blank)
  by_cases plain : PlainName r.packageName
  · have passes := (isPlainName_iff _).2 plain
    simp [blank, named, plain, passes, eq_comm]
  · have stopped := mt (isPlainName_iff _).1 plain
    simp [blank, named, plain, stopped, eq_comm]

end Request

namespace Response

/-! ## Responses -/

theorem sound_toValue (r : Response) : r.toValue.Sound := by
  have detail (d : ErrorDetail) : (detailValue d).Sound :=
    Value.sound_record fun m member => by
      obtain rfl | rfl : m = _ ∨ m = _ := by simpa using member
      · exact Value.sound_string d.kind
      · exact Value.sound_string d.message
  refine Value.sound_record fun m member => ?_
  rcases List.mem_append.1 member with member | member
  · obtain rfl | rfl : m = _ ∨ m = _ := by simpa using member
    · exact Value.sound_ofNat _
    · exact Value.sound_string _
  · cases given : r.errorDetail with
    | none => simp [given] at member
    | some d =>
        obtain rfl : m = _ := by simpa [given] using member
        exact detail d

theorem statusOf?_name (status : Status) : statusOf? (.ofString status.name) = some status := by
  have named : Status.ofName? status.name = some status := by cases status <;> rfl
  simp [statusOf?, Value.ofString, decode?_ofString, named]

theorem detailOf?_detailValue (d : ErrorDetail) : detailOf? (detailValue d) = some (some d) := by
  have fields := record?_record ["kind", "message"]
    [("kind", .ofString d.kind), ("message", .ofString d.message)] (by simp) (by simp)
  simp [Value.record] at fields
  simp [detailOf?, detailValue, Value.record, fields, Fields.required, List.lookup_cons,
    string?_ofString]

/-- A response is had again from its document, with or without a detail. -/
theorem ofValue?_toValue (r : Response) : ofValue? r.toValue = some r := by
  have pid := natUpTo?_ofNat (show r.pid.toNat ≤ 4294967295 by have := r.pid.toNat_lt; omega)
  obtain ⟨number, status, detail⟩ := r
  cases detail with
  | none =>
      have fields := record?_record ["pid", "status", "error_detail"]
        [("pid", .ofNat number.toNat), ("status", .ofString status.name)] (by simp) (by simp)
      simp [ofValue?, toValue, fields, Fields.required, Fields.optional, List.lookup_cons, pid,
        statusOf?_name]
  | some d =>
      have fields := record?_record ["pid", "status", "error_detail"]
        [("pid", .ofNat number.toNat), ("status", .ofString status.name),
          ("error_detail", detailValue d)] (by simp) (by simp)
      simp [ofValue?, toValue, fields, Fields.required, Fields.optional, List.lookup_cons, pid,
        statusOf?_name, detailOf?_detailValue]

/-- A response that is sent is had again. -/
theorem decode_encode (r : Response) : decode r.encode = .ok r := by
  obtain ⟨some, parsed⟩ : r.encode.size ≠ 0 ∧ parse? r.encode.data.toList = .some r.toValue :=
    parse?_frame r.sound_toValue rfl
  rw [decode, if_neg some, parsed]
  simp only [ofValue?_toValue]

/-- Different responses are different frames. -/
theorem encode_inj {r r' : Response} (same : r.encode = r'.encode) : r = r' := by
  have decoded := r.decode_encode
  rw [same, decode_encode] at decoded
  exact (Except.ok.inj decoded).symm

/-- A frame tells the status. -/
theorem encode_ne {r r' : Response} (other : r.status ≠ r'.status) : r.encode ≠ r'.encode :=
  fun same => other (congrArg status (encode_inj same))

/-- **A response arrives as it was sent, whatever it says.**  No frame that holds one is empty, and
no two responses are the same frame. -/
theorem arrives_whole (r : Response) :
    decode r.encode = .ok r ∧ r.encode ≠ ByteArray.empty ∧
      ∀ other : Response, other.encode = r.encode ↔ other = r := by
  refine ⟨r.decode_encode, ?_, ?_⟩
  · intro empty
    have some : r.encode.size ≠ 0 := (parse?_frame r.sound_toValue rfl).1
    exact some (by rw [empty, ByteArray.size_empty])
  · intro other
    exact ⟨encode_inj, congrArg encode⟩

end Response

end HotSwap
