/-
# HotSwap.Proofs.Json.RoundTrip -- what is printed is read again

A document in compact form says the document it was made from (`parse?_print`), since it spells
its tokens (`spells_print`).  All that is asked of the document is that its numbers are literals
and that its strings hold no byte that would have to be escaped and cannot be (`Token.Sound`).
Every value that is made from data is so (`Value.ofString`, `Value.ofNat`), and the data are had
again from it (`string?_ofString`, `natUpTo?_ofNat`).
-/
import HotSwap.Json.Printer
import HotSwap.Proofs.Json.Grammar
import HotSwap.Proofs.Json.Members

namespace HotSwap.Json

set_option autoImplicit false

/-! ## Printing -/

/-- A piece that is read again as it is printed. -/
def Piece.Sound : Piece → Prop
  | .byte b => (shortEscape? b).isSome ∨ 0x20 ≤ b
  | .unit _ => True

/-- A token that is read again as it is printed. -/
def Token.Sound : Token → Prop
  | .number literal => IsLiteral literal
  | .string raw => ∀ p ∈ raw, p.Sound
  | _ => True

/-- A document that is read again as it is printed. -/
def Value.Sound (v : Value) : Prop := ∀ t ∈ v.tokens, t.Sound

/-- The value of a digit is had again from it. -/
theorem value?_hexByte {n : Nat} (small : n < 16) : Hex.value? (hexByte n) = some n := by
  have each : ∀ n < 16, Hex.value? (hexByte n) = some n := by decide
  exact each n small

/-- A byte with an escape of one letter is had again from the letter. -/
theorem escaped?_of_shortEscape? {b letter : UInt8} (short : shortEscape? b = some letter) :
    escaped? letter = some b := by
  unfold shortEscape? at short
  iterate 7
    rcases ite_eq_iff.1 short with ⟨rfl, escape⟩ | ⟨-, short⟩
    · obtain rfl := Option.some.inj escape
      rfl
  cases short

theorem spelled_printPiece {p : Piece} (sound : p.Sound) : p.Spelled (printPiece p) := by
  cases p with
  | byte b =>
      cases short : shortEscape? b with
      | some letter =>
          simp only [printPiece, short]
          exact .letter (escaped?_of_shortEscape? short)
      | none =>
          have visible : ¬ b < 0x20 := by
            rcases sound with escaped | visible
            · simp [short] at escaped
            · exact UInt8.not_lt.2 visible
          simp only [printPiece, short]
          exact .itself (by rintro rfl; cases short) (by rintro rfl; cases short) visible
  | unit u =>
      have small := u.toNat_lt
      have worth : unitFrom? 0 [hexByte (u.toNat / 4096), hexByte (u.toNat / 256 % 16),
          hexByte (u.toNat / 16 % 16), hexByte (u.toNat % 16)] = some u.toNat := by
        simp only [unitFrom?, value?_hexByte (show u.toNat / 4096 < 16 by omega),
          value?_hexByte (show u.toNat / 256 % 16 < 16 by omega),
          value?_hexByte (show u.toNat / 16 % 16 < 16 by omega),
          value?_hexByte (show u.toNat % 16 < 16 by omega), Option.bind_some, Option.some.injEq]
        omega
      simpa [printPiece] using Piece.Spelled.digits rfl worth

theorem spelled_pieces {raw : Raw} (sound : ∀ p ∈ raw, p.Sound) :
    Raw.Spelled raw (raw.flatMap printPiece) := by
  induction raw with
  | nil => exact .nil
  | cons p raw ih =>
      rw [List.flatMap_cons]
      exact .cons (spelled_printPiece (sound p (List.mem_cons_self ..)))
        (ih fun p member => sound p (List.mem_cons_of_mem _ member))

theorem spelled_printToken {t : Token} (sound : t.Sound) : t.Spelled (printToken t) := by
  cases t with
  | bool b => cases b <;> constructor
  | number literal => exact .number sound
  | string raw => exact .string (spelled_pieces sound)
  | _ => constructor

/-- What is printed spells the tokens that are printed. -/
theorem spells_print {tokens : List Token} (sound : ∀ t ∈ tokens, t.Sound) :
    Spells tokens (tokens.flatMap printToken) := by
  induction tokens with
  | nil => exact .nil
  | cons t tokens ih =>
      rw [List.flatMap_cons]
      exact .token (spelled_printToken (sound t (List.mem_cons_self ..)))
        (ih fun t member => sound t (List.mem_cons_of_mem _ member))

/-- What is printed is read again. -/
theorem parse?_print {v : Value} (sound : v.Sound) : parse? v.print = some v :=
  parse?_iff.2 (spells_print sound)

/-! ## Data -/

/-- A text can be printed: what cannot stand for itself is escaped. -/
theorem sound_ofString (s : String) : ∀ p ∈ Raw.ofString s, p.Sound := by
  intro p member
  obtain ⟨b, -, rfl⟩ := List.mem_map.1 member
  split
  · trivial
  · rename_i plain
    by_cases control : b < 0x20
    · exact .inl (by simpa [control, Option.isSome_iff_ne_none] using plain)
    · exact .inr (UInt8.not_lt.1 control)

/-- A control that is written by its number stands for itself. -/
theorem unit_of_control {b : UInt8} (control : b < 0x20) :
    isHigh b.toUInt16 = false ∧ isLow b.toUInt16 = false ∧
      String.utf8EncodeChar (Char.ofNat b.toUInt16.toNat) = [b] := by
  have each : ∀ n < 32, isHigh (UInt8.ofNat n).toUInt16 = false ∧
      isLow (UInt8.ofNat n).toUInt16 = false ∧
      String.utf8EncodeChar (Char.ofNat (UInt8.ofNat n).toUInt16.toNat) = [UInt8.ofNat n] := by
    decide
  have stands := each b.toNat (UInt8.lt_iff_toNat_lt.1 control)
  rwa [UInt8.ofNat_toNat] at stands

/-- A unit that is no part of a pair is a character. -/
theorem bytesOnto?_unit {u : UInt16} (high : isHigh u = false) (low : isLow u = false)
    (done : List UInt8) (raw : Raw) :
    Raw.bytesOnto? done (.unit u :: raw) =
      Raw.bytesOnto? ((String.utf8EncodeChar (Char.ofNat u.toNat)).reverse ++ done) raw := by
  cases raw with
  | nil => simp [Raw.bytesOnto?, high, low]
  | cons p raw => cases p <;> simp [Raw.bytesOnto?, high, low]

/-- A text is had again from its pieces. -/
theorem decode?_ofString (s : String) : (Raw.ofString s).decode? = some s := by
  have bytes (bytes done : List UInt8) :
      Raw.bytesOnto? done (bytes.map fun b =>
        if b < 0x20 && (shortEscape? b).isNone then .unit b.toUInt16 else .byte b) =
          some (done.reverse ++ bytes) := by
    induction bytes generalizing done with
    | nil => simp [Raw.bytesOnto?]
    | cons b bytes ih =>
        rw [List.map_cons]
        split
        · rename_i control
          obtain ⟨high, low, stands⟩ := unit_of_control (b := b) (by simp_all)
          rw [bytesOnto?_unit high low, stands, ih]
          simp
        · rw [Raw.bytesOnto?, ih]
          simp
  have valid : s.toUTF8.IsValidUTF8 := s.isValidUTF8
  have same : (⟨s.toUTF8.data.toList.toArray⟩ : ByteArray) = s.toUTF8 := by simp
  rw [Raw.decode?, Raw.ofString, bytes]
  show String.fromUTF8? ⟨s.toUTF8.data.toList.toArray⟩ = some s
  rw [same, String.fromUTF8?, dif_pos valid]
  rfl

theorem string?_ofString (s : String) : (Value.ofString s).string? = some s := decode?_ofString s

/-! ### Numbers -/

theorem valueFrom_append (base n : Nat) (front back : List Nat) :
    Text.Digits.valueFrom base n (front ++ back) =
      Text.Digits.valueFrom base (Text.Digits.valueFrom base n front) back := by
  induction front generalizing n with
  | nil => rfl
  | cons d front ih => exact ih _

/-- The digits of a number as bytes. -/
def digitBytes (n : Nat) : List UInt8 := (Nat.toDigits 10 n).map fun c => UInt8.ofNat c.toNat

/-- A single digit as a byte. -/
def digitByte (n : Nat) : UInt8 := UInt8.ofNat (0x30 + n)

theorem digitBytes_of_lt {n : Nat} (small : n < 10) : digitBytes n = [digitByte n] := by
  have each : ∀ n < 10, UInt8.ofNat n.digitChar.toNat = digitByte n := by decide
  simp [digitBytes, Nat.toDigits_of_lt_base small, each n small]

theorem digitBytes_of_le {n : Nat} (large : 10 ≤ n) :
    digitBytes n = digitBytes (n / 10) ++ digitBytes (n % 10) := by
  simp [digitBytes, Nat.toDigits_of_base_le (by decide) large,
    Nat.toDigits_of_lt_base (Nat.mod_lt n (by decide : 10 > 0))]

/-- A single digit: what it is worth, and that any number but zero goes on with it. -/
theorem digitByte_spec {n : Nat} (small : n < 10) :
    NumberPart.isDigit (digitByte n) = true ∧ (digitByte n).toNat - 0x30 = n ∧
      NumberPart.whole.next? (digitByte n) = some .whole ∧
      NumberPart.first? (digitByte n) = if n = 0 then some .zero else some .whole := by
  have each : ∀ n < 10, NumberPart.isDigit (digitByte n) = true ∧
      (digitByte n).toNat - 0x30 = n ∧ NumberPart.whole.next? (digitByte n) = some .whole ∧
      NumberPart.first? (digitByte n) = if n = 0 then some .zero else some .whole := by
    decide
  exact each n small

/-- The digits of a number are digits, and are worth the number. -/
theorem digitBytes_worth (n : Nat) :
    (digitBytes n).all NumberPart.isDigit = true ∧
      Text.Digits.value 10 ((digitBytes n).map fun b => b.toNat - 0x30) = n := by
  induction n using Nat.strongRecOn with
  | ind n ih =>
      by_cases small : n < 10
      · obtain ⟨digit, worth, -⟩ := digitByte_spec small
        simp [digitBytes_of_lt small, digit, worth, Text.Digits.value, Text.Digits.valueFrom]
      · have last := Nat.mod_lt n (by decide : 10 > 0)
        obtain ⟨digits, worth⟩ := ih (n / 10) (by omega)
        obtain ⟨digit, worth', -⟩ := digitByte_spec last
        rw [Text.Digits.value] at worth
        rw [digitBytes_of_le (by omega), digitBytes_of_lt last, Text.Digits.value, List.map_append,
          valueFrom_append, worth, List.all_append, digits]
        simp only [List.map_cons, List.map_nil, Text.Digits.valueFrom, List.all_cons, List.all_nil,
          digit, worth', Bool.and_self, true_and]
        omega

/-- The digits of a number but zero begin with one that is not zero. -/
theorem digitBytes_whole {n : Nat} (positive : n ≠ 0) :
    ∃ b rest, digitBytes n = b :: rest ∧ NumberPart.first? b = some .whole ∧
      NumberPart.whole.after? rest = some .whole := by
  induction n using Nat.strongRecOn with
  | ind n ih =>
      by_cases small : n < 10
      · obtain ⟨-, -, -, first⟩ := digitByte_spec small
        exact ⟨_, [], digitBytes_of_lt small, by rw [first, if_neg positive], rfl⟩
      · have last := Nat.mod_lt n (by decide : 10 > 0)
        obtain ⟨b, rest, split, first, read⟩ := ih (n / 10) (by omega) (by omega)
        obtain ⟨-, -, next, -⟩ := digitByte_spec last
        refine ⟨b, rest ++ digitBytes (n % 10), ?_, first, ?_⟩
        · rw [digitBytes_of_le (by omega), split, List.cons_append]
        · rw [NumberPart.after?_append, read, digitBytes_of_lt last]
          simp [NumberPart.after?, next]

theorem isLiteral_digitBytes (n : Nat) : IsLiteral (digitBytes n) := by
  by_cases zero : n = 0
  · subst zero
    exact ⟨0x30, [], .zero, .zero, rfl, rfl, rfl, rfl⟩
  · obtain ⟨b, rest, split, first, read⟩ := digitBytes_whole zero
    exact ⟨b, rest, .whole, .whole, split, first, read, rfl⟩

theorem natUpTo?_ofNat {limit n : Nat} (within : n ≤ limit) :
    (Value.ofNat n).natUpTo? limit = some n := by
  obtain ⟨digits, worth⟩ := digitBytes_worth n
  show Value.natUpTo? limit (.number (digitBytes n)) = _
  rw [Value.natUpTo?, if_pos digits, Text.Digits.natUpTo?_eq (by decide), worth, if_pos within]

/-! ### Arrays and records -/

theorem Value.sound_string (s : String) : (Value.ofString s).Sound := by
  intro t member
  rw [show t = .string (Raw.ofString s) by simpa [ofString, tokens] using member]
  exact sound_ofString s

theorem Value.sound_ofNat (n : Nat) : (Value.ofNat n).Sound := by
  intro t member
  rw [show t = .number (digitBytes n) by simpa [ofNat, tokens, digitBytes] using member]
  exact isLiteral_digitBytes n

theorem Value.sound_bool (b : Bool) : (Value.bool b).Sound := by
  intro t member
  rw [show t = .bool b by simpa [tokens] using member]
  trivial

theorem Value.sound_array {items : List Value} (each : ∀ v ∈ items, v.Sound) :
    (Value.array items).Sound := by
  have further (vs : List Value) (each : ∀ v ∈ vs, v.Sound) : ∀ t ∈ itemTokens vs, t.Sound := by
    induction vs with
    | nil =>
        intro t member
        rw [show t = .closeArray by simpa [itemTokens] using member]
        trivial
    | cons v vs ih =>
        intro t member
        rw [itemTokens, List.mem_cons, List.mem_append] at member
        obtain rfl | first | rest := member
        · trivial
        · exact each v (List.mem_cons_self ..) t first
        · exact ih (fun v member => each v (List.mem_cons_of_mem _ member)) t rest
  cases items with
  | nil =>
      intro t member
      obtain rfl | rfl : t = .openArray ∨ t = .closeArray := by simpa [tokens] using member
      all_goals trivial
  | cons v vs =>
      intro t member
      rw [tokens, List.mem_cons, List.mem_append] at member
      obtain rfl | first | rest := member
      · trivial
      · exact each v (List.mem_cons_self ..) t first
      · exact further vs (fun v member => each v (List.mem_cons_of_mem _ member)) t rest

theorem Value.sound_record {members : List (String × Value)} (each : ∀ m ∈ members, m.2.Sound) :
    (Value.record members).Sound := by
  have further (ms : List (String × Value)) (each : ∀ m ∈ ms, m.2.Sound) :
      ∀ t ∈ memberTokens (ms.map fun m => (Raw.ofString m.1, m.2)), t.Sound := by
    induction ms with
    | nil =>
        intro t member
        rw [show t = .closeObject by simpa [memberTokens] using member]
        trivial
    | cons m ms ih =>
        intro t member
        rw [List.map_cons, memberTokens, List.mem_cons, List.mem_cons, List.mem_cons,
          List.mem_append] at member
        obtain rfl | rfl | rfl | first | rest := member
        · trivial
        · exact sound_ofString m.1
        · trivial
        · exact each m (List.mem_cons_self ..) t first
        · exact ih (fun m member => each m (List.mem_cons_of_mem _ member)) t rest
  cases members with
  | nil =>
      intro t member
      obtain rfl | rfl : t = .openObject ∨ t = .closeObject := by
        simpa [record, tokens] using member
      all_goals trivial
  | cons m ms =>
      intro t member
      rw [record, List.map_cons, tokens, List.mem_cons, List.mem_cons, List.mem_cons,
        List.mem_append] at member
      obtain rfl | rfl | rfl | first | rest := member
      · trivial
      · exact sound_ofString m.1
      · trivial
      · exact each m (List.mem_cons_self ..) t first
      · exact further ms (fun m member => each m (List.mem_cons_of_mem _ member)) t rest

/-- The members of a record are found under their names, the last one first. -/
theorem record?_record (names : List String) (members : List (String × Value))
    (known : ∀ m ∈ members, m.1 ∈ names) (apart : (members.map (·.1)).Nodup) :
    (Value.record members).record? names = some members.reverse := by
  have decoded (m : String × Value) : (Raw.ofString m.1).decode? = some m.1 := decode?_ofString _
  have gives : found names (members.map fun m => (Raw.ofString m.1, m.2)) = members := by
    induction members with
    | nil => rfl
    | cons m members ih =>
        rw [List.map_cons, found_known (known m (List.mem_cons_self ..)) (decoded m),
          ih (fun m member => known m (List.mem_cons_of_mem _ member)) (List.nodup_cons.1 apart).2]
  refine record?_object.2 ⟨⟨fun member later => ?_, by rwa [gives]⟩, by rw [gives]⟩
  obtain ⟨m, -, rfl⟩ := List.mem_map.1 later
  rw [decoded m]
  rfl

/-- What is written item by item is read item by item. -/
theorem readAll?_map {α : Type} {read : Value → Option α} {write : α → Value}
    (again : ∀ a, read (write a) = some a) (items : List α) :
    readAll? read (items.map write) = some items := by
  induction items with
  | nil => rfl
  | cons a items ih =>
      rw [readAll?] at ih
      simp [readAll?, again, ih]

end HotSwap.Json
