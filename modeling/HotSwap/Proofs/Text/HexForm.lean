/-
# HotSwap.Proofs.Text.HexForm -- no two byte strings have the same digits

Each byte is written as two digits, so the digits can be read back pair by pair; two
builds whose fingerprints are written alike are one build (`Fingerprint.hex_injective`).

Reading takes the digits of either case, and works on the bytes of a text.  Just the texts of
digits are read, and writing what was read gives them back in lowercase
(`Hex.decode_bytesOf_eq_ok_iff`, `Fingerprint.parse_eq_ok_iff`).  What is written is lowercase
already, so a fingerprint is read from its own text form (`Fingerprint.parse_hex`).
-/
import HotSwap.Fingerprint

namespace HotSwap

set_option autoImplicit false

/-! ## Lowercase -/

theorem toLower_eq_self_iff {c : Char} : c.toLower = c ↔ c.isUpper = false := by
  have letter : c.isUpper = decide (c.val ≥ 65 ∧ c.val ≤ 90) := rfl
  rw [letter, decide_eq_false_iff_not]
  unfold Char.toLower
  split
  · rename_i upper
    refine iff_of_false ?_ (not_not_intro upper)
    intro same
    have values : (c.val.toNat + 32) % 4294967296 = c.val.toNat :=
      congrArg (fun c => c.val.toNat) same
    omega
  · rename_i other
    exact iff_of_true rfl other

theorem map_toLower_eq_self_iff {digits : List Char} :
    digits.map Char.toLower = digits ↔ ∀ c ∈ digits, c.isUpper = false := by
  conv => lhs; rhs; rw [← List.map_id digits]
  rw [List.map_inj_left]
  simp only [id, toLower_eq_self_iff]

namespace Hex

/-! ## No two byte strings alike -/

theorem digit_injective {m n : Nat} (small : m < 16) (small' : n < 16) (same : digit m = digit n) :
    m = n := by
  have each : ∀ m < 16, ∀ n < 16, digit m = digit n → m = n := by decide
  exact each m small n small' same

theorem pair_injective {a b : UInt8} (same : pair a = pair b) : a = b := by
  simp only [pair, List.cons.injEq, and_true] at same
  have low := a.toNat_lt
  have low' := b.toNat_lt
  have high := digit_injective (by omega) (by omega) same.1
  have rest := digit_injective (by omega) (by omega) same.2
  exact UInt8.toNat_inj.1 (by omega)

theorem flatMap_pair_injective {as bs : List UInt8} (same : as.flatMap pair = bs.flatMap pair) :
    as = bs := by
  induction as generalizing bs with
  | nil =>
      cases bs with
      | nil => rfl
      | cons b bs => simp [pair] at same
  | cons a as ih =>
      cases bs with
      | nil => simp [pair] at same
      | cons b bs =>
          simp only [List.flatMap_cons] at same
          obtain ⟨first, rest⟩ := List.append_inj same (by simp [pair])
          rw [pair_injective first, ih rest]

theorem encode_injective {as bs : List UInt8} (same : encode as = encode bs) : as = bs :=
  flatMap_pair_injective (String.ofList_injective same)

/-! ## What is written -/

/-- Nothing but digits is written. -/
theorem mem_encode {bytes : List UInt8} {c : Char} (member : c ∈ (encode bytes).toList) :
    ∃ n < 16, c = digit n := by
  simp only [encode, String.toList_ofList, List.mem_flatMap] at member
  obtain ⟨byte, -, member⟩ := member
  have high : byte.toNat / 16 < 16 := by have := byte.toNat_lt; omega
  have low : byte.toNat % 16 < 16 := Nat.mod_lt _ (by decide)
  simp only [pair, List.mem_cons, List.not_mem_nil, or_false] at member
  rcases member with rfl | rfl
  · exact ⟨_, high, rfl⟩
  · exact ⟨_, low, rfl⟩

theorem not_mem_encode {c : Char} (other : ∀ n < 16, digit n ≠ c) (bytes : List UInt8) :
    c ∉ (encode bytes).toList := by
  intro member
  obtain ⟨n, small, rfl⟩ := mem_encode member
  exact other n small rfl

/-! ## Texts of one byte a character -/

/-- The character that a byte below 128 stands for. -/
def chr (b : UInt8) : Char := Char.ofNat b.toNat

theorem chr_ofNat {c : Char} (ascii : c.toNat < 128) : chr (UInt8.ofNat c.toNat) = c := by
  have value : (UInt8.ofNat c.toNat).toNat = c.toNat :=
    UInt8.toNat_ofNat_of_lt' (Nat.lt_trans ascii (by decide))
  rw [chr, value, Char.ofNat_toNat]

theorem toNat_chr {b : UInt8} (ascii : b.toNat < 128) : (chr b).toNat = b.toNat := by
  have each : ∀ n < 128, (Char.ofNat n).toNat = n := by decide
  exact each b.toNat ascii

theorem bytesOf_eq_flatMap (text : String) :
    bytesOf text = text.toList.flatMap String.utf8EncodeChar := by
  rw [bytesOf, String.toUTF8_eq_toByteArray, ← String.utf8Encode_toList]
  simp [List.utf8Encode]

theorem bytesOf_injective {text text' : String} (same : bytesOf text = bytesOf text') :
    text = text' := by
  apply String.toByteArray_inj.1
  apply ByteArray.ext
  apply Array.toList_inj.1
  exact same

theorem utf8EncodeChar_of_ascii {c : Char} (ascii : c.toNat < 128) :
    String.utf8EncodeChar c = [UInt8.ofNat c.toNat] := by
  apply String.utf8EncodeChar_eq_singleton
  rw [Char.utf8Size_eq_one_iff, UInt32.le_iff_toNat_le]
  exact Nat.le_of_lt_succ ascii

/-- Each character of such a text is its own byte. -/
theorem bytesOf_of_ascii {text : String} (ascii : ∀ c ∈ text.toList, c.toNat < 128) :
    bytesOf text = text.toList.map fun c => UInt8.ofNat c.toNat := by
  rw [bytesOf_eq_flatMap]
  revert ascii
  generalize text.toList = cs
  intro ascii
  induction cs with
  | nil => rfl
  | cons c rest ih =>
      rw [List.flatMap_cons, utf8EncodeChar_of_ascii (ascii c (List.mem_cons_self ..)),
        List.map_cons, ih fun d member => ascii d (List.mem_cons_of_mem c member)]
      rfl

/-- A text whose bytes are all below 128 has no other characters. -/
theorem toList_of_ascii {text : String} (ascii : ∀ b ∈ bytesOf text, b.toNat < 128) :
    text.toList = (bytesOf text).map chr := by
  have plain : ∀ c ∈ (String.ofList ((bytesOf text).map chr)).toList, c.toNat < 128 := by
    intro c member
    rw [String.toList_ofList, List.mem_map] at member
    obtain ⟨b, member, rfl⟩ := member
    rw [toNat_chr (ascii b member)]
    exact ascii b member
  have same : bytesOf (String.ofList ((bytesOf text).map chr)) = bytesOf text := by
    rw [bytesOf_of_ascii plain, String.toList_ofList, List.map_map]
    refine Eq.trans (List.map_congr_left ?_) (List.map_id _)
    intro b member
    rw [Function.comp_apply, toNat_chr (ascii b member), UInt8.ofNat_toNat, id]
  have chars := congrArg String.toList (bytesOf_injective same)
  rw [String.toList_ofList] at chars
  exact chars.symm

/-! ## Reading -/

/-- Each digit stands for a number that has it, in lowercase, as its own. -/
theorem value?_spec (b : UInt8) :
    (value? b).isSome = (chr b).isHexDigit ∧
      ∀ v ∈ value? b, v < 16 ∧ b.toNat < 128 ∧ digit v = (chr b).toLower := by
  have each : ∀ n < 256, (value? (UInt8.ofNat n)).isSome = (chr (UInt8.ofNat n)).isHexDigit ∧
      ∀ v ∈ value? (UInt8.ofNat n), v < 16 ∧ (UInt8.ofNat n).toNat < 128 ∧
        digit v = (chr (UInt8.ofNat n)).toLower := by decide +kernel
  have here := each b.toNat b.toNat_lt
  rwa [UInt8.ofNat_toNat] at here

theorem isHexDigit_of_value? {b : UInt8} {v : Nat} (read : value? b = some v) :
    (chr b).isHexDigit = true := by
  rw [← (value?_spec b).1, read]
  rfl

theorem exists_value? {b : UInt8} (hexadecimal : (chr b).isHexDigit = true) :
    ∃ v, value? b = some v := by
  rw [← (value?_spec b).1] at hexadecimal
  exact Option.isSome_iff_exists.1 hexadecimal

/-- A byte is written as the digits of its halves. -/
theorem pair_ofNat {high low : Nat} (small : high < 16) (small' : low < 16) :
    pair (UInt8.ofNat (16 * high + low)) = [digit high, digit low] := by
  have value : (UInt8.ofNat (16 * high + low)).toNat = 16 * high + low :=
    UInt8.toNat_ofNat_of_lt' (by simp only [UInt8.size]; omega)
  have upper : (16 * high + low) / 16 = high := by omega
  have lower : (16 * high + low) % 16 = low := by omega
  rw [pair, value, upper, lower]

/-- What was read is written with the same digits, in lowercase. -/
theorem decodeFrom_ok {index : Nat} {digits bytes : List UInt8}
    (read : decodeFrom index digits = .ok bytes) :
    (∀ b ∈ digits, (chr b).isHexDigit = true) ∧
      bytes.flatMap pair = digits.map fun b => (chr b).toLower := by
  fun_induction decodeFrom index digits generalizing bytes with
  | case1 =>
      cases read
      exact ⟨nofun, rfl⟩
  | case2 => cases read
  | case3 => cases read
  | case4 => cases read
  | case5 index high low rest h l lowRead highRead ih =>
      cases tail : decodeFrom (index + 2) rest with
      | error e =>
          rw [tail] at read
          cases read
      | ok more =>
          rw [tail] at read
          cases read
          obtain ⟨hexadecimal, written⟩ := ih tail
          obtain ⟨small, -, upper⟩ := (value?_spec high).2 h highRead
          obtain ⟨small', -, lower⟩ := (value?_spec low).2 l lowRead
          constructor
          · intro b member
            rcases List.mem_cons.1 member with rfl | member
            · exact isHexDigit_of_value? highRead
            rcases List.mem_cons.1 member with rfl | member
            · exact isHexDigit_of_value? lowRead
            · exact hexadecimal b member
          · rw [List.flatMap_cons, pair_ofNat small small', written, upper, lower]
            rfl

theorem length_flatMap_pair (bytes : List UInt8) :
    (bytes.flatMap pair).length = 2 * bytes.length := by
  induction bytes with
  | nil => rfl
  | cons b rest ih =>
      rw [List.flatMap_cons, List.length_append, ih, List.length_cons]
      simp only [pair, List.length_cons, List.length_nil]
      omega

/-- An even number of digits is read. -/
theorem exists_decodeFrom {digits : List UInt8}
    (hexadecimal : ∀ b ∈ digits, (chr b).isHexDigit = true) (even : digits.length % 2 = 0)
    (index : Nat) : ∃ bytes, decodeFrom index digits = .ok bytes := by
  fun_induction decodeFrom index digits with
  | case1 => exact ⟨[], rfl⟩
  | case2 => cases even
  | case3 index high low rest none =>
      obtain ⟨v, read⟩ := exists_value? (hexadecimal high (by simp))
      rw [none] at read
      cases read
  | case4 index high low rest h none highRead =>
      obtain ⟨v, read⟩ := exists_value? (hexadecimal low (by simp))
      rw [none] at read
      cases read
  | case5 index high low rest h l lowRead highRead ih =>
      have fewer : rest.length % 2 = 0 := by
        simp only [List.length_cons] at even
        omega
      obtain ⟨bytes, read⟩ := ih (fun b member => hexadecimal b (by simp [member])) fewer
      exact ⟨_, by rw [read]; rfl⟩

/-- Just the rows of digits are read that are, in lowercase, what is written. -/
theorem decode_eq_ok_iff {digits bytes : List UInt8} :
    decode digits = .ok bytes ↔ (∀ b ∈ digits, (chr b).isHexDigit = true) ∧
      bytes.flatMap pair = digits.map fun b => (chr b).toLower := by
  constructor
  · intro read
    unfold decode at read
    split at read
    · cases read
    · exact decodeFrom_ok read
  · rintro ⟨hexadecimal, written⟩
    have even : digits.length % 2 = 0 := by
      have lengths := congrArg List.length written
      rw [List.length_map, length_flatMap_pair] at lengths
      omega
    obtain ⟨other, read⟩ := exists_decodeFrom hexadecimal even 0
    have same : other.flatMap pair = bytes.flatMap pair := by
      rw [written, (decodeFrom_ok read).2]
    rw [decode, if_neg (by omega), read, flatMap_pair_injective same]

theorem ascii_of_isHexDigit {c : Char} (hexadecimal : c.isHexDigit = true) : c.toNat < 128 := by
  have nine : '9'.val.toNat = 57 := rfl
  have lowerF : 'f'.val.toNat = 102 := rfl
  have upperF : 'F'.val.toNat = 70 := rfl
  simp only [Char.isHexDigit, Char.isDigit, Bool.or_eq_true, Bool.and_eq_true, decide_eq_true_eq,
    UInt32.le_iff_toNat_le, nine, lowerF, upperF] at hexadecimal
  rcases hexadecimal with (⟨-, le⟩ | ⟨-, le⟩) | ⟨-, le⟩ <;>
    exact Nat.lt_of_le_of_lt le (by decide)

theorem map_chr_bytesOf {text : String} (hexadecimal : ∀ c ∈ text.toList, c.isHexDigit = true) :
    (bytesOf text).map chr = text.toList := by
  have ascii : ∀ c ∈ text.toList, c.toNat < 128 := fun c member =>
    ascii_of_isHexDigit (hexadecimal c member)
  rw [bytesOf_of_ascii ascii, List.map_map]
  refine Eq.trans (List.map_congr_left ?_) (List.map_id _)
  intro c member
  exact chr_ofNat (ascii c member)

/-- A text whose bytes are digits has no other characters. -/
theorem toList_of_digits {text : String}
    (hexadecimal : ∀ b ∈ bytesOf text, (chr b).isHexDigit = true) :
    text.toList = (bytesOf text).map chr := by
  refine toList_of_ascii fun b member => ?_
  obtain ⟨v, read⟩ := exists_value? (hexadecimal b member)
  exact ((value?_spec b).2 v read).2.1

/-- **Just the texts of digits are read**, and what was read is written as the same digits in
lowercase. -/
theorem decode_bytesOf_eq_ok_iff {text : String} {bytes : List UInt8} :
    decode (bytesOf text) = .ok bytes ↔ (∀ c ∈ text.toList, c.isHexDigit = true) ∧
      (encode bytes).toList = text.toList.map Char.toLower := by
  rw [decode_eq_ok_iff, encode, String.toList_ofList]
  constructor
  · rintro ⟨hexadecimal, written⟩
    rw [toList_of_digits hexadecimal, List.forall_mem_map, List.map_map]
    exact ⟨hexadecimal, written⟩
  · rintro ⟨hexadecimal, written⟩
    have chars := map_chr_bytesOf hexadecimal
    rw [← chars, List.forall_mem_map] at hexadecimal
    rw [← chars, List.map_map] at written
    exact ⟨hexadecimal, written⟩

/-- Any even number of digits is read. -/
theorem exists_decode {text : String} (hexadecimal : ∀ c ∈ text.toList, c.isHexDigit = true)
    (even : text.toList.length % 2 = 0) : ∃ bytes, decode (bytesOf text) = .ok bytes := by
  have chars := map_chr_bytesOf hexadecimal
  rw [← chars, List.length_map] at even
  rw [← chars, List.forall_mem_map] at hexadecimal
  rw [decode, if_neg (by omega)]
  exact exists_decodeFrom hexadecimal even 0

end Hex

/-- A build is known by the text form of its fingerprint. -/
theorem Fingerprint.hex_injective {f g : Fingerprint} (same : f.hex = g.hex) : f = g := by
  obtain ⟨digest⟩ := f
  obtain ⟨digest'⟩ := g
  have bytes : digest.toList = digest'.toList := Hex.encode_injective same
  rw [Vector.toList_inj.1 bytes]

namespace Fingerprint

theorem length_bytes (f : Fingerprint) : f.bytes.length = 32 := by simp [bytes]

theorem length_hex (f : Fingerprint) : f.hex.toList.length = 64 := by
  rw [hex, Hex.encode, String.toList_ofList, Hex.length_flatMap_pair, length_bytes]

theorem ofBytes_eq_ok_iff {bs : List UInt8} {f : Fingerprint} :
    ofBytes bs = .ok f ↔ bs = f.bytes := by
  unfold ofBytes
  constructor
  · intro built
    split at built
    · cases built
      rfl
    · cases built
  · rintro rfl
    rw [dif_pos f.length_bytes]
    rfl

/-- **A fingerprint is read from just the texts of digits that are, in lowercase, its own.** -/
theorem parse_eq_ok_iff {text : String} {f : Fingerprint} :
    parse text = .ok f ↔ (∀ c ∈ text.toList, c.isHexDigit = true) ∧
      f.hex.toList = text.toList.map Char.toLower := by
  rw [hex, ← Hex.decode_bytesOf_eq_ok_iff, parse]
  constructor
  · intro read
    split at read
    · cases read
    · rename_i bs decoded
      rw [decoded, ofBytes_eq_ok_iff.1 read]
  · intro decoded
    rw [decoded]
    exact ofBytes_eq_ok_iff.2 rfl

theorem digits_hex (f : Fingerprint) :
    ∀ c ∈ f.hex.toList, c.isHexDigit = true ∧ c.isUpper = false := by
  have each : ∀ n < 16, (Hex.digit n).isHexDigit = true ∧ (Hex.digit n).isUpper = false := by
    decide
  intro c member
  obtain ⟨n, small, rfl⟩ := Hex.mem_encode member
  exact each n small

/-- A fingerprint is read from its own text form. -/
theorem parse_hex (f : Fingerprint) : parse f.hex = .ok f := by
  refine parse_eq_ok_iff.2 ⟨fun c member => (f.digits_hex c member).1, ?_⟩
  exact (map_toLower_eq_self_iff.2 fun c member => (f.digits_hex c member).2).symm

/-- Any 64 digits are read. -/
theorem exists_parse {text : String} (hexadecimal : ∀ c ∈ text.toList, c.isHexDigit = true)
    (count : text.toList.length = 64) : ∃ f, parse text = .ok f := by
  obtain ⟨bs, read⟩ := Hex.exists_decode hexadecimal (by omega)
  have written := (Hex.decode_bytesOf_eq_ok_iff.1 read).2
  have length : bs.length = 32 := by
    have lengths := congrArg List.length written
    rw [Hex.encode, String.toList_ofList, Hex.length_flatMap_pair, List.length_map, count]
      at lengths
    omega
  rw [parse, read]
  exact ⟨_, dif_pos length⟩

end Fingerprint

end HotSwap
