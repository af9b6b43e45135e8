/-
# HotSwap.Proofs.Text.FingerprintText -- what a text says of a fingerprint

A text is looked at as a row of bytes, and its faults have ranks: an odd number of bytes comes
before any byte that is no digit, the first of these before the later ones, and how many digits
there are is asked last.  `Fingerprint.Reads` says so without a decoder, and
`Fingerprint.parse_eq_iff` that reading a text comes to just that.

In the other direction a fingerprint is written as 64 lowercase digits.  The high half of a byte
stands first and digits grow with their numbers, so texts are ordered as the fingerprints are
(`Hex.encode_lt_encode_iff`).  `Fingerprint.textForm` has both directions.
-/
import HotSwap.Proofs.Text.HexForm

namespace HotSwap

set_option autoImplicit false

namespace Hex

/-! ## The first byte that is no digit -/

/-- The byte at position `i` is `b` and no digit, and every byte before it is one. -/
structure Stray (digits : List UInt8) (i : Nat) (b : UInt8) : Prop where
  there : digits[i]? = some b
  other : (chr b).isHexDigit = false
  first : ∀ j < i, ∀ d, digits[j]? = some d → (chr d).isHexDigit = true

theorem Stray.here {b : UInt8} {rest : List UInt8} (other : (chr b).isHexDigit = false) :
    Stray (b :: rest) 0 b :=
  ⟨rfl, other, nofun⟩

theorem Stray.behind {d : UInt8} {rest : List UInt8} {i : Nat} {b : UInt8}
    (hexadecimal : (chr d).isHexDigit = true) (stray : Stray rest i b) :
    Stray (d :: rest) (i + 1) b := by
  refine ⟨stray.there, stray.other, fun j before c there => ?_⟩
  cases j with
  | zero =>
      cases there
      exact hexadecimal
  | succ j => exact stray.first j (Nat.lt_of_succ_lt_succ before) c there

theorem Stray.front {d : UInt8} {rest : List UInt8} {i : Nat} {b : UInt8}
    (stray : Stray (d :: rest) i b) (other : (chr d).isHexDigit = false) : i = 0 ∧ b = d := by
  cases i with
  | zero =>
      cases stray.there
      exact ⟨rfl, rfl⟩
  | succ k =>
      have hexadecimal := stray.first 0 (Nat.succ_pos k) d rfl
      rw [other] at hexadecimal
      cases hexadecimal

theorem Stray.beyond {d : UInt8} {rest : List UInt8} {i : Nat} {b : UInt8}
    (stray : Stray (d :: rest) i b) (hexadecimal : (chr d).isHexDigit = true) :
    ∃ k, i = k + 1 ∧ Stray rest k b := by
  cases i with
  | zero =>
      cases stray.there
      rw [stray.other] at hexadecimal
      cases hexadecimal
  | succ k =>
      refine ⟨k, rfl, stray.there, stray.other, fun j before c there => ?_⟩
      exact stray.first (j + 1) (Nat.succ_lt_succ before) c there

/-- There is such a byte unless all of them are digits. -/
theorem digits_or_stray (digits : List UInt8) :
    (∀ b ∈ digits, (chr b).isHexDigit = true) ∨ ∃ i b, Stray digits i b := by
  induction digits with
  | nil => exact .inl nofun
  | cons d rest ih =>
      cases hexadecimal : (chr d).isHexDigit with
      | false => exact .inr ⟨0, d, .here hexadecimal⟩
      | true =>
          rcases ih with all | ⟨i, b, stray⟩
          · exact .inl (List.forall_mem_cons.2 ⟨hexadecimal, all⟩)
          · exact .inr ⟨i + 1, b, stray.behind hexadecimal⟩

theorem value?_eq_none_iff {b : UInt8} : value? b = none ↔ (chr b).isHexDigit = false := by
  rw [← (value?_spec b).1, Option.isSome_eq_false_iff, Option.isNone_iff_eq_none]

/-- Reading an even number of bytes stops at the first that is no digit. -/
theorem Stray.decodeFrom_eq {digits : List UInt8} {i : Nat} {b : UInt8} (stray : Stray digits i b)
    (even : digits.length % 2 = 0) (index : Nat) :
    decodeFrom index digits = .error (.invalidCharacter b (index + i)) := by
  fun_induction decodeFrom index digits generalizing i with
  | case1 => cases stray.there
  | case2 => cases even
  | case3 index high low rest unread =>
      obtain ⟨rfl, rfl⟩ := stray.front (value?_eq_none_iff.1 unread)
      rfl
  | case4 index high low rest h unread highRead =>
      obtain ⟨k, rfl, behind⟩ := stray.beyond (isHexDigit_of_value? highRead)
      obtain ⟨rfl, rfl⟩ := behind.front (value?_eq_none_iff.1 unread)
      rfl
  | case5 index high low rest h l lowRead highRead ih =>
      obtain ⟨k, rfl, behind⟩ := stray.beyond (isHexDigit_of_value? highRead)
      obtain ⟨k, rfl, after⟩ := behind.beyond (isHexDigit_of_value? lowRead)
      have fewer : rest.length % 2 = 0 := by
        simp only [List.length_cons] at even
        omega
      have position : index + (k + 1 + 1) = index + 2 + k := by omega
      rw [ih after fewer, position]
      rfl

/-! ## The order of what is written -/

theorem encode_append (as bs : List UInt8) : encode (as ++ bs) = encode as ++ encode bs := by
  rw [encode, encode, encode, List.flatMap_append, String.ofList_append]

theorem digit_lt_iff {m n : Nat} (small : m < 16) (small' : n < 16) :
    digit m < digit n ↔ m < n := by
  have each : ∀ m < 16, ∀ n < 16, (digit m < digit n ↔ m < n) := by decide
  exact each m small n small'

/-- The bytes in front are compared before what stands behind them. -/
theorem pair_append_lt_iff {a b : UInt8} {cs ds : List Char} :
    pair a ++ cs < pair b ++ ds ↔ a < b ∨ a = b ∧ cs < ds := by
  have bound := a.toNat_lt
  have bound' := b.toNat_lt
  have digits_iff {m n : Nat} (small : m < 16) (small' : n < 16) : digit m = digit n ↔ m = n :=
    ⟨digit_injective small small', congrArg digit⟩
  have high : a.toNat / 16 < 16 := by omega
  have high' : b.toNat / 16 < 16 := by omega
  have low : a.toNat % 16 < 16 := by omega
  have low' : b.toNat % 16 < 16 := by omega
  have less : a < b ↔ a.toNat / 16 < b.toNat / 16 ∨
      a.toNat / 16 = b.toNat / 16 ∧ a.toNat % 16 < b.toNat % 16 := by
    rw [UInt8.lt_iff_toNat_lt]
    omega
  have same : a = b ↔ a.toNat / 16 = b.toNat / 16 ∧ a.toNat % 16 = b.toNat % 16 := by
    rw [← UInt8.toNat_inj]
    omega
  rw [pair, pair, List.cons_append, List.cons_append, List.cons_append, List.cons_append,
    List.nil_append, List.nil_append, List.cons_lt_cons_iff, List.cons_lt_cons_iff,
    digit_lt_iff high high', digit_lt_iff low low', digits_iff high high', digits_iff low low',
    less, same, and_or_left, or_assoc, and_assoc]

theorem flatMap_pair_lt_iff (as bs : List UInt8) :
    as.flatMap pair < bs.flatMap pair ↔ as < bs := by
  induction as generalizing bs with
  | nil =>
      cases bs with
      | nil => exact iff_of_false (List.not_lt_nil _) (List.not_lt_nil _)
      | cons b bs => exact iff_of_true (List.nil_lt_cons _ _) (List.nil_lt_cons _ _)
  | cons a as ih =>
      cases bs with
      | nil => exact iff_of_false (List.not_lt_nil _) (List.not_lt_nil _)
      | cons b bs =>
          rw [List.flatMap_cons, List.flatMap_cons, pair_append_lt_iff, List.cons_lt_cons_iff, ih]

/-- Texts are ordered as the byte strings that they are written for. -/
theorem encode_lt_encode_iff {as bs : List UInt8} : encode as < encode bs ↔ as < bs := by
  rw [String.lt_iff, encode, encode, String.toList_ofList, String.toList_ofList,
    flatMap_pair_lt_iff]

end Hex

namespace Fingerprint

/-! ## Reading -/

/-- What a text is read as: the first of its faults, in the order of their ranks, or else the
fingerprint that is written with the same digits in lowercase. -/
inductive Reads (text : String) : Except Error Fingerprint → Prop where
  | odd (uneven : (Hex.bytesOf text).length % 2 = 1) : Reads text (.error (.hex .oddLength))
  | stray (i : Nat) (b : UInt8) (even : (Hex.bytesOf text).length % 2 = 0)
      (first : Hex.Stray (Hex.bytesOf text) i b) :
      Reads text (.error (.hex (.invalidCharacter b i)))
  | miscounted (even : (Hex.bytesOf text).length % 2 = 0)
      (hexadecimal : ∀ b ∈ Hex.bytesOf text, (Hex.chr b).isHexDigit = true)
      (count : (Hex.bytesOf text).length ≠ 64) :
      Reads text (.error (.invalidLength ((Hex.bytesOf text).length / 2)))
  | whole (f : Fingerprint)
      (hexadecimal : ∀ b ∈ Hex.bytesOf text, (Hex.chr b).isHexDigit = true)
      (count : (Hex.bytesOf text).length = 64) (written : f.hex = text.toLower) :
      Reads text (.ok f)

theorem hex_eq_toLower_iff {f : Fingerprint} {text : String} :
    f.hex = text.toLower ↔ f.hex.toList = text.toList.map Char.toLower := by
  have lowered : text.toLower.toList = text.toList.map Char.toLower := String.toList_map
  rw [← lowered, String.toList_inj]

theorem digits_of_bytes {text : String}
    (hexadecimal : ∀ b ∈ Hex.bytesOf text, (Hex.chr b).isHexDigit = true) :
    (∀ c ∈ text.toList, c.isHexDigit = true) ∧
      text.toList.length = (Hex.bytesOf text).length := by
  rw [Hex.toList_of_digits hexadecimal, List.forall_mem_map, List.length_map]
  exact ⟨hexadecimal, rfl⟩

theorem Reads.parse_eq {text : String} {result : Except Error Fingerprint}
    (reads : Reads text result) : parse text = result := by
  cases reads with
  | odd uneven => rw [parse, Hex.decode, if_pos uneven]
  | stray i b even first =>
      rw [parse, Hex.decode, if_neg (by omega), first.decodeFrom_eq even, Nat.zero_add]
  | miscounted even hexadecimal count =>
      obtain ⟨bs, read⟩ := Hex.exists_decodeFrom hexadecimal even 0
      have lengths := congrArg List.length (Hex.decodeFrom_ok read).2
      rw [Hex.length_flatMap_pair, List.length_map] at lengths
      have half : (Hex.bytesOf text).length / 2 = bs.length := by omega
      rw [parse, Hex.decode, if_neg (by omega), read, half]
      exact dif_neg (by omega)
  | whole f hexadecimal count written =>
      exact parse_eq_ok_iff.2 ⟨(digits_of_bytes hexadecimal).1, hex_eq_toLower_iff.1 written⟩

theorem exists_reads (text : String) : ∃ result, Reads text result := by
  rcases Nat.mod_two_eq_zero_or_one (Hex.bytesOf text).length with even | odd
  · rcases Hex.digits_or_stray (Hex.bytesOf text) with hexadecimal | ⟨i, b, stray⟩
    · by_cases count : (Hex.bytesOf text).length = 64
      · obtain ⟨digits, length⟩ := digits_of_bytes hexadecimal
        obtain ⟨f, read⟩ := exists_parse digits (length.trans count)
        have written := hex_eq_toLower_iff.2 (parse_eq_ok_iff.1 read).2
        exact ⟨_, .whole f hexadecimal count written⟩
      · exact ⟨_, .miscounted even hexadecimal count⟩
    · exact ⟨_, .stray i b even stray⟩
  · exact ⟨_, .odd odd⟩

/-- **Reading a text comes to just what the text is read as.** -/
theorem parse_eq_iff {text : String} {result : Except Error Fingerprint} :
    parse text = result ↔ Reads text result := by
  constructor
  · rintro rfl
    obtain ⟨result, reads⟩ := exists_reads text
    rwa [reads.parse_eq]
  · exact Reads.parse_eq

/-- A character of two bytes is a fault at the first of them. -/
example : parse "0é0" = .error (.hex (.invalidCharacter 0xC3 1)) := rfl

/-! ## Writing -/

theorem hex_eq_short_append (f : Fingerprint) :
    f.hex = f.short ++ Hex.encode (f.bytes.drop 8) := by
  rw [hex, short, ← Hex.encode_append, List.take_append_drop]

theorem length_short (f : Fingerprint) : f.short.toList.length = 16 := by
  rw [short, Hex.encode, String.toList_ofList, Hex.length_flatMap_pair, List.length_take,
    length_bytes]
  rfl

/-! ## The order -/

theorem compare_eq_lt_iff (as bs : List UInt8) : compare as bs = .lt ↔ as < bs := by
  induction as generalizing bs with
  | nil =>
      cases bs with
      | nil => exact iff_of_false nofun (List.not_lt_nil _)
      | cons b bs => exact iff_of_true rfl (List.nil_lt_cons _ _)
  | cons a as ih =>
      cases bs with
      | nil => exact iff_of_false nofun (List.not_lt_nil _)
      | cons b bs =>
          have step : compare (a :: as) (b :: bs) = (compare a b).then (compare as bs) :=
            List.compareLex_cons_cons
          rw [step, Ordering.then_eq_lt, ih, Std.compare_eq_lt, Std.compare_eq_iff_eq,
            List.cons_lt_cons_iff]

theorem order_eq_lt_iff {f g : Fingerprint} : f.order g = .lt ↔ f < g :=
  compare_eq_lt_iff f.bytes g.bytes

theorem lt_iff_hex_lt {f g : Fingerprint} : f < g ↔ f.hex < g.hex :=
  Hex.encode_lt_encode_iff.symm

/-- **The text form of a fingerprint.**  A text is read as its first fault, or as the fingerprint
with the same digits, and what a miscount reports names the 32 bytes that were expected.  What is
written has 64 lowercase digits that begin with the short form, and is read again as what it was
written for.  Fingerprints are ordered as their texts. -/
theorem textForm :
    (∀ (text : String) (result : Except Error Fingerprint),
        parse text = result ↔ Reads text result) ∧
      (∀ actual : Nat, (Error.invalidLength actual).message =
        "invalid fingerprint length: expected 32, got " ++ toString actual) ∧
      (∀ f : Fingerprint,
        f.hex.length = 64 ∧ (∀ c ∈ f.hex.toList, c.isHexDigit = true ∧ c.isUpper = false) ∧
          f.short.length = 16 ∧ (∃ rest, f.hex = f.short ++ rest) ∧ parse f.hex = .ok f) ∧
      ∀ f g : Fingerprint, (f < g ↔ f.hex < g.hex) ∧ (f.order g = .lt ↔ f.hex < g.hex) := by
  refine ⟨fun text result => parse_eq_iff, fun actual => rfl, fun f => ?_, fun f g => ?_⟩
  · refine ⟨?_, f.digits_hex, ?_, ⟨_, f.hex_eq_short_append⟩, f.parse_hex⟩
    · rw [← String.length_toList, length_hex]
    · rw [← String.length_toList, length_short]
  · exact ⟨lt_iff_hex_lt, order_eq_lt_iff.trans lt_iff_hex_lt⟩

end Fingerprint

end HotSwap
