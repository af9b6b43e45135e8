/-
# HotSwap.Proofs.Text.Decimal -- numbers with blanks around them

A number that comes from outside is a text.  It is written in decimal digits, perhaps behind a
plus, and blanks around it do not count.  `Text.Trims` says what is left of a text without them,
and `Text.Numeral` which texts are numbers and what they stand for, whatever their size.

`Text.trims_iff` says that trimming does just that.  `Settings.word?_eq_some_iff` and
`Settings.word?_eq_none_iff` say that a text is read exactly if it is the numeral of a number of
64 bits, and then as that number.
-/
import HotSwap.Settings.Basic

namespace HotSwap

set_option autoImplicit false

namespace Text

/-! ## Blanks -/

/-- A text without the blanks around it: nothing but blanks is missing, and no end is blank. -/
structure Trims (text core : List Char) : Prop where
  around : ∃ before after,
    text = before ++ core ++ after ∧ ∀ c ∈ before ++ after, isBlank c = true
  begins : ∀ c ∈ core.head?, isBlank c = false
  ends : ∀ c ∈ core.getLast?, isBlank c = false

theorem dropWhile_isBlank_of_begins {core : List Char}
    (begins : ∀ c ∈ core.head?, isBlank c = false) : core.dropWhile isBlank = core := by
  cases core with
  | nil => rfl
  | cons c rest =>
      have first : isBlank c = false := begins c rfl
      rw [List.dropWhile_cons_of_neg (by simp [first])]

/-- What is left behind leading blanks begins with none. -/
theorem begins_dropWhile (text : List Char) :
    ∀ c ∈ (text.dropWhile isBlank).head?, isBlank c = false := by
  intro c first
  have clear := List.head?_dropWhile_not isBlank text
  rw [Option.mem_def.1 first] at clear
  exact clear

/-- Trimming leaves the text without the blanks around it. -/
theorem trims_trimChars (text : List Char) : Trims text (trimChars text) := by
  have front : text = text.takeWhile isBlank ++ text.dropWhile isBlank :=
    List.takeWhile_append_dropWhile.symm
  have back : text.dropWhile isBlank =
      trimChars text ++ ((text.dropWhile isBlank).reverse.takeWhile isBlank).reverse := by
    rw [trimChars, ← List.reverse_append, List.takeWhile_append_dropWhile, List.reverse_reverse]
  refine ⟨⟨text.takeWhile isBlank, ((text.dropWhile isBlank).reverse.takeWhile isBlank).reverse,
    ?_, ?_⟩, ?_, ?_⟩
  · rw [List.append_assoc, ← back, ← front]
  · intro c member
    rcases List.mem_append.1 member with before | after
    · exact List.all_eq_true.1 List.all_takeWhile c before
    · exact List.all_eq_true.1 List.all_takeWhile c (List.mem_reverse.1 after)
  · intro c first
    apply begins_dropWhile text
    rw [back, List.head?_append, Option.mem_def.1 first]
    rfl
  · intro c last
    apply begins_dropWhile (text.dropWhile isBlank).reverse
    rw [trimChars, List.getLast?_reverse] at last
    exact last

/-- **Trimming leaves just what stands between the blanks.** -/
theorem trims_iff {text core : List Char} : Trims text core ↔ trimChars text = core := by
  constructor
  · rintro ⟨⟨before, after, rfl, blank⟩, begins, ends⟩
    have leading : ∀ c ∈ before, isBlank c = true := fun c member =>
      blank c (List.mem_append_left _ member)
    have trailing : ∀ c ∈ after.reverse, isBlank c = true := fun c member =>
      blank c (List.mem_append_right _ (List.mem_reverse.1 member))
    rw [trimChars, List.append_assoc, List.dropWhile_append_of_pos leading]
    by_cases nothing : core = []
    · subst nothing
      have gone : after.dropWhile isBlank = [] := by
        have all : (after ++ []).dropWhile isBlank = [] :=
          List.dropWhile_append_of_pos fun c member => trailing c (List.mem_reverse.2 member)
        rwa [List.append_nil] at all
      rw [List.nil_append, gone]
      rfl
    · have kept : ∀ c ∈ (core ++ after).head?, isBlank c = false := by
        intro c first
        obtain ⟨d, rest, rfl⟩ := List.exists_cons_of_ne_nil nothing
        exact begins c first
      rw [dropWhile_isBlank_of_begins kept, List.reverse_append,
        List.dropWhile_append_of_pos trailing, dropWhile_isBlank_of_begins, List.reverse_reverse]
      rwa [List.head?_reverse]
  · rintro rfl
    exact trims_trimChars text

/-! ## Numerals -/

/-- A decimal number: at least one digit, perhaps behind a plus.  Zeros may lead. -/
inductive Numeral : List Char → Nat → Prop where
  | digits {cs : List Char} (some : cs ≠ []) (decimal : ∀ c ∈ cs, c.isDigit = true) :
      Numeral cs (Nat.ofDigitChars 10 cs 0)
  | plus {cs : List Char} (some : cs ≠ []) (decimal : ∀ c ∈ cs, c.isDigit = true) :
      Numeral ('+' :: cs) (Nat.ofDigitChars 10 cs 0)

theorem Digits.valueFrom_eq_ofDigitChars (n : Nat) (cs : List Char) :
    Digits.valueFrom 10 n (cs.map fun c => c.toNat - 48) = Nat.ofDigitChars 10 cs n := by
  induction cs generalizing n with
  | nil => rw [List.map_nil, Digits.valueFrom, Nat.ofDigitChars_nil]
  | cons c cs ih =>
      rw [List.map_cons, Digits.valueFrom, ih, Nat.ofDigitChars_cons]
      rfl

end Text

namespace Settings

open Text

/-- The digits of a number: what stands behind the plus, if there is one. -/
def unsigned : List Char → List Char
  | '+' :: rest => rest
  | cs => cs

/-- A numeral is known by its digits. -/
theorem numeral_iff {cs : List Char} {n : Nat} :
    Numeral cs n ↔ unsigned cs ≠ [] ∧ (∀ c ∈ unsigned cs, c.isDigit = true) ∧
      Nat.ofDigitChars 10 (unsigned cs) 0 = n := by
  constructor
  · intro numeral
    cases numeral with
    | plus some decimal => exact ⟨some, decimal, rfl⟩
    | digits some decimal =>
        have same : unsigned cs = cs := by
          unfold unsigned
          split
          · exact absurd (decimal '+' (List.mem_cons_self ..)) (by decide)
          · rfl
        rw [same]
        exact ⟨some, decimal, rfl⟩
  · rintro ⟨some, decimal, rfl⟩
    revert some decimal
    unfold unsigned
    split
    · exact .plus
    · exact .digits

/-- How a number of 64 bits is read. -/
theorem word?_eq (cs : List Char) :
    word? cs =
      if (unsigned cs).isEmpty || !(unsigned cs).all Char.isDigit then none
      else if Nat.ofDigitChars 10 (unsigned cs) 0 ≤ maxWord then
        some (UInt64.ofNat (Nat.ofDigitChars 10 (unsigned cs) 0))
      else none := by
  have steps : word? cs =
      if (unsigned cs).isEmpty || !(unsigned cs).all Char.isDigit then none
      else (Digits.natUpTo? 10 maxWord ((unsigned cs).map fun c => c.toNat - 48)).map
        UInt64.ofNat := rfl
  rw [steps, Digits.natUpTo?_eq (by decide), Digits.value, Digits.valueFrom_eq_ofDigitChars]
  by_cases small : Nat.ofDigitChars 10 (unsigned cs) 0 ≤ maxWord
  · rw [if_pos small, if_pos small, Option.map_some]
  · rw [if_neg small, if_neg small, Option.map_none]

/-- **Just the numerals of 64-bit numbers are read**, each as its number. -/
theorem word?_eq_some_iff {cs : List Char} {w : UInt64} :
    word? cs = some w ↔ Numeral cs w.toNat := by
  rw [word?_eq, numeral_iff]
  by_cases shaped : unsigned cs ≠ [] ∧ ∀ c ∈ unsigned cs, c.isDigit = true
  · have plain : ((unsigned cs).isEmpty || !(unsigned cs).all Char.isDigit) = false := by
      rw [List.all_eq_true.2 shaped.2]
      simp [shaped.1]
    rw [plain, if_neg Bool.false_ne_true]
    constructor
    · intro read
      split at read
      · rename_i small
        obtain rfl := Option.some.inj read
        have value : (UInt64.ofNat (Nat.ofDigitChars 10 (unsigned cs) 0)).toNat =
            Nat.ofDigitChars 10 (unsigned cs) 0 :=
          UInt64.toNat_ofNat_of_lt' (Nat.lt_succ_of_le small)
        exact ⟨shaped.1, shaped.2, value.symm⟩
      · cases read
    · rintro ⟨-, -, value⟩
      have small : w.toNat ≤ maxWord := Nat.le_of_lt_succ w.toNat_lt
      rw [value, if_pos small, UInt64.ofNat_toNat]
  · have strange : ((unsigned cs).isEmpty || !(unsigned cs).all Char.isDigit) = true := by
      rw [Bool.or_eq_true, List.isEmpty_iff, Bool.not_eq_true', Bool.eq_false_iff, Ne,
        List.all_eq_true]
      by_cases nothing : unsigned cs = []
      · exact .inl nothing
      · exact .inr fun decimal => shaped ⟨nothing, decimal⟩
    rw [strange, if_pos rfl]
    constructor
    · intro read
      cases read
    · rintro ⟨some, decimal, -⟩
      exact absurd ⟨some, decimal⟩ shaped

/-- A text that is not read is no numeral, or that of a larger number. -/
theorem word?_eq_none_iff {cs : List Char} :
    word? cs = none ↔ ∀ n, Numeral cs n → maxWord < n := by
  rw [Option.eq_none_iff_forall_ne_some]
  constructor
  · intro unread n numeral
    rcases Nat.lt_or_ge maxWord n with beyond | small
    · exact beyond
    · have value : (UInt64.ofNat n).toNat = n :=
        UInt64.toNat_ofNat_of_lt' (Nat.lt_succ_of_le small)
      rw [← value] at numeral
      exact absurd (word?_eq_some_iff.2 numeral) (unread _)
  · intro beyond w read
    have larger := beyond _ (word?_eq_some_iff.1 read)
    have small : w.toNat ≤ maxWord := Nat.le_of_lt_succ w.toNat_lt
    omega

end Settings

end HotSwap
