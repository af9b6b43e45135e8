/-
# HotSwap.Text.Digits -- the number that a row of digits stands for

`value` is the number, whatever its size.  `natUpTo?` gives it only if it is within
a limit.  The number never shrinks when a digit follows, so the reading ends where
the limit is passed, and a row of a million digits costs no more than its length;
`natUpTo?_eq` says that nothing is missed by that.
-/
namespace HotSwap.Text.Digits

set_option autoImplicit false

/-- The number that digits stand for behind a number read so far. -/
def valueFrom (base : Nat) : Nat → List Nat → Nat
  | n, [] => n
  | n, d :: rest => valueFrom base (base * n + d) rest

def value (base : Nat) (digits : List Nat) : Nat := valueFrom base 0 digits

/-- The number that digits stand for behind a number read so far, if it is within a
limit. -/
def natFromUpTo? (base limit : Nat) : Nat → List Nat → Option Nat
  | n, [] => some n
  | n, d :: rest =>
      if base * n + d ≤ limit then natFromUpTo? base limit (base * n + d) rest else none

/-- The number that a row of digits stands for, if it is within a limit. -/
def natUpTo? (base limit : Nat) (digits : List Nat) : Option Nat :=
  natFromUpTo? base limit 0 digits

theorem le_valueFrom {base : Nat} (h : 0 < base) (n : Nat) (digits : List Nat) :
    n ≤ valueFrom base n digits := by
  induction digits generalizing n with
  | nil => exact Nat.le_refl n
  | cons d rest ih =>
      have grown : n ≤ base * n + d :=
        Nat.le_trans (Nat.le_mul_of_pos_left n h) (Nat.le_add_right _ d)
      exact Nat.le_trans grown (ih (base * n + d))

/-- Reading within a limit gives the number exactly when it is within the limit. -/
theorem natFromUpTo?_eq {base limit n : Nat} (h : 0 < base) (hn : n ≤ limit)
    (digits : List Nat) :
    natFromUpTo? base limit n digits =
      if valueFrom base n digits ≤ limit then some (valueFrom base n digits) else none := by
  induction digits generalizing n with
  | nil => simp [natFromUpTo?, valueFrom, hn]
  | cons d rest ih =>
      rw [natFromUpTo?, valueFrom]
      split
      · next within => exact ih within
      · next beyond =>
          have past : ¬valueFrom base (base * n + d) rest ≤ limit := fun le =>
            beyond (Nat.le_trans (le_valueFrom h _ rest) le)
          rw [if_neg past]

/-- A row of digits is read exactly when its number is within the limit. -/
theorem natUpTo?_eq {base : Nat} (h : 0 < base) (limit : Nat) (digits : List Nat) :
    natUpTo? base limit digits =
      if value base digits ≤ limit then some (value base digits) else none :=
  natFromUpTo?_eq h (Nat.zero_le limit) digits

end HotSwap.Text.Digits
