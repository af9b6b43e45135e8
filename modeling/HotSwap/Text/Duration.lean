/-
# HotSwap.Text.Duration -- lengths of time

A `Duration` is a whole number of seconds and a number of nanoseconds below one
second.  `render` writes it in the largest unit that gives it a whole part, with
as many decimal places as it needs: `2.5s`, `250ms`, `1.5µs`, `0ns`.
-/
namespace HotSwap

set_option autoImplicit false

/-- A length of time, exact to the nanosecond. -/
structure Duration where
  seconds : UInt64
  nanos : Fin 1000000000
  deriving DecidableEq, Repr

namespace Duration

def ofMillis (ms : UInt64) : Duration :=
  ⟨ms / 1000, ⟨ms.toNat % 1000 * 1000000, by omega⟩⟩

/-- Whole milliseconds, the rest being dropped. -/
def millis (d : Duration) : Nat := d.seconds.toNat * 1000 + d.nanos.val / 1000000

def totalNanos (d : Duration) : Nat := d.seconds.toNat * 1000000000 + d.nanos.val

/-- Decimal digits of `n`, filled with zeros on the left up to `width`. -/
def padded (width n : Nat) : List Char :=
  let digits := Nat.toDigits 10 n
  List.replicate (width - digits.length) '0' ++ digits

/-- A whole part and a fraction of `width` decimal places, the zeros at the end
of the fraction left out, and the point with them if nothing remains. -/
def decimal (whole fraction width : Nat) : List Char :=
  let places := ((padded width fraction).reverse.dropWhile (· = '0')).reverse
  Nat.toDigits 10 whole ++ if places.isEmpty then [] else '.' :: places

/-- A duration in the largest unit of which it holds at least one. -/
def render (d : Duration) : String :=
  let n := d.nanos.val
  String.ofList <|
    if d.seconds ≠ 0 then decimal d.seconds.toNat n 9 ++ ['s']
    else if 1000000 ≤ n then decimal (n / 1000000) (n % 1000000) 6 ++ ['m', 's']
    else if 1000 ≤ n then decimal (n / 1000) (n % 1000) 3 ++ ['µ', 's']
    else Nat.toDigits 10 n ++ ['n', 's']

end Duration

end HotSwap
