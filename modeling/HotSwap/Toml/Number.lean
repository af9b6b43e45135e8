/-
# HotSwap.Toml.Number -- numbers, dates and times

`integer?` reads a whole number in one of four bases and refuses what 64 bits
with a sign do not hold.  `float?` reads a number with a point or an exponent and
refuses one that is too large for a double, unless it is negative.  `datetime?`
reads a date, a time, or both with perhaps an offset, and checks that the day
exists.

An underscore may stand between two digits and nowhere else.
-/
import HotSwap.Text.Digits
import HotSwap.Toml.Text

namespace HotSwap.Toml

set_option autoImplicit false

def isDigit (c : Char) : Bool := '0' ≤ c && c ≤ '9'

/-- The digits that follow a digit, without the underscores between them. -/
def moreDigits (ok : Char → Bool) : List Char → Option (List Char × List Char)
  | '_' :: c :: rest =>
      if ok c then (moreDigits ok rest).map fun r => (c :: r.1, r.2) else none
  | c :: rest =>
      if ok c then (moreDigits ok rest).map fun r => (c :: r.1, r.2)
      else if c = '_' then none
      else some ([], c :: rest)
  | [] => some ([], [])

def digits? (ok : Char → Bool) : List Char → Option (List Char × List Char)
  | c :: rest => if ok c then (moreDigits ok rest).map fun r => (c :: r.1, r.2) else none
  | [] => none

/-- What a digit of any of the four bases stands for. -/
def digitNat (c : Char) : Nat := (hexDigit? c).getD 0

def decimal (digits : List Char) : Nat := Text.Digits.value 10 (digits.map digitNat)

/-- A sign, if there is one: whether it is a minus. -/
def sign : List Char → Bool × List Char
  | '-' :: rest => (true, rest)
  | '+' :: rest => (false, rest)
  | cs => (false, cs)

/-- The digits of a decimal number, which has no leading zeros. -/
def decimalDigits? : List Char → Option (List Char × List Char)
  | '0' :: rest => some (['0'], rest)
  | cs => digits? isDigit cs

/-- The largest whole number; the smallest is one further from zero. -/
def maxInteger : Nat := 9223372036854775807

/-- A whole number in a base other than ten. -/
def based? (base : Nat) (ok : Char → Bool) (cs : List Char) : Option (Int × List Char) := do
  let (ds, rest) ← digits? ok cs
  let n ← Text.Digits.natUpTo? base maxInteger (ds.map digitNat)
  return (n, rest)

def integer? : List Char → Option (Int × List Char)
  | '0' :: 'x' :: rest => based? 16 (fun c => (hexDigit? c).isSome) rest
  | '0' :: 'o' :: rest => based? 8 (fun c => '0' ≤ c && c ≤ '7') rest
  | '0' :: 'b' :: rest => based? 2 (fun c => c == '0' || c == '1') rest
  | cs => do
      let (negative, cs) := sign cs
      let (ds, rest) ← decimalDigits? cs
      let limit := if negative then maxInteger + 1 else maxInteger
      let n : Int ← Text.Digits.natUpTo? 10 limit (ds.map digitNat)
      return (if negative then -n else n, rest)

/-! ## Floats -/

/-- Half a step above the largest double: what reaches it rounds to infinity. -/
def overflow : Nat := Nat.pow 2 1024 - Nat.pow 2 970

def overflowPlaces : Nat := 309

/-- Whether digits with an exponent stand for a number that a double cannot hold.  The
number of places before the point decides, and if that is the number that `overflow`
has, the digits in those places do: `overflow` is whole, so what is behind the point
makes no difference. -/
def overflows (digits : List Char) (exponent : Int) : Bool :=
  let digits := digits.dropWhile (· == '0')
  let places : Int := digits.length + exponent
  if digits.isEmpty || places < overflowPlaces then false
  else if overflowPlaces < places then true
  else
    let whole := digits.take overflowPlaces
    overflow ≤ decimal (whole ++ List.replicate (overflowPlaces - whole.length) '0')

/-- The largest exponent that one more digit still changes. -/
def exponentCap : Nat := 0xffff

/-- The size of an exponent.  It grows no further once it is past the cap: an exponent
of that size decides alone, unless the digits before it are as many. -/
def exponentSize (digits : List Char) : Nat :=
  digits.foldl (fun n c => if n ≤ exponentCap then 10 * n + digitNat c else n) 0

/-- The exponent of a float, zero if there is none. -/
def exponent? (cs : List Char) : Option ((Bool × Int) × List Char) :=
  match cs with
  | c :: rest =>
      if c = 'e' ∨ c = 'E' then do
        let (negative, rest) := sign rest
        let (ds, rest) ← digits? isDigit rest
        let n : Int := exponentSize ds
        return ((true, if negative then -n else n), rest)
      else some ((false, 0), cs)
  | [] => some ((false, 0), [])

/-- The places behind the point of a float, none if there is no point. -/
def fraction? (cs : List Char) : Option ((Bool × List Char) × List Char) :=
  match cs with
  | '.' :: rest => (digits? isDigit rest).map fun r => ((true, r.1), r.2)
  | _ => some ((false, []), cs)

/-- The words for numbers that are none. -/
def special? : List Char → Option (List Char)
  | 'i' :: 'n' :: 'f' :: rest => some rest
  | 'n' :: 'a' :: 'n' :: rest => some rest
  | _ => none

/-- A float: what follows it, if one is here. -/
def float? (cs : List Char) : Option (List Char) :=
  let (negative, body) := sign cs
  match special? body with
  | some rest => some rest
  | none => do
      let (whole, rest) ← decimalDigits? body
      let ((pointed, places), rest) ← fraction? rest
      let ((scaled, exponent), rest) ← exponent? rest
      if !pointed && !scaled then none
      else if !negative && overflows (whole ++ places) (exponent - places.length) then none
      else some rest

/-! ## Dates and times -/

/-- Two digits with a value between two bounds. -/
def two? (low high : Nat) : List Char → Option (Nat × List Char)
  | a :: b :: rest =>
      let n := decimal [a, b]
      if isDigit a && isDigit b && low ≤ n && n ≤ high then some (n, rest) else none
  | _ => none

def mark? (c : Char) : List Char → Option (List Char)
  | d :: rest => if d = c then some rest else none
  | [] => none

def daysIn (year month : Nat) : Nat :=
  let leap := year % 4 = 0 ∧ (year % 100 ≠ 0 ∨ year % 400 = 0)
  if month = 2 then (if leap then 29 else 28)
  else if month = 4 ∨ month = 6 ∨ month = 9 ∨ month = 11 then 30
  else 31

def date? : List Char → Option (List Char)
  | a :: b :: c :: d :: rest => do
      if !([a, b, c, d].all isDigit) then none
      else
        let rest ← mark? '-' rest
        let (month, rest) ← two? 1 12 rest
        let rest ← mark? '-' rest
        let (day, rest) ← two? 1 31 rest
        if day ≤ daysIn (decimal [a, b, c, d]) month then some rest else none
  | _ => none

/-- A time of day; the second may be a leap second. -/
def time? (cs : List Char) : Option (List Char) := do
  let (_, rest) ← two? 0 23 cs
  let rest ← mark? ':' rest
  let (_, rest) ← two? 0 59 rest
  let rest ← mark? ':' rest
  let (_, rest) ← two? 0 60 rest
  match rest with
  | '.' :: c :: more => if isDigit c then some (more.dropWhile isDigit) else some rest
  | _ => some rest

/-- What follows an offset, or the same characters if there is none. -/
def offset? : List Char → Option (List Char)
  | c :: rest =>
      if c = 'Z' ∨ c = 'z' then some rest
      else if c = '+' ∨ c = '-' then do
        let (_, rest) ← two? 0 23 rest
        let rest ← mark? ':' rest
        let (_, rest) ← two? 0 59 rest
        return rest
      else some (c :: rest)
  | [] => some []

/-- A date, a time, or a date with a time: what follows it. -/
def datetime? (cs : List Char) : Option (List Char) :=
  match date? cs with
  | some (c :: rest) =>
      if c = 'T' ∨ c = 't' ∨ c = ' ' then
        match time? rest with
        | some rest => offset? rest
        | none => some (c :: rest)
      else some (c :: rest)
  | some [] => some []
  | none => time? cs

end HotSwap.Toml
