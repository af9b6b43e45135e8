/-
# HotSwap.Hex -- bytes as hexadecimal digits

Two digits a byte, the high half first.  `encode` writes lowercase; `decode`
reads either case and works on the bytes of a text, so that a position it
reports counts bytes.  Of several faults `decode` reports an odd number of
digits first, and after that the first byte that is no digit.
-/
import HotSwap.Text.Quoted

namespace HotSwap.Hex

set_option autoImplicit false

/-- The lowercase digit of a number below sixteen. -/
def digit (n : Nat) : Char :=
  if n < 10 then Char.ofNat (48 + n) else Char.ofNat (87 + n)

def pair (b : UInt8) : List Char := [digit (b.toNat / 16), digit (b.toNat % 16)]

def encode (bytes : List UInt8) : String := String.ofList (bytes.flatMap pair)

/-- The number that a digit of either case stands for. -/
def value? (b : UInt8) : Option Nat :=
  if 48 ≤ b ∧ b ≤ 57 then some (b.toNat - 48)
  else if 97 ≤ b ∧ b ≤ 102 then some (b.toNat - 87)
  else if 65 ≤ b ∧ b ≤ 70 then some (b.toNat - 55)
  else none

inductive Error where
  | oddLength
  | invalidCharacter (byte : UInt8) (index : Nat)
  deriving DecidableEq, Repr

/-- The text of an error; a byte is shown as the character with its number. -/
def Error.message : Error → String
  | .oddLength => "Odd number of digits"
  | .invalidCharacter byte index =>
      "Invalid character " ++ Text.Quoted.char (Char.ofNat byte.toNat) ++
        " at position " ++ toString index

/-- Reads digits pair by pair; `index` is the position of the first of them. -/
def decodeFrom (index : Nat) : List UInt8 → Except Error (List UInt8)
  | [] => .ok []
  | [_] => .error .oddLength
  | high :: low :: rest =>
      match value? high, value? low with
      | none, _ => .error (.invalidCharacter high index)
      | some _, none => .error (.invalidCharacter low (index + 1))
      | some h, some l => (decodeFrom (index + 2) rest).map (UInt8.ofNat (16 * h + l) :: ·)

def decode (digits : List UInt8) : Except Error (List UInt8) :=
  if digits.length % 2 = 1 then .error .oddLength else decodeFrom 0 digits

def bytesOf (s : String) : List UInt8 := s.toUTF8.data.toList

end HotSwap.Hex
