/-
# HotSwap.Json.Printer -- documents in compact form

No blanks are written.  In a string the quote, the backslash and five controls
have an escape of one letter, a unit is written with four lowercase hexadecimal
digits, and every other byte stands for itself.
-/
import HotSwap.Hex
import HotSwap.Json.Value

namespace HotSwap.Json

set_option autoImplicit false

def ascii (s : String) : List UInt8 := s.toUTF8.data.toList

/-- The lowercase hexadecimal digit of a number below sixteen, as a byte. -/
def hexByte (n : Nat) : UInt8 := if n < 10 then UInt8.ofNat (0x30 + n) else UInt8.ofNat (0x57 + n)

def printPiece : Piece → List UInt8
  | .byte b =>
      match shortEscape? b with
      | some letter => [0x5c, letter]
      | none => [b]
  | .unit u =>
      let n := u.toNat
      [0x5c, 0x75, hexByte (n / 4096), hexByte (n / 256 % 16), hexByte (n / 16 % 16),
        hexByte (n % 16)]

/-- A string with its quotes. -/
def printString (raw : Raw) : List UInt8 := 0x22 :: (raw.flatMap printPiece ++ [0x22])

def printToken : Token → List UInt8
  | .openArray => [0x5b]
  | .closeArray => [0x5d]
  | .openObject => [0x7b]
  | .closeObject => [0x7d]
  | .comma => [0x2c]
  | .colon => [0x3a]
  | .null => ascii "null"
  | .bool true => ascii "true"
  | .bool false => ascii "false"
  | .number literal => literal
  | .string raw => printString raw

/-- A document in compact form. -/
def Value.print (v : Value) : List UInt8 := v.tokens.flatMap printToken

/-! ## Values from data -/

def Value.ofString (s : String) : Value := .string (Raw.ofString s)

def Value.ofNat (n : Nat) : Value :=
  .number ((Nat.toDigits 10 n).map fun c => UInt8.ofNat c.toNat)

def Value.record (members : List (String × Value)) : Value :=
  .object (members.map fun m => (Raw.ofString m.1, m.2))

end HotSwap.Json
