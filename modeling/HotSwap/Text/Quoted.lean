/-
# HotSwap.Text.Quoted -- text shown between quotes

Names that come from outside are shown in messages between quotes, so that a
reader sees where they begin and end and which characters they really hold.
NUL, tab, line feed, carriage return, the backslash and the closing quote are
written with a backslash; a character that does not print, or that would be
drawn on its neighbour, is written as its code point in hexadecimal.  All other
characters stand for themselves.
-/
import HotSwap.Text.Printing
import HotSwap.Text.Combining

namespace HotSwap.Text.Quoted

set_option autoImplicit false

/-- A code point in braces, in lowercase hexadecimal without leading zeros. -/
def codePoint (c : Char) : List Char :=
  '\\' :: 'u' :: '{' :: (Nat.toDigits 16 c.toNat ++ ['}'])

def encodeChar (quote c : Char) : List Char :=
  if c = '\x00' then ['\\', '0']
  else if c = '\t' then ['\\', 't']
  else if c = '\n' then ['\\', 'n']
  else if c = '\r' then ['\\', 'r']
  else if c = '\\' ∨ c = quote then ['\\', c]
  else if combines c || !prints c then codePoint c
  else [c]

/-- A text between double quotes. -/
def text (s : String) : String :=
  String.ofList ('"' :: (s.toList.flatMap (encodeChar '"') ++ ['"']))

def char (c : Char) : String :=
  String.ofList ('\'' :: (encodeChar '\'' c ++ ['\'']))

end HotSwap.Text.Quoted
