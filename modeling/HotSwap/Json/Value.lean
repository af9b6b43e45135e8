/-
# HotSwap.Json.Value -- documents as they are written

A `Value` keeps what a text says before anything is made of it: a number is its
literal, and a string is a list of pieces, each a byte or a sixteen-bit unit that
was given by its number.  So a value that nobody asks for is never looked into,
while `Raw.decode?` turns a string that is asked for into text, refusing units
that pair up wrongly and bytes that are no UTF-8.

`Value.tokens` is the grammar: a text says `v` when its tokens are `v.tokens`.
-/
namespace HotSwap.Json

set_option autoImplicit false

/-- A piece of a string: a byte of its text, or a unit written with `\u`. -/
inductive Piece where
  | byte (b : UInt8)
  | unit (u : UInt16)
  deriving DecidableEq, Repr

/-- The inside of a string as it is written. -/
abbrev Raw := List Piece

inductive Value where
  | null
  | bool (b : Bool)
  | number (literal : List UInt8)
  | string (raw : Raw)
  | array (items : List Value)
  | object (members : List (Raw × Value))

/-- The smallest parts of a text; blanks between them are no part of it. -/
inductive Token where
  | openArray
  | closeArray
  | openObject
  | closeObject
  | comma
  | colon
  | null
  | bool (b : Bool)
  | number (literal : List UInt8)
  | string (raw : Raw)
  deriving DecidableEq, Repr

mutual

/-- The tokens that a document is written with. -/
def Value.tokens : Value → List Token
  | .null => [.null]
  | .bool b => [.bool b]
  | .number literal => [.number literal]
  | .string raw => [.string raw]
  | .array [] => [.openArray, .closeArray]
  | .array (v :: vs) => .openArray :: (v.tokens ++ itemTokens vs)
  | .object [] => [.openObject, .closeObject]
  | .object ((key, v) :: ms) =>
      .openObject :: .string key :: .colon :: (v.tokens ++ memberTokens ms)

/-- The items of an array after its first, with the closing bracket. -/
def itemTokens : List Value → List Token
  | [] => [.closeArray]
  | v :: vs => .comma :: (v.tokens ++ itemTokens vs)

/-- The members of an object after its first, with the closing brace. -/
def memberTokens : List (Raw × Value) → List Token
  | [] => [.closeObject]
  | (key, v) :: ms => .comma :: .string key :: .colon :: (v.tokens ++ memberTokens ms)

end

/-! ## Strings as text -/

/-- A unit that begins a pair. -/
def isHigh (u : UInt16) : Bool := 0xd800 ≤ u && u < 0xdc00

/-- A unit that ends a pair. -/
def isLow (u : UInt16) : Bool := 0xdc00 ≤ u && u < 0xe000

def pairChar (high low : UInt16) : Char :=
  Char.ofNat (0x10000 + (high.toNat - 0xd800) * 0x400 + (low.toNat - 0xdc00))

/-- The bytes of a string, added in reverse to those of the pieces before. -/
def Raw.bytesOnto? : List UInt8 → Raw → Option (List UInt8)
  | done, [] => some done.reverse
  | done, .byte b :: rest => bytesOnto? (b :: done) rest
  | done, .unit u :: .unit l :: rest =>
      if isHigh u then
        if isLow l then
          bytesOnto? ((String.utf8EncodeChar (pairChar u l)).reverse ++ done) rest
        else none
      else if isLow u then none
      else
        bytesOnto? ((String.utf8EncodeChar (Char.ofNat u.toNat)).reverse ++ done)
          (.unit l :: rest)
  | done, .unit u :: rest =>
      if isHigh u || isLow u then none
      else bytesOnto? ((String.utf8EncodeChar (Char.ofNat u.toNat)).reverse ++ done) rest

/-- The text of a string, if its units pair up and its bytes are UTF-8. -/
def Raw.decode? (raw : Raw) : Option String :=
  match Raw.bytesOnto? [] raw with
  | none => none
  | some bytes => String.fromUTF8? ⟨bytes.toArray⟩

/-- The bytes that have an escape of one letter, and that letter. -/
def shortEscape? (b : UInt8) : Option UInt8 :=
  if b = 0x22 then some 0x22        -- the quote
  else if b = 0x5c then some 0x5c   -- the backslash
  else if b = 0x08 then some 0x62   -- b
  else if b = 0x0c then some 0x66   -- f
  else if b = 0x0a then some 0x6e   -- n
  else if b = 0x0d then some 0x72   -- r
  else if b = 0x09 then some 0x74   -- t
  else none

/-- A text as a string: a control without an escape of its own becomes a unit. -/
def Raw.ofString (s : String) : Raw :=
  s.toUTF8.data.toList.map fun b =>
    if b < 0x20 && (shortEscape? b).isNone then .unit b.toUInt16 else .byte b

end HotSwap.Json
