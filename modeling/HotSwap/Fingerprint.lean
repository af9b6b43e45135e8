/-
# HotSwap.Fingerprint -- the identity of one build

A fingerprint is the 32-byte content digest of a payload.  Its text form is 64
lowercase hexadecimal digits; `parse` reads either case.  Fingerprints are
ordered byte by byte, which is also the order of their text forms.
-/
import HotSwap.Digest.Blake3
import HotSwap.Hex
import HotSwap.Json.Record

namespace HotSwap

set_option autoImplicit false

/-- The identity of one build of the payload. -/
structure Fingerprint where
  digest : Vector UInt8 32
  deriving DecidableEq

namespace Fingerprint

def size : Nat := 32

inductive Error where
  | invalidLength (actual : Nat)
  | hex (cause : Hex.Error)
  deriving DecidableEq, Repr

def Error.message : Error → String
  | .invalidLength actual =>
      "invalid fingerprint length: expected " ++ toString size ++ ", got " ++ toString actual
  | .hex cause => "hex decode error: " ++ cause.message

def bytes (f : Fingerprint) : List UInt8 := f.digest.toList

/-- The fingerprint with the given bytes, which must be 32. -/
def ofBytes (bs : List UInt8) : Except Error Fingerprint :=
  if h : bs.length = 32 then .ok ⟨⟨bs.toArray, by simpa using h⟩⟩
  else .error (.invalidLength bs.length)

def of (data : ByteArray) : Fingerprint := ⟨Digest.Blake3.digest data⟩

/-- The text form: 64 lowercase digits. -/
def hex (f : Fingerprint) : String := Hex.encode f.bytes

/-- The first sixteen digits, enough to tell builds apart in a log. -/
def short (f : Fingerprint) : String := Hex.encode (f.bytes.take 8)

/-- Reads the text form.  A text of digits is looked at as a row of bytes before
their number is. -/
def parse (text : String) : Except Error Fingerprint :=
  match Hex.decode (Hex.bytesOf text) with
  | .error cause => .error (.hex cause)
  | .ok bs => ofBytes bs

/-- The order of the bytes, the first one that differs deciding. -/
def order (f g : Fingerprint) : Ordering := compare f.bytes g.bytes

instance : LT Fingerprint := ⟨fun f g => f.bytes < g.bytes⟩

/-- The compact form: the length as eight bytes, the lowest first, then the digest. -/
def compact (f : Fingerprint) : List UInt8 :=
  UInt8.ofNat size :: (List.replicate 7 0 ++ f.bytes)

/-- The fingerprint that a whole document gives as a string. -/
def ofJson? (text : List UInt8) : Option Fingerprint := do
  let v ← Json.parse? text
  (parse (← v.string?)).toOption

end Fingerprint

end HotSwap
