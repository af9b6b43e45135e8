/-
# HotSwap.Payload -- the archive that is brought into the process

A payload is an archive together with the fingerprint its build recorded.  It is
kept on disk under a name made from the fingerprint alone, so two builds never
share a file: `Fingerprint.ofFileName?` reads back what `Fingerprint.fileName`
wrote.
-/
import HotSwap.Fingerprint

namespace HotSwap

set_option autoImplicit false

namespace Fingerprint

/-- What the file name of every artifact begins with. -/
def fileStart : String := "instruments-"

/-- What the file name of every artifact ends with. -/
def fileEnd : String := ".jar"

/-- The name of the file that holds the payload with this fingerprint. -/
def fileName (f : Fingerprint) : String := fileStart ++ f.hex ++ fileEnd

/-- What stands between the fixed ends of an artifact's name. -/
def stem? (name : String) : Option String :=
  let cs := name.toList
  if fileStart.toList.isPrefixOf cs then
    let rest := cs.drop fileStart.length
    if fileEnd.toList.isSuffixOf rest then
      some (String.ofList (rest.take (rest.length - fileEnd.length)))
    else none
  else none

def ofFileName? (name : String) : Option Fingerprint :=
  match stem? name with
  | none => none
  | some stem => (parse stem).toOption

end Fingerprint

/-- An archive and the fingerprint recorded for it. -/
structure Payload where
  bytes : ByteArray
  fingerprint : Fingerprint

namespace Payload

def of (bytes : ByteArray) : Payload := ⟨bytes, Fingerprint.of bytes⟩

/-- Whether the recorded fingerprint is that of the bytes. -/
def verify (p : Payload) : Bool := decide (Fingerprint.of p.bytes = p.fingerprint)

def fileName (p : Payload) : String := p.fingerprint.fileName

end Payload

end HotSwap
