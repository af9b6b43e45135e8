/-
# HotSwap.Json.Record -- data from documents

A record with declared fields may be written as an object, whose members come in
any order, or as the array of its fields in the declared order.  A member that is
no field is passed over, its value unread; a field that comes twice, and an item
beyond the last field, refuse the whole.  Fields that are left out are absent
from the result of `Value.record?`: whether that is allowed is for the reader of
the record to say.
-/
import HotSwap.Json.Reader
import HotSwap.Text.Digits

namespace HotSwap.Json

set_option autoImplicit false

/-- The fields that were found, each at most once. -/
abbrev Fields := List (String × Value)

/-- Adds one member of an object to the fields found before it. -/
def addMember? (names : List String) (found : Fields) (member : Raw × Value) : Option Fields :=
  match member.1.decode? with
  | none => none
  | some key =>
      if names.contains key then
        if (found.lookup key).isSome then none else some ((key, member.2) :: found)
      else some found

def ofMembers? (names : List String) : Fields → List (Raw × Value) → Option Fields
  | found, [] => some found
  | found, m :: rest =>
      match addMember? names found m with
      | none => none
      | some found => ofMembers? names found rest

/-- The fields of a value that is written as an object or as an array. -/
def Value.record? (names : List String) : Value → Option Fields
  | .object members => ofMembers? names [] members
  | .array items => if items.length ≤ names.length then some (names.zip items) else none
  | _ => none

def Value.string? : Value → Option String
  | .string raw => raw.decode?
  | _ => none

def Value.bool? : Value → Option Bool
  | .bool b => some b
  | _ => none

def Value.items? : Value → Option (List Value)
  | .array items => some items
  | _ => none

/-- A natural number up to a limit: digits only, without sign, point or exponent. -/
def Value.natUpTo? (limit : Nat) : Value → Option Nat
  | .number literal =>
      if literal.all NumberPart.isDigit then
        Text.Digits.natUpTo? 10 limit (literal.map fun b => b.toNat - 0x30)
      else none
  | _ => none

def Value.byte? (v : Value) : Option UInt8 := (v.natUpTo? 255).map UInt8.ofNat

/-- A field that has to be there. -/
def Fields.required {α : Type} (fields : Fields) (name : String) (read : Value → Option α) :
    Option α :=
  match fields.lookup name with
  | none => none
  | some v => read v

/-- A field that has a value when it is left out. -/
def Fields.optional {α : Type} (fields : Fields) (name : String) (absent : α)
    (read : Value → Option α) : Option α :=
  match fields.lookup name with
  | none => some absent
  | some v => read v

def readAll? {α : Type} (read : Value → Option α) (vs : List Value) : Option (List α) :=
  vs.mapM read

end HotSwap.Json
