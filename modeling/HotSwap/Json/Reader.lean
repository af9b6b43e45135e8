/-
# HotSwap.Json.Reader -- from tokens to a document

The reader keeps a stack with one entry for each array or object that is still
open, so how deeply a document nests costs no more than how long it is.  After
the tokens of `v` the machine waits behind `v` with the stack it had before.
-/
import HotSwap.Json.Lexer

namespace HotSwap.Json

set_option autoImplicit false

/-- An open array or object: what it holds so far, the last first. -/
inductive Open where
  | array (done : List Value)
  | object (done : List (Raw × Value)) (key : Raw)

/-- What may come next. -/
inductive Await where
  | value
  | firstItem
  | firstKey
  | key (done : List (Raw × Value))
  | colon (done : List (Raw × Value)) (key : Raw)
  | behind (v : Value)

structure ReadState where
  await : Await
  stack : List Open

/-- A token where a value is due. -/
def startValue? (stack : List Open) : Token → Option ReadState
  | .null => some ⟨.behind .null, stack⟩
  | .bool b => some ⟨.behind (.bool b), stack⟩
  | .number literal => some ⟨.behind (.number literal), stack⟩
  | .string raw => some ⟨.behind (.string raw), stack⟩
  | .openArray => some ⟨.firstItem, stack⟩
  | .openObject => some ⟨.firstKey, stack⟩
  | _ => none

def take? (s : ReadState) (t : Token) : Option ReadState :=
  match s.await, t with
  | .value, t => startValue? s.stack t
  | .firstItem, .closeArray => some ⟨.behind (.array []), s.stack⟩
  | .firstItem, t => startValue? (.array [] :: s.stack) t
  | .firstKey, .closeObject => some ⟨.behind (.object []), s.stack⟩
  | .firstKey, .string key => some ⟨.colon [] key, s.stack⟩
  | .key done, .string key => some ⟨.colon done key, s.stack⟩
  | .colon done key, .colon => some ⟨.value, .object done key :: s.stack⟩
  | .behind v, t =>
      match s.stack, t with
      | .array done :: stack, .comma => some ⟨.value, .array (v :: done) :: stack⟩
      | .array done :: stack, .closeArray =>
          some ⟨.behind (.array (v :: done).reverse), stack⟩
      | .object done key :: stack, .comma => some ⟨.key ((key, v) :: done), stack⟩
      | .object done key :: stack, .closeObject =>
          some ⟨.behind (.object ((key, v) :: done).reverse), stack⟩
      | _, _ => none
  | _, _ => none

def takeAll? (s : ReadState) : List Token → Option ReadState
  | [] => some s
  | t :: rest =>
      match take? s t with
      | none => none
      | some s => takeAll? s rest

/-- The document that a row of tokens says. -/
def read? (tokens : List Token) : Option Value :=
  match takeAll? ⟨.value, []⟩ tokens with
  | some ⟨.behind v, []⟩ => some v
  | _ => none

/-- The document that a text says. -/
def parse? (text : List UInt8) : Option Value :=
  match lex? text with
  | none => none
  | some tokens => read? tokens

end HotSwap.Json
