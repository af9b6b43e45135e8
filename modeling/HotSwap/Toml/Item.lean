/-
# HotSwap.Toml.Item -- keys, values, arrays and inline tables

A key is a row of names with dots between them.  Arrays and inline tables may
nest up to `maxDepth` deep; an array may run over lines and end with a comma, an
inline table may do neither.

`Members.define?` is the rule by which a key gets its value within a table: the
tables on the way are made if they are not there, each may have been made in this
way only, and the name at the end must be new.
-/
import HotSwap.Toml.Node
import HotSwap.Toml.Number

namespace HotSwap.Toml

set_option autoImplicit false

/-- The depth that no key and no nesting reaches. -/
def maxDepth : Nat := 80

/-- The characters of a name without quotes. -/
def isBare (c : Char) : Bool :=
  ('a' ≤ c && c ≤ 'z') || ('A' ≤ c && c ≤ 'Z') || isDigit c || c == '-' || c == '_'

def name? : List Char → Option (String × List Char)
  | '"' :: rest => (basicBody [] rest).map fun r => (String.ofList r.1, r.2)
  | '\'' :: rest => (literalBody [] rest).map fun r => (String.ofList r.1, r.2)
  | cs =>
      let bare := cs.takeWhile isBare
      if bare.isEmpty then none else some (String.ofList bare, cs.dropWhile isBare)

/-- The names of a key; there are at most `fuel` of them. -/
def names? : Nat → List Char → Option (List String × List Char)
  | 0, _ => none
  | fuel + 1, cs => do
      let (name, rest) ← name? (skipBlanks cs)
      match skipBlanks rest with
      | '.' :: rest => do
          let (names, rest) ← names? fuel rest
          return (name :: names, rest)
      | rest => return ([name], rest)

def key? (cs : List Char) : Option (List String × List Char) := names? (maxDepth - 1) cs

/-! ## Giving a key its value in an inline table -/

/-- Gives the name at the end of a path its value in an inline table. -/
def defineInline? (name : String) (value : Node) : List String → Members → Option Members
  | [], members =>
      if (members.lookup name).isSome then none else some (members ++ [(name, value)])
  | step :: path, members =>
      match members.lookup step with
      | none =>
          (defineInline? name value path []).map fun inner =>
            members.set step (.inline true true inner)
      | some (.inline true dotted inner) =>
          if path.isEmpty && !dotted then none
          else
            (defineInline? name value path inner).map fun inner =>
              members.set step (.inline true dotted inner)
      | some _ => none

def inlineTable? (pairs : List (List String × Node)) : Option Node := do
  let members ← pairs.foldlM (fun members pair => do
    let name ← pair.1.getLast?
    defineInline? name pair.2 pair.1.dropLast members) []
  return .inline false false members

/-! ## Values -/

/-- A number, a date, a truth value or a string. -/
def scalarNode? (cs : List Char) : Option (Node × List Char) :=
  match cs with
  | 't' :: 'r' :: 'u' :: 'e' :: rest => some (.boolean true, rest)
  | 'f' :: 'a' :: 'l' :: 's' :: 'e' :: rest => some (.boolean false, rest)
  | c :: _ =>
      if c = '"' ∨ c = '\'' then (string? cs).map fun r => (.string r.1, r.2)
      else
        match datetime? cs with
        | some rest => some (.datetime, rest)
        | none =>
            match float? cs with
            | some rest => some (.float, rest)
            | none => (integer? cs).map fun r => (.integer r.1, r.2)
  | [] => none

/-- The items of an array up to its closing bracket, the last one first. -/
def arrayItems? (value? : List Char → Option (Node × List Char)) :
    Nat → List Node → List Char → Option (List Node × List Char)
  | 0, _, _ => none
  | fuel + 1, done, cs => do
      match ← skipBetween cs.length cs with
      | ']' :: rest => return (done, rest)
      | cs =>
          let (v, rest) ← value? cs
          match ← skipBetween rest.length rest with
          | ',' :: rest => arrayItems? value? fuel (v :: done) rest
          | ']' :: rest => return (v :: done, rest)
          | _ => none

/-- The keys and values of an inline table up to its closing brace, the last first. -/
def inlinePairs? (value? : List Char → Option (Node × List Char)) :
    Nat → List (List String × Node) → List Char → Option (List (List String × Node) × List Char)
  | 0, _, _ => none
  | fuel + 1, done, cs => do
      let (key, rest) ← key? cs
      let rest ← mark? '=' rest
      let (v, rest) ← value? (skipBlanks rest)
      match skipBlanks rest with
      | ',' :: rest => inlinePairs? value? fuel ((key, v) :: done) rest
      | '\x7d' :: rest => return ((key, v) :: done, rest)
      | _ => none

/-- A value that nests at most `depth` deep. -/
def value? : Nat → List Char → Option (Node × List Char)
  | 0, cs =>
      match cs with
      | '[' :: _ => none
      | '\x7b' :: _ => none
      | _ => scalarNode? cs
  | depth + 1, cs =>
      match cs with
      | '[' :: rest => do
          let (items, rest) ← arrayItems? (value? depth) (rest.length + 1) [] rest
          return (.array items.reverse, rest)
      | '\x7b' :: rest =>
          match skipBlanks rest with
          | '\x7d' :: rest => some (.inline false false [], rest)
          | rest => do
              let (pairs, rest) ← inlinePairs? (value? depth) (rest.length + 1) [] rest
              return (← inlineTable? pairs.reverse, rest)
      | _ => scalarNode? cs

end HotSwap.Toml
