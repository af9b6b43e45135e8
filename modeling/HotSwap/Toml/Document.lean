/-
# HotSwap.Toml.Document -- whole documents

A document is read line by line.  A line gives a key a value in the table that is
open, or opens another table by its path from the top, or opens the next element
of a row of tables.  A table may be opened once; one that was only passed through
on the way to another may still be opened, but not if the way was a dotted key.
-/
import HotSwap.Toml.Item

namespace HotSwap.Toml

set_option autoImplicit false

/-! ## Tables along a path -/

/-- Changes the members of the table that a path leads to.  Tables on the way are
made if they are not there; `dotted` says whether the way is a dotted key, which
may pass only through tables that were never opened.  `change` is given the marks
of the table it changes. -/
def within? (dotted : Bool) (change : Bool → Members → Option Members) :
    List String → Bool → Members → Option Members
  | [], marked, members => change marked members
  | step :: path, _, members =>
      match members.lookup step with
      | none =>
          (within? dotted change path dotted []).map fun inner =>
            members.set step (.table true dotted inner)
      | some (.table implicit marked inner) =>
          if dotted && !implicit then none
          else
            (within? dotted change path marked inner).map fun inner =>
              members.set step (.table implicit marked inner)
      | some (.tables elements) =>
          match elements.getLast? with
          | some (.table implicit marked inner) =>
              (within? dotted change path marked inner).map fun inner =>
                members.set step (.tables (elements.dropLast ++ [.table implicit marked inner]))
          | _ => none
      | some _ => none

/-- Gives a key its value in a table: the name must be new, and a table that was
reached by a dotted key must have been made by one. -/
def define? (key : List String) (value : Node) (members : Members) : Option Members := do
  let name ← key.getLast?
  let path := key.dropLast
  within? true (fun marked inner =>
    if marked = path.isEmpty then none
    else if (inner.lookup name).isSome then none
    else some (inner ++ [(name, value)])) path false members

/-! ## The open table -/

/-- A document while it is read: what is closed, and the table that is open with
the path under which it will be kept. -/
structure Draft where
  root : Members
  path : List String
  isElement : Bool
  current : Members

def Draft.empty : Draft := ⟨[], [], false, []⟩

/-- Closes the open table, and gives the document as it then is. -/
def Draft.close? (d : Draft) : Option Members :=
  match d.path.getLast? with
  | none => some d.current
  | some name =>
      within? false (fun _ inner =>
        match inner.lookup name with
        | none =>
            if d.isElement then some (inner ++ [(name, .tables [.table false false d.current])])
            else some (inner ++ [(name, .table false false d.current)])
        | some (.tables elements) =>
            if d.isElement then
              some (inner.set name (.tables (elements ++ [.table false false d.current])))
            else none
        | some _ => none) d.path.dropLast false d.root

/-- The members of a table that was only passed through and is now opened. -/
def reopened? (root : Members) : List String → Option Members
  | [] => none
  | [name] =>
      match root.lookup name with
      | none => some []
      | some (.table true false inner) => some inner
      | some _ => none
  | step :: path =>
      match root.lookup step with
      | none => some []
      | some (.table _ _ inner) => reopened? inner path
      | some (.tables elements) =>
          match elements.getLast? with
          | some (.table _ _ inner) => reopened? inner path
          | _ => none
      | some _ => none

def Draft.openTable? (d : Draft) (path : List String) : Option Draft := do
  let root ← d.close?
  let name ← path.getLast?
  let current ← reopened? root path
  let root ← within? false (fun _ inner => some (inner.remove name)) path.dropLast false root
  return ⟨root, path, false, current⟩

/-- Opens the next element of a row of tables. -/
def Draft.openElement? (d : Draft) (path : List String) : Option Draft := do
  let root ← d.close?
  let name ← path.getLast?
  let root ← within? false (fun _ inner =>
    match inner.lookup name with
    | none => some (inner ++ [(name, .tables [])])
    | some (.tables _) => some inner
    | some _ => none) path.dropLast false root
  return ⟨root, path, true, []⟩

/-! ## Lines -/

/-- One line, which is not at the end of the text. -/
def line? (d : Draft) (cs : List Char) : Option (Draft × List Char) :=
  match cs with
  | '#' :: rest => do
      let rest := rest.dropWhile isComment
      if rest.isEmpty then return (d, []) else return (d, ← newline? rest)
  | '\n' :: _ => (newline? cs).map fun rest => (d, rest)
  | '\r' :: _ => (newline? cs).map fun rest => (d, rest)
  | '[' :: '[' :: rest => do
      let (path, rest) ← key? rest
      let rest ← mark? ']' rest
      let rest ← mark? ']' rest
      return (← d.openElement? path, ← lineEnd? rest)
  | '[' :: rest => do
      let (path, rest) ← key? rest
      let rest ← mark? ']' rest
      return (← d.openTable? path, ← lineEnd? rest)
  | _ => do
      let (key, rest) ← key? cs
      let rest ← mark? '=' rest
      let (v, rest) ← value? (maxDepth - 1) (skipBlanks rest)
      let current ← define? key v d.current
      return ({ d with current }, ← lineEnd? rest)

/-- All lines; there are at most `fuel` of them. -/
def lines? : Nat → Draft → List Char → Option Draft
  | 0, d, _ => some d
  | fuel + 1, d, cs =>
      match skipBlanks cs with
      | [] => some d
      | cs => do
          let (d, rest) ← line? d cs
          lines? fuel d rest

/-- The members of the top table of a document; a byte order mark in front of it
is passed over. -/
def parse? (text : String) : Option Members := do
  let cs := match text.toList with
    | '\ufeff' :: rest => rest
    | cs => cs
  let d ← lines? (cs.length + 1) .empty cs
  d.close?

end HotSwap.Toml
