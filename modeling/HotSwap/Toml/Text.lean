/-
# HotSwap.Toml.Text -- blanks, comments and strings

The readers here take the characters that follow and give back what they read
with the characters behind it, or nothing if what follows is malformed.

A string between single quote marks stands for itself; between double ones a
backslash begins an escape.  Three marks open a string that may run over lines:
a line break right behind them is dropped, and up to two marks may stand before
the closing three.
-/
namespace HotSwap.Toml

set_option autoImplicit false

/-- A space or a tab. -/
def isBlank (c : Char) : Bool := c == ' ' || c == '\t'

/-- The characters that may stand in a comment. -/
def isComment (c : Char) : Bool :=
  c == '\t' || (0x20 ≤ c.toNat && c.toNat ≤ 0x7e) || 0x80 ≤ c.toNat

/-- The characters that stand for themselves between double marks. -/
def isPlain (c : Char) : Bool := isComment c && c != '"' && c != '\\'

/-- The characters that may stand between single marks. -/
def isLiteral (c : Char) : Bool := isComment c && c != '\''

def skipBlanks (cs : List Char) : List Char := cs.dropWhile isBlank

def newline? : List Char → Option (List Char)
  | '\n' :: rest => some rest
  | '\r' :: '\n' :: rest => some rest
  | _ => none

/-- Drops a comment if one begins here. -/
def skipComment : List Char → List Char
  | '#' :: rest => rest.dropWhile isComment
  | cs => cs

/-- The end of a line: blanks, perhaps a comment, and a line break or nothing more. -/
def lineEnd? (cs : List Char) : Option (List Char) :=
  match skipComment (skipBlanks cs) with
  | [] => some []
  | rest => newline? rest

/-- Blanks, line breaks and comments between the values of an array. -/
def skipBetween : Nat → List Char → Option (List Char)
  | 0, cs => some cs
  | fuel + 1, cs =>
      match skipBlanks cs with
      | '#' :: rest => do skipBetween fuel (← newline? (rest.dropWhile isComment))
      | '\n' :: rest => skipBetween fuel rest
      | '\r' :: rest => do skipBetween fuel (← newline? ('\r' :: rest))
      | rest => some rest

/-! ## Strings -/

def hexDigit? (c : Char) : Option Nat :=
  let n := c.toNat
  if 48 ≤ n && n ≤ 57 then some (n - 48)
  else if 97 ≤ n && n ≤ 102 then some (n - 87)
  else if 65 ≤ n && n ≤ 70 then some (n - 55)
  else none

/-- The character that a row of hexadecimal digits names. -/
def scalar? (digits : List Char) : Option Char := do
  let n ← digits.foldlM (fun n c => do return 16 * n + (← hexDigit? c)) 0
  if n < 0xd800 || (0xdfff < n && n < 0x110000) then some (Char.ofNat n) else none

/-- The character that a letter behind a backslash stands for. -/
def escape? (c : Char) : Option Char :=
  match c with
  | 'b' => some '\x08'
  | 't' => some '\t'
  | 'n' => some '\n'
  | 'f' => some '\x0c'
  | 'r' => some '\r'
  | '"' => some '"'
  | '\\' => some '\\'
  | _ => none

/-- The inside of a string of one line between double marks; `done` is reversed. -/
def basicBody (done : List Char) : List Char → Option (List Char × List Char)
  | '"' :: rest => some (done.reverse, rest)
  | '\\' :: 'u' :: a :: b :: c :: d :: rest =>
      match scalar? [a, b, c, d] with
      | some x => basicBody (x :: done) rest
      | none => none
  | '\\' :: 'U' :: a :: b :: c :: d :: e :: f :: g :: h :: rest =>
      match scalar? [a, b, c, d, e, f, g, h] with
      | some x => basicBody (x :: done) rest
      | none => none
  | '\\' :: c :: rest =>
      match escape? c with
      | some x => basicBody (x :: done) rest
      | none => none
  | c :: rest => if isPlain c then basicBody (c :: done) rest else none
  | [] => none

/-- The inside of a string of one line between single marks. -/
def literalBody (done : List Char) : List Char → Option (List Char × List Char)
  | '\'' :: rest => some (done.reverse, rest)
  | c :: rest => if isLiteral c then literalBody (c :: done) rest else none
  | [] => none

/-- Where a string over several lines is read: in its text; behind a backslash
that must end its line; or in the blanks that such a backslash drops. -/
inductive Flow where
  | text
  | gap
  | dropping
  deriving DecidableEq

/-- The inside of a string over lines between double marks. -/
def blockBody (flow : Flow) (done : List Char) : List Char → Option (List Char × List Char)
  | '"' :: '"' :: '"' :: rest =>
      if flow = .gap then none
      else
        match rest with
        | '"' :: '"' :: rest => some (('"' :: '"' :: done).reverse, rest)
        | '"' :: rest => some (('"' :: done).reverse, rest)
        | rest => some (done.reverse, rest)
  | '\r' :: '\n' :: rest =>
      if flow = .text then blockBody .text ('\n' :: done) rest else blockBody .dropping done rest
  | '\n' :: rest =>
      if flow = .text then blockBody .text ('\n' :: done) rest else blockBody .dropping done rest
  | '\\' :: 'u' :: a :: b :: c :: d :: rest =>
      match flow, scalar? [a, b, c, d] with
      | .gap, _ => none
      | _, some x => blockBody .text (x :: done) rest
      | _, none => none
  | '\\' :: 'U' :: a :: b :: c :: d :: e :: f :: g :: h :: rest =>
      match flow, scalar? [a, b, c, d, e, f, g, h] with
      | .gap, _ => none
      | _, some x => blockBody .text (x :: done) rest
      | _, none => none
  | '\\' :: c :: rest =>
      if flow = .gap then none
      else
        match escape? c with
        | some x => blockBody .text (x :: done) rest
        | none => blockBody .gap done (c :: rest)
  | c :: rest =>
      match flow with
      | .text => if isPlain c || c == '"' then blockBody .text (c :: done) rest else none
      | .gap => if isBlank c then blockBody .gap done rest else none
      | .dropping =>
          if isBlank c then blockBody .dropping done rest
          else if isPlain c || c == '"' then blockBody .text (c :: done) rest
          else none
  | [] => none

/-- The inside of a string over lines between single marks. -/
def literalBlock (done : List Char) : List Char → Option (List Char × List Char)
  | '\'' :: '\'' :: '\'' :: rest =>
      match rest with
      | '\'' :: '\'' :: rest => some (('\'' :: '\'' :: done).reverse, rest)
      | '\'' :: rest => some (('\'' :: done).reverse, rest)
      | rest => some (done.reverse, rest)
  | '\r' :: '\n' :: rest => literalBlock ('\n' :: done) rest
  | c :: rest =>
      if isLiteral c || c == '\n' || c == '\'' then literalBlock (c :: done) rest else none
  | [] => none

/-- The line break right behind the opening of a string over lines is no part of it. -/
def dropFirstBreak (cs : List Char) : List Char := (newline? cs).getD cs

def string? : List Char → Option (String × List Char)
  | '"' :: '"' :: '"' :: rest => (blockBody .text [] (dropFirstBreak rest)).map fun r =>
      (String.ofList r.1, r.2)
  | '"' :: rest => (basicBody [] rest).map fun r => (String.ofList r.1, r.2)
  | '\'' :: '\'' :: '\'' :: rest => (literalBlock [] (dropFirstBreak rest)).map fun r =>
      (String.ofList r.1, r.2)
  | '\'' :: rest => (literalBody [] rest).map fun r => (String.ofList r.1, r.2)
  | _ => none

end HotSwap.Toml
