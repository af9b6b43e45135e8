/-
# HotSwap.Json.Lexer -- from bytes to tokens

A machine that reads one byte at a time.  `Mode` says what it is inside of;
`step` is one byte; `lex` runs over a text and accepts if the machine ends
between tokens or behind a number that may end there.

The space, tab, line feed and carriage return stand between tokens only.  In a
string no byte below 32 stands for itself, and a backslash needs one of nine
letters behind it, `u` with four hexadecimal digits.
-/
import HotSwap.Hex
import HotSwap.Json.Value

namespace HotSwap.Json

set_option autoImplicit false

/-- How much of a number was read. -/
inductive NumberPart where
  | minus | zero | whole | point | fraction | mark | sign | exponent
  deriving DecidableEq, Repr

namespace NumberPart

def isDigit (b : UInt8) : Bool := 0x30 ≤ b && b ≤ 0x39

/-- What is read when a number goes on with a byte. -/
def next? (part : NumberPart) (b : UInt8) : Option NumberPart :=
  match part with
  | .minus => if b = 0x30 then some .zero else if isDigit b then some .whole else none
  | .zero => if b = 0x2e then some .point else if b = 0x65 || b = 0x45 then some .mark else none
  | .whole =>
      if isDigit b then some .whole
      else if b = 0x2e then some .point
      else if b = 0x65 || b = 0x45 then some .mark
      else none
  | .point => if isDigit b then some .fraction else none
  | .fraction =>
      if isDigit b then some .fraction
      else if b = 0x65 || b = 0x45 then some .mark
      else none
  | .mark =>
      if b = 0x2b || b = 0x2d then some .sign
      else if isDigit b then some .exponent
      else none
  | .sign => if isDigit b then some .exponent else none
  | .exponent => if isDigit b then some .exponent else none

def mayEnd : NumberPart → Bool
  | .zero | .whole | .fraction | .exponent => true
  | _ => false

/-- What is read when a number begins with a byte. -/
def first? (b : UInt8) : Option NumberPart :=
  if b = 0x2d then some .minus else minus.next? b

end NumberPart

/-- What the machine is inside of.  Lists of what was read are in reverse. -/
inductive Mode where
  | between
  | string (done : Raw)
  | escape (done : Raw)
  | unit (done : Raw) (digits : Nat) (value : Nat)
  | word (left : List UInt8) (token : Token)
  | number (part : NumberPart) (done : List UInt8)
  deriving Repr

/-- The machine: its mode and the tokens it has read, the last one first. -/
structure LexState where
  mode : Mode
  tokens : List Token

/-- The byte that a letter behind a backslash stands for. -/
def escaped? (b : UInt8) : Option UInt8 :=
  if b = 0x22 then some 0x22
  else if b = 0x5c then some 0x5c
  else if b = 0x2f then some 0x2f
  else if b = 0x62 then some 0x08
  else if b = 0x66 then some 0x0c
  else if b = 0x6e then some 0x0a
  else if b = 0x72 then some 0x0d
  else if b = 0x74 then some 0x09
  else none

def isSpace (b : UInt8) : Bool := b = 0x20 || b = 0x09 || b = 0x0a || b = 0x0d

/-- A byte between tokens. -/
def begin? (tokens : List Token) (b : UInt8) : Option LexState :=
  if isSpace b then some ⟨.between, tokens⟩
  else if b = 0x5b then some ⟨.between, .openArray :: tokens⟩
  else if b = 0x5d then some ⟨.between, .closeArray :: tokens⟩
  else if b = 0x7b then some ⟨.between, .openObject :: tokens⟩
  else if b = 0x7d then some ⟨.between, .closeObject :: tokens⟩
  else if b = 0x2c then some ⟨.between, .comma :: tokens⟩
  else if b = 0x3a then some ⟨.between, .colon :: tokens⟩
  else if b = 0x22 then some ⟨.string [], tokens⟩
  else if b = 0x6e then some ⟨.word [0x75, 0x6c, 0x6c] .null, tokens⟩
  else if b = 0x74 then some ⟨.word [0x72, 0x75, 0x65] (.bool true), tokens⟩
  else if b = 0x66 then some ⟨.word [0x61, 0x6c, 0x73, 0x65] (.bool false), tokens⟩
  else (NumberPart.first? b).map fun part => ⟨.number part [b], tokens⟩

def step (s : LexState) (b : UInt8) : Option LexState :=
  match s.mode with
  | .between => begin? s.tokens b
  | .string done =>
      if b = 0x22 then some ⟨.between, .string done.reverse :: s.tokens⟩
      else if b = 0x5c then some ⟨.escape done, s.tokens⟩
      else if b < 0x20 then none
      else some ⟨.string (.byte b :: done), s.tokens⟩
  | .escape done =>
      if b = 0x75 then some ⟨.unit done 0 0, s.tokens⟩
      else (escaped? b).map fun e => ⟨.string (.byte e :: done), s.tokens⟩
  | .unit done digits value =>
      (Hex.value? b).map fun d =>
        let value := 16 * value + d
        if digits = 3 then ⟨.string (.unit (UInt16.ofNat value) :: done), s.tokens⟩
        else ⟨.unit done (digits + 1) value, s.tokens⟩
  | .word left token =>
      match left with
      | [] => none
      | [c] => if b = c then some ⟨.between, token :: s.tokens⟩ else none
      | c :: left => if b = c then some ⟨.word left token, s.tokens⟩ else none
  | .number part done =>
      match part.next? b with
      | some part => some ⟨.number part (b :: done), s.tokens⟩
      | none => if part.mayEnd then begin? (.number done.reverse :: s.tokens) b else none

/-- The tokens read when the text ends here. -/
def LexState.finish? (s : LexState) : Option (List Token) :=
  match s.mode with
  | .between => some s.tokens.reverse
  | .number part done =>
      if part.mayEnd then some (.number done.reverse :: s.tokens).reverse else none
  | _ => none

def run? (s : LexState) : List UInt8 → Option LexState
  | [] => some s
  | b :: rest =>
      match step s b with
      | none => none
      | some t => run? t rest

def lex? (text : List UInt8) : Option (List Token) :=
  match run? ⟨.between, []⟩ text with
  | none => none
  | some s => s.finish?

end HotSwap.Json
