/-
# HotSwap.Proofs.Json.Grammar -- which texts say a document

A document is said by a row of tokens (`Value.tokens`), and a row of tokens by many texts:
blanks may stand anywhere between two of them, and each piece of a string may be written in the
ways of `Piece.Spelled`.  `Spells` is that relation, and `parse?_iff` says that the two machines
which read a text find a document just if the text spells its tokens; so no text says two
documents (`Spells.unique`).

Both machines are followed by what they have read.  The tokens that lead the reader to a state
can be had again from it (`ReadState.said`), and one more token is one more behind them
(`said_take?`).  For the lexer `LexState.Read` says the same of bytes: a part that spells the
tokens it has read, and a part that is pending in its mode.  The other way round a number stays
open until the next byte shows that it has ended (`LexState.Behind`), so two numbers must not
stand side by side (`Apart`), and in a document they never do.
-/
import HotSwap.Json.Reader
import Mathlib.Data.List.Chain

namespace HotSwap.Json

set_option autoImplicit false

/-! ## Spelling -/

/-- What of a number is read behind a row of bytes. -/
def NumberPart.after? (part : NumberPart) : List UInt8 → Option NumberPart
  | [] => some part
  | b :: rest => (part.next? b).bind fun part => part.after? rest

/-- A row of bytes that is a number. -/
def IsLiteral (literal : List UInt8) : Prop :=
  ∃ b rest first part, literal = b :: rest ∧ NumberPart.first? b = some first ∧
    first.after? rest = some part ∧ part.mayEnd = true

/-- The number that hexadecimal digits stand for, behind those that stand for `n`. -/
def unitFrom? : Nat → List UInt8 → Option Nat
  | n, [] => some n
  | n, b :: digits => (Hex.value? b).bind fun d => unitFrom? (16 * n + d) digits

/-- The ways to write a piece of a string. -/
inductive Piece.Spelled : Piece → List UInt8 → Prop where
  /-- A byte that is no control, neither the quote nor the backslash, may stand for itself. -/
  | itself {b : UInt8} (quote : b ≠ 0x22) (backslash : b ≠ 0x5c) (visible : ¬ b < 0x20) :
      Spelled (.byte b) [b]
  | letter {b letter : UInt8} (stands : escaped? letter = some b) :
      Spelled (.byte b) [0x5c, letter]
  | digits {digits : List UInt8} {n : Nat} (four : digits.length = 4)
      (worth : unitFrom? 0 digits = some n) :
      Spelled (.unit (UInt16.ofNat n)) (0x5c :: 0x75 :: digits)

/-- The ways to write the inside of a string. -/
inductive Raw.Spelled : Raw → List UInt8 → Prop where
  | nil : Spelled [] []
  | cons {p : Piece} {raw : Raw} {word text : List UInt8} (first : p.Spelled word)
      (rest : Spelled raw text) : Spelled (p :: raw) (word ++ text)

/-- The ways to write a token. -/
inductive Token.Spelled : Token → List UInt8 → Prop where
  | openArray : Spelled .openArray [0x5b]
  | closeArray : Spelled .closeArray [0x5d]
  | openObject : Spelled .openObject [0x7b]
  | closeObject : Spelled .closeObject [0x7d]
  | comma : Spelled .comma [0x2c]
  | colon : Spelled .colon [0x3a]
  | null : Spelled .null [0x6e, 0x75, 0x6c, 0x6c]
  | true : Spelled (.bool true) [0x74, 0x72, 0x75, 0x65]
  | false : Spelled (.bool false) [0x66, 0x61, 0x6c, 0x73, 0x65]
  | number {literal : List UInt8} (isLiteral : IsLiteral literal) :
      Spelled (.number literal) literal
  | string {raw : Raw} {inside : List UInt8} (pieces : Raw.Spelled raw inside) :
      Spelled (.string raw) (0x22 :: (inside ++ [0x22]))

/-- The texts that say a row of tokens: one token after the other, and blanks wherever. -/
inductive Spells : List Token → List UInt8 → Prop where
  | nil : Spells [] []
  | blank {tokens : List Token} {b : UInt8} {text : List UInt8} (space : isSpace b = true)
      (rest : Spells tokens text) : Spells tokens (b :: text)
  | token {t : Token} {word : List UInt8} {tokens : List Token} {text : List UInt8}
      (first : t.Spelled word) (rest : Spells tokens text) : Spells (t :: tokens) (word ++ text)

theorem Raw.Spelled.append {raw more : Raw} {text rest : List UInt8} (first : Raw.Spelled raw text)
    (second : Raw.Spelled more rest) : Raw.Spelled (raw ++ more) (text ++ rest) := by
  induction first with
  | nil => exact second
  | cons piece _ ih =>
      rw [List.append_assoc]
      exact .cons piece ih

theorem Raw.Spelled.snoc {raw : Raw} {text word : List UInt8} {p : Piece}
    (spelled : Raw.Spelled raw text) (last : p.Spelled word) :
    Raw.Spelled (raw ++ [p]) (text ++ word) := by
  simpa using spelled.append (.cons last .nil)

theorem Spells.append {tokens more : List Token} {text rest : List UInt8}
    (first : Spells tokens text) (second : Spells more rest) :
    Spells (tokens ++ more) (text ++ rest) := by
  induction first with
  | nil => exact second
  | blank space _ ih => exact .blank space ih
  | token word _ ih =>
      rw [List.append_assoc]
      exact .token word ih

theorem Spells.snoc {tokens : List Token} {text word : List UInt8} {t : Token}
    (spells : Spells tokens text) (last : t.Spelled word) :
    Spells (tokens ++ [t]) (text ++ word) := by
  simpa using spells.append (.token last .nil)

theorem Spells.snoc_blank {tokens : List Token} {text : List UInt8} {b : UInt8}
    (spells : Spells tokens text) (space : isSpace b = true) : Spells tokens (text ++ [b]) := by
  simpa using spells.append (.blank space .nil)

/-! ## From tokens to documents -/

/-- A value begins with a token that ends no array. -/
theorem takeAll?_firstItem (v : Value) (stack : List Open) (rest : List Token) :
    takeAll? ⟨.firstItem, stack⟩ (v.tokens ++ rest) =
      takeAll? ⟨.value, .array [] :: stack⟩ (v.tokens ++ rest) := by
  cases v with
  | array items => cases items <;> rfl
  | object members =>
      cases members with
      | nil => rfl
      | cons m rest => rfl
  | _ => rfl

mutual

/-- The reader waits behind a value that it has been given. -/
theorem takeAll?_tokens (v : Value) (stack : List Open) (rest : List Token) :
    takeAll? ⟨.value, stack⟩ (v.tokens ++ rest) = takeAll? ⟨.behind v, stack⟩ rest := by
  cases v with
  | null => rfl
  | bool b => rfl
  | number literal => rfl
  | string raw => rfl
  | array items =>
      cases items with
      | nil => rfl
      | cons v vs =>
          rw [Value.tokens, List.cons_append, List.append_assoc]
          show takeAll? ⟨.firstItem, stack⟩ _ = _
          rw [takeAll?_firstItem, takeAll?_tokens v, takeAll?_itemTokens vs]
          rfl
  | object members =>
      cases members with
      | nil => rfl
      | cons m ms =>
          obtain ⟨key, v⟩ := m
          rw [Value.tokens, List.cons_append, List.cons_append, List.cons_append, List.append_assoc]
          show takeAll? ⟨.value, .object [] key :: stack⟩ _ = _
          rw [takeAll?_tokens v, takeAll?_memberTokens ms]
          rfl

/-- Items that follow are added to those of the open array. -/
theorem takeAll?_itemTokens (vs : List Value) (v : Value) (done : List Value) (stack : List Open)
    (rest : List Token) :
    takeAll? ⟨.behind v, .array done :: stack⟩ (itemTokens vs ++ rest) =
      takeAll? ⟨.behind (.array ((v :: done).reverse ++ vs)), stack⟩ rest := by
  cases vs with
  | nil =>
      rw [List.append_nil]
      rfl
  | cons w ws =>
      rw [itemTokens, List.cons_append, List.append_assoc]
      show takeAll? ⟨.value, .array (v :: done) :: stack⟩ _ = _
      rw [takeAll?_tokens w, takeAll?_itemTokens ws]
      simp

/-- Members that follow are added to those of the open object. -/
theorem takeAll?_memberTokens (ms : List (Raw × Value)) (key : Raw) (v : Value)
    (done : List (Raw × Value)) (stack : List Open) (rest : List Token) :
    takeAll? ⟨.behind v, .object done key :: stack⟩ (memberTokens ms ++ rest) =
      takeAll? ⟨.behind (.object (((key, v) :: done).reverse ++ ms)), stack⟩ rest := by
  cases ms with
  | nil =>
      rw [List.append_nil]
      rfl
  | cons m ms =>
      obtain ⟨key', w⟩ := m
      rw [memberTokens, List.cons_append, List.cons_append, List.cons_append, List.append_assoc]
      show takeAll? ⟨.value, .object ((key, v) :: done) key' :: stack⟩ _ = _
      rw [takeAll?_tokens w, takeAll?_memberTokens ms]
      simp

end

theorem read?_tokens (v : Value) : read? v.tokens = some v := by
  have read := takeAll?_tokens v [] []
  rw [List.append_nil] at read
  rw [read?, read]
  rfl

/-- The items of an array that goes on. -/
def heldItems (vs : List Value) : List Token := vs.flatMap fun v => v.tokens ++ [.comma]

/-- The members of an object that goes on. -/
def heldMembers (ms : List (Raw × Value)) : List Token :=
  ms.flatMap fun m => .string m.1 :: .colon :: (m.2.tokens ++ [.comma])

theorem heldItems_snoc (vs : List Value) (v : Value) :
    heldItems (vs ++ [v]) = heldItems vs ++ (v.tokens ++ [.comma]) := by
  simp [heldItems]

theorem heldMembers_snoc (ms : List (Raw × Value)) (m : Raw × Value) :
    heldMembers (ms ++ [m]) =
      heldMembers ms ++ (.string m.1 :: .colon :: (m.2.tokens ++ [.comma])) := by
  simp [heldMembers]

theorem tokens_array_snoc (vs : List Value) (v : Value) :
    (Value.array (vs ++ [v])).tokens =
      .openArray :: (heldItems vs ++ (v.tokens ++ [.closeArray])) := by
  have further (vs : List Value) : itemTokens (vs ++ [v]) =
      .comma :: (heldItems vs ++ (v.tokens ++ [.closeArray])) := by
    induction vs with
    | nil => rfl
    | cons w vs ih =>
        rw [List.cons_append, itemTokens, ih]
        simp [heldItems]
  cases vs with
  | nil => rfl
  | cons w vs =>
      rw [List.cons_append, Value.tokens, further]
      simp [heldItems]

theorem tokens_object_snoc (ms : List (Raw × Value)) (key : Raw) (v : Value) :
    (Value.object (ms ++ [(key, v)])).tokens =
      .openObject :: (heldMembers ms ++ .string key :: .colon :: (v.tokens ++ [.closeObject])) := by
  have further (ms : List (Raw × Value)) : memberTokens (ms ++ [(key, v)]) =
      .comma :: (heldMembers ms ++ .string key :: .colon :: (v.tokens ++ [.closeObject])) := by
    induction ms with
    | nil => rfl
    | cons m ms ih =>
        obtain ⟨key', w⟩ := m
        rw [List.cons_append, memberTokens, ih]
        simp [heldMembers]
  cases ms with
  | nil => rfl
  | cons m ms =>
      obtain ⟨key', w⟩ := m
      rw [List.cons_append, Value.tokens, further]
      simp [heldMembers]

/-- The tokens of what is open. -/
def openTokens : List Open → List Token
  | [] => []
  | .array done :: stack => openTokens stack ++ .openArray :: heldItems done.reverse
  | .object done key :: stack =>
      openTokens stack ++ .openObject :: (heldMembers done.reverse ++ [.string key, .colon])

/-- The tokens that were read last, behind those of what is open. -/
def Await.tokens : Await → List Token
  | .value => []
  | .firstItem => [.openArray]
  | .firstKey => [.openObject]
  | .key done => .openObject :: heldMembers done.reverse
  | .colon done last => .openObject :: (heldMembers done.reverse ++ [.string last])
  | .behind v => v.tokens

/-- The tokens that lead the reader to a state. -/
def ReadState.said (s : ReadState) : List Token := openTokens s.stack ++ s.await.tokens

theorem said_startValue? {stack : List Open} {t : Token} {s : ReadState}
    (taken : startValue? stack t = some s) : s.said = openTokens stack ++ [t] := by
  cases t <;> cases taken <;> rfl

/-- One more token is one more behind those that led to a state. -/
theorem said_take? {s s' : ReadState} {t : Token} (taken : take? s t = some s') :
    s'.said = s.said ++ [t] := by
  obtain ⟨await, stack⟩ := s
  cases await with
  | value => exact (said_startValue? taken).trans (by simp [ReadState.said, Await.tokens])
  | firstItem =>
      by_cases ends : t = .closeArray
      · subst ends
        cases taken
        simp [ReadState.said, Await.tokens, Value.tokens]
      · have starts : startValue? (.array [] :: stack) t = some s' := by
          cases t <;> first | exact taken | exact absurd rfl ends
        rw [said_startValue? starts]
        simp [ReadState.said, Await.tokens, openTokens, heldItems]
  | firstKey =>
      cases t <;> cases taken <;> simp [ReadState.said, Await.tokens, heldMembers, Value.tokens]
  | key done =>
      cases t <;> cases taken
      simp [ReadState.said, Await.tokens]
  | colon done key =>
      cases t <;> cases taken
      simp [ReadState.said, Await.tokens, openTokens]
  | behind v =>
      cases stack with
      | nil => cases taken
      | cons first stack =>
          cases first with
          | array done =>
              cases t <;> cases taken <;>
                simp [ReadState.said, Await.tokens, openTokens, heldItems_snoc, tokens_array_snoc]
          | object done key =>
              cases t <;> cases taken <;>
                simp [ReadState.said, Await.tokens, openTokens, heldMembers_snoc,
                  tokens_object_snoc]

theorem said_takeAll? {s s' : ReadState} {tokens : List Token}
    (taken : takeAll? s tokens = some s') : s'.said = s.said ++ tokens := by
  induction tokens generalizing s with
  | nil =>
      obtain rfl := Option.some.inj taken
      rw [List.append_nil]
  | cons t tokens ih =>
      rw [takeAll?] at taken
      split at taken
      · cases taken
      · rename_i next first
        rw [ih taken, said_take? first, List.append_assoc, List.singleton_append]

/-- **From tokens to documents.**  A row of tokens says the one document that has them. -/
theorem read?_iff {tokens : List Token} {v : Value} : read? tokens = some v ↔ tokens = v.tokens := by
  constructor
  · intro read
    unfold read? at read
    split at read
    · rename_i last taken
      obtain rfl := Option.some.inj read
      exact (said_takeAll? taken).symm
    · cases read
  · rintro rfl
    exact read?_tokens v

/-! ## What the lexer has read -/

/-- How a byte between tokens is taken. -/
theorem begin?_cases {tokens : List Token} {b : UInt8} {s : LexState}
    (begun : begin? tokens b = some s) :
    (isSpace b = true ∧ s = ⟨.between, tokens⟩) ∨
      (∃ t : Token, t.Spelled [b] ∧ s = ⟨.between, t :: tokens⟩) ∨
      (b = 0x22 ∧ s = ⟨.string [], tokens⟩) ∨
      (∃ (left : List UInt8) (t : Token), left ≠ [] ∧ t.Spelled (b :: left) ∧
        s = ⟨.word left t, tokens⟩) ∨
      ∃ part, NumberPart.first? b = some part ∧ s = ⟨.number part [b], tokens⟩ := by
  unfold begin? at begun
  rcases ite_eq_iff.1 begun with ⟨space, taken⟩ | ⟨-, begun⟩
  · exact .inl ⟨space, (Option.some.inj taken).symm⟩
  iterate 6
    rcases ite_eq_iff.1 begun with ⟨rfl, taken⟩ | ⟨-, begun⟩
    · exact .inr (.inl ⟨_, by constructor, (Option.some.inj taken).symm⟩)
  rcases ite_eq_iff.1 begun with ⟨quote, taken⟩ | ⟨-, begun⟩
  · exact .inr (.inr (.inl ⟨quote, (Option.some.inj taken).symm⟩))
  iterate 3
    rcases ite_eq_iff.1 begun with ⟨rfl, taken⟩ | ⟨-, begun⟩
    · exact .inr (.inr (.inr (.inl ⟨_, _, List.cons_ne_nil _ _, by constructor,
        (Option.some.inj taken).symm⟩)))
  obtain ⟨part, first, rfl⟩ := Option.map_eq_some_iff.1 begun
  exact .inr (.inr (.inr (.inr ⟨part, first, rfl⟩)))

/-- The bytes behind the last token that the lexer has read. -/
def Mode.Pending : Mode → List UInt8 → Prop
  | .between, bytes => bytes = []
  | .string done, bytes =>
      ∃ inside, bytes = 0x22 :: inside ∧ Raw.Spelled done.reverse inside
  | .escape done, bytes =>
      ∃ inside, bytes = 0x22 :: (inside ++ [0x5c]) ∧ Raw.Spelled done.reverse inside
  | .unit done count value, bytes =>
      ∃ inside digits, bytes = 0x22 :: (inside ++ 0x5c :: 0x75 :: digits) ∧
        Raw.Spelled done.reverse inside ∧ digits.length = count ∧ unitFrom? 0 digits = some value
  | .word left t, bytes => left ≠ [] ∧ t.Spelled (bytes ++ left)
  | .number part done, bytes =>
      bytes = done.reverse ∧ ∃ b rest first, bytes = b :: rest ∧
        NumberPart.first? b = some first ∧ first.after? rest = some part

/-- A text that leads the lexer to a state. -/
def LexState.Read (s : LexState) (text : List UInt8) : Prop :=
  ∃ front bytes, text = front ++ bytes ∧ Spells s.tokens.reverse front ∧ s.mode.Pending bytes

theorem unitFrom?_snoc (n : Nat) (digits : List UInt8) (b : UInt8) :
    unitFrom? n (digits ++ [b]) =
      (unitFrom? n digits).bind fun n => (Hex.value? b).map fun d => 16 * n + d := by
  induction digits generalizing n with
  | nil => cases digit : Hex.value? b <;> simp [unitFrom?, digit]
  | cons c digits ih =>
      simp only [List.cons_append, unitFrom?]
      cases Hex.value? c with
      | none => rfl
      | some d => exact ih _

theorem NumberPart.after?_append (part : NumberPart) (front back : List UInt8) :
    part.after? (front ++ back) = (part.after? front).bind fun part => part.after? back := by
  induction front generalizing part with
  | nil => rfl
  | cons b front ih =>
      simp only [List.cons_append, NumberPart.after?]
      cases part.next? b with
      | none => rfl
      | some part => exact ih part

theorem LexState.Read.of_spells {tokens : List Token} {text : List UInt8}
    (spells : Spells tokens.reverse text) : LexState.Read ⟨.between, tokens⟩ text :=
  ⟨text, [], (List.append_nil text).symm, spells, rfl⟩

/-- A byte behind a text that says some tokens. -/
theorem LexState.Read.begin {tokens : List Token} {text : List UInt8}
    (spells : Spells tokens.reverse text) {b : UInt8} {s : LexState}
    (begun : begin? tokens b = some s) : s.Read (text ++ [b]) := by
  obtain ⟨space, rfl⟩ | ⟨t, word, rfl⟩ | ⟨rfl, rfl⟩ | ⟨left, t, more, word, rfl⟩ |
    ⟨part, first, rfl⟩ := begin?_cases begun
  · exact .of_spells (spells.snoc_blank space)
  · exact .of_spells (by simpa using spells.snoc word)
  · exact ⟨text, _, rfl, spells, [], rfl, .nil⟩
  · exact ⟨text, _, rfl, spells, more, word⟩
  · exact ⟨text, _, rfl, spells, rfl, b, [], part, rfl, first, rfl⟩

/-! One byte in each of the modes: `front` says the tokens that are read, and the bytes behind it
are what `Mode.Pending` says of the mode. -/

section Step

variable {tokens : List Token} {front : List UInt8} {b : UInt8} {s : LexState}

theorem read_of_string {done : Raw} {inside : List UInt8}
    (spells : Spells tokens.reverse front) (pieces : Raw.Spelled done.reverse inside)
    (stepped : step ⟨.string done, tokens⟩ b = some s) :
    s.Read (front ++ (0x22 :: inside ++ [b])) := by
  simp only [Json.step] at stepped
  split at stepped
  · rename_i quote
    obtain rfl := Option.some.inj stepped
    subst quote
    exact .of_spells (by simpa using spells.snoc (.string pieces))
  split at stepped
  · rename_i backslash
    obtain rfl := Option.some.inj stepped
    subst backslash
    exact ⟨front, _, rfl, spells, inside, rfl, pieces⟩
  split at stepped
  · cases stepped
  · rename_i quote backslash visible
    obtain rfl := Option.some.inj stepped
    exact ⟨front, _, rfl, spells, inside ++ [b], rfl,
      by simpa using pieces.snoc (.itself quote backslash visible)⟩

theorem read_of_escape {done : Raw} {inside : List UInt8}
    (spells : Spells tokens.reverse front) (pieces : Raw.Spelled done.reverse inside)
    (stepped : step ⟨.escape done, tokens⟩ b = some s) :
    s.Read (front ++ (0x22 :: (inside ++ [0x5c]) ++ [b])) := by
  simp only [Json.step] at stepped
  split at stepped
  · rename_i unit
    obtain rfl := Option.some.inj stepped
    subst unit
    exact ⟨front, _, rfl, spells, inside, [], by simp, pieces, rfl, rfl⟩
  · obtain ⟨e, stands, rfl⟩ := Option.map_eq_some_iff.1 stepped
    exact ⟨front, _, rfl, spells, inside ++ [0x5c, b], by simp,
      by simpa using pieces.snoc (.letter stands)⟩

theorem read_of_unit {done : Raw} {inside digits : List UInt8} {value : Nat}
    (spells : Spells tokens.reverse front) (pieces : Raw.Spelled done.reverse inside)
    (worth : unitFrom? 0 digits = some value)
    (stepped : step ⟨.unit done digits.length value, tokens⟩ b = some s) :
    s.Read (front ++ (0x22 :: (inside ++ 0x5c :: 0x75 :: digits) ++ [b])) := by
  obtain ⟨d, digit, next⟩ := Option.map_eq_some_iff.1 stepped
  have worth' : unitFrom? 0 (digits ++ [b]) = some (16 * value + d) := by
    rw [unitFrom?_snoc, worth, digit]
    rfl
  dsimp only at next
  split at next
  · rename_i three
    subst next
    have four : (digits ++ [b]).length = 4 := by simp [three]
    exact ⟨front, _, rfl, spells, inside ++ 0x5c :: 0x75 :: (digits ++ [b]), by simp,
      by simpa using pieces.snoc (.digits four worth')⟩
  · subst next
    exact ⟨front, _, rfl, spells, inside, digits ++ [b], by simp, pieces, by simp, worth'⟩

theorem read_of_word {bytes left : List UInt8} {t : Token} (spells : Spells tokens.reverse front)
    (word : t.Spelled (bytes ++ left)) (stepped : step ⟨.word left t, tokens⟩ b = some s) :
    s.Read (front ++ (bytes ++ [b])) := by
  simp only [Json.step] at stepped
  split at stepped
  · cases stepped
  · split at stepped
    · rename_i same
      obtain rfl := Option.some.inj stepped
      subst same
      exact .of_spells (by simpa using spells.snoc word)
    · cases stepped
  · split at stepped
    · rename_i c left last same
      obtain rfl := Option.some.inj stepped
      subst same
      exact ⟨front, _, rfl, spells, fun none => last none, by simpa using word⟩
    · cases stepped

theorem read_of_number {part first : NumberPart} {done rest : List UInt8} {c : UInt8}
    (spells : Spells tokens.reverse front) (split : done.reverse = c :: rest)
    (begins : NumberPart.first? c = some first) (read : first.after? rest = some part)
    (stepped : step ⟨.number part done, tokens⟩ b = some s) :
    s.Read (front ++ (done.reverse ++ [b])) := by
  simp only [Json.step] at stepped
  split at stepped
  · rename_i next goes
    obtain rfl := Option.some.inj stepped
    refine ⟨front, _, rfl, spells, by simp, c, rest ++ [b], first, by rw [split]; rfl, begins, ?_⟩
    rw [NumberPart.after?_append, read]
    simp [NumberPart.after?, goes]
  · split at stepped
    · rename_i ends
      rw [← List.append_assoc]
      refine .begin ?_ stepped
      simpa using spells.snoc (.number ⟨c, rest, first, part, split, begins, read, ends⟩)
    · cases stepped

end Step

/-- A byte behind a text that leads the lexer to a state. -/
theorem LexState.Read.step {s s' : LexState} {text : List UInt8} (read : s.Read text) {b : UInt8}
    (stepped : step s b = some s') : s'.Read (text ++ [b]) := by
  obtain ⟨mode, tokens⟩ := s
  obtain ⟨front, bytes, rfl, spells, pending⟩ := read
  rw [List.append_assoc]
  cases mode with
  | between =>
      obtain rfl : bytes = [] := pending
      exact .begin spells stepped
  | string done =>
      obtain ⟨inside, rfl, pieces⟩ := pending
      exact read_of_string spells pieces stepped
  | escape done =>
      obtain ⟨inside, rfl, pieces⟩ := pending
      exact read_of_escape spells pieces stepped
  | unit done count value =>
      obtain ⟨inside, digits, rfl, pieces, rfl, worth⟩ := pending
      exact read_of_unit spells pieces worth stepped
  | word left t =>
      obtain ⟨-, word⟩ := pending
      exact read_of_word spells word stepped
  | number part done =>
      obtain ⟨rfl, c, rest, first, split, begins, read⟩ := pending
      exact read_of_number spells split begins read stepped

theorem LexState.Read.run {s s' : LexState} {text more : List UInt8} (read : s.Read text)
    (ran : run? s more = some s') : s'.Read (text ++ more) := by
  induction more generalizing s text with
  | nil =>
      obtain rfl := Option.some.inj ran
      rwa [List.append_nil]
  | cons b more ih =>
      rw [run?] at ran
      split at ran
      · cases ran
      · rename_i next stepped
        simpa using ih (read.step stepped) ran

/-- The tokens that the lexer finds in a text are said by it. -/
theorem spells_of_lex? {text : List UInt8} {tokens : List Token} (lexed : lex? text = some tokens) :
    Spells tokens text := by
  unfold lex? at lexed
  split at lexed
  · cases lexed
  rename_i s ran
  have start : LexState.Read ⟨.between, []⟩ [] := .of_spells .nil
  obtain ⟨front, bytes, rfl, spells, pending⟩ := start.run ran
  obtain ⟨mode, before⟩ := s
  cases mode with
  | between =>
      obtain rfl : bytes = [] := pending
      obtain rfl := Option.some.inj lexed
      rwa [List.append_nil]
  | number part done =>
      obtain ⟨rfl, c, rest, first, split, begins, read⟩ := pending
      simp only [LexState.finish?] at lexed
      split at lexed
      · rename_i ends
        obtain rfl := Option.some.inj lexed
        simpa using spells.snoc (.number ⟨c, rest, first, part, split, begins, read, ends⟩)
      · cases lexed
  | _ => cases lexed

/-! ## What the lexer reads -/

/-- The lexer has read tokens, the last of which may be a number that goes on. -/
def LexState.Behind (s : LexState) (tokens : List Token) : Prop :=
  s = ⟨.between, tokens⟩ ∨
    ∃ part done before, s = ⟨.number part done, before⟩ ∧ part.mayEnd = true ∧
      tokens = .number done.reverse :: before

/-- A byte that no number goes on with. -/
def Delimits (b : UInt8) : Prop := ∀ part : NumberPart, part.next? b = none

theorem LexState.Behind.step {s : LexState} {tokens : List Token} (behind : s.Behind tokens)
    {b : UInt8} (delimits : Delimits b) : Json.step s b = begin? tokens b := by
  obtain rfl | ⟨part, done, before, rfl, ends, rfl⟩ := behind
  · rfl
  · simp [Json.step, delimits part, ends]

/-- A byte that no number goes on with ends one. -/
theorem LexState.Behind.run? {s : LexState} {tokens : List Token} (behind : s.Behind tokens)
    {b : UInt8} (delimits : Delimits b) (rest : List UInt8) :
    Json.run? s (b :: rest) = Json.run? ⟨.between, tokens⟩ (b :: rest) := by
  rw [Json.run?, behind.step delimits]
  rfl

theorem LexState.Behind.finish? {s : LexState} {tokens : List Token} (behind : s.Behind tokens) :
    s.finish? = some tokens.reverse := by
  obtain rfl | ⟨part, done, before, rfl, ends, rfl⟩ := behind
  · rfl
  · simp [LexState.finish?, ends]

theorem delimits_of_isSpace {b : UInt8} (space : isSpace b = true) : Delimits b := by
  obtain ((rfl | rfl) | rfl) | rfl : ((b = 0x20 ∨ b = 0x09) ∨ b = 0x0a) ∨ b = 0x0d := by
    simpa [isSpace] using space
  all_goals intro part; cases part <;> rfl

/-! ### Numbers -/

theorem run?_number {part part' : NumberPart} {literal : List UInt8}
    (read : part.after? literal = some part') (done : List UInt8) (tokens : List Token)
    (rest : List UInt8) :
    run? ⟨.number part done, tokens⟩ (literal ++ rest) =
      run? ⟨.number part' (literal.reverse ++ done), tokens⟩ rest := by
  induction literal generalizing part done with
  | nil =>
      obtain rfl := Option.some.inj read
      rfl
  | cons b literal ih =>
      simp only [NumberPart.after?] at read
      cases next : part.next? b with
      | none => simp [next] at read
      | some part₁ =>
          simp only [next, Option.bind_some] at read
          simp only [List.cons_append, run?, step, next]
          rw [ih read]
          simp

/-- A byte that begins a number begins nothing else. -/
theorem begin?_of_first? {b : UInt8} {part : NumberPart} (first : NumberPart.first? b = some part)
    (tokens : List Token) : begin? tokens b = some ⟨.number part [b], tokens⟩ := by
  have apart {c : UInt8} (other : NumberPart.first? c = none) : b ≠ c := by
    rintro rfl
    cases other.symm.trans first
  have space : isSpace b = false := by
    simp [isSpace, apart (c := 0x20) rfl, apart (c := 0x09) rfl, apart (c := 0x0a) rfl,
      apart (c := 0x0d) rfl]
  simp [begin?, space, first, apart (c := 0x5b) rfl, apart (c := 0x5d) rfl, apart (c := 0x7b) rfl,
    apart (c := 0x7d) rfl, apart (c := 0x2c) rfl, apart (c := 0x3a) rfl, apart (c := 0x22) rfl,
    apart (c := 0x6e) rfl, apart (c := 0x74) rfl, apart (c := 0x66) rfl]

theorem run?_literal {literal : List UInt8} (isLiteral : IsLiteral literal) (tokens : List Token) :
    ∃ s : LexState, s.Behind (.number literal :: tokens) ∧
      ∀ rest, run? ⟨.between, tokens⟩ (literal ++ rest) = run? s rest := by
  obtain ⟨b, more, first, part, rfl, begins, read, ends⟩ := isLiteral
  refine ⟨⟨.number part (more.reverse ++ [b]), tokens⟩, .inr ⟨_, _, _, rfl, ends, by simp⟩, ?_⟩
  intro rest
  simp only [List.cons_append, run?, step, begin?_of_first? begins]
  exact run?_number read [b] tokens rest

/-! ### Strings -/

/-- The digits of a unit are read one after the other. -/
theorem run?_digits {digits : List UInt8} {value n : Nat} (worth : unitFrom? value digits = some n)
    {count : Nat} (some : digits ≠ []) (four : count + digits.length = 4) (done : Raw)
    (tokens : List Token) (rest : List UInt8) :
    run? ⟨.unit done count value, tokens⟩ (digits ++ rest) =
      run? ⟨.string (.unit (UInt16.ofNat n) :: done), tokens⟩ rest := by
  induction digits generalizing value count with
  | nil => exact absurd rfl some
  | cons b digits ih =>
      obtain ⟨d, digit, worth⟩ := Option.bind_eq_some_iff.1 worth
      rw [List.cons_append, run?]
      simp only [step, digit, Option.map_some]
      cases digits with
      | nil =>
          obtain rfl := Option.some.inj worth
          rw [if_pos (show count = 3 by simpa using four)]
          rfl
      | cons c digits =>
          have more : count ≠ 3 := by
            simp only [List.length_cons] at four
            omega
          rw [if_neg more]
          exact ih worth (List.cons_ne_nil _ _) (by simpa [Nat.add_assoc, Nat.add_comm] using four)

theorem run?_piece {p : Piece} {word : List UInt8} (spelled : p.Spelled word) (done : Raw)
    (tokens : List Token) (rest : List UInt8) :
    run? ⟨.string done, tokens⟩ (word ++ rest) = run? ⟨.string (p :: done), tokens⟩ rest := by
  cases spelled with
  | itself quote backslash visible => simp [run?, step, quote, backslash, visible]
  | @letter b letter stands =>
      have other : letter ≠ 0x75 := by
        rintro rfl
        cases stands
      simp [run?, step, other, stands]
  | digits four worth =>
      have some : _ ≠ [] := List.ne_nil_of_length_eq_add_one four
      exact run?_digits worth some (by simpa using four) done tokens rest

theorem run?_raw {raw : Raw} {inside : List UInt8} (spelled : Raw.Spelled raw inside) (done : Raw)
    (tokens : List Token) (rest : List UInt8) :
    run? ⟨.string done, tokens⟩ (inside ++ rest) =
      run? ⟨.string (raw.reverse ++ done), tokens⟩ rest := by
  induction spelled generalizing done with
  | nil => rfl
  | cons first _ ih =>
      rw [List.append_assoc, run?_piece first, ih]
      simp

/-! ### Rows of tokens -/

/-- A number, which goes on until another byte shows that it has ended. -/
def Token.isNumber : Token → Bool
  | .number _ => true
  | _ => false

/-- A token that is no number is read whole, and no number goes on with it. -/
theorem run?_token {t : Token} {word : List UInt8} (spelled : t.Spelled word)
    (other : t.isNumber = false) : ∃ b more, word = b :: more ∧ Delimits b ∧
      ∀ tokens rest, run? ⟨.between, tokens⟩ (word ++ rest) =
        run? ⟨.between, t :: tokens⟩ rest := by
  cases spelled with
  | number => cases other
  | string pieces =>
      refine ⟨_, _, rfl, fun part => by cases part <;> rfl, fun tokens rest => ?_⟩
      rw [List.cons_append, List.append_assoc]
      show run? ⟨.string [], tokens⟩ _ = _
      rw [run?_raw pieces]
      simp [run?, step]
  | _ => exact ⟨_, _, rfl, fun part => by cases part <;> rfl, fun tokens rest => rfl⟩

/-- Tokens of which no two numbers stand side by side. -/
def Apart (tokens : List Token) : Prop :=
  tokens.IsChain fun t u => ¬ (t.isNumber ∧ u.isNumber)

/-- The lexer is behind the tokens that a text says, once it has read it. -/
theorem run?_spells {more : List Token} {text : List UInt8} (spells : Spells more text)
    {s : LexState} {tokens : List Token} (behind : s.Behind tokens)
    (apart : Apart (tokens.reverse ++ more)) :
    ∃ s', run? s text = some s' ∧ s'.Behind (more.reverse ++ tokens) := by
  induction spells generalizing s tokens with
  | nil => exact ⟨s, rfl, behind⟩
  | @blank more b text space rest ih =>
      obtain ⟨s', ran, behind'⟩ := ih (s := ⟨.between, tokens⟩) (.inl rfl) apart
      have begun : begin? tokens b = some ⟨.between, tokens⟩ := by
        rw [begin?, if_pos space]
      refine ⟨s', ?_, behind'⟩
      rw [run?, behind.step (delimits_of_isSpace space), begun]
      exact ran
  | @token t word more text first rest ih =>
      have apart' : Apart ((t :: tokens).reverse ++ more) := by simpa using apart
      cases number : t.isNumber with
      | true =>
          obtain ⟨literal, rfl⟩ : ∃ literal, t = .number literal := by
            cases t <;> first | exact ⟨_, rfl⟩ | cases number
          cases first with | number isLiteral
          obtain rfl | ⟨part, done, before, rfl, ends, rfl⟩ := behind
          · obtain ⟨s₁, behind₁, read⟩ := run?_literal isLiteral tokens
            obtain ⟨s', ran, behind'⟩ := ih behind₁ apart'
            exact ⟨s', (read text).trans ran, by simpa using behind'⟩
          · -- the lexer is inside of a number: then the token in front of this one is another
            have beside := (List.isChain_append.1 apart).2.2
            simp [Token.isNumber] at beside
      | false =>
          obtain ⟨b, word, rfl, delimits, read⟩ := run?_token first number
          obtain ⟨s', ran, behind'⟩ := ih (s := ⟨.between, t :: tokens⟩) (.inl rfl) apart'
          refine ⟨s', ?_, by simpa using behind'⟩
          rw [List.cons_append, behind.run? delimits, ← List.cons_append, read, ran]

theorem Apart.cons {t : Token} {tokens : List Token} (other : t.isNumber = false)
    (apart : Apart tokens) : Apart (t :: tokens) :=
  List.isChain_cons.2 ⟨fun _ _ both => by simp [other] at both, apart⟩

mutual

/-- In a document no two numbers stand side by side. -/
theorem Value.apart_tokens (v : Value) {rest : List Token} (apart : Apart rest)
    (other : ∀ t ∈ rest.head?, t.isNumber = false) : Apart (v.tokens ++ rest) := by
  cases v with
  | null => exact apart.cons rfl
  | bool b => exact apart.cons rfl
  | number literal =>
      exact List.isChain_cons.2 ⟨fun t first both => by simp [other t first] at both, apart⟩
  | string raw => exact apart.cons rfl
  | array items =>
      cases items with
      | nil => exact (apart.cons rfl).cons rfl
      | cons v vs =>
          rw [Value.tokens, List.cons_append, List.append_assoc]
          obtain ⟨further, other⟩ := apart_itemTokens vs apart
          exact (Value.apart_tokens v further other).cons rfl
  | object members =>
      cases members with
      | nil => exact (apart.cons rfl).cons rfl
      | cons m ms =>
          obtain ⟨key, v⟩ := m
          rw [Value.tokens, List.cons_append, List.cons_append, List.cons_append, List.append_assoc]
          obtain ⟨further, other⟩ := apart_memberTokens ms apart
          exact (((Value.apart_tokens v further other).cons rfl).cons rfl).cons rfl

theorem apart_itemTokens (vs : List Value) {rest : List Token} (apart : Apart rest) :
    Apart (itemTokens vs ++ rest) ∧ ∀ t ∈ (itemTokens vs ++ rest).head?, t.isNumber = false := by
  cases vs with
  | nil => exact ⟨apart.cons rfl, fun t first => by cases first; rfl⟩
  | cons v vs =>
      rw [itemTokens, List.cons_append, List.append_assoc]
      obtain ⟨further, other⟩ := apart_itemTokens vs apart
      exact ⟨(Value.apart_tokens v further other).cons rfl, fun t first => by cases first; rfl⟩

theorem apart_memberTokens (ms : List (Raw × Value)) {rest : List Token} (apart : Apart rest) :
    Apart (memberTokens ms ++ rest) ∧ ∀ t ∈ (memberTokens ms ++ rest).head?, t.isNumber = false := by
  cases ms with
  | nil => exact ⟨apart.cons rfl, fun t first => by cases first; rfl⟩
  | cons m ms =>
      obtain ⟨key, v⟩ := m
      rw [memberTokens, List.cons_append, List.cons_append, List.cons_append, List.append_assoc]
      obtain ⟨further, other⟩ := apart_memberTokens ms apart
      exact ⟨(((Value.apart_tokens v further other).cons rfl).cons rfl).cons rfl,
        fun t first => by cases first; rfl⟩

end

/-- The lexer finds the tokens that a text says. -/
theorem lex?_of_spells {tokens : List Token} {text : List UInt8} (spells : Spells tokens text)
    (apart : Apart tokens) : lex? text = some tokens := by
  obtain ⟨s, ran, behind⟩ := @run?_spells tokens text spells ⟨.between, []⟩ [] (.inl rfl) apart
  rw [lex?, ran]
  exact behind.finish?.trans (by simp)

/-- **From texts to documents.**  A document is found in a text just if the text says its tokens. -/
theorem parse?_iff {text : List UInt8} {v : Value} :
    parse? text = some v ↔ Spells v.tokens text := by
  constructor
  · intro parsed
    unfold parse? at parsed
    split at parsed
    · cases parsed
    · rename_i tokens lexed
      rw [read?_iff] at parsed
      exact parsed ▸ spells_of_lex? lexed
  · intro spells
    have apart : Apart (v.tokens ++ []) := v.apart_tokens .nil (by simp)
    rw [List.append_nil] at apart
    rw [parse?, lex?_of_spells spells apart]
    exact read?_tokens v

/-- A text says no two documents. -/
theorem Spells.unique {v w : Value} {text : List UInt8} (spells : Spells v.tokens text)
    (other : Spells w.tokens text) : v = w :=
  Option.some.inj ((parse?_iff.2 spells).symm.trans (parse?_iff.2 other))

end HotSwap.Json
