/-
# HotSwap.Digest.Blake3 -- the content digest of a byte string

The input is cut into chunks of 1024 bytes, each chunk into blocks of 64.  A
block is mixed into a chaining value of eight words; the chaining values of the
chunks are the leaves of a binary tree, whose inner nodes mix two values into
one.  The digest is the last mixing of all, done with a flag of its own.

`pairUp` joins neighbours and carries a last odd one up unchanged.  Doing that
level by level gives every node the largest full subtree on its left, so `top`
ends with the two values below the root.
-/
namespace HotSwap.Digest.Blake3

set_option autoImplicit false

/-- Eight words that summarise all that was mixed so far. -/
structure Chain where
  (h0 h1 h2 h3 h4 h5 h6 h7 : UInt32)

/-- One block of input as sixteen little-endian words. -/
structure Block where
  (m0 m1 m2 m3 m4 m5 m6 m7 m8 m9 m10 m11 m12 m13 m14 m15 : UInt32)

/-- The sixteen words that a mixing works on. -/
structure State where
  (s0 s1 s2 s3 s4 s5 s6 s7 s8 s9 s10 s11 s12 s13 s14 s15 : UInt32)

/-- The words that every chunk starts from. -/
def start : Chain :=
  ⟨0x6a09e667, 0xbb67ae85, 0x3c6ef372, 0xa54ff53a, 0x510e527f, 0x9b05688c, 0x1f83d9ab, 0x5be0cd19⟩

/-- The first block of a chunk. -/
def chunkStart : UInt32 := 1

/-- The last block of a chunk. -/
def chunkEnd : UInt32 := 2

/-- A node that joins two chaining values. -/
def parentNode : UInt32 := 4

/-- The last mixing of all. -/
def rootNode : UInt32 := 8

/-- Rotates a word to the right. -/
@[inline] def rotate (x n : UInt32) : UInt32 := (x >>> n) ||| (x <<< (32 - n))

/-- Mixes two message words into four state words. -/
@[inline] def mix (a b c d x y : UInt32) : UInt32 × UInt32 × UInt32 × UInt32 :=
  let a := a + b + x
  let d := rotate (d ^^^ a) 16
  let c := c + d
  let b := rotate (b ^^^ c) 12
  let a := a + b + y
  let d := rotate (d ^^^ a) 8
  let c := c + d
  let b := rotate (b ^^^ c) 7
  (a, b, c, d)

/-- One round: the four columns of the state, then its four diagonals. -/
def round (s : State) (m : Block) : State :=
  let (x0, x4, x8, x12) := mix s.s0 s.s4 s.s8 s.s12 m.m0 m.m1
  let (x1, x5, x9, x13) := mix s.s1 s.s5 s.s9 s.s13 m.m2 m.m3
  let (x2, x6, x10, x14) := mix s.s2 s.s6 s.s10 s.s14 m.m4 m.m5
  let (x3, x7, x11, x15) := mix s.s3 s.s7 s.s11 s.s15 m.m6 m.m7
  let (y0, y5, y10, y15) := mix x0 x5 x10 x15 m.m8 m.m9
  let (y1, y6, y11, y12) := mix x1 x6 x11 x12 m.m10 m.m11
  let (y2, y7, y8, y13) := mix x2 x7 x8 x13 m.m12 m.m13
  let (y3, y4, y9, y14) := mix x3 x4 x9 x14 m.m14 m.m15
  ⟨y0, y1, y2, y3, y4, y5, y6, y7, y8, y9, y10, y11, y12, y13, y14, y15⟩

/-- The order in which the next round takes the message words. -/
def Block.permute (m : Block) : Block :=
  ⟨m.m2, m.m6, m.m3, m.m10, m.m7, m.m0, m.m4, m.m13,
    m.m1, m.m11, m.m12, m.m5, m.m9, m.m14, m.m15, m.m8⟩

def rounds : Nat → State → Block → State
  | 0, s, _ => s
  | n + 1, s, m => rounds n (round s m) m.permute

/-- Mixes one block, which holds `length` bytes of input, into a chaining value. -/
def compress (c : Chain) (m : Block) (counter : UInt64) (length flags : UInt32) : Chain :=
  let s := rounds 7
    ⟨c.h0, c.h1, c.h2, c.h3, c.h4, c.h5, c.h6, c.h7,
      start.h0, start.h1, start.h2, start.h3,
      counter.toUInt32, (counter >>> 32).toUInt32, length, flags⟩ m
  ⟨s.s0 ^^^ s.s8, s.s1 ^^^ s.s9, s.s2 ^^^ s.s10, s.s3 ^^^ s.s11,
    s.s4 ^^^ s.s12, s.s5 ^^^ s.s13, s.s6 ^^^ s.s14, s.s7 ^^^ s.s15⟩

/-- A byte of the input; all that follows the input reads as zero. -/
@[inline] def byteAt (input : ByteArray) (i : Nat) : UInt32 :=
  if h : i < input.size then (input.get i h).toUInt32 else 0

/-- Four bytes as a word, the lowest first. -/
def wordAt (input : ByteArray) (i : Nat) : UInt32 :=
  byteAt input i ||| (byteAt input (i + 1) <<< 8) ||| (byteAt input (i + 2) <<< 16) |||
    (byteAt input (i + 3) <<< 24)

def Block.read (input : ByteArray) (i : Nat) : Block :=
  ⟨wordAt input i, wordAt input (i + 4), wordAt input (i + 8), wordAt input (i + 12),
    wordAt input (i + 16), wordAt input (i + 20), wordAt input (i + 24), wordAt input (i + 28),
    wordAt input (i + 32), wordAt input (i + 36), wordAt input (i + 40), wordAt input (i + 44),
    wordAt input (i + 48), wordAt input (i + 52), wordAt input (i + 56), wordAt input (i + 60)⟩

/-- A mixing that has not been done yet, because it may turn out to be the last. -/
structure Node where
  chain : Chain
  block : Block
  counter : UInt64
  length : UInt32
  flags : UInt32

def Node.value (n : Node) : Chain := compress n.chain n.block n.counter n.length n.flags

def Node.root (n : Node) : Chain := compress n.chain n.block 0 n.length (n.flags ||| rootNode)

/-- Mixes `count` full blocks from position `i` on; `flags` belong to the first. -/
def absorb (input : ByteArray) (counter : UInt64) (i : Nat) (flags : UInt32) :
    Nat → Chain → Chain
  | 0, c => c
  | count + 1, c =>
      absorb input counter (i + 64) 0 count
        (compress c (Block.read input i) counter 64 flags)

/-- The last block of a chunk, on the chaining value of the blocks before it. -/
def chunk (input : ByteArray) (index : Nat) : Node :=
  let first := 1024 * index
  let size := min 1024 (input.size - first)
  let before := (size - 1) / 64
  let counter := UInt64.ofNat index
  { chain := absorb input counter first chunkStart before start
    block := Block.read input (first + 64 * before)
    counter := counter
    length := UInt32.ofNat (size - 64 * before)
    flags := if before = 0 then chunkStart ||| chunkEnd else chunkEnd }

def parent (l r : Chain) : Node :=
  { chain := start
    block := ⟨l.h0, l.h1, l.h2, l.h3, l.h4, l.h5, l.h6, l.h7,
      r.h0, r.h1, r.h2, r.h3, r.h4, r.h5, r.h6, r.h7⟩
    counter := 0
    length := 64
    flags := parentNode }

/-- Joins neighbours; a last odd value goes up as it is. -/
def pairUp : List Chain → List Chain
  | l :: r :: rest => (parent l r).value :: pairUp rest
  | rest => rest

theorem length_pairUp (cs : List Chain) : (pairUp cs).length = (cs.length + 1) / 2 := by
  fun_induction pairUp cs with
  | case1 l r rest ih => simp [ih]; omega
  | case2 rest h =>
    match rest with
    | [] => rfl
    | [_] => simp
    | l :: r :: rest => exact (h l r rest rfl).elim

/-- The values below the root: two, or fewer if there were fewer to begin with. -/
def top (cs : List Chain) : List Chain :=
  if 2 < cs.length then top (pairUp cs) else cs
termination_by cs.length
decreasing_by rw [length_pairUp]; omega

def root (input : ByteArray) : Chain :=
  if input.size ≤ 1024 then (chunk input 0).root
  else
    match top ((List.range ((input.size + 1023) / 1024)).map fun i => (chunk input i).value) with
    | [l, r] => (parent l r).root
    | _ => start

/-- A chaining value as 32 bytes, each word with its lowest byte first. -/
def Chain.bytes (c : Chain) : Vector UInt8 32 :=
  let words : Vector UInt32 8 := #v[c.h0, c.h1, c.h2, c.h3, c.h4, c.h5, c.h6, c.h7]
  Vector.ofFn fun i => (words[i.val / 4] >>> UInt32.ofNat (8 * (i.val % 4))).toUInt8

/-- The digest of a byte string. -/
def digest (input : ByteArray) : Vector UInt8 32 := (root input).bytes

end HotSwap.Digest.Blake3
