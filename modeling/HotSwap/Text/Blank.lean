/-
# HotSwap.Text.Blank -- blank characters and trimming

`isBlank` is the Unicode white-space property: the controls from tab to carriage
return, the next-line control, and every space and line or paragraph separator.
`trim` removes blanks from both ends of a text and nothing else, and
`isAllBlank` says that nothing would be left.
-/
namespace HotSwap.Text

set_option autoImplicit false

/-- The Unicode white-space property. -/
def isBlank (c : Char) : Bool :=
  let n := c.toNat
  (0x9 ≤ n && n ≤ 0xd) || n = 0x20 || n = 0x85 || n = 0xa0 || n = 0x1680 ||
    (0x2000 ≤ n && n ≤ 0x200a) || n = 0x2028 || n = 0x2029 || n = 0x202f || n = 0x205f ||
    n = 0x3000

/-- The characters of a text without the blanks at its two ends. -/
def trimChars (cs : List Char) : List Char :=
  ((cs.dropWhile isBlank).reverse.dropWhile isBlank).reverse

def trim (s : String) : String := String.ofList (trimChars s.toList)

/-- A text that is empty or holds blanks only. -/
def isAllBlank (s : String) : Bool := s.toList.all isBlank

/-- Core's notion of white space is a part of this one. -/
theorem isBlank_of_isWhitespace {c : Char} (h : c.isWhitespace = true) : isBlank c = true := by
  simp only [Char.isWhitespace, Bool.or_eq_true, decide_eq_true_eq] at h
  rcases h with ((rfl | rfl) | rfl) | rfl <;> decide

end HotSwap.Text
