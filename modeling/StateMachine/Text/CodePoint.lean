/-!
# Code points

What a character stands for, and sets of code points. A text may hold surrogates: code points that are the halves of a
pair and no characters by themselves. Each is kept as a character of plane 12, which has no characters of its own.
-/

namespace StateMachine.Text

/-! ## Surrogates -/

/-- Whether a code point is the half of a pair. -/
def isSurrogate (n : Nat) : Bool := 0xd800 ≤ n && n ≤ 0xdfff

/-- The distance from a surrogate to the character that stands for it. -/
def surrogateShift : Nat := 0xc0000

/-- The character that stands for a code point. -/
def ofCode (n : Nat) : Char := Char.ofNat (if isSurrogate n then n + surrogateShift else n)

/-- The code point that a character stands for. -/
def codeOf (c : Char) : Nat :=
  if surrogateShift ≤ c.toNat && isSurrogate (c.toNat - surrogateShift) then c.toNat - surrogateShift
  else c.toNat

/-! ## Ranges

A property of characters is a list of ranges of code points, in ascending order. -/

/-- Closed ranges of code points, ascending and apart. -/
abbrev Ranges := List (Nat × Nat)

/-- Whether a code point lies in one of the ranges. The search stops at the first range that begins above it. -/
def inRanges : Ranges → Nat → Bool
  | [], _ => false
  | (first, last) :: rest, n =>
    if n < first then false else if n ≤ last then true else inRanges rest n

/-! ## Blanks

The code points that Unicode 14 counts as white space or as a separator of paragraphs and segments. -/

/-- The blank characters, in ascending order. -/
def blankRanges : Ranges :=
  [(0x9, 0xd), (0x1c, 0x20), (0x85, 0x85), (0xa0, 0xa0), (0x1680, 0x1680), (0x2000, 0x200a),
   (0x2028, 0x2029), (0x202f, 0x202f), (0x205f, 0x205f), (0x3000, 0x3000)]

/-- A blank of any script. -/
def isBlank (c : Char) : Bool := inRanges blankRanges c.toNat

end StateMachine.Text
