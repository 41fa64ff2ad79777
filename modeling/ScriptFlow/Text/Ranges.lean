/-!
# Sets of characters

Properties of the character standard are given as ascending, disjoint ranges of code points; the decimal digits and the blanks are the small ones.
-/

namespace ScriptFlow.Text

/-- Ascending, disjoint ranges of code points, ends included. -/
abbrev Ranges := Array (Nat × Nat)

/-- Is a code point inside one of the ranges? -/
def Ranges.contains (rs : Ranges) (c : Nat) : Bool := rs.any fun r => decide (r.1 ≤ c) && decide (c ≤ r.2)

/-! ### Decimal digits of all scripts

Every range of decimal digits has ten characters in ascending order of value.
-/

/-- Code points of the zeros of all decimal digit ranges. -/
def digitZeros : Array Nat := #[
  0x30, 0x660, 0x6F0, 0x7C0, 0x966, 0x9E6, 0xA66, 0xAE6, 0xB66, 0xBE6, 0xC66, 0xCE6,
  0xD66, 0xDE6, 0xE50, 0xED0, 0xF20, 0x1040, 0x1090, 0x17E0, 0x1810, 0x1946, 0x19D0, 0x1A80,
  0x1A90, 0x1B50, 0x1BB0, 0x1C40, 0x1C50, 0xA620, 0xA8D0, 0xA900, 0xA9D0, 0xA9F0, 0xAA50, 0xABF0,
  0xFF10, 0x104A0, 0x10D30, 0x11066, 0x110F0, 0x11136, 0x111D0, 0x112F0, 0x11450, 0x114D0, 0x11650, 0x116C0,
  0x11730, 0x118E0, 0x11950, 0x11C50, 0x11D50, 0x11DA0, 0x16A60, 0x16AC0, 0x16B50, 0x1D7CE, 0x1D7D8, 0x1D7E2,
  0x1D7EC, 0x1D7F6, 0x1E140, 0x1E2F0, 0x1E950, 0x1FBF0]

/-- The value of a decimal digit. -/
def digitValue? (c : Char) : Option Nat :=
  (digitZeros.find? fun z => decide (z ≤ c.toNat) && decide (c.toNat ≤ z + 9)).map (c.toNat - ·)

/-! ### Blank characters

The characters that are stripped around texts: those of bidirectional class white space, segment or
paragraph separator, and the space separators.
-/

/-- Ranges of the blank characters. -/
def blankRanges : Ranges := #[
  (0x9, 0xD), (0x1C, 0x20), (0x85, 0x85), (0xA0, 0xA0), (0x1680, 0x1680), (0x2000, 0x200A), (0x2028, 0x2029), (0x202F, 0x202F),
  (0x205F, 0x205F), (0x3000, 0x3000)]

/-- Is the character blank? -/
def isBlank (c : Char) : Bool := blankRanges.contains c.toNat

/-- Drops blanks at the front. -/
def trimLeft (cs : List Char) : List Char := cs.dropWhile isBlank

/-- Drops blanks at both ends. -/
def trim (cs : List Char) : List Char := (trimLeft (trimLeft cs).reverse).reverse

/-- A text without blanks at its ends. -/
def strip (s : String) : String := String.ofList (trim s.toList)

end ScriptFlow.Text
