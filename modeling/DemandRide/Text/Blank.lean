/-! Blank characters: the code points with the Unicode property `White_Space`. Characters of
zero width, such as U+200B and U+FEFF, do not have it. -/
namespace DemandRide.Text

/-- The ranges of blank code points, ends included. -/
def blankRanges : List (Nat × Nat) :=
  [(0x09, 0x0D), (0x20, 0x20), (0x85, 0x85), (0xA0, 0xA0), (0x1680, 0x1680),
    (0x2000, 0x200A), (0x2028, 0x2029), (0x202F, 0x202F), (0x205F, 0x205F), (0x3000, 0x3000)]

def isBlankChar (c : Char) : Bool :=
  blankRanges.any fun range => decide (range.1 ≤ c.toNat ∧ c.toNat ≤ range.2)

/-- Whether a text is empty but for blank characters. -/
def isBlank (s : String) : Bool := s.toList.all isBlankChar

end DemandRide.Text
