import EntityDiagram.Text.Ranges

namespace EntityDiagram.Text

/-- The Unicode property White_Space beyond ASCII. -/
def blankRanges : List (Nat × Nat) :=
  [(0x85, 0x85), (0xa0, 0xa0), (0x1680, 0x1680), (0x2000, 0x200a), (0x2028, 0x2029),
   (0x202f, 0x202f), (0x205f, 0x205f), (0x3000, 0x3000)]

/-- The character is white space. Line feeds are, too. -/
def isBlank (c : Char) : Bool :=
  c = ' ' || ('\t' ≤ c && c ≤ '\r') || (0x80 ≤ c.toNat && inRanges blankRanges c.toNat)

end EntityDiagram.Text
