namespace EntityDiagram.Text

/-- The code point lies in one of the ranges; both ends of a range belong to it. -/
def inRanges (ranges : List (Nat × Nat)) (code : Nat) : Bool :=
  ranges.any fun r => r.1 ≤ code && code ≤ r.2

theorem inRanges_iff {ranges : List (Nat × Nat)} {code : Nat} :
    inRanges ranges code = true ↔ ∃ r ∈ ranges, r.1 ≤ code ∧ code ≤ r.2 := by
  simp [inRanges]

end EntityDiagram.Text
