import EntityDiagram.Text.Alphabetic
import EntityDiagram.Text.Blank

namespace EntityDiagram.Text

variable {c : Char}

theorem isDigit_iff : c.isDigit = true ↔ 48 ≤ c.toNat ∧ c.toNat ≤ 57 := by
  simp [Char.isDigit, UInt32.le_iff_toNat_le]

theorem isAlpha_iff :
    c.isAlpha = true ↔ 65 ≤ c.toNat ∧ c.toNat ≤ 90 ∨ 97 ≤ c.toNat ∧ c.toNat ≤ 122 := by
  have halpha : c.isAlpha =
      (decide (c.val ≥ 65 ∧ c.val ≤ 90) || decide (c.val ≥ 97) && decide (c.val ≤ 122)) := rfl
  simp [halpha, UInt32.le_iff_toNat_le]

theorem isBlank_iff :
    isBlank c = true ↔ c.toNat = 32 ∨ 9 ≤ c.toNat ∧ c.toNat ≤ 13 ∨
      128 ≤ c.toNat ∧ inRanges blankRanges c.toNat = true := by
  have heq (c d : Char) : c = d ↔ c.toNat = d.toNat := Char.toNat_inj.symm
  have hle (c d : Char) : c ≤ d ↔ c.toNat ≤ d.toNat := Iff.rfl
  simp only [isBlank, Bool.or_eq_true, Bool.and_eq_true, decide_eq_true_eq, heq, hle, or_assoc]
  exact Iff.rfl

theorem isWordStart_iff :
    isWordStart c = true ↔ (65 ≤ c.toNat ∧ c.toNat ≤ 90 ∨ 97 ≤ c.toNat ∧ c.toNat ≤ 122) ∨
      128 ≤ c.toNat ∧ inRanges alphabeticRanges c.toNat = true ∨ c.toNat = 95 := by
  have heq : c = '_' ↔ c.toNat = 95 := Char.toNat_inj.symm
  simp only [isWordStart, isAlphabetic, Bool.or_eq_true, Bool.and_eq_true, decide_eq_true_eq,
    isAlpha_iff, heq, or_assoc]

/-- Ranges that lie apart have no code point in common. -/
theorem not_inRanges_of_apart {xs ys : List (Nat × Nat)} {n : Nat}
    (h : ∀ x ∈ xs, ∀ y ∈ ys, x.2 < y.1 ∨ y.2 < x.1) (hx : inRanges xs n = true) :
    inRanges ys n ≠ true := by
  obtain ⟨x, hx, hn⟩ := inRanges_iff.1 hx
  intro hy
  obtain ⟨y, hy, hn'⟩ := inRanges_iff.1 hy
  rcases h x hx y hy with h | h
  · omega
  · omega

theorem isDigit_eq_false_of_isWordStart (h : isWordStart c = true) : c.isDigit = false := by
  rw [Bool.eq_false_iff]
  intro hd
  have hd := isDigit_iff.1 hd
  rcases isWordStart_iff.1 h with h | ⟨h, -⟩ | h
  · omega
  · omega
  · omega

theorem isBlank_eq_false_of_isDigit (h : c.isDigit = true) : isBlank c = false := by
  rw [Bool.eq_false_iff]
  intro hb
  have hd := isDigit_iff.1 h
  rcases isBlank_iff.1 hb with h | h | ⟨h, -⟩
  · omega
  · omega
  · omega

theorem isBlank_eq_false_of_isWordStart (h : isWordStart c = true) : isBlank c = false := by
  have hapart : ∀ x ∈ blankRanges, ∀ y ∈ alphabeticRanges, x.2 < y.1 ∨ y.2 < x.1 := by
    decide +kernel
  rw [Bool.eq_false_iff]
  intro hb
  rcases isWordStart_iff.1 h with h | ⟨h, ha⟩ | h
  · rcases isBlank_iff.1 hb with hb | hb | ⟨hb, -⟩ <;> omega
  · rcases isBlank_iff.1 hb with hb | hb | ⟨-, hb⟩
    · omega
    · omega
    · exact not_inRanges_of_apart hapart hb ha
  · rcases isBlank_iff.1 hb with hb | hb | ⟨hb, -⟩ <;> omega

theorem isWordRest_eq_false_of_isBlank (h : isBlank c = true) : isWordRest c = false := by
  have hapart : ∀ x ∈ blankRanges, ∀ y ∈ numericRanges, x.2 < y.1 ∨ y.2 < x.1 := by
    decide +kernel
  rw [Bool.eq_false_iff]
  intro hw
  simp only [isWordRest, isNumeric, Bool.or_eq_true, Bool.and_eq_true, decide_eq_true_eq] at hw
  rcases hw with hw | hw | ⟨hc, hw⟩
  · rw [isBlank_eq_false_of_isWordStart hw] at h
    cases h
  · rw [isBlank_eq_false_of_isDigit hw] at h
    cases h
  · rcases isBlank_iff.1 h with hb | hb | ⟨-, hb⟩
    · omega
    · omega
    · exact not_inRanges_of_apart hapart hb hw

variable {cs rest : List Char} {p : Char → Bool}

theorem eq_false_of_mem_head?_dropWhile :
    ∀ d ∈ (cs.dropWhile p).head?, p d = false := by
  have h := List.head?_dropWhile_not p cs
  intro d hd
  rwa [Option.mem_def.1 hd] at h

theorem takeWhile_dropWhile_append (hcs : ∀ d ∈ cs, p d = true)
    (hr : ∀ d ∈ rest.head?, p d = false) :
    ((cs ++ rest).takeWhile p, (cs ++ rest).dropWhile p) = (cs, rest) := by
  rw [List.takeWhile_append_of_pos hcs, List.dropWhile_append_of_pos hcs]
  cases rest with
  | nil => simp
  | cons d ds =>
    have hd := Bool.eq_false_iff.1 (hr d rfl)
    rw [List.takeWhile_cons_of_neg hd, List.dropWhile_cons_of_neg hd, List.append_nil]

end EntityDiagram.Text
