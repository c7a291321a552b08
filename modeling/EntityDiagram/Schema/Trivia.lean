import EntityDiagram.Text.Blank

namespace EntityDiagram.Trivia

/-- Splits what follows the opening `/*` of a comment after the closing `*/`. -/
def splitComment? : List Char → Option (List Char × List Char)
  | [] => none
  | '*' :: '/' :: cs => some (['*', '/'], cs)
  | c :: cs => (splitComment? cs).map (Prod.map (c :: ·) id)

theorem splitComment?_append {cs body rest : List Char} (h : splitComment? cs = some (body, rest)) :
    body ++ rest = cs := by
  fun_induction splitComment? cs generalizing body rest with
  | case1 => simp at h
  | case2 cs =>
    cases h
    rfl
  | case3 c cs _ ih =>
    obtain ⟨⟨b, r⟩, hb, he⟩ := Option.map_eq_some_iff.1 h
    cases he
    simp [ih hb]

theorem splitComment?_length {cs body rest : List Char}
    (h : splitComment? cs = some (body, rest)) : rest.length ≤ cs.length := by
  rw [← splitComment?_append h, List.length_append]
  omega

/-- The trivia that a text begins with, and the text after it. -/
def split : List Char → List Char × List Char
  | '/' :: '/' :: cs => ('/' :: '/' :: cs.takeWhile (· ≠ '\n'), cs.dropWhile (· ≠ '\n'))
  | '/' :: '*' :: cs =>
    match _h : splitComment? cs with
    | some (body, rest) => (split rest).map ('/' :: '*' :: body ++ ·) id
    | none => ([], '/' :: '*' :: cs)
  | c :: cs => if Text.isBlank c ∧ c ≠ '\n' then (split cs).map (c :: ·) id else ([], c :: cs)
  | [] => ([], [])
termination_by cs => cs.length
decreasing_by
  · have := splitComment?_length _h
    simp only [List.length_cons]
    omega
  · exact Nat.lt_succ_self _

theorem split_append (cs : List Char) : (split cs).1 ++ (split cs).2 = cs := by
  fun_induction split cs with
  | case1 cs => simp
  | case2 cs body rest h ih => simp [ih, splitComment?_append h]
  | case3 => rfl
  | case4 c cs _ _ _ ih => simp [ih]
  | case5 => rfl
  | case6 => rfl

end EntityDiagram.Trivia
