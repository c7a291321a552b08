import EntityDiagram.Proofs.Text.Characters
import EntityDiagram.Schema.Trivia

namespace EntityDiagram.Trivia

/-- The text between the marks of a block comment, which does not close the comment itself. -/
def IsBody (body : List Char) : Prop := ¬['*', '/'] <:+: body ++ ['*']

instance IsBody.decidable (body : List Char) : Decidable (IsBody body) :=
  inferInstanceAs (Decidable (¬['*', '/'] <:+: body ++ ['*']))

/-- `t` is white space without line feeds and comments, where `rest` follows. -/
inductive IsTrivia (rest : List Char) : List Char → Prop
  | nil : IsTrivia rest []
  | blank {c t} (hb : Text.isBlank c = true) (hn : c ≠ '\n') (h : IsTrivia rest t) :
      IsTrivia rest (c :: t)
  | block {body t} (hb : IsBody body) (h : IsTrivia rest t) :
      IsTrivia rest ('/' :: '*' :: (body ++ '*' :: '/' :: t))
  | line {body} (hb : '\n' ∉ body) (hr : ∀ c ∈ rest.head?, c = '\n') :
      IsTrivia rest ('/' :: '/' :: body)

/-- No trivia stands at the beginning of the text. -/
def Ended (rest : List Char) : Prop := ∀ t rest', rest = t ++ rest' → IsTrivia rest' t → t = []

variable {cs t u rest rest' body : List Char} {c : Char}

/-- Of what follows only a comment up to the end of its line takes notice. -/
theorem IsTrivia.imp (h : IsTrivia rest t)
    (hr : (∀ c ∈ rest.head?, c = '\n') → ∀ c ∈ rest'.head?, c = '\n') : IsTrivia rest' t := by
  induction h with
  | nil => exact .nil
  | blank hb hn _ ih => exact .blank hb hn ih
  | block hb _ ih => exact .block hb ih
  | line hb h => exact .line hb (hr h)

theorem IsTrivia.head?_ne (h : IsTrivia rest t) : ∀ c ∈ t.head?, c ≠ '\n' := by
  intro c hc
  cases h with
  | nil => cases hc
  | blank _ hn _ =>
    cases hc
    exact hn
  | block _ _ =>
    cases hc
    decide
  | line _ _ =>
    cases hc
    decide

theorem IsTrivia.append (h : IsTrivia (u ++ rest) t) (hu : IsTrivia rest u) :
    IsTrivia rest (t ++ u) := by
  induction h with
  | nil => exact hu
  | blank hb hn _ ih => exact .blank hb hn ih
  | block hb _ ih =>
    rw [List.cons_append, List.cons_append, List.append_assoc]
    exact .block hb ih
  | line hb hr =>
    cases u with
    | nil =>
      rw [List.append_nil]
      exact .line hb hr
    | cons c u => exact (hu.head?_ne c rfl (hr c rfl)).elim

/-- Trivia is trivia wherever it stands, or it ends in a comment up to the end of its line. -/
theorem IsTrivia.closed_or_line (h : IsTrivia rest t) :
    (∀ rest, IsTrivia rest t) ∨
    ∃ u body, t = u ++ '/' :: '/' :: body ∧ (∀ rest, IsTrivia rest u) ∧ '\n' ∉ body ∧
      ∀ c ∈ rest.head?, c = '\n' := by
  induction h with
  | nil => exact .inl fun _ => .nil
  | @blank c t hb hn _ ih =>
    rcases ih with ih | ⟨u, body, rfl, hu, hbody, hr⟩
    · exact .inl fun rest => .blank hb hn (ih rest)
    · exact .inr ⟨c :: u, body, rfl, fun rest => .blank hb hn (hu rest), hbody, hr⟩
  | @block body t hb _ ih =>
    rcases ih with ih | ⟨u, line, rfl, hu, hline, hr⟩
    · exact .inl fun rest => .block hb (ih rest)
    · refine .inr ⟨'/' :: '*' :: (body ++ '*' :: '/' :: u), line, by simp, ?_, hline, hr⟩
      intro rest
      exact .block hb (hu rest)
  | @line body hb hr => exact .inr ⟨[], body, rfl, fun _ => .nil, hb, hr⟩

theorem isBody_nil : IsBody [] := by decide

theorem isBody_cons_iff :
    IsBody (c :: body) ↔ ¬(c = '*' ∧ body.head? = some '/') ∧ IsBody body := by
  rw [IsBody, IsBody, List.cons_append, List.infix_cons_iff, not_or, List.cons_prefix_cons]
  have hslash : ['/'] <+: body ++ ['*'] ↔ body.head? = some '/' := by
    cases body with
    | nil => simp
    | cons d ds => simp [eq_comm]
  rw [hslash, eq_comm]

theorem splitComment?_of_isBody (h : IsBody body) :
    splitComment? (body ++ '*' :: '/' :: rest) = some (body ++ ['*', '/'], rest) := by
  induction body with
  | nil => rfl
  | cons c body ih =>
    obtain ⟨hc, hb⟩ := isBody_cons_iff.1 h
    rw [List.cons_append, splitComment?, ih hb]
    · rfl
    · intro cs h hcs
      apply hc ⟨h, _⟩
      cases body with
      | nil => cases hcs
      | cons d ds =>
        cases hcs
        rfl

theorem exists_of_splitComment? {taken : List Char} (h : splitComment? cs = some (taken, rest)) :
    ∃ body, taken = body ++ ['*', '/'] ∧ IsBody body := by
  fun_induction splitComment? cs generalizing taken with
  | case1 => cases h
  | case2 cs =>
    cases h
    exact ⟨[], rfl, isBody_nil⟩
  | case3 c cs hcs ih =>
    obtain ⟨⟨b, r⟩, hb, he⟩ := Option.map_eq_some_iff.1 h
    cases he
    obtain ⟨body, rfl, hbody⟩ := ih hb
    refine ⟨c :: body, rfl, isBody_cons_iff.2 ⟨?_, hbody⟩⟩
    rintro ⟨rfl, hslash⟩
    cases body with
    | nil => cases hslash
    | cons d ds =>
      cases hslash
      exact hcs _ rfl (splitComment?_append hb).symm

theorem split_lineBreak : split ('\n' :: cs) = ([], '\n' :: cs) := by
  rw [split, if_neg (by simp)]
  · intro _ h
    cases h
  · intro _ h
    cases h

theorem split_nil : split [] = ([], []) := by rw [split]

theorem split_of_head? (h : ∀ c ∈ rest.head?, c = '\n') : split rest = ([], rest) := by
  cases rest with
  | nil => exact split_nil
  | cons c cs =>
    cases h c rfl
    exact split_lineBreak

theorem split_blank (hb : Text.isBlank c = true) (hn : c ≠ '\n') :
    split (c :: cs) = (split cs).map (c :: ·) id := by
  have hslash : c ≠ '/' := by
    rintro rfl
    revert hb
    decide
  rw [split, if_pos ⟨hb, hn⟩]
  · intro _ hc
    exact (hslash hc).elim
  · intro _ hc
    exact (hslash hc).elim

theorem split_block (hb : IsBody body) :
    split ('/' :: '*' :: (body ++ '*' :: '/' :: cs)) =
      (split cs).map ('/' :: '*' :: (body ++ ['*', '/']) ++ ·) id := by
  rw [split]
  split
  · next taken rest h =>
    rw [splitComment?_of_isBody hb] at h
    cases h
    rfl
  · next h =>
    rw [splitComment?_of_isBody hb] at h
    cases h

theorem decide_ne_lineFeed (hn : '\n' ∉ cs) : ∀ c ∈ cs, decide (c ≠ '\n') = true := by
  intro c hc
  apply decide_eq_true
  rintro rfl
  exact hn hc

theorem split_line (hb : '\n' ∉ body) (hr : ∀ c ∈ rest.head?, c = '\n') :
    split ('/' :: '/' :: (body ++ rest)) = ('/' :: '/' :: body, rest) := by
  have hstop : ∀ c ∈ rest.head?, decide (c ≠ '\n') = false := by
    intro c hc
    exact decide_eq_false (fun hn => hn (hr c hc))
  obtain ⟨ht, hd⟩ := Prod.mk.inj (Text.takeWhile_dropWhile_append (decide_ne_lineFeed hb) hstop)
  rw [split, ht, hd]

theorem isTrivia_split (cs : List Char) : IsTrivia (split cs).2 (split cs).1 := by
  fun_induction split cs with
  | case1 cs =>
    apply IsTrivia.line
    · intro h
      have := List.all_eq_true.1 List.all_takeWhile _ h
      simp at this
    · intro c hc
      simpa using Text.eq_false_of_mem_head?_dropWhile c hc
  | case2 cs taken rest h ih =>
    obtain ⟨body, rfl, hbody⟩ := exists_of_splitComment? h
    have hblock := IsTrivia.block hbody ih
    simpa using hblock
  | case3 => exact .nil
  | case4 c cs _ _ h ih => exact .blank h.1 h.2 ih
  | case5 => exact .nil
  | case6 => exact .nil

theorem split_split (cs : List Char) : split (split cs).2 = ([], (split cs).2) := by
  fun_induction split cs with
  | case1 cs =>
    apply split_of_head?
    intro c hc
    simpa using Text.eq_false_of_mem_head?_dropWhile c hc
  | case2 cs taken rest h ih => exact ih
  | case3 cs h =>
    dsimp only
    rw [split]
    split
    · next hs =>
      rw [h] at hs
      cases hs
    · rfl
  | case4 c cs _ _ h ih => exact ih
  | case5 c cs hl hb h =>
    dsimp only
    rw [split, if_neg h]
    · exact hl
    · exact hb
  | case6 => exact split_nil

theorem split_append_of_isTrivia (h : IsTrivia rest t) (hr : split rest = ([], rest)) :
    split (t ++ rest) = (t, rest) := by
  induction h with
  | nil => exact hr
  | blank hb hn _ ih =>
    rw [List.cons_append, split_blank hb hn, ih]
    rfl
  | block hb _ ih =>
    rw [List.cons_append, List.cons_append, List.append_assoc, List.cons_append, List.cons_append,
      split_block hb, ih]
    simp
  | line hb hh => exact split_line hb hh

/-- Trivia in front of a text goes on in the trivia of the text. -/
theorem split_isTrivia_append (h : IsTrivia cs t) :
    split (t ++ cs) = (t ++ (split cs).1, (split cs).2) := by
  have happend := split_append cs
  rw [← happend] at h
  have ht := h.append (isTrivia_split cs)
  have hsplit := split_append_of_isTrivia ht (split_split cs)
  rwa [List.append_assoc, happend] at hsplit

theorem ended_iff : Ended rest ↔ split rest = ([], rest) := by
  constructor
  · intro h
    have happend := split_append rest
    have ht := h _ _ happend.symm (isTrivia_split rest)
    rw [ht, List.nil_append] at happend
    exact Prod.ext ht happend
  · rintro h t rest' rfl ht
    cases ht with
    | nil => rfl
    | blank hb hn _ =>
      rw [List.cons_append, split_blank hb hn] at h
      cases h
    | block hb _ =>
      rw [List.cons_append, List.cons_append, List.append_assoc, List.cons_append, List.cons_append,
        split_block hb] at h
      cases h
    | line hb hh =>
      rw [List.cons_append, List.cons_append, split_line hb hh] at h
      cases h

/-- The trivia that a text begins with, up to where no more begins. -/
theorem split_eq_iff : split cs = (t, rest) ↔ cs = t ++ rest ∧ IsTrivia rest t ∧ Ended rest := by
  constructor
  · intro h
    have happend := split_append cs
    have ht := isTrivia_split cs
    have hr := split_split cs
    rw [h] at happend ht hr
    exact ⟨happend.symm, ht, ended_iff.2 hr⟩
  · rintro ⟨rfl, ht, hr⟩
    exact split_append_of_isTrivia ht (ended_iff.1 hr)

end EntityDiagram.Trivia
