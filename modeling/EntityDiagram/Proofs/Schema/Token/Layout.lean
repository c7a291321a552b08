import EntityDiagram.Proofs.Schema.Token.Spelling
import EntityDiagram.Proofs.Schema.Trivia

namespace EntityDiagram

open Trivia

/--
The text behind `before` is made of the lexemes, with trivia around them. A line break in a comment
that no spelling stands for is a lexeme of its own, behind all of the trivia.
-/
inductive Lexeme.Layout : List Char → List Char → List Lexeme → Prop
  | ending {before t} (ht : IsTrivia [] t) (hn : '\n' ∉ t) :
      Layout before t [⟨.endOfText, 1 + (before ++ t).count '\n'⟩]
  | pending {before t rest ls} (ht : IsTrivia rest t) (hn : '\n' ∈ t) (hr : Ended rest)
      (h : Layout (before ++ t) rest ls) :
      Layout before (t ++ rest) (⟨.lineBreak, 1 + (before ++ t).count '\n'⟩ :: ls)
  | spelled {before t sp rest token ls} (ht : IsTrivia (sp ++ rest) t) (hn : '\n' ∉ t)
      (hs : token.Spelling rest sp) (h : Layout (before ++ t ++ sp) rest ls) :
      Layout before (t ++ (sp ++ rest)) (⟨token, 1 + (before ++ t).count '\n'⟩ :: ls)

theorem Trivia.ended_nil : Ended [] := ended_iff.2 split_nil

namespace Token.Spelling

variable {rest sp : List Char} {t : Token}

theorem ended (h : Spelling rest sp t) : Ended (sp ++ rest) := by
  obtain ⟨c, cs, rfl, hc, hb⟩ := h.head_spec
  rw [ended_iff, List.cons_append, Trivia.split, if_neg (fun hbn => hbn.2 (hb hbn.1))]
  · intro _ h
    exact (hc h).elim
  · intro _ h
    exact (hc h).elim

theorem ne_endOfText (h : Spelling rest sp t) : t ≠ .endOfText := by
  rintro rfl
  cases h with
  | mark hm _ =>
    simp only [mark?] at hm
    split at hm <;> cases hm

theorem ne_comment (h : Spelling rest sp t) (cs : List Char) : sp ++ rest ≠ '/' :: '*' :: cs := by
  obtain ⟨c, ds, rfl, hc, -⟩ := h.head_spec
  intro he
  exact hc (List.cons.inj he).1

end Token.Spelling

namespace Scanner

/-- The place in a text behind `before`, where `rest` is left. -/
def place (before rest : List Char) (breakPending : Bool) : Scanner :=
  ⟨rest, 1 + before.count '\n', breakPending⟩

variable {before cs t rest sp : List Char} {pending : Bool} {l : Lexeme} {ls : List Lexeme}
  {token : Token} {s s' : Scanner}

theorem skipTrivia_place (h : split cs = (t, rest)) :
    (place before cs false).skipTrivia = place (before ++ t) rest (t.contains '\n') := by
  simp only [skipTrivia, place, pass, advance, h, List.count_append, Nat.add_assoc, Bool.false_or]

theorem read_place_pending (h : ∀ cs, rest ≠ '/' :: '*' :: cs) :
    (place before rest true).read =
      (.ok ⟨.lineBreak, 1 + before.count '\n'⟩, place before rest false) := by
  rw [read, place]
  split
  · next hr => exact (h _ hr).elim
  · rfl

theorem read_place_spelled (h : token.Spelling rest sp) :
    (place before (sp ++ rest) false).read =
      (.ok ⟨token, 1 + before.count '\n'⟩, place (before ++ sp) rest false) := by
  have hc := h.ne_comment
  obtain ⟨c, cs, rfl, hs, ht⟩ := h.splitAfter_eq
  rw [read, place]
  split
  · next hr => exact (hc _ hr).elim
  · simp only [readToken, hs, ht, advance, place, List.count_append, Nat.add_assoc,
      List.cons_append]
    rfl

theorem next_place_pending (ht : IsTrivia rest t) (hn : '\n' ∈ t) (hr : Ended rest)
    (hc : ∀ cs, rest ≠ '/' :: '*' :: cs) :
    (place before (t ++ rest) false).next =
      (.ok ⟨.lineBreak, 1 + (before ++ t).count '\n'⟩, place (before ++ t) rest false) := by
  rw [next, skipTrivia_place (split_eq_iff.2 ⟨rfl, ht, hr⟩), List.contains_iff_mem.2 hn,
    read_place_pending hc]

theorem next_place_spelled (ht : IsTrivia (sp ++ rest) t) (hn : '\n' ∉ t)
    (hs : token.Spelling rest sp) :
    (place before (t ++ (sp ++ rest)) false).next =
      (.ok ⟨token, 1 + (before ++ t).count '\n'⟩, place (before ++ t ++ sp) rest false) := by
  have hcontains : t.contains '\n' = false := by simpa using hn
  rw [next, skipTrivia_place (split_eq_iff.2 ⟨rfl, ht, hs.ended⟩), hcontains,
    read_place_spelled hs]

theorem next_place_ending (ht : IsTrivia [] t) (hn : '\n' ∉ t) :
    (place before t false).next =
      (.ok ⟨.endOfText, 1 + (before ++ t).count '\n'⟩, place (before ++ t) [] false) := by
  have hsplit : split t = (t, []) := split_eq_iff.2 ⟨(List.append_nil t).symm, ht, ended_nil⟩
  have hcontains : t.contains '\n' = false := by simpa using hn
  rw [next, skipTrivia_place hsplit, hcontains]
  rfl

theorem read_place_cases (h : (place before rest pending).read = (.ok l, s)) :
    (pending = true ∧ (∀ cs, rest ≠ '/' :: '*' :: cs) ∧ l = ⟨.lineBreak, 1 + before.count '\n'⟩ ∧
      s = place before rest false) ∨
    (pending = false ∧ rest = [] ∧ l = ⟨.endOfText, 1 + before.count '\n'⟩ ∧
      s = place before [] false) ∨
    ∃ sp rest' token, pending = false ∧ rest = sp ++ rest' ∧ token.Spelling rest' sp ∧
      l = ⟨token, 1 + before.count '\n'⟩ ∧ s = place (before ++ sp) rest' false := by
  rw [read, place] at h
  split at h
  · cases h
  next hc =>
  cases pending with
  | true =>
    cases h
    exact .inl ⟨rfl, hc, rfl, rfl⟩
  | false =>
    cases rest with
    | nil =>
      cases h
      exact .inr (.inl ⟨rfl, rfl, rfl, rfl⟩)
    | cons c cs =>
      cases ht : Token.ofSpelling c (Token.splitAfter c cs).1 with
      | error x =>
        simp only [readToken, ht] at h
        cases h
      | ok token =>
        simp only [readToken, ht] at h
        cases h
        refine .inr (.inr ⟨_, _, token, rfl, ?_, Token.spelling_splitAfter ht, rfl, ?_⟩)
        · rw [List.cons_append, Token.splitAfter_append]
        · simp only [advance, place, List.count_append, Nat.add_assoc]

/-- What the next lexeme stands for: a line break in trivia, the end, or a spelling. -/
theorem next_place_cases (h : (place before cs false).next = (.ok l, s)) :
    (∃ t rest, cs = t ++ rest ∧ IsTrivia rest t ∧ '\n' ∈ t ∧ Ended rest ∧
      (∀ cs, rest ≠ '/' :: '*' :: cs) ∧ l = ⟨.lineBreak, 1 + (before ++ t).count '\n'⟩ ∧
      s = place (before ++ t) rest false) ∨
    (IsTrivia [] cs ∧ '\n' ∉ cs ∧ l = ⟨.endOfText, 1 + (before ++ cs).count '\n'⟩ ∧
      s = place (before ++ cs) [] false) ∨
    ∃ t sp rest token, cs = t ++ (sp ++ rest) ∧ IsTrivia (sp ++ rest) t ∧ '\n' ∉ t ∧
      token.Spelling rest sp ∧ l = ⟨token, 1 + (before ++ t).count '\n'⟩ ∧
      s = place (before ++ t ++ sp) rest false := by
  obtain ⟨⟨t, rest⟩, hsplit⟩ : ∃ p, split cs = p := ⟨_, rfl⟩
  obtain ⟨rfl, ht, hr⟩ := split_eq_iff.1 hsplit
  rw [next, skipTrivia_place hsplit] at h
  rcases read_place_cases h with ⟨hn, hc, hl, hs⟩ | ⟨hn, rfl, hl, hs⟩ |
    ⟨sp, rest, token, hn, rfl, hsp, hl, hs⟩
  · exact .inl ⟨t, rest, rfl, ht, by simpa using hn, hr, hc, hl, hs⟩
  · rw [List.append_nil]
    exact .inr (.inl ⟨ht, by simpa using hn, hl, hs⟩)
  · exact .inr (.inr ⟨t, sp, rest, token, rfl, ht, by simpa using hn, hsp, hl, hs⟩)

theorem answers_eq (s : Scanner) :
    s.answers = if isEnd s.next.1 = true then [s.next.1] else s.next.1 :: s.next.2.answers := by
  rw [answers]
  split
  next answer s' h =>
    rw [h]
    split <;> rfl

theorem answers_of_next (h : s.next = (.ok l, s')) (hl : l.token ≠ .endOfText) :
    s.answers = .ok l :: s'.answers := by
  rw [answers_eq, h, if_neg (by simp [isEnd, hl])]

theorem answers_of_next_end (h : s.next = (.ok l, s')) (hl : l.token = .endOfText) :
    s.answers = [.ok l] := by
  rw [answers_eq, h, if_pos (by simp [isEnd, hl])]

theorem layout_of_answers (h : (place before cs false).answers = ls.map .ok) :
    Lexeme.Layout before cs ls := by
  induction ls generalizing before cs with
  | nil =>
    rw [answers_eq] at h
    split at h <;> cases h
  | cons l ls ih =>
    obtain ⟨⟨answer, s⟩, hnext⟩ : ∃ p, (place before cs false).next = p := ⟨_, rfl⟩
    have hanswer : answer = .ok l := by
      rw [answers_eq, hnext, List.map_cons] at h
      split at h
      · exact (List.cons.inj h).1
      · exact (List.cons.inj h).1
    subst hanswer
    rcases next_place_cases hnext with ⟨t, rest, rfl, ht, hn, hr, _, rfl, rfl⟩ |
      ⟨ht, hn, rfl, rfl⟩ | ⟨t, sp, rest, token, rfl, ht, hn, hs, rfl, rfl⟩
    · rw [answers_of_next hnext (by simp)] at h
      exact .pending ht hn hr (ih (List.cons.inj h).2)
    · rw [answers_of_next_end hnext rfl] at h
      have hls := List.map_eq_nil_iff.1 (List.cons.inj h).2.symm
      subst hls
      exact .ending ht hn
    · rw [answers_of_next hnext hs.ne_endOfText] at h
      exact .spelled ht hn hs (ih (List.cons.inj h).2)

/-- A layout leaves the scanner no trivia to skip where none begins. -/
theorem ne_comment_of_layout (h : Lexeme.Layout before rest ls) (hr : Ended rest) (cs : List Char) :
    rest ≠ '/' :: '*' :: cs := by
  cases h with
  | ending ht _ =>
    rw [hr _ [] (List.append_nil _).symm ht]
    nofun
  | pending ht hn _ _ =>
    rw [hr _ _ rfl ht] at hn
    cases hn
  | spelled ht _ hs _ =>
    rw [hr _ _ rfl ht]
    exact hs.ne_comment cs

theorem answers_of_layout (h : Lexeme.Layout before cs ls) :
    (place before cs false).answers = ls.map .ok := by
  induction h with
  | ending ht hn => rw [answers_of_next_end (next_place_ending ht hn) rfl, List.map_singleton]
  | pending ht hn hr h ih =>
    rw [answers_of_next (next_place_pending ht hn hr (ne_comment_of_layout h hr)) (by simp), ih,
      List.map_cons]
  | spelled ht hn hs h ih =>
    rw [answers_of_next (next_place_spelled ht hn hs) hs.ne_endOfText, ih, List.map_cons]

/--
A scanner meets no error in a text exactly when the text is laid out as lexemes, and then its
answers are these.
-/
theorem answers_eq_iff_layout {text : String} {ls : List Lexeme} :
    (ofText text).answers = ls.map .ok ↔ Lexeme.Layout [] text.toList ls := by
  constructor
  · intro h
    exact layout_of_answers h
  · intro h
    exact answers_of_layout h

end Scanner

end EntityDiagram
