import Mathlib.Data.List.Chain
import EntityDiagram.Proofs.Schema.Document.Run
import EntityDiagram.Proofs.Schema.Token.Line

namespace EntityDiagram

open Trivia

/-- Trivia and line feeds, where `rest` follows. -/
inductive Trivia.IsGap (rest : List Char) : List Char → Prop
  | trivia {t} (ht : IsTrivia rest t) : IsGap rest t
  | lineFeed {t gap} (ht : IsTrivia ('\n' :: (gap ++ rest)) t) (h : IsGap rest gap) :
      IsGap rest (t ++ '\n' :: gap)

/-- A token where a text spells it, with the gap before it. -/
structure Piece where
  gap : List Char
  spelling : List Char
  token : Token

/-- The text is the pieces, none of which is a line break, one behind the other, and then a gap. -/
inductive Pieces : List Char → List Piece → List Char → Prop
  | last {gap} (hg : IsGap [] gap) : Pieces gap [] gap
  | cons {gap sp rest token ps last} (hg : IsGap (sp ++ rest) gap) (hs : token.Spelling rest sp)
      (hb : token ≠ .lineBreak) (h : Pieces rest ps last) :
      Pieces (gap ++ (sp ++ rest)) (⟨gap, sp, token⟩ :: ps) last

namespace Pieces

def breakIn (gap : List Char) : List Token := if '\n' ∈ gap then [.lineBreak] else []

/-- The gap before the first of the pieces, or the last gap when there is none. -/
def firstGap (last : List Char) : List Piece → List Char
  | [] => last
  | p :: _ => p.gap

/-- The tokens of the pieces and of the end, with a line break for each gap with a line feed. -/
def tokens (last : List Char) : List Piece → List Token
  | [] => [.endOfText]
  | p :: ps => p.token :: (breakIn (firstGap last ps) ++ tokens last ps)

end Pieces

open Pieces

variable {before cs t rest gap sp last : List Char} {ps : List Piece} {b : Bool} {l e : Lexeme}
  {ls ms bs : List Lexeme}

theorem Trivia.IsGap.of_trivia (ht : IsTrivia (gap ++ rest) t) (h : IsGap rest gap) :
    IsGap rest (t ++ gap) := by
  cases h with
  | trivia h => exact .trivia (ht.append h)
  | lineFeed hu h =>
    rw [List.append_assoc] at ht
    rw [← List.append_assoc]
    exact .lineFeed (ht.append hu) h

theorem Pieces.of_trivia (ht : IsTrivia cs t) (h : Pieces cs ps last) :
    ∃ ps last, Pieces (t ++ cs) ps last := by
  cases h with
  | last hg =>
    rw [← List.append_nil cs] at ht
    exact ⟨_, _, .last (hg.of_trivia ht)⟩
  | cons hg hs hb h =>
    rw [← List.append_assoc]
    exact ⟨_, _, .cons (hg.of_trivia ht) hs hb h⟩

theorem Pieces.of_lineFeed (h : Pieces cs ps last) : ∃ ps last, Pieces ('\n' :: cs) ps last := by
  cases h with
  | last hg => exact ⟨_, _, .last (.lineFeed .nil hg)⟩
  | @cons gap _ _ _ _ _ hg hs hb h =>
    have hgap : IsGap _ ('\n' :: gap) := .lineFeed .nil hg
    exact ⟨_, _, .cons hgap hs hb h⟩

theorem Token.mark?_lineBreak {c : Char} (h : mark? c = some .lineBreak) : c = '\n' := by
  simp only [mark?] at h
  split at h <;> first | rfl | cases h

theorem Token.Spelling.of_lineBreak (h : Token.lineBreak.Spelling rest sp) : sp = ['\n'] := by
  cases h with
  | mark hm _ => rw [mark?_lineBreak hm]

namespace Lexeme

theorem Layout.exists_pieces (h : Layout before cs ls) : ∃ ps last, Pieces cs ps last := by
  induction h with
  | ending ht _ => exact ⟨_, _, .last (.trivia ht)⟩
  | pending ht _ _ _ ih =>
    obtain ⟨ps, last, hp⟩ := ih
    exact hp.of_trivia ht
  | @spelled _ _ _ _ token _ ht _ hs _ ih =>
    obtain ⟨ps, last, hp⟩ := ih
    by_cases hb : token = .lineBreak
    · subst hb
      obtain rfl := hs.of_lineBreak
      obtain ⟨ps, last, hp⟩ := hp.of_lineFeed
      exact hp.of_trivia ht
    · exact ⟨_, _, .cons (.trivia ht) hs hb hp⟩

/-- Trivia is laid out as one line break when it has a line feed, and else as nothing. -/
theorem Layout.of_trivia_breaks (ht : IsTrivia rest t) (hr : Ended rest)
    (h : Layout (before ++ t) rest ls) :
    ∃ bs, Layout before (t ++ rest) (bs ++ ls) ∧ (∀ l ∈ bs, l.token = .lineBreak) ∧
      (bs = [] ↔ '\n' ∉ t) := by
  by_cases hn : '\n' ∈ t
  · exact ⟨[_], .pending ht hn hr h, by simp, by simp [hn]⟩
  · exact ⟨[], .of_trivia ht hn h, List.forall_mem_nil _, by simp [hn]⟩

/-- A gap is laid out as line breaks, and there are some exactly when it has a line feed. -/
theorem Layout.of_gap (hg : IsGap rest gap) (hr : Ended rest) (h : Layout (before ++ gap) rest ls) :
    ∃ bs, Layout before (gap ++ rest) (bs ++ ls) ∧ (∀ l ∈ bs, l.token = .lineBreak) ∧
      (bs = [] ↔ '\n' ∉ gap) := by
  induction hg generalizing before with
  | trivia ht => exact Layout.of_trivia_breaks ht hr h
  | @lineFeed t gap ht _ ih =>
    have hfeed : Ended ('\n' :: (gap ++ rest)) := ended_iff.2 split_lineBreak
    rw [List.append_cons, ← List.append_assoc, ← List.append_assoc] at h
    obtain ⟨bs, hlayout, hbs, _⟩ := ih h
    obtain ⟨cs, hlayout, hcs, _⟩ :=
      Layout.of_trivia_breaks ht hfeed (.of_mark rfl (by decide) hlayout)
    refine ⟨cs ++ ⟨.lineBreak, 1 + (before ++ t).count '\n'⟩ :: bs, ?_, ?_, by simp⟩
    · rw [List.append_assoc, List.append_assoc]
      exact hlayout
    · exact List.forall_mem_append.2 ⟨hcs, List.forall_mem_cons.2 ⟨rfl, hbs⟩⟩

/-- Line breaks are merged to one, or left out behind another one. -/
theorem mergeBreaks_breaks (hbs : ∀ l ∈ bs, l.token = .lineBreak) (hl : l.token ≠ .lineBreak) :
    (mergeBreaks b (bs ++ l :: ms)).map (·.token) =
      (if b = true ∨ bs = [] then [] else [.lineBreak]) ++
        l.token :: (mergeBreaks false ms).map (·.token) := by
  induction bs generalizing b with
  | nil => simp [mergeBreaks, hl]
  | cons k bs ih =>
    obtain ⟨hk, hbs⟩ := List.forall_mem_cons.1 hbs
    rw [List.cons_append, mergeBreaks, if_pos hk]
    cases b with
    | true => simp [ih hbs]
    | false => simp [ih hbs, hk]

/-- Pieces are laid out as their tokens, with a line break for each gap with a line feed. -/
theorem exists_layout_of_pieces (h : Pieces cs ps last) (before : List Char) :
    ∃ ms, Layout before cs ms ∧ ∀ b, (mergeBreaks b ms).map (·.token) =
      (if b then [] else breakIn (firstGap last ps)) ++ tokens last ps := by
  have hbreaks {bs : List Lexeme} {gap : List Char} (h : bs = [] ↔ '\n' ∉ gap) (b : Bool) :
      (if b = true ∨ bs = [] then [] else [Token.lineBreak]) = if b then [] else breakIn gap := by
    by_cases hgap : '\n' ∈ gap <;> cases b <;> simp [h, hgap, breakIn]
  induction h generalizing before with
  | @last gap hg =>
    have hend : Layout (before ++ gap) [] [⟨.endOfText, _⟩] := .ending .nil List.not_mem_nil
    obtain ⟨bs, hlayout, hbs, hgap⟩ := Layout.of_gap hg ended_nil hend
    rw [List.append_nil] at hlayout
    refine ⟨_, hlayout, ?_⟩
    intro b
    rw [mergeBreaks_breaks hbs (by simp), hbreaks hgap]
    rfl
  | @cons gap sp _ _ _ _ hg hs hb _ ih =>
    obtain ⟨ms, hms, htokens⟩ := ih (before ++ gap ++ sp)
    obtain ⟨bs, hlayout, hbs, hgap⟩ := Layout.of_gap hg hs.ended (.of_spelling hs hms)
    refine ⟨_, hlayout, ?_⟩
    intro b
    rw [mergeBreaks_breaks hbs hb, hbreaks hgap, htokens]
    rfl

theorem Layout.exists_concat (h : Layout before cs ls) :
    ∃ ms n, ls = ms ++ [⟨.endOfText, n⟩] ∧ NoEnd ms := by
  induction h with
  | ending _ _ => exact ⟨[], _, rfl, .nil⟩
  | pending _ _ _ _ ih =>
    obtain ⟨ms, n, rfl, hms⟩ := ih
    exact ⟨_ :: ms, n, rfl, NoEnd.cons_iff.2 ⟨by simp, hms⟩⟩
  | spelled _ _ hs _ ih =>
    obtain ⟨ms, n, rfl, hms⟩ := ih
    exact ⟨_ :: ms, n, rfl, NoEnd.cons_iff.2 ⟨hs.ne_endOfText, hms⟩⟩

theorem mergeBreaks_concat (he : e.token ≠ .lineBreak) :
    mergeBreaks b (ls ++ [e]) = mergeBreaks b ls ++ [e] := by
  induction ls generalizing b with
  | nil => simp [mergeBreaks, he]
  | cons l ls ih =>
    rw [List.cons_append, mergeBreaks, mergeBreaks]
    split
    · split
      · exact ih
      · rw [ih, List.cons_append]
    · rw [ih, List.cons_append]

theorem mergeBreaks_apart (ls : List Lexeme) :
    (∀ l ∈ (mergeBreaks true ls).head?, l.token ≠ .lineBreak) ∧
    ∀ b, (mergeBreaks b ls).IsChain fun k l => ¬(k.token = .lineBreak ∧ l.token = .lineBreak) := by
  induction ls with
  | nil => exact ⟨by simp [mergeBreaks], fun b => .nil⟩
  | cons l ls ih =>
    obtain ⟨hhead, hchain⟩ := ih
    by_cases hl : l.token = .lineBreak
    · have htrue : mergeBreaks true (l :: ls) = mergeBreaks true ls := by simp [mergeBreaks, hl]
      have hfalse : mergeBreaks false (l :: ls) = l :: mergeBreaks true ls := by
        simp [mergeBreaks, hl]
      rw [htrue]
      refine ⟨hhead, ?_⟩
      intro b
      cases b with
      | true =>
        rw [htrue]
        exact hchain true
      | false =>
        rw [hfalse]
        exact (hchain true).cons fun k hk hkl => hhead k hk hkl.2
    · have hcons (b : Bool) : mergeBreaks b (l :: ls) = l :: mergeBreaks false ls := by
        rw [mergeBreaks, if_neg hl]
      simp only [hcons]
      refine ⟨by simp [hl], fun b => ?_⟩
      exact (hchain false).cons fun k _ hkl => hl hkl.1

/--
The end of the text is the last lexeme, and no other. No line break is the first, or stands behind
another. However the text is cut into the spellings of the other tokens and the gaps around them, a
line break stands behind such a token exactly when the gap behind it has a line feed.
-/
theorem ofText_lineBreaks {text : String} (h : ofText text = .ok ls) :
    (∃ ms n, ls = ms ++ [⟨.endOfText, n⟩] ∧ NoEnd ms) ∧
    (∀ l ∈ ls.head?, l.token ≠ .lineBreak) ∧
    ls.IsChain (fun k l => ¬(k.token = .lineBreak ∧ l.token = .lineBreak)) ∧
    (∃ ps last, Pieces text.toList ps last) ∧
    ∀ ps last, Pieces text.toList ps last → ls.map (·.token) = tokens last ps := by
  obtain ⟨ms, hanswers, rfl⟩ := ofText_eq_ok_iff.1 h
  have hms : Layout [] text.toList ms := Scanner.layout_of_answers hanswers
  refine ⟨?_, (mergeBreaks_apart ms).1, (mergeBreaks_apart ms).2 true, hms.exists_pieces, ?_⟩
  · obtain ⟨ks, n, rfl, hks⟩ := hms.exists_concat
    refine ⟨mergeBreaks true ks, n, mergeBreaks_concat (by simp), ?_⟩
    intro l hl
    exact hks l (mem_of_mem_mergeBreaks hl)
  · intro ps last hp
    obtain ⟨ks, hks, htokens⟩ := exists_layout_of_pieces hp []
    have he := Except.ok.inj (h.symm.trans (ofText_of_layout hks))
    rw [he, htokens]
    rfl

/-- A text with line feeds between lines, in comments of both kinds, and in a quoted text. -/
def scatteredText : String := "// x\n\na/*\n*/ /* y */\n\"\\\n\"b //z\n/*\n*/"

def scatteredLexemes : List Lexeme :=
  [⟨.word "a", 3⟩, ⟨.lineBreak, 4⟩, ⟨.text "\n", 5⟩, ⟨.word "b", 6⟩, ⟨.lineBreak, 6⟩,
    ⟨.endOfText, 8⟩]

set_option maxRecDepth 10000 in
theorem ofText_scattered : ofText scatteredText = .ok scatteredLexemes := by decide +kernel

theorem ofText_lineBreaks_scattered : ofText scatteredText = .ok scatteredLexemes ∧
    ∃ ps last, Pieces scatteredText.toList ps last ∧
      tokens last ps =
        [.word "a", .lineBreak, .text "\n", .word "b", .lineBreak, .endOfText] := by
  obtain ⟨_, _, _, ⟨ps, last, hp⟩, htokens⟩ := ofText_lineBreaks ofText_scattered
  exact ⟨ofText_scattered, ps, last, hp, (htokens ps last hp).symm⟩

end Lexeme

end EntityDiagram
