import EntityDiagram.Proofs.Schema.Token.Unlined

namespace EntityDiagram

open Trivia

/-- White space, also line feeds, and closed comments: those of a line by the line feed. -/
inductive Trivia.IsFiller : List Char → Prop
  | nil : IsFiller []
  | blank {c t} (hb : Text.isBlank c = true) (h : IsFiller t) : IsFiller (c :: t)
  | block {body t} (hb : IsBody body) (h : IsFiller t) :
      IsFiller ('/' :: '*' :: (body ++ '*' :: '/' :: t))
  | line {body t} (hb : '\n' ∉ body) (h : IsFiller t) :
      IsFiller ('/' :: '/' :: (body ++ '\n' :: t))

namespace Scanner

/-- From the first place to the second the scanner answers with the lexemes, call by call. -/
inductive Calls : Scanner → List Lexeme → Scanner → Prop
  | nil {s : Scanner} : Calls s [] s
  | cons {s s' s'' : Scanner} {l ls} (hs : s.next = (.ok l, s')) (h : Calls s' ls s'') :
      Calls s (l :: ls) s''

/-- The text `q` behind `before` is what the lexemes take off it, and `r` is left. -/
inductive Takes (r : List Char) : List Char → List Char → List Lexeme → Prop
  | nil {before} : Takes r before [] []
  | pending {before t q ls} (ht : IsTrivia (q ++ r) t) (hn : '\n' ∈ t) (hr : Ended (q ++ r))
      (hc : ∀ cs, q ++ r ≠ '/' :: '*' :: cs) (h : Takes r (before ++ t) q ls) :
      Takes r before (t ++ q) (⟨.lineBreak, 1 + (before ++ t).count '\n'⟩ :: ls)
  | spelled {before t sp q token ls} (ht : IsTrivia (sp ++ (q ++ r)) t) (hn : '\n' ∉ t)
      (hs : token.Spelling (q ++ r) sp) (h : Takes r (before ++ t ++ sp) q ls) :
      Takes r before (t ++ (sp ++ q)) (⟨token, 1 + (before ++ t).count '\n'⟩ :: ls)
  | ending {before t ls} (hr : r = []) (ht : IsTrivia [] t) (hn : '\n' ∉ t)
      (h : ∀ l ∈ ls, l.token = .endOfText) :
      Takes r before t (⟨.endOfText, 1 + (before ++ t).count '\n'⟩ :: ls)

end Scanner

variable {before c cs q r rest rest' sp t : List Char} {b : Bool} {l : Lexeme} {ls : List Lexeme}
  {token : Token} {s s' : Scanner}

namespace Trivia

theorem IsFiller.isGap (h : IsFiller c) (rest : List Char) : IsGap rest c := by
  induction h with
  | nil => exact .trivia .nil
  | @blank d t hb _ ih =>
    by_cases hn : d = '\n'
    · subst hn
      exact .lineFeed .nil ih
    · have ht : IsTrivia (t ++ rest) [d] := .blank hb hn .nil
      exact .of_trivia ht ih
  | @block body t hb _ ih =>
    have ht : IsTrivia (t ++ rest) ('/' :: '*' :: (body ++ ['*', '/'])) := .block hb .nil
    simpa using ih.of_trivia ht
  | @line body t hb _ ih =>
    have ht : IsTrivia ('\n' :: (t ++ rest)) ('/' :: '/' :: body) := .line hb (by simp)
    exact .lineFeed ht ih

theorem IsGap.isTrivia (h : IsGap rest c) (hn : '\n' ∉ c) : IsTrivia rest c := by
  cases h with
  | trivia ht => exact ht
  | lineFeed => simp at hn

theorem IsFiller.stops (h : IsFiller c) : Stops c ∧ c.head? ≠ some '@' := by
  cases h with
  | nil => exact ⟨by simp [Stops], by simp⟩
  | @blank d t hb _ =>
    have hw := Text.isWordRest_eq_false_of_isBlank hb
    have hd : d.isDigit = false := by
      by_contra hd
      rw [Text.isWordRest_of_isDigit (by simpa using hd)] at hw
      cases hw
    have hdot : d ≠ '.' := by
      rintro rfl
      revert hb
      decide
    have hat : d ≠ '@' := by
      rintro rfl
      revert hb
      decide
    exact ⟨stops_cons ⟨hw, by simp [Token.isNumberRest, hd, hdot]⟩, by simpa using hat⟩
  | block _ _ => exact ⟨stops_cons (by decide), by simp⟩
  | line _ _ => exact ⟨stops_cons (by decide), by simp⟩

/-- On one line, trivia goes on in more of it, within the comment that it may end in. -/
theorem IsTrivia.append_line (h : IsTrivia r t) (hc : IsTrivia r c) (hn : '\n' ∉ c) :
    IsTrivia r (t ++ c) := by
  rcases h.closed_or_line with h | ⟨u, body, rfl, hu, hbody, hr⟩
  · exact (h _).append hc
  · have hline : IsTrivia r ('/' :: '/' :: (body ++ c)) := .line (by simp [hbody, hn]) hr
    simpa using (hu _).append hline

end Trivia

/-- Of what follows a spelling takes notice only of how it begins. -/
theorem Token.Spelling.of_head? (h : token.Spelling rest sp)
    (hr : rest'.head? = rest.head? ∨ Stops rest' ∧ rest'.head? ≠ some '@') :
    token.Spelling rest' sp := by
  rcases hr with hr | ⟨hr, hat⟩
  · cases h with
    | word hw h => exact .word hw (hr ▸ h)
    | number hn h => exact .number hn (hr ▸ h)
    | text h => exact .text h
    | doubleAtSign => exact .doubleAtSign
    | mark hm h => exact .mark hm (hr ▸ h)
  · cases h with
    | word hw _ => exact .word hw (fun d hd => (hr d hd).1)
    | number hn _ => exact .number hn (fun d hd => (hr d hd).2)
    | text h => exact .text h
    | doubleAtSign => exact .doubleAtSign
    | mark hm _ => exact .mark hm (fun _ => hat)

theorem Token.Spelling.insert (h : token.Spelling (q ++ r) sp) (hc : IsFiller c) :
    token.Spelling (q ++ (c ++ r)) sp := by
  cases q with
  | cons d q => exact h.of_head? (.inl rfl)
  | nil =>
    cases c with
    | nil => exact h
    | cons d c => exact h.of_head? (.inr hc.stops)

theorem Token.Spelling.ne_nil (h : token.Spelling rest sp) : sp ≠ [] := by
  obtain ⟨d, ds, rfl, -, -⟩ := h.head_spec
  exact List.cons_ne_nil d ds

/-- Trivia does not change its kind when something is put in behind the text that follows it. -/
theorem Trivia.IsTrivia.insert (h : IsTrivia (q ++ r) t) (hq : q ≠ []) :
    IsTrivia (q ++ (c ++ r)) t := by
  obtain ⟨d, q, rfl⟩ := List.exists_cons_of_ne_nil hq
  exact h.imp id

namespace Scanner

theorem calls_nil_iff : Calls s [] s' ↔ s = s' := by
  constructor
  · intro h
    cases h
    rfl
  · rintro rfl
    exact .nil

theorem calls_cons_iff : Calls s (l :: ls) s' ↔ s.next.1 = .ok l ∧ Calls s.next.2 ls s' := by
  constructor
  · intro h
    cases h with
    | cons hs h =>
      rw [hs]
      exact ⟨rfl, h⟩
  · rintro ⟨hl, h⟩
    exact .cons (Prod.ext hl rfl) h

instance Calls.decidable : (s : Scanner) → (ls : List Lexeme) → (s' : Scanner) →
    Decidable (Calls s ls s')
  | _, [], _ => decidable_of_iff _ calls_nil_iff.symm
  | s, _ :: ls, s' =>
    have := Calls.decidable s.next.2 ls s'
    decidable_of_iff _ calls_cons_iff.symm

theorem Calls.of_end (h : Calls s ls s') (hs : s = place before [] false) :
    s'.rest = [] ∧ ∀ l ∈ ls, l.token = .endOfText := by
  induction h generalizing before with
  | nil => exact ⟨hs ▸ rfl, List.forall_mem_nil _⟩
  | cons hnext _ ih =>
    rw [hs] at hnext
    have hend : (place before [] false).next = _ := next_place_ending .nil List.not_mem_nil
    cases hend.symm.trans hnext
    obtain ⟨hrest, htokens⟩ := ih rfl
    exact ⟨hrest, List.forall_mem_cons.2 ⟨rfl, htokens⟩⟩

theorem takes_of_calls (h : Calls s ls s') (hs : s = place before cs false) :
    ∃ q, cs = q ++ s'.rest ∧ Takes s'.rest before q ls := by
  induction h generalizing before cs with
  | nil =>
    subst hs
    exact ⟨[], rfl, .nil⟩
  | cons hnext h ih =>
    rw [hs] at hnext
    rcases next_place_cases hnext with ⟨t, rest, rfl, ht, hn, hr, hc, rfl, rfl⟩ |
      ⟨ht, hn, rfl, rfl⟩ | ⟨t, sp, rest, token, rfl, ht, hn, hsp, rfl, rfl⟩
    · obtain ⟨q, rfl, hq⟩ := ih rfl
      exact ⟨t ++ q, (List.append_assoc _ _ _).symm, .pending ht hn hr hc hq⟩
    · obtain ⟨hrest, htokens⟩ := h.of_end rfl
      exact ⟨cs, by rw [hrest, List.append_nil], .ending hrest ht hn htokens⟩
    · obtain ⟨q, rfl, hq⟩ := ih rfl
      exact ⟨t ++ (sp ++ q), by simp, .spelled ht hn hsp hq⟩

/-- Behind trivia that has ended, the text that is taken begins with a spelling. -/
theorem Takes.exists_spelling (h : Takes r before q ls) (hr : Ended (q ++ r)) (hq : q ≠ []) :
    ∃ (sp q' : List Char) (token : Token), q = sp ++ q' ∧ token.Spelling (q' ++ r) sp := by
  cases h with
  | nil => exact (hq rfl).elim
  | pending ht hn _ _ _ =>
    rw [List.append_assoc] at hr
    rw [hr _ _ rfl ht] at hn
    cases hn
  | @spelled _ t sp q token _ ht _ hs _ =>
    rw [List.append_assoc, List.append_assoc] at hr
    rw [hr _ _ rfl ht]
    exact ⟨sp, q, token, rfl, hs⟩
  | ending hnil ht _ _ =>
    rw [hnil] at hr
    exact (hq (hr _ _ rfl ht)).elim

/-- A filler behind a spelling leaves the lexeme as it is. -/
theorem next_insert_spelled (ht : IsTrivia (sp ++ (q ++ r)) t) (hn : '\n' ∉ t)
    (hs : token.Spelling (q ++ r) sp) (hc : IsFiller c) :
    (place before (t ++ (sp ++ (q ++ (c ++ r)))) false).next =
      (.ok ⟨token, 1 + (before ++ t).count '\n'⟩,
        place (before ++ t ++ sp) (q ++ (c ++ r)) false) := by
  have htc : IsTrivia (sp ++ (q ++ (c ++ r))) t := by
    rw [← List.append_assoc] at ht ⊢
    exact ht.insert (by simp [hs.ne_nil])
  exact next_place_spelled htc hn (hs.insert hc)

/-- A filler behind what is taken next leaves a line break in trivia as it is. -/
theorem next_insert_pending (ht : IsTrivia (q ++ r) t) (hn : '\n' ∈ t) (hr : Ended (q ++ r))
    (h : Takes r (before ++ t) q ls) (hq : q ≠ []) (hc : IsFiller c) :
    (place before (t ++ (q ++ (c ++ r))) false).next =
      (.ok ⟨.lineBreak, 1 + (before ++ t).count '\n'⟩,
        place (before ++ t) (q ++ (c ++ r)) false) := by
  obtain ⟨sp, q', token, rfl, hs⟩ := h.exists_spelling hr hq
  have hsc := hs.insert hc
  have htext : sp ++ q' ++ (c ++ r) = sp ++ (q' ++ (c ++ r)) := List.append_assoc _ _ _
  exact next_place_pending (ht.insert hq) hn (htext ▸ hsc.ended) (htext ▸ hsc.ne_comment)

theorem answers_of_skipTrivia (h : s.skipTrivia = s'.skipTrivia) : s.answers = s'.answers := by
  rw [← answers_skipTrivia, h, answers_skipTrivia]

theorem answers_insert_trivia (ht : IsTrivia r t) (hc : IsTrivia r c) (hn : '\n' ∉ c) :
    (place before (t ++ (c ++ r)) false).answers = (place before (t ++ r) false).answers := by
  apply answers_of_skipTrivia
  rw [skipTrivia_place (split_isTrivia_append ht), ← List.append_assoc,
    skipTrivia_place (split_isTrivia_append (ht.append_line hc hn))]
  simp [place, List.count_eq_zero.2 hn, hn]

/-- A filler without line feeds makes no difference between lexemes. -/
theorem answers_insert (h : Takes r before q ls) (hc : IsFiller c) (hn : '\n' ∉ c) :
    (place before (q ++ (c ++ r)) false).answers = (place before (q ++ r) false).answers := by
  have hct : IsTrivia r c := (hc.isGap r).isTrivia hn
  induction h with
  | nil => exact answers_insert_trivia .nil hct hn
  | @pending before t q ls ht hnt hr hcomment h ih =>
    by_cases hq : q = []
    · subst hq
      rw [List.append_nil]
      exact answers_insert_trivia ht hct hn
    · simp only [List.append_assoc]
      rw [answers_of_next (next_place_pending ht hnt hr hcomment) (by simp),
        answers_of_next (next_insert_pending ht hnt hr h hq hc) (by simp), ih]
  | spelled ht hnt hs h ih =>
    simp only [List.append_assoc]
    rw [answers_of_next (next_place_spelled ht hnt hs) hs.ne_endOfText,
      answers_of_next (next_insert_spelled ht hnt hs hc) hs.ne_endOfText, ih]
  | ending hr ht _ _ =>
    subst hr
    exact answers_insert_trivia ht hct hn

def behindLineFeed (cs : List Char) : List Char := (cs.dropWhile (· ≠ '\n')).tail

theorem behindLineFeed_append (hn : '\n' ∉ t) : behindLineFeed (t ++ '\n' :: cs) = cs := by
  rw [behindLineFeed, List.dropWhile_append_of_pos (decide_ne_lineFeed hn)]
  rfl

/-- Calls come to trivia in front of a comment that began with `//` and goes on up to `r`. -/
def EndsInComment (s : Scanner) (r : List Char) : Prop :=
  ∃ ls s' t body, Calls s ls s' ∧ s'.rest = t ++ '/' :: '/' :: (body ++ r) ∧
    (∀ rest, IsTrivia rest t) ∧ '\n' ∉ body

theorem EndsInComment.of_next (hs : s.next = (.ok l, s')) (h : EndsInComment s' r) :
    EndsInComment s r := by
  obtain ⟨ls, s'', t, body, hcalls, h⟩ := h
  exact ⟨l :: ls, s'', t, body, .cons hs hcalls, h⟩

/-- The last of the lexemes is a line break; without any, `b` decides. -/
def endsBroken : Bool → List Lexeme → Bool
  | b, [] => b
  | _, l :: ls => endsBroken (l.token = .lineBreak) ls

theorem endsBroken_eq (b : Bool) (ls : List Lexeme) :
    endsBroken b ls = ls.getLast?.elim b (·.token = .lineBreak) := by
  induction ls generalizing b with
  | nil => rfl
  | cons l ls ih =>
    rw [endsBroken, ih, List.getLast?_cons]
    cases ls.getLast? <;> rfl

theorem not_endsBroken_of_end (hl : l.token = .endOfText) (h : ∀ l ∈ ls, l.token = .endOfText) :
    endsBroken b (l :: ls) = false := by
  induction ls generalizing b l with
  | nil => simp [endsBroken, hl]
  | cons k ks ih =>
    obtain ⟨hk, hks⟩ := List.forall_mem_cons.1 h
    rw [endsBroken]
    exact ih hk hks

theorem unlined_insert_trivia (ht : IsTrivia r t) (hn : '\n' ∈ t) (hc : IsFiller c)
    (hseam : EndsInComment (place before (t ++ r) false) r → IsGap r (behindLineFeed c)) :
    (place before (t ++ (c ++ r)) false).unlined b = (place before (t ++ r) false).unlined b := by
  rcases ht.closed_or_line with hclosed | ⟨u, body, rfl, hu, hbody, hr⟩
  · rw [unlined_trivia ht hn, unlined_trivia (hclosed _) hn, behindBreak_gap (hc.isGap r)]
  by_cases hfeed : '\n' ∈ c
  · -- The comment that `t` ends in goes on to the first line feed of the filler.
    obtain ⟨c₀, c₁, rfl, hc₀⟩ := List.eq_append_cons_of_mem hfeed
    have hgap := hseam ⟨[], _, u, body, .nil, by simp [place], hu, hbody⟩
    rw [behindLineFeed_append hc₀] at hgap
    have hline : IsTrivia ('\n' :: (c₁ ++ r)) (u ++ '/' :: '/' :: (body ++ c₀)) :=
      (hu _).append (.line (by simp [hbody, hc₀]) (by simp))
    have hnline : '\n' ∈ u ++ '/' :: '/' :: (body ++ c₀) := by
      have hnu : '\n' ∈ u := by simpa [hbody] using hn
      simp [hnu]
    have htext : u ++ '/' :: '/' :: body ++ (c₀ ++ '\n' :: c₁ ++ r) =
        (u ++ '/' :: '/' :: (body ++ c₀)) ++ '\n' :: (c₁ ++ r) := by simp
    rw [htext, unlined_trivia ht hn, unlined_trivia hline hnline, behindBreak_lineFeed,
      behindBreak_gap hgap]
  · rw [unlined, answers_insert_trivia ht ((hc.isGap r).isTrivia hfeed) hfeed, ← unlined]

theorem Takes.ne_nil (h : Takes r before q ls) (hls : ls ≠ []) (hb : endsBroken b ls = true) :
    q ≠ [] := by
  cases h with
  | nil => exact (hls rfl).elim
  | pending _ hn _ _ _ => exact List.append_ne_nil_of_left_ne_nil (List.ne_nil_of_mem hn) _
  | spelled _ _ hs _ => simp [hs.ne_nil]
  | ending _ _ _ hend =>
    rw [not_endsBroken_of_end rfl hend] at hb
    cases hb

/-- Behind a line break, or where none would be kept, a filler makes a difference to lines only. -/
theorem unlined_insert (h : Takes r before q ls) (hc : IsFiller c) (hb : endsBroken b ls = true)
    (hseam : EndsInComment (place before (q ++ r) false) r → IsGap r (behindLineFeed c)) :
    (place before (q ++ (c ++ r)) false).unlined b = (place before (q ++ r) false).unlined b := by
  induction h generalizing b with
  | nil =>
    cases hb
    rw [unlined_true, unlined_true]
    exact behindBreak_gap (hc.isGap r)
  | @pending before t q ls ht hnt hr hcomment h ih =>
    by_cases hls : ls = []
    · subst hls
      cases h
      rw [List.append_nil] at hseam ⊢
      exact unlined_insert_trivia ht hnt hc hseam
    · have hnext : (place before _ false).next = _ := next_place_pending ht hnt hr hcomment
      have hq := h.ne_nil hls hb
      simp only [List.append_assoc] at hseam ⊢
      rw [unlined_of_next hnext (by simp),
        unlined_of_next (next_insert_pending ht hnt hr h hq hc) (by simp),
        ih hb (fun hend => hseam (hend.of_next hnext))]
  | @spelled before t sp q token ls ht hnt hs h ih =>
    have hnext : (place before _ false).next = _ := next_place_spelled ht hnt hs
    simp only [List.append_assoc] at hseam ⊢
    rw [unlined_of_next hnext hs.ne_endOfText,
      unlined_of_next (next_insert_spelled ht hnt hs hc) hs.ne_endOfText,
      ih hb (fun hend => hseam (hend.of_next hnext))]
  | ending _ _ _ hend =>
    rw [not_endsBroken_of_end rfl hend] at hb
    cases hb

end Scanner

end EntityDiagram
