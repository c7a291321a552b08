import Mathlib.Order.Monotone.Basic
import EntityDiagram.Proofs.Schema.Token.Unlined

namespace EntityDiagram

def LexError.line : LexError → Nat
  | unexpectedChar _ line => line
  | unterminatedText line => line
  | unterminatedComment line => line

namespace Scanner

def answerLine : Except LexError Lexeme → Nat
  | .ok l => l.line
  | .error e => e.line

/-- The place after a number of calls, whatever their answers are. -/
def after (s : Scanner) : Nat → Scanner
  | 0 => s
  | n + 1 => (s.after n).next.2

/-- The answer to a call; the first call has the number 0. -/
def answerAt (s : Scanner) (i : Nat) : Except LexError Lexeme := (s.after i).next.1

/-- All that can be read at a place that no trivia follows: the answer, and the place after it. -/
inductive Reading (s : Scanner) : Except LexError Lexeme → Scanner → Prop
  | comment {cs} (hr : s.rest = '/' :: '*' :: cs) :
      Reading s (.error (.unterminatedComment s.line)) (s.pass cs [])
  | pending (hp : s.breakPending = true) :
      Reading s (.ok ⟨.lineBreak, s.line⟩) { s with breakPending := false }
  | ending (hr : s.rest = []) (hp : s.breakPending = false) :
      Reading s (.ok ⟨.endOfText, s.line⟩) s
  | token {c cs t taken rest} (hr : s.rest = c :: cs) (ht : t ≠ .endOfText) :
      Reading s (.ok ⟨t, s.line⟩) (s.advance taken rest)
  | fault {c cs e taken rest} (hr : s.rest = c :: cs) (hl : e.line = s.line)
      (he : ∀ line, e ≠ .unterminatedComment line) :
      Reading s (.error e) (s.advance taken rest)

variable {s s' : Scanner} {answer : Except LexError Lexeme} {i j n line : Nat}

theorem readToken_reading {c : Char} {cs : List Char} (hr : s.rest = c :: cs) :
    s.Reading (s.readToken c cs).1 (s.readToken c cs).2 := by
  cases h : Token.ofSpelling c (Token.splitAfter c cs).1 with
  | ok t =>
    simp only [readToken, h]
    exact .token hr (Token.spelling_splitAfter h).ne_endOfText
  | error fault =>
    have hl : (fault.onLine s.line).line = s.line := by cases fault <;> rfl
    have he : ∀ line, fault.onLine s.line ≠ .unterminatedComment line := by
      intro line he
      cases fault <;> cases he
    simp only [readToken, h]
    exact .fault hr hl he

theorem read_reading (s : Scanner) : s.Reading s.read.1 s.read.2 := by
  unfold read
  split
  · next cs hr => exact .comment hr
  · split
    · next hp => exact .pending hp
    · next hp =>
      have hp : s.breakPending = false := by simpa using hp
      split
      · next hr => exact .ending hr hp
      · next c cs hr => exact readToken_reading hr

theorem Reading.answerLine_eq (h : s.Reading answer s') : answerLine answer = s.line := by
  cases h with
  | fault _ hl _ => exact hl
  | _ => rfl

theorem Reading.line_le (h : s.Reading answer s') : s.line ≤ s'.line := by
  cases h with
  | pending | ending => exact Nat.le_refl _
  | comment | token | fault => exact Nat.le_add_right _ _

theorem line_le_answerLine (s : Scanner) : s.line ≤ answerLine s.next.1 := by
  rw [next, (read_reading s.skipTrivia).answerLine_eq]
  exact Nat.le_add_right _ _

theorem answerLine_le_line (s : Scanner) : answerLine s.next.1 ≤ s.next.2.line := by
  have h := read_reading s.skipTrivia
  rw [next, h.answerLine_eq]
  exact h.line_le

theorem answerLine_monotone (s : Scanner) : Monotone fun i => answerLine (s.answerAt i) :=
  monotone_nat_of_le_succ fun i =>
    (answerLine_le_line (s.after i)).trans (line_le_answerLine (s.after (i + 1)))

theorem eq_of_isEnd (h : isEnd answer = true) : ∃ line, answer = .ok ⟨.endOfText, line⟩ := by
  cases answer with
  | ok l =>
    obtain ⟨t, line⟩ := l
    obtain rfl : t = .endOfText := by simpa [isEnd] using h
    exact ⟨line, rfl⟩
  | error e => cases h

theorem next_of_isEnd (h : isEnd s.next.1 = true) : s.next.2.next = s.next := by
  have hplace : s.next.2 = s.skipTrivia := by
    obtain ⟨line, hl⟩ := eq_of_isEnd h
    have hr := read_reading s.skipTrivia
    rw [← next, hl] at hr
    generalize s.next.2 = place at hr
    cases hr with
    | ending => rfl
    | token hr ht => exact (ht rfl).elim
  rw [hplace, next, skipTrivia_skipTrivia, ← next]

theorem next_after_of_isEnd (h : isEnd (s.answerAt n) = true) (k : Nat) :
    (s.after (n + k)).next = (s.after n).next := by
  induction k with
  | zero => rfl
  | succ k ih =>
    change (s.after (n + k)).next.2.next = _
    rw [ih]
    exact next_of_isEnd h

/-- The answers before the call `n` are not the end of the text, and all from there on are. -/
structure EndsAt (s : Scanner) (n : Nat) : Prop where
  before : ∀ i < n, isEnd (s.answerAt i) = false
  stays : ∃ line, ∀ i, n ≤ i → s.answerAt i = .ok ⟨.endOfText, line⟩

theorem EndsAt.le_iff (h : s.EndsAt n) : n ≤ i ↔ isEnd (s.answerAt i) = true := by
  constructor
  · intro hi
    obtain ⟨line, hl⟩ := h.stays
    rw [hl i hi]
    rfl
  · intro hi
    by_contra hlt
    rw [h.before i (Nat.lt_of_not_le hlt)] at hi
    cases hi

theorem EndsAt.lt_of_error (h : s.EndsAt n) {e : LexError} (hi : s.answerAt i = .error e) :
    i < n := by
  by_contra hle
  have he := h.le_iff.1 (Nat.le_of_not_lt hle)
  rw [hi] at he
  cases he

theorem after_next (s : Scanner) (i : Nat) : s.next.2.after i = s.after (i + 1) := by
  induction i with
  | zero => rfl
  | succ i ih => rw [after, ih, ← after]

theorem exists_first_isEnd (s : Scanner) : ∃ n ≤ s.size, isEnd (s.answerAt n) = true ∧
    ∀ i < n, isEnd (s.answerAt i) = false := by
  induction hk : s.size using Nat.strong_induction_on generalizing s with
  | _ k ih =>
    subst hk
    by_cases he : isEnd s.next.1 = true
    · exact ⟨0, Nat.zero_le _, he, fun i hi => (Nat.not_lt_zero i hi).elim⟩
    · have he : isEnd s.next.1 = false := by simpa using he
      have hlt := size_next_lt he
      obtain ⟨n, hn, hend, hbefore⟩ := ih _ hlt s.next.2 rfl
      simp only [answerAt, after_next] at hend hbefore
      refine ⟨n + 1, by omega, hend, ?_⟩
      intro i hi
      cases i with
      | zero => exact he
      | succ i => exact hbefore i (by omega)

/-- Each call takes something off what is left, up to the end of the text. -/
theorem exists_endsAt (s : Scanner) : ∃ n ≤ s.size, s.EndsAt n := by
  obtain ⟨n, hn, hend, hbefore⟩ := s.exists_first_isEnd
  obtain ⟨line, hl⟩ := eq_of_isEnd hend
  refine ⟨n, hn, hbefore, line, ?_⟩
  intro i hi
  obtain ⟨k, rfl⟩ := Nat.exists_eq_add_of_le hi
  rw [answerAt, next_after_of_isEnd hend k]
  exact hl

theorem rest_of_unterminatedComment (h : s.next.1 = .error (.unterminatedComment line)) :
    s.next.2.rest = [] := by
  have hr := read_reading s.skipTrivia
  rw [← next, h] at hr
  generalize s.next.2 = place at hr
  cases hr with
  | comment => rfl
  | fault _ _ he => exact (he line rfl).elim

theorem skipTrivia_of_rest_nil (hr : s.rest = []) : s.skipTrivia = s := by
  obtain ⟨rest, line, pending⟩ := s
  subst hr
  simp [skipTrivia, Trivia.split_nil, pass, advance]

/-- Where nothing is left, a line break may still be pending. -/
theorem next_of_pending (hr : s.rest = []) (hp : s.breakPending = true) :
    s.next = (.ok ⟨.lineBreak, s.line⟩, { s with breakPending := false }) := by
  rw [next, skipTrivia_of_rest_nil hr, read, hr]
  exact if_pos hp

theorem next_of_ended (hr : s.rest = []) (hp : s.breakPending = false) :
    s.next = (.ok ⟨.endOfText, s.line⟩, s) := by
  rw [next, skipTrivia_of_rest_nil hr, read, hr]
  exact if_neg (by simp [hp])

theorem EndsAt.of_unterminatedComment (h : s.EndsAt n)
    (hi : s.answerAt i = .error (.unterminatedComment line)) :
    n = i + 1 ∨ n = i + 2 ∧ ∃ line, s.answerAt (i + 1) = .ok ⟨.lineBreak, line⟩ := by
  have hlt : i < n := h.lt_of_error hi
  have hr : (s.after (i + 1)).rest = [] := rest_of_unterminatedComment hi
  cases hp : (s.after (i + 1)).breakPending with
  | true =>
    have hnext := next_of_pending hr hp
    have hbreak : s.answerAt (i + 1) = .ok ⟨.lineBreak, _⟩ := congrArg Prod.fst hnext
    have hplace : s.after (i + 2) = { s.after (i + 1) with breakPending := false } :=
      congrArg Prod.snd hnext
    have hend : s.answerAt (i + 2) = .ok ⟨.endOfText, (s.after (i + 1)).line⟩ := by
      rw [answerAt, hplace]
      exact congrArg Prod.fst
        (next_of_ended (s := { s.after (i + 1) with breakPending := false }) hr rfl)
    have hle : n ≤ i + 2 := h.le_iff.2 (by rw [hend]; rfl)
    have hne : ¬n ≤ i + 1 := by
      rw [h.le_iff, hbreak]
      exact Bool.false_ne_true
    exact .inr ⟨by omega, _, hbreak⟩
  | false =>
    have hend : s.answerAt (i + 1) = .ok ⟨.endOfText, _⟩ := congrArg Prod.fst (next_of_ended hr hp)
    have hle : n ≤ i + 1 := h.le_iff.2 (by rw [hend]; rfl)
    exact .inl (by omega)

/-- Behind a comment without an end there is not a second one. -/
theorem EndsAt.le_of_unterminatedComment (h : s.EndsAt n) {line' : Nat}
    (hi : s.answerAt i = .error (.unterminatedComment line))
    (hj : s.answerAt j = .error (.unterminatedComment line')) : j ≤ i := by
  have hlt : j < n := h.lt_of_error hj
  rcases h.of_unterminatedComment hi with hn | ⟨hn, _, hbreak⟩
  · omega
  · by_contra hij
    obtain rfl : j = i + 1 := by omega
    rw [hbreak] at hj
    cases hj

theorem size_ofText (text : String) : (ofText text).size = text.length := by
  rw [size, ofText, String.length_toList]
  rfl

/--
On a text of `n` characters the scanner answers at most `n` times before the text ends, and from
then on only that it has ended, on the same line. A comment without an end is found at most once,
with nothing left, and at most a line break comes between it and the end. Lines never decrease.
-/
theorem ofText_progress (text : String) :
    ∃ n ≤ text.length, (ofText text).EndsAt n ∧
      (∀ i line, (ofText text).answerAt i = .error (.unterminatedComment line) →
        ((ofText text).after (i + 1)).rest = [] ∧
        (∀ j line', (ofText text).answerAt j = .error (.unterminatedComment line') → j = i) ∧
        (n = i + 1 ∨
          n = i + 2 ∧ ∃ line', (ofText text).answerAt (i + 1) = .ok ⟨.lineBreak, line'⟩)) ∧
      ∀ i j, i ≤ j →
        answerLine ((ofText text).answerAt i) ≤ answerLine ((ofText text).answerAt j) := by
  obtain ⟨n, hn, h⟩ := (ofText text).exists_endsAt
  refine ⟨n, size_ofText text ▸ hn, h, ?_, fun i j hij => (ofText text).answerLine_monotone hij⟩
  intro i line hi
  refine ⟨rest_of_unterminatedComment hi, ?_, h.of_unterminatedComment hi⟩
  intro j line' hj
  exact Nat.le_antisymm (h.le_of_unterminatedComment hi hj) (h.le_of_unterminatedComment hj hi)

/-- A comment without an end that goes over two lines, behind a character that begins no token. -/
def openText : String := "id $ /*\n*\n/"

set_option maxRecDepth 10000 in
theorem ofText_progress_open : ∃ n ≤ openText.length, (ofText openText).EndsAt n ∧
    (ofText openText).answerAt 1 = .error (.unexpectedChar '$' 1) ∧
    (ofText openText).answerAt 2 = .error (.unterminatedComment 1) ∧
    ((ofText openText).after 3).rest = [] ∧
    (n = 3 ∨ n = 4 ∧ ∃ line, (ofText openText).answerAt 3 = .ok ⟨.lineBreak, line⟩) := by
  obtain ⟨n, hn, h, hcomment, _⟩ := ofText_progress openText
  have hone : (ofText openText).answerAt 1 = .error (.unexpectedChar '$' 1) := by decide +kernel
  have htwo : (ofText openText).answerAt 2 = .error (.unterminatedComment 1) := by decide +kernel
  obtain ⟨hrest, _, hend⟩ := hcomment 2 1 htwo
  exact ⟨n, hn, h, hone, htwo, hrest, hend⟩

end Scanner

end EntityDiagram
