import EntityDiagram.Proofs.Schema.Token.LineBreaks

namespace EntityDiagram

open Trivia

def mapBoth {α β ε δ : Type} (f : α → β) (g : ε → δ) : Except ε α → Except δ β
  | .ok a => .ok (f a)
  | .error e => .error (g e)

theorem mapBoth_id {α ε : Type} (x : Except ε α) : mapBoth id id x = x := by cases x <;> rfl

def LexError.unlined : LexError → LexError
  | unexpectedChar c _ => .unexpectedChar c 0
  | unterminatedText _ => .unterminatedText 0
  | unterminatedComment _ => .unterminatedComment 0

namespace Lexeme

def unlined (l : Lexeme) : Lexeme := { l with line := 0 }

/-- The lexemes of a text, without their lines. -/
def ofTextUnlined (text : String) : Except LexError (List Lexeme) :=
  mapBoth (·.map unlined) LexError.unlined (ofText text)

/-- The lexeme without its line, unless it is a line break that `afterBreak` makes redundant. -/
def kept (afterBreak : Bool) (l : Lexeme) : List Lexeme :=
  if afterBreak = true ∧ l.token = .lineBreak then [] else [l.unlined]

theorem map_mergeBreaks_cons (b : Bool) (l : Lexeme) (ls : List Lexeme) :
    (mergeBreaks b (l :: ls)).map unlined =
      kept b l ++ (mergeBreaks (l.token = .lineBreak) ls).map unlined := by
  rw [mergeBreaks, kept]
  by_cases hl : l.token = .lineBreak <;> cases b <;> simp [hl]

end Lexeme

open Lexeme

namespace Scanner

/-- The lexemes from here on, or the first error, without their lines. -/
def unlined (afterBreak : Bool) (s : Scanner) : Except LexError (List Lexeme) :=
  mapBoth (fun ls => (mergeBreaks afterBreak ls).map Lexeme.unlined) LexError.unlined
    (s.answers.mapM id)

variable {s s' : Scanner} {b : Bool} {l : Lexeme} {e : LexError} {n : Nat}
  {before cs t gap rest : List Char}

theorem ofTextUnlined_eq (text : String) : ofTextUnlined text = (ofText text).unlined true := by
  rw [ofTextUnlined, unlined, Lexeme.ofText]
  cases (ofText text).answers.mapM id <;> rfl

theorem unlined_of_error (h : s.next.1 = .error e) : s.unlined b = .error e.unlined := by
  rw [unlined, answers_eq, h, if_neg (by simp [isEnd]), List.mapM_cons]
  rfl

theorem unlined_of_next (h : s.next = (.ok l, s')) (hl : l.token ≠ .endOfText) :
    s.unlined b = mapBoth (kept b l ++ ·) id (s'.unlined (l.token = .lineBreak)) := by
  rw [unlined, answers_of_next h hl, List.mapM_cons, unlined]
  cases s'.answers.mapM id with
  | ok ls => exact congrArg Except.ok (map_mergeBreaks_cons b l ls)
  | error e => rfl

theorem unlined_of_next_end (h : s.next = (.ok l, s')) (hl : l.token = .endOfText) :
    s.unlined b = .ok [l.unlined] := by
  rw [unlined, answers_of_next_end h hl, List.mapM_cons]
  refine (congrArg Except.ok (map_mergeBreaks_cons b l [])).trans ?_
  simp [mergeBreaks, kept, hl]

def onLine (s : Scanner) (n : Nat) : Scanner := { s with line := n }

/-- The same up to lines: the answers, and the places after them. -/
def Alike (x y : Except LexError Lexeme × Scanner) : Prop :=
  mapBoth Lexeme.unlined LexError.unlined x.1 = mapBoth Lexeme.unlined LexError.unlined y.1 ∧
    ∃ n, x.2 = y.2.onLine n

theorem readToken_onLine (s : Scanner) (c : Char) (cs : List Char) (n : Nat) :
    Alike ((s.onLine n).readToken c cs) (s.readToken c cs) := by
  refine ⟨?_, _, rfl⟩
  simp only [readToken]
  cases Token.ofSpelling c (Token.splitAfter c cs).1 with
  | ok t => rfl
  | error fault => cases fault <;> rfl

theorem read_onLine (s : Scanner) (n : Nat) : Alike (s.onLine n).read s.read := by
  obtain ⟨rest, line, pending⟩ := s
  simp only [onLine, read]
  split
  · exact ⟨rfl, _, rfl⟩
  · cases pending with
    | true => exact ⟨rfl, _, rfl⟩
    | false =>
      cases rest with
      | nil => exact ⟨rfl, _, rfl⟩
      | cons c cs => exact readToken_onLine ⟨c :: cs, line, false⟩ c cs n

theorem next_onLine (s : Scanner) (n : Nat) : Alike (s.onLine n).next s.next :=
  read_onLine s.skipTrivia _

theorem error_of_alike {x : Except LexError Lexeme × Scanner} (h : Alike x (.error e, s)) :
    ∃ e', x.1 = .error e' ∧ e'.unlined = e.unlined := by
  obtain ⟨h, -⟩ := h
  cases hx : x.1 with
  | ok l =>
    rw [hx] at h
    cases h
  | error e' =>
    rw [hx] at h
    exact ⟨e', rfl, Except.error.inj h⟩

theorem ok_of_alike {x : Except LexError Lexeme × Scanner} (h : Alike x (.ok l, s)) :
    ∃ l' m, x = (.ok l', s.onLine m) ∧ l'.unlined = l.unlined := by
  obtain ⟨answer, s'⟩ := x
  obtain ⟨h, m, rfl⟩ := h
  cases answer with
  | ok l' => exact ⟨l', m, rfl, Except.ok.inj h⟩
  | error e => cases h

theorem token_of_unlined {l l' : Lexeme} (h : l'.unlined = l.unlined) : l'.token = l.token :=
  (Lexeme.mk.inj h).1

theorem unlined_onLine (s : Scanner) (n : Nat) (b : Bool) :
    (s.onLine n).unlined b = s.unlined b := by
  have halike := next_onLine s n
  induction s using answers.induct generalizing n b with
  | case1 s answer s' hs he =>
    rw [hs] at halike
    cases answer with
    | error e => cases he
    | ok l =>
      have hl : l.token = .endOfText := by simpa [isEnd] using he
      obtain ⟨l', m, hnext, hl'⟩ := ok_of_alike halike
      have hend := (token_of_unlined hl').trans hl
      rw [unlined_of_next_end hnext hend, unlined_of_next_end hs hl, hl']
  | case2 s answer s' hs he ih =>
    rw [hs] at halike
    cases answer with
    | error e =>
      obtain ⟨e', hnext, he'⟩ := error_of_alike halike
      rw [unlined_of_error hnext, unlined_of_error (congrArg Prod.fst hs), he']
    | ok l =>
      have hl : l.token ≠ .endOfText := by simpa [isEnd] using he
      obtain ⟨l', m, hnext, hl'⟩ := ok_of_alike halike
      have htoken := token_of_unlined hl'
      have hkept : kept b l' = kept b l := by rw [kept, kept, htoken, hl']
      rw [unlined_of_next hnext (htoken ▸ hl), unlined_of_next hs hl, hkept, htoken,
        ih m _ (next_onLine s' m)]

theorem skipTrivia_skipTrivia (s : Scanner) : s.skipTrivia.skipTrivia = s.skipTrivia := by
  simp [skipTrivia, pass, advance, split_split]

theorem answers_skipTrivia (s : Scanner) : s.skipTrivia.answers = s.answers := by
  rw [answers_eq, answers_eq s, next, skipTrivia_skipTrivia, ← next]

theorem unlined_skipTrivia (s : Scanner) : s.skipTrivia.unlined b = s.unlined b := by
  rw [unlined, answers_skipTrivia, ← unlined]

def behindBreak (cs : List Char) : Except LexError (List Lexeme) :=
  (⟨cs, 0, false⟩ : Scanner).unlined true

theorem kept_true_lineBreak : kept true ⟨.lineBreak, n⟩ = [] := by simp [kept]

theorem unlined_true_of_lineBreak (h : s.next = (.ok ⟨.lineBreak, n⟩, s')) :
    s.unlined true = s'.unlined true := by
  rw [unlined_of_next h (by simp), kept_true_lineBreak]
  exact mapBoth_id _

/-- Where no trivia begins the next lexeme is read. -/
theorem next_eq_read (hs : split s.rest = ([], s.rest)) : s.next = s.read := by
  simp [next, skipTrivia, pass, advance, hs]

/-- A comment that is not closed is an error, whether or not a line break is pending. -/
theorem unlined_openComment {pending : Bool}
    (hcs : split ('/' :: '*' :: cs) = ([], '/' :: '*' :: cs)) :
    (⟨'/' :: '*' :: cs, n, pending⟩ : Scanner).unlined b = .error (.unterminatedComment 0) := by
  have hnext : (⟨'/' :: '*' :: cs, n, pending⟩ : Scanner).next.1 =
      .error (.unterminatedComment n) := by
    rw [next_eq_read hcs]
    rfl
  exact unlined_of_error hnext

theorem unlined_of_pending (hcs : split cs = ([], cs)) :
    (⟨cs, n, true⟩ : Scanner).unlined b =
      mapBoth (kept b ⟨.lineBreak, 0⟩ ++ ·) id (behindBreak cs) := by
  by_cases hcomment : ∃ ds, cs = '/' :: '*' :: ds
  · obtain ⟨ds, rfl⟩ := hcomment
    rw [behindBreak, unlined_openComment hcs, unlined_openComment hcs]
    rfl
  · have hread : (⟨cs, n, true⟩ : Scanner).next = (.ok ⟨.lineBreak, n⟩, ⟨cs, n, false⟩) := by
      rw [next_eq_read hcs, read]
      split
      · next ds hds => exact (hcomment ⟨ds, hds⟩).elim
      · rfl
    rw [unlined_of_next hread (by simp)]
    exact congrArg _ (unlined_onLine ⟨cs, 0, false⟩ n true)

theorem unlined_true_split (s : Scanner) : s.unlined true = behindBreak (split s.rest).2 := by
  obtain ⟨cs, n, pending⟩ := s
  rw [← unlined_skipTrivia]
  simp only [skipTrivia, pass, advance]
  cases pending || (split cs).1.contains '\n' with
  | false => exact unlined_onLine ⟨(split cs).2, 0, false⟩ _ true
  | true =>
    rw [unlined_of_pending (split_split cs), kept_true_lineBreak]
    exact mapBoth_id _

theorem behindBreak_split (cs : List Char) : behindBreak cs = behindBreak (split cs).2 :=
  unlined_true_split _

/-- Behind a line break neither the line makes a difference nor what is pending. -/
theorem unlined_true (s : Scanner) : s.unlined true = behindBreak s.rest := by
  rw [unlined_true_split, ← behindBreak_split]

theorem behindBreak_trivia (ht : IsTrivia cs t) : behindBreak (t ++ cs) = behindBreak cs := by
  rw [behindBreak_split, split_isTrivia_append ht, ← behindBreak_split]

theorem behindBreak_lineFeed (cs : List Char) : behindBreak ('\n' :: cs) = behindBreak cs := by
  have hnext : (⟨'\n' :: cs, 0, false⟩ : Scanner).next = (.ok ⟨.lineBreak, 0⟩, ⟨cs, 1, false⟩) := by
    simp only [next, skipTrivia, split_lineBreak]
    rfl
  rw [behindBreak, unlined_true_of_lineBreak hnext]
  exact unlined_onLine ⟨cs, 0, false⟩ 1 true

/-- A gap makes no difference behind a line break. -/
theorem behindBreak_gap (h : IsGap rest gap) : behindBreak (gap ++ rest) = behindBreak rest := by
  induction h with
  | trivia ht => exact behindBreak_trivia ht
  | lineFeed ht _ ih =>
    rw [List.append_assoc, List.cons_append, behindBreak_trivia ht, behindBreak_lineFeed, ih]

theorem unlined_trivia (ht : IsTrivia cs t) (hn : '\n' ∈ t) :
    (place before (t ++ cs) false).unlined b =
      mapBoth (kept b ⟨.lineBreak, 0⟩ ++ ·) id (behindBreak cs) := by
  have hcontains : (t ++ (split cs).1).contains '\n' = true := by simp [hn]
  rw [← unlined_skipTrivia, skipTrivia_place (split_isTrivia_append ht), hcontains, place,
    unlined_of_pending (split_split cs), ← behindBreak_split]

end Scanner

end EntityDiagram
