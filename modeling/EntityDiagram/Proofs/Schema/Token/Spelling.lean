import EntityDiagram.Proofs.Text.Characters
import EntityDiagram.Proofs.Text.Quoted
import EntityDiagram.Schema.Token.Scanner

namespace EntityDiagram

namespace Text

def IsWord (s : String) : Prop :=
  ∃ c cs, s.toList = c :: cs ∧ isWordStart c = true ∧ ∀ d ∈ cs, isWordRest d = true

def IsNumber (s : String) : Prop :=
  ∃ c cs, s.toList = c :: cs ∧ (c.isDigit = true ∨ c = '-' ∧ cs.head?.any Char.isDigit = true) ∧
    ∀ d ∈ cs, Token.isNumberRest d = true

theorem IsWord.isWordRest_of_mem {s : String} (h : IsWord s) :
    ∀ d ∈ s.toList, isWordRest d = true := by
  obtain ⟨c, cs, hs, hc, hcs⟩ := h
  rw [hs]
  intro d hd
  rcases List.mem_cons.1 hd with rfl | hd
  · exact isWordRest_of_isWordStart hc
  · exact hcs d hd

theorem IsWord.hyphen_notMem {s : String} (h : IsWord s) : '-' ∉ s.toList := by
  have hyphen : isWordRest '-' = false := by decide
  intro hm
  rw [h.isWordRest_of_mem _ hm] at hyphen
  cases hyphen

theorem IsWord.lineFeed_notMem {s : String} (h : IsWord s) : '\n' ∉ s.toList := by
  have hfeed : isWordRest '\n' = false := by decide
  intro hm
  rw [h.isWordRest_of_mem _ hm] at hfeed
  cases hfeed

theorem IsNumber.lineFeed_notMem {s : String} (h : IsNumber s) : '\n' ∉ s.toList := by
  obtain ⟨c, cs, hs, hc, hcs⟩ := h
  rw [hs, List.mem_cons, not_or]
  constructor
  · rintro rfl
    rcases hc with hc | ⟨hc, -⟩ <;> revert hc <;> decide
  · intro hm
    have hfeed := hcs _ hm
    revert hfeed
    decide

end Text

namespace Token

/-- The texts in the token are spelled as tokens of its kind are. -/
def Spelled : Token → Prop
  | word name => Text.IsWord name
  | number digits => Text.IsNumber digits
  | _ => True

/-- `sp` spells the token where `rest` follows: words and numbers do not go on there. -/
inductive Spelling (rest : List Char) : List Char → Token → Prop
  | word {name} (hw : Text.IsWord name) (hr : ∀ c ∈ rest.head?, Text.isWordRest c = false) :
      Spelling rest name.toList (.word name)
  | number {digits} (hn : Text.IsNumber digits) (hr : ∀ c ∈ rest.head?, isNumberRest c = false) :
      Spelling rest digits.toList (.number digits)
  | text {cs content} (h : Text.Literal cs content) :
      Spelling rest ('"' :: (cs ++ ['"'])) (.text (String.ofList content))
  | doubleAtSign : Spelling rest ['@', '@'] .doubleAtSign
  | mark {c t} (h : mark? c = some t) (hr : c = '@' → rest.head? ≠ some '@') : Spelling rest [c] t

variable {c : Char} {cs rest sp : List Char} {t : Token}

def BeginsNumber (c : Char) (cs : List Char) : Prop :=
  c.isDigit = true ∨ c = '-' ∧ cs.head?.any Char.isDigit = true

theorem BeginsNumber.ne_quote (h : BeginsNumber c cs) : c ≠ '"' := by
  rintro rfl
  rcases h with h | ⟨h, -⟩ <;> revert h <;> decide

theorem BeginsNumber.ne_atSign (h : BeginsNumber c cs) : c ≠ '@' := by
  rintro rfl
  rcases h with h | ⟨h, -⟩ <;> revert h <;> decide

theorem splitAfter_number (h : BeginsNumber c cs) :
    splitAfter c cs = (cs.takeWhile isNumberRest, cs.dropWhile isNumberRest) := by
  rw [splitAfter, if_neg h.ne_quote, if_neg (fun ha => h.ne_atSign ha.1)]
  exact if_pos h

theorem ofSpelling_number (h : BeginsNumber c cs) :
    ofSpelling c cs = .ok (.number (String.ofList (c :: cs))) := by
  have hc : c.isDigit = true ∨ c = '-' ∧ cs ≠ [] := by
    refine h.imp_right fun ⟨hc, hd⟩ => ⟨hc, ?_⟩
    rintro rfl
    cases hd
  rw [ofSpelling, if_neg h.ne_quote, if_neg (fun ha => h.ne_atSign ha.1), if_pos hc]

theorem not_beginsNumber_of_isWordStart (h : Text.isWordStart c = true) : ¬BeginsNumber c cs := by
  rintro (hd | ⟨rfl, -⟩)
  · rw [Text.isDigit_eq_false_of_isWordStart h] at hd
    cases hd
  · revert h
    decide

theorem ne_quote_of_isWordStart (h : Text.isWordStart c = true) : c ≠ '"' := by
  rintro rfl
  revert h
  decide

theorem ne_atSign_of_isWordStart (h : Text.isWordStart c = true) : c ≠ '@' := by
  rintro rfl
  revert h
  decide

theorem splitAfter_word (h : Text.isWordStart c = true) :
    splitAfter c cs = (cs.takeWhile Text.isWordRest, cs.dropWhile Text.isWordRest) := by
  rw [splitAfter, if_neg (ne_quote_of_isWordStart h),
    if_neg (fun ha => ne_atSign_of_isWordStart h ha.1)]
  exact (if_neg (not_beginsNumber_of_isWordStart h)).trans (if_pos h)

theorem ofSpelling_word (h : Text.isWordStart c = true) :
    ofSpelling c cs = .ok (.word (String.ofList (c :: cs))) := by
  have hn : ¬(c.isDigit = true ∨ c = '-' ∧ cs ≠ []) := by
    rintro (hd | ⟨rfl, -⟩)
    · rw [Text.isDigit_eq_false_of_isWordStart h] at hd
      cases hd
    · revert h
      decide
  rw [ofSpelling, if_neg (ne_quote_of_isWordStart h),
    if_neg (fun ha => ne_atSign_of_isWordStart h ha.1), if_neg hn, if_pos h]

theorem splitAfter_mark (h : mark? c = some t) (hr : c = '@' → cs.head? ≠ some '@') :
    splitAfter c cs = ([], cs) := by
  simp only [mark?] at h
  split at h <;> first | rfl | cases h
  rw [splitAfter, if_neg (by decide), if_neg (fun ha => hr rfl ha.2)]
  rfl

theorem ofSpelling_mark (h : mark? c = some t) : ofSpelling c [] = .ok t := by
  simp only [mark?] at h
  split at h <;> cases h <;> rfl

theorem BeginsNumber.takeWhile (h : BeginsNumber c cs) :
    BeginsNumber c (cs.takeWhile isNumberRest) := by
  apply h.imp_right
  rintro ⟨hc, hd⟩
  apply And.intro hc
  cases cs with
  | nil => cases hd
  | cons d ds =>
    have hd : d.isDigit = true := by simpa using hd
    simp [isNumberRest, hd]

theorem BeginsNumber.append (h : BeginsNumber c cs) : BeginsNumber c (cs ++ rest) := by
  apply h.imp_right
  rintro ⟨hc, hd⟩
  apply And.intro hc
  cases cs with
  | nil => cases hd
  | cons d ds => exact hd

theorem spelling_word (hc : Text.isWordStart c = true) (hcs : ∀ d ∈ cs, Text.isWordRest d = true)
    (hr : ∀ d ∈ rest.head?, Text.isWordRest d = false) :
    Spelling rest (c :: cs) (.word (String.ofList (c :: cs))) := by
  have h := Spelling.word ⟨c, cs, String.toList_ofList, hc, hcs⟩ hr
  rwa [String.toList_ofList] at h

theorem spelling_number (hc : BeginsNumber c cs) (hcs : ∀ d ∈ cs, isNumberRest d = true)
    (hr : ∀ d ∈ rest.head?, isNumberRest d = false) :
    Spelling rest (c :: cs) (.number (String.ofList (c :: cs))) := by
  have h := Spelling.number ⟨c, cs, String.toList_ofList, hc, hcs⟩ hr
  rwa [String.toList_ofList] at h

/-- What is cut off a text and read as a token is a spelling of it. -/
theorem spelling_splitAfter (h : ofSpelling c (splitAfter c cs).1 = .ok t) :
    Spelling (splitAfter c cs).2 (c :: (splitAfter c cs).1) t := by
  by_cases hq : c = '"'
  · subst hq
    rw [ofSpelling, if_pos rfl] at h
    split at h
    · next content hu =>
      cases h
      obtain ⟨body, hb, hl⟩ := Text.literal_of_unquote? hu
      rw [hb]
      exact .text hl
    · cases h
  by_cases ha : c = '@' ∧ cs.head? = some '@'
  · have hs : splitAfter c cs = (['@'], cs.tail) := by rw [splitAfter, if_neg hq, if_pos ha]
    rw [hs] at h ⊢
    obtain ⟨rfl, -⟩ := ha
    cases h
    exact .doubleAtSign
  by_cases hn : BeginsNumber c cs
  · rw [splitAfter_number hn] at h ⊢
    cases (ofSpelling_number hn.takeWhile).symm.trans h
    exact spelling_number hn.takeWhile (List.all_eq_true.1 List.all_takeWhile)
      Text.eq_false_of_mem_head?_dropWhile
  by_cases hw : Text.isWordStart c = true
  · rw [splitAfter_word hw] at h ⊢
    cases (ofSpelling_word hw).symm.trans h
    exact spelling_word hw (List.all_eq_true.1 List.all_takeWhile)
      Text.eq_false_of_mem_head?_dropWhile
  · have hs : splitAfter c cs = ([], cs) := by
      rw [splitAfter, if_neg hq, if_neg ha]
      exact (if_neg hn).trans (if_neg hw)
    have hd : ¬(c.isDigit = true ∨ c = '-' ∧ ([] : List Char) ≠ []) := by
      rintro (hd | ⟨-, hd⟩)
      · exact hn (.inl hd)
      · exact hd rfl
    rw [hs] at h ⊢
    rw [ofSpelling, if_neg hq, if_neg (by simp), if_neg hd, if_neg hw] at h
    split at h
    · next m hm =>
      cases h
      exact .mark hm (fun hc hr => ha ⟨hc, hr⟩)
    · cases h

/-- A spelling is cut off as it is where it stands, and read as its token. -/
theorem Spelling.splitAfter_eq (h : Spelling rest sp t) :
    ∃ c cs, sp = c :: cs ∧ splitAfter c (cs ++ rest) = (cs, rest) ∧ ofSpelling c cs = .ok t := by
  cases h with
  | @word name hw hr =>
    obtain ⟨c, cs, hs, hc, hcs⟩ := hw
    refine ⟨c, cs, hs, ?_, ?_⟩
    · rw [splitAfter_word hc, Text.takeWhile_dropWhile_append hcs hr]
    · rw [ofSpelling_word hc, ← hs, String.ofList_toList]
  | @number digits hn hr =>
    obtain ⟨c, cs, hs, hc, hcs⟩ := hn
    refine ⟨c, cs, hs, ?_, ?_⟩
    · rw [splitAfter_number (BeginsNumber.append hc), Text.takeWhile_dropWhile_append hcs hr]
    · rw [ofSpelling_number hc, ← hs, String.ofList_toList]
  | @text cs content h =>
    refine ⟨'"', cs ++ ['"'], rfl, ?_, ?_⟩
    · rw [List.append_assoc]
      exact h.splitQuoted_eq
    · rw [ofSpelling, if_pos rfl, h.unquote?_eq]
  | doubleAtSign => exact ⟨'@', ['@'], rfl, rfl, rfl⟩
  | @mark c t hm hr => exact ⟨c, [], rfl, splitAfter_mark hm hr, ofSpelling_mark hm⟩

theorem mark?_spelled (h : mark? c = some t) : t.Spelled := by
  simp only [mark?] at h
  split at h <;> cases h <;> trivial

theorem Spelling.spelled (h : Spelling rest sp t) : t.Spelled := by
  cases h with
  | word hw _ => exact hw
  | number hn _ => exact hn
  | text | doubleAtSign => trivial
  | mark hm _ => exact mark?_spelled hm

/-- No spelling begins as comments do, or with white space other than a line feed. -/
theorem Spelling.head_spec (h : Spelling rest sp t) :
    ∃ c cs, sp = c :: cs ∧ c ≠ '/' ∧ (Text.isBlank c = true → c = '\n') := by
  cases h with
  | @word name hw hr =>
    obtain ⟨c, cs, hs, hc, -⟩ := hw
    refine ⟨c, cs, hs, ?_, ?_⟩
    · rintro rfl
      revert hc
      decide
    · intro hb
      rw [Text.isBlank_eq_false_of_isWordStart hc] at hb
      cases hb
  | @number digits hn hr =>
    obtain ⟨c, cs, hs, hc, -⟩ := hn
    refine ⟨c, cs, hs, ?_, ?_⟩
    · rintro rfl
      rcases hc with hc | ⟨hc, -⟩ <;> revert hc <;> decide
    · intro hb
      rcases hc with hc | ⟨rfl, -⟩
      · rw [Text.isBlank_eq_false_of_isDigit hc] at hb
        cases hb
      · revert hb
        decide
  | text h => exact ⟨_, _, rfl, by decide, by decide⟩
  | doubleAtSign => exact ⟨_, _, rfl, by decide, by decide⟩
  | @mark c t hm hr =>
    refine ⟨c, [], rfl, ?_⟩
    simp only [mark?] at hm
    split at hm <;> cases hm <;> decide

end Token

def Scanner.AnswerSpelled (answer : Except LexError Lexeme) : Prop :=
  ∀ l, answer = .ok l → l.token.Spelled

namespace Scanner

theorem readToken_spelled (s : Scanner) (c : Char) (cs : List Char) :
    AnswerSpelled (s.readToken c cs).1 := by
  intro l h
  cases ht : Token.ofSpelling c (Token.splitAfter c cs).1 with
  | error e =>
    simp only [readToken, ht] at h
    cases h
  | ok t =>
    simp only [readToken, ht] at h
    cases h
    exact (Token.spelling_splitAfter ht).spelled

theorem read_spelled (s : Scanner) : AnswerSpelled s.read.1 := by
  intro l h
  rw [read] at h
  split at h
  · cases h
  · split at h
    · cases h
      trivial
    · split at h
      · cases h
        trivial
      · exact readToken_spelled _ _ _ l h

theorem next_spelled {s s' : Scanner} {answer : Except LexError Lexeme}
    (h : s.next = (answer, s')) : AnswerSpelled answer := by
  have hs := read_spelled s.skipTrivia
  rw [next] at h
  rwa [h] at hs

theorem answers_spelled (s : Scanner) : ∀ answer ∈ s.answers, AnswerSpelled answer := by
  fun_induction answers s with
  | case1 s answer s' hs he =>
    intro a ha
    rw [List.mem_singleton.1 ha]
    exact next_spelled hs
  | case2 s answer s' hs he ih =>
    intro a ha
    rcases List.mem_cons.1 ha with rfl | ha
    · exact next_spelled hs
    · exact ih a ha

end Scanner

namespace Lexeme

theorem mem_of_mem_mergeBreaks {l : Lexeme} {ls : List Lexeme} {b : Bool}
    (h : l ∈ mergeBreaks b ls) : l ∈ ls := by
  induction ls generalizing b with
  | nil => exact h
  | cons k ks ih =>
    rw [mergeBreaks] at h
    split at h
    · split at h
      · exact List.mem_cons_of_mem _ (ih h)
      · rcases List.mem_cons.1 h with rfl | h
        · exact List.mem_cons_self
        · exact List.mem_cons_of_mem _ (ih h)
    · rcases List.mem_cons.1 h with rfl | h
      · exact List.mem_cons_self
      · exact List.mem_cons_of_mem _ (ih h)

theorem mapM_map_ok (ls : List Lexeme) :
    (ls.map Except.ok : List (Except LexError Lexeme)).mapM id = .ok ls := by
  induction ls with
  | nil => rfl
  | cons l ls ih =>
    rw [List.map_cons, List.mapM_cons, ih]
    rfl

theorem eq_map_of_mapM {answers : List (Except LexError Lexeme)} {ls : List Lexeme}
    (h : answers.mapM id = .ok ls) : answers = ls.map .ok := by
  induction answers generalizing ls with
  | nil =>
    cases h
    rfl
  | cons a as ih =>
    rw [List.mapM_cons] at h
    cases a with
    | error e => cases h
    | ok k =>
      cases hs : as.mapM id with
      | error e =>
        rw [hs] at h
        cases h
      | ok ks =>
        rw [hs] at h
        cases h
        rw [ih hs]
        rfl

/-- The lexemes of a text are the answers of the scanner, without the line breaks left out. -/
theorem ofText_eq_ok_iff {text : String} {ls : List Lexeme} :
    ofText text = .ok ls ↔
      ∃ ms, (Scanner.ofText text).answers = ms.map .ok ∧ ls = mergeBreaks true ms := by
  rw [ofText]
  constructor
  · intro h
    cases hs : (Scanner.ofText text).answers.mapM id with
    | error e =>
      rw [hs] at h
      cases h
    | ok ms =>
      rw [hs] at h
      cases h
      exact ⟨ms, eq_map_of_mapM hs, rfl⟩
  · intro h
    obtain ⟨ms, hms, rfl⟩ := h
    rw [hms, mapM_map_ok]
    rfl

theorem ofText_spelled {text : String} {ls : List Lexeme} (h : ofText text = .ok ls) :
    ∀ l ∈ ls, l.token.Spelled := by
  obtain ⟨ks, hks, rfl⟩ := ofText_eq_ok_iff.1 h
  intro l hl
  have hm : .ok l ∈ (Scanner.ofText text).answers := by
    rw [hks]
    exact List.mem_map_of_mem (mem_of_mem_mergeBreaks hl)
  exact Scanner.answers_spelled _ _ hm l rfl

end Lexeme

end EntityDiagram
