import EntityDiagram.Text.Quoted

namespace EntityDiagram.Text

/-- What a character means behind a backslash: three letters mean others, any other means itself. -/
inductive Escaped : Char → Char → Prop
  | lineFeed : Escaped 'n' '\n'
  | tab : Escaped 't' '\t'
  | carriageReturn : Escaped 'r' '\r'
  | self {c} (hn : c ≠ 'n') (ht : c ≠ 't') (hr : c ≠ 'r') : Escaped c c

/-- What stands between the quotes of a text, and the content that it means. -/
inductive Literal : List Char → List Char → Prop
  | nil : Literal [] []
  | plain {c cs content} (hq : c ≠ '"') (hb : c ≠ '\\') (hn : c ≠ '\n') (h : Literal cs content) :
      Literal (c :: cs) (c :: content)
  | escaped {c d cs content} (he : Escaped c d) (h : Literal cs content) :
      Literal ('\\' :: c :: cs) (d :: content)

theorem escaped_unescape (c : Char) : Escaped c (unescape c) := by
  rw [unescape]
  split
  · next hn =>
    rw [hn]
    exact .lineFeed
  next hn =>
  split
  · next ht =>
    rw [ht]
    exact .tab
  next ht =>
  split
  · next hr =>
    rw [hr]
    exact .carriageReturn
  · next hr => exact .self hn ht hr

theorem Escaped.unescape_eq {c d : Char} (h : Escaped c d) : unescape c = d := by
  cases h with
  | lineFeed | tab | carriageReturn => rfl
  | self hn ht hr => rw [unescape, if_neg hn, if_neg ht, if_neg hr]

theorem literal_of_unquote? {cs content : List Char} (h : unquote? cs = some content) :
    ∃ body, cs = body ++ ['"'] ∧ Literal body content := by
  fun_induction unquote? cs generalizing content with
  | case1 => cases h
  | case2 c cs ih =>
    obtain ⟨content, hc, rfl⟩ := Option.map_eq_some_iff.1 h
    obtain ⟨body, rfl, hb⟩ := ih hc
    exact ⟨_ :: _ :: body, rfl, .escaped (escaped_unescape c) hb⟩
  | case3 =>
    cases h
    exact ⟨[], rfl, .nil⟩
  | case4 => cases h
  | case5 => cases h
  | case6 c cs _ hq hn ih =>
    obtain ⟨content, hc, rfl⟩ := Option.map_eq_some_iff.1 h
    obtain ⟨body, rfl, hb⟩ := ih hc
    exact ⟨c :: body, rfl, .plain hq (fun hc => hn (.inr hc)) (fun hc => hn (.inl hc)) hb⟩

namespace Literal

variable {c : Char} {cs content rest : List Char}

theorem unquote?_eq (h : Literal cs content) : unquote? (cs ++ ['"']) = some content := by
  induction h with
  | nil => rfl
  | plain hq hb hn _ ih =>
    rw [List.cons_append, unquote?, if_neg hq, if_neg (not_or.2 ⟨hn, hb⟩), ih, Option.map_some]
    intro _ _ hc
    exact (hb hc).elim
  | escaped he _ ih =>
    rw [List.cons_append, List.cons_append, unquote?, ih, Option.map_some, he.unescape_eq]

theorem splitQuoted_eq (h : Literal cs content) :
    splitQuoted (cs ++ '"' :: rest) = (cs ++ ['"'], rest) := by
  induction h with
  | nil => rfl
  | plain hq hb hn _ ih =>
    rw [List.cons_append, splitQuoted, if_neg (not_or.2 ⟨hq, hn⟩), ih]
    · rfl
    · intro _ _ hc
      exact (hb hc).elim
  | escaped _ _ ih =>
    rw [List.cons_append, List.cons_append, splitQuoted, ih]
    rfl

end Literal

/-- The character is written in quotes neither by its code point nor as a null. -/
def Kept (c : Char) : Prop := escape c ≠ ['\\', '0'] ∧ escape c ≠ codeEscape c

instance {c : Char} : Decidable (Kept c) := inferInstanceAs (Decidable (_ ∧ _))

/-- What is read again for a character: an unknown escape only loses its backslash. -/
def reread (c : Char) : List Char := if Kept c then [c] else (escape c).tail

namespace Literal

theorem append {as bs xs ys : List Char} (h : Literal as xs) (h' : Literal bs ys) :
    Literal (as ++ bs) (xs ++ ys) := by
  induction h with
  | nil => exact h'
  | plain hq hb hn _ ih => exact .plain hq hb hn ih
  | escaped he _ ih => exact .escaped he ih

theorem self {cs : List Char} (h : ∀ c ∈ cs, c ≠ '"' ∧ c ≠ '\\' ∧ c ≠ '\n') : Literal cs cs := by
  induction cs with
  | nil => exact .nil
  | cons c cs ih =>
    obtain ⟨⟨hq, hb, hn⟩, hcs⟩ := List.forall_mem_cons.1 h
    exact .plain hq hb hn (ih hcs)

end Literal

theorem exists_of_mem_toDigits {n : Nat} :
    ∀ c ∈ Nat.toDigits 16 n, ∃ d < 16, c = Nat.digitChar d := by
  induction n using Nat.strongRecOn with
  | ind n ih =>
    rw [Nat.toDigits_eq_if (by decide)]
    split
    · next hn =>
      intro c hc
      exact ⟨n, hn, List.mem_singleton.1 hc⟩
    · next hn =>
      intro c hc
      rcases List.mem_append.1 hc with hc | hc
      · exact ih _ (by omega) c hc
      · exact ⟨n % 16, Nat.mod_lt _ (by decide), List.mem_singleton.1 hc⟩

theorem plain_of_mem_toDigits {n : Nat} :
    ∀ c ∈ Nat.toDigits 16 n, c ≠ '"' ∧ c ≠ '\\' ∧ c ≠ '\n' := by
  have hall : ∀ d < 16,
      Nat.digitChar d ≠ '"' ∧ Nat.digitChar d ≠ '\\' ∧ Nat.digitChar d ≠ '\n' := by
    decide
  intro c hc
  obtain ⟨d, hd, rfl⟩ := exists_of_mem_toDigits c hc
  exact hall d hd

inductive EscapeForm (c : Char) : List Char → Prop
  | null (hc : c = '\x00') : EscapeForm c ['\\', '0']
  | named {n} (he : Escaped n c) (hn : n ≠ '\n') : EscapeForm c ['\\', n]
  | shown (hq : c ≠ '"') (hb : c ≠ '\\') (hn : c ≠ '\n') : EscapeForm c [c]
  | hidden : EscapeForm c (codeEscape c)

theorem escape_form (c : Char) : EscapeForm c (escape c) := by
  unfold escape
  split
  · next hc => exact .null hc
  split
  · next hc =>
    rw [hc]
    exact .named .tab (by decide)
  split
  · next hc =>
    rw [hc]
    exact .named .carriageReturn (by decide)
  split
  · next hc =>
    rw [hc]
    exact .named .lineFeed (by decide)
  next hn =>
  split
  · next hc =>
    rcases hc with rfl | rfl
    · exact .named (.self (by decide) (by decide) (by decide)) (by decide)
    · exact .named (.self (by decide) (by decide) (by decide)) (by decide)
  next hc =>
  obtain ⟨hq, hb⟩ := not_or.1 hc
  split
  · exact .shown hq hb hn
  · exact .hidden

variable {c : Char}

theorem literal_of_kept (h : Kept c) : Literal (escape c) [c] := by
  obtain ⟨h0, hcode⟩ := h
  have hform := escape_form c
  generalize escape c = e at h0 hcode hform
  cases hform with
  | null => exact (h0 rfl).elim
  | named he _ => exact .escaped he .nil
  | shown hq hb hn => exact .plain hq hb hn .nil
  | hidden => exact (hcode rfl).elim

theorem escape_of_not_kept (h : ¬Kept c) : escape c = ['\\', '0'] ∨ escape c = codeEscape c := by
  by_cases h0 : escape c = ['\\', '0']
  · exact .inl h0
  · exact .inr (Decidable.not_not.1 (fun hc => h ⟨h0, hc⟩))

theorem literal_of_not_kept (h : ¬Kept c) : Literal (escape c) (escape c).tail := by
  rcases escape_of_not_kept h with h | h
  · rw [h]
    exact .escaped (.self (by decide) (by decide) (by decide)) .nil
  · rw [h]
    apply Literal.escaped (.self (by decide) (by decide) (by decide))
    apply Literal.self
    intro d hd
    rcases List.mem_append.1 hd with hd | hd
    · rcases List.mem_cons.1 hd with rfl | hd
      · decide
      · exact plain_of_mem_toDigits d hd
    · rw [List.mem_singleton.1 hd]
      decide

theorem tail_escape_ne (h : ¬Kept c) : (escape c).tail ≠ [c] := by
  rcases escape_of_not_kept h with h | h
  · rw [h]
    intro he
    cases he
    revert h
    decide
  · rw [h]
    intro he
    have hlength := congrArg List.length he
    simp [codeEscape] at hlength

theorem literal_reread (c : Char) : Literal (escape c) (reread c) := by
  rw [reread]
  split
  · next h => exact literal_of_kept h
  · next h => exact literal_of_not_kept h

theorem reread_eq_iff : reread c = [c] ↔ Kept c := by
  rw [reread]
  split
  · next h => exact iff_of_true rfl h
  · next h => exact iff_of_false (tail_escape_ne h) h

theorem literal_flatMap (cs : List Char) : Literal (cs.flatMap escape) (cs.flatMap reread) := by
  induction cs with
  | nil => exact .nil
  | cons c cs ih =>
    rw [List.flatMap_cons, List.flatMap_cons]
    exact (literal_reread c).append ih

theorem length_reread_pos (c : Char) : 0 < (reread c).length := by
  rw [reread]
  split
  · exact Nat.one_pos
  · next h =>
    rcases escape_of_not_kept h with h | h
    · simp [h]
    · simp [h, codeEscape]

theorem length_le_flatMap_reread (cs : List Char) : cs.length ≤ (cs.flatMap reread).length := by
  induction cs with
  | nil => exact Nat.le_refl _
  | cons c cs ih =>
    have := length_reread_pos c
    rw [List.flatMap_cons, List.length_append, List.length_cons]
    omega

theorem flatMap_reread_eq_iff {cs : List Char} : cs.flatMap reread = cs ↔ ∀ c ∈ cs, Kept c := by
  induction cs with
  | nil => simp
  | cons c cs ih =>
    rw [List.flatMap_cons, List.forall_mem_cons, ← ih, ← reread_eq_iff]
    constructor
    · intro h
      -- The rest does not get shorter, so that only one character is read for the first one.
      have hlength := congrArg List.length h
      have hpos := length_reread_pos c
      have hle := length_le_flatMap_reread cs
      rw [List.length_append, List.length_cons] at hlength
      have hlength : (reread c).length = [c].length := by
        rw [List.length_singleton]
        omega
      exact List.append_inj h hlength
    · rintro ⟨hc, hcs⟩
      rw [hc, hcs]
      rfl

/-- The text that is read when the quoted text is read again. -/
def rereadText (s : String) : String := String.ofList (s.toList.flatMap reread)

/-- A text is read again as it was exactly when each of its characters is. -/
theorem rereadText_eq_iff {s : String} : rereadText s = s ↔ ∀ c ∈ s.toList, Kept c := by
  rw [← flatMap_reread_eq_iff, rereadText, ← String.toList_inj, String.toList_ofList]

theorem lineFeed_notMem_escape (c : Char) : '\n' ∉ escape c := by
  have hform := escape_form c
  generalize escape c = e at hform
  cases hform with
  | null => decide
  | named _ hn => simpa using hn.symm
  | shown _ _ hn => simpa using hn.symm
  | hidden =>
    rw [codeEscape, List.mem_append]
    rintro (h | h)
    · simp only [List.mem_cons, Char.reduceEq, false_or] at h
      exact (plain_of_mem_toDigits _ h).2.2 rfl
    · revert h
      decide

/-- A quoted text, and the content that is read for it. -/
theorem exists_literal_quoted (s : String) :
    ∃ cs, (quoted s).toList = '"' :: (cs ++ ['"']) ∧ '\n' ∉ cs ∧
      Literal cs (s.toList.flatMap reread) := by
  refine ⟨s.toList.flatMap escape, String.toList_ofList, ?_, literal_flatMap s.toList⟩
  intro h
  obtain ⟨c, _, hc⟩ := List.mem_flatMap.1 h
  exact lineFeed_notMem_escape c hc

end EntityDiagram.Text
