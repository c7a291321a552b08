import EntityDiagram.Proofs.Schema.Token.Layout

namespace EntityDiagram

open Trivia

namespace Lexeme

def onLine (line : Nat) (ts : List Token) : List Lexeme := ts.map (⟨·, line⟩)

variable {n : Nat} {t : Token} {ts us : List Token}

@[simp] theorem onLine_nil : onLine n [] = [] := rfl

@[simp] theorem onLine_cons : onLine n (t :: ts) = ⟨t, n⟩ :: onLine n ts := rfl

@[simp] theorem onLine_append : onLine n (ts ++ us) = onLine n ts ++ onLine n us :=
  List.map_append

theorem token_mem_of_mem_onLine {l : Lexeme} (h : l ∈ onLine n ts) : l.token ∈ ts := by
  obtain ⟨t, ht, rfl⟩ := List.mem_map.1 h
  exact ht

namespace Layout

variable {before rest sp : List Char} {c : Char} {token : Token} {ls : List Lexeme}

theorem of_spelling (hs : token.Spelling rest sp) (h : Layout (before ++ sp) rest ls) :
    Layout before (sp ++ rest) (⟨token, 1 + before.count '\n'⟩ :: ls) := by
  have htext : Layout (before ++ [] ++ sp) rest ls := by rwa [List.append_nil]
  have hlayout := Layout.spelled .nil List.not_mem_nil hs htext
  rwa [List.append_nil] at hlayout

theorem of_mark (hm : Token.mark? c = some token) (ha : c ≠ '@')
    (h : Layout (before ++ [c]) rest ls) :
    Layout before (c :: rest) (⟨token, 1 + before.count '\n'⟩ :: ls) :=
  of_spelling (.mark hm (fun hc => (ha hc).elim)) h

theorem of_trivia {t : List Char} (ht : IsTrivia rest t) (hn : '\n' ∉ t)
    (h : Layout (before ++ t) rest ls) : Layout before (t ++ rest) ls := by
  cases h with
  | ending hu hnu =>
    rw [List.append_assoc]
    rw [← List.append_nil rest] at ht
    exact .ending (ht.append hu) (by simp [hn, hnu])
  | @pending _ u _ _ hu hnu hr h =>
    rw [List.append_assoc] at h ⊢
    rw [← List.append_assoc t]
    exact .pending (ht.append hu) (List.mem_append_right t hnu) hr h
  | @spelled _ u _ _ _ _ hu hnu hs h =>
    rw [List.append_assoc before] at h ⊢
    rw [← List.append_assoc t]
    exact .spelled (ht.append hu) (by simp [hn, hnu]) hs h

theorem of_blank (hb : Text.isBlank c = true) (hn : c ≠ '\n') (h : Layout (before ++ [c]) rest ls) :
    Layout before (c :: rest) ls :=
  of_trivia (.blank hb hn .nil) (by simpa using hn.symm) h

end Layout

end Lexeme

open Lexeme

/-- The characters are laid out as the tokens, on one line, wherever something with `P` follows. -/
structure Inline (P : List Char → Prop) (cs : List Char) (ts : List Token) : Prop where
  lineFeed_notMem : '\n' ∉ cs
  lineBreak_notMem : .lineBreak ∉ ts
  endOfText_notMem : .endOfText ∉ ts
  layout {before rest ls} : P rest → Layout (before ++ cs) rest ls →
    Layout before (cs ++ rest) (onLine (1 + before.count '\n') ts ++ ls)

/-- Neither a word nor a number goes on. -/
def Stops (rest : List Char) : Prop :=
  ∀ c ∈ rest.head?, Text.isWordRest c = false ∧ Token.isNumberRest c = false

theorem stops_cons {c : Char} {cs : List Char}
    (h : Text.isWordRest c = false ∧ Token.isNumberRest c = false) : Stops (c :: cs) := by
  intro d hd
  cases hd
  exact h

def Anything (_ : List Char) : Prop := True

def WordStops (rest : List Char) : Prop := ∀ c ∈ rest.head?, Text.isWordRest c = false

theorem wordStops_cons {c : Char} {cs : List Char} (h : Text.isWordRest c = false) :
    WordStops (c :: cs) := by
  intro d hd
  cases hd
  exact h

theorem wordStops_of_stops {rest : List Char} (h : Stops rest) : WordStops rest :=
  fun c hc => (h c hc).1

namespace Inline

variable {P Q : List Char → Prop} {cs ds : List Char} {ts us : List Token} {c : Char} {t : Token}

theorem append (h : Inline P cs ts) (h' : Inline Q ds us) (hP : ∀ rest, Q rest → P (ds ++ rest)) :
    Inline Q (cs ++ ds) (ts ++ us) where
  lineFeed_notMem := by simp [h.lineFeed_notMem, h'.lineFeed_notMem]
  lineBreak_notMem := by simp [h.lineBreak_notMem, h'.lineBreak_notMem]
  endOfText_notMem := by simp [h.endOfText_notMem, h'.endOfText_notMem]
  layout {before rest ls} hq hlayout := by
    rw [← List.append_assoc] at hlayout
    have hds := h'.layout hq hlayout
    rw [List.count_append, List.count_eq_zero.2 h.lineFeed_notMem] at hds
    rw [onLine_append, List.append_assoc, List.append_assoc]
    exact h.layout (hP rest hq) hds

theorem of_spelling (hcs : '\n' ∉ cs) (hb : t ≠ .lineBreak) (he : t ≠ .endOfText)
    (h : ∀ rest, P rest → t.Spelling rest cs) : Inline P cs [t] where
  lineFeed_notMem := hcs
  lineBreak_notMem := by simpa using hb.symm
  endOfText_notMem := by simpa using he.symm
  layout hp hlayout := .of_spelling (h _ hp) hlayout

theorem word {name : String} (h : Text.IsWord name) : Inline WordStops name.toList [.word name] :=
  of_spelling h.lineFeed_notMem nofun nofun (fun _ hr => .word h hr)

theorem number {digits : String} (h : Text.IsNumber digits) :
    Inline Stops digits.toList [.number digits] :=
  of_spelling h.lineFeed_notMem nofun nofun (fun _ hr => .number h (fun c hc => (hr c hc).2))

theorem text (content : String) :
    Inline Anything (Text.quoted content).toList
      [.text (Text.rereadText content)] := by
  obtain ⟨cs, hcs, hn, hl⟩ := Text.exists_literal_quoted content
  rw [hcs]
  exact of_spelling (by simp [hn]) nofun nofun (fun _ _ => .text hl)

theorem doubleAtSign : Inline Anything ['@', '@'] [.doubleAtSign] :=
  of_spelling (by decide) nofun nofun (fun _ _ => .doubleAtSign)

theorem atSign : Inline (fun rest => rest.head? ≠ some '@') ['@'] [.atSign] :=
  of_spelling (by decide) nofun nofun (fun _ hr => .mark rfl (fun _ => hr))

theorem mark (h : Token.mark? c = some t) (hb : t ≠ .lineBreak) (ha : t ≠ .atSign) :
    Inline Anything [c] [t] := by
  have hc : c ≠ '\n' ∧ c ≠ '@' ∧ t ≠ .endOfText := by
    simp only [Token.mark?] at h
    split at h <;> cases h <;> first | contradiction | decide
  exact of_spelling (by simpa using hc.1.symm) hb hc.2.2
    (fun _ _ => .mark h (fun hat => (hc.2.1 hat).elim))

theorem nil : Inline P [] [] where
  lineFeed_notMem := nofun
  lineBreak_notMem := nofun
  endOfText_notMem := nofun
  layout _ hlayout := by simpa using hlayout

theorem space : Inline Anything [' '] [] where
  lineFeed_notMem := by decide
  lineBreak_notMem := nofun
  endOfText_notMem := nofun
  layout _ hlayout := .of_blank (by decide) (by decide) hlayout

theorem mono (h : Inline P cs ts) (hP : ∀ rest, Q rest → P rest) : Inline Q cs ts :=
  { h with layout := fun hq => h.layout (hP _ hq) }

end Inline

namespace Lexeme

variable {ls ms : List Lexeme} {b : Bool}

theorem ofText_of_layout {text : String} (h : Layout [] text.toList ls) :
    ofText text = .ok (mergeBreaks true ls) :=
  ofText_eq_ok_iff.2 ⟨ls, Scanner.answers_of_layout h, rfl⟩

theorem mergeBreaks_append (h : ∀ l ∈ ls, l.token ≠ .lineBreak) :
    mergeBreaks b (ls ++ ms) = ls ++ mergeBreaks (b && ls.isEmpty) ms := by
  induction ls generalizing b with
  | nil => simp
  | cons l ls ih =>
    obtain ⟨hl, hls⟩ := List.forall_mem_cons.1 h
    rw [List.cons_append, mergeBreaks, if_neg hl, ih hls]
    simp

end Lexeme

end EntityDiagram
