import Mathlib.Data.List.Induction
import EntityDiagram.Proofs.Schema.Document.Places

namespace EntityDiagram

open Lexeme

def Lexeme.openings (ls : List Lexeme) : Nat := ls.countP (·.token = .leftParen)

def Lexeme.closings (ls : List Lexeme) : Nat := ls.countP (·.token = .rightParen)

/--
The lexemes end within an argument list: they open one, not in the body of a block that is
skipped, and have not closed it.
-/
def Document.WithinArguments (ps : List Lexeme) : Prop :=
  ∃ as i bs, ps = as ++ ⟨.leftParen, i⟩ :: bs ∧
    (∀ before keyword name depth,
      Reader.follow (.top []) as ≠ .ok (.otherBody before keyword name depth)) ∧
    ∀ cs, cs <+: bs → closings cs ≤ openings cs

namespace Reader

/-- How many argument lists are open at the place. -/
def Slot.argDepth : Slot → Nat
  | .entry _ _ => 0
  | .typeArg _ _ => 1
  | .attributeArg _ _ _ _ => 1
  | .item _ outer => outer.argDepth
  | .callArg _ _ _ outer => outer.argDepth + 1

def State.argDepth : State → Nat
  | .slot p | .ident _ p | .filled (.list p) => p.argDepth
  | _ => 0

/-- The states within an argument list, by the token before them. -/
inductive Inside (t : Token) : State → Prop
  | slot {p : Slot} (hp : 0 < p.argDepth) (ht : p.allowsBreak = true ↔ t ≠ .colon) :
      Inside t (.slot p)
  | ident {name : String} {p : Slot} (hp : 0 < p.argDepth) (ht : t ≠ .colon) :
      Inside t (.ident name p)
  | filled {p : Slot} (hp : 0 < p.argDepth) (hb : p.allowsBreak = true) (ht : t ≠ .colon) :
      Inside t (.filled (.list p))

/--
What the lexeme leads to where `n` argument lists are open: a parenthesis opens or closes one, and
any other lexeme none.
-/
structure Leads (l : Lexeme) (n : Nat) (s : State) : Prop where
  depth : s.argDepth + closings [l] = n + openings [l]
  inside : 0 < s.argDepth → Inside l.token s

variable {s s' : State} {p q : Slot} {l : Lexeme} {ls : List Lexeme} {t : Token} {i n : Nat}

theorem argDepth_fill (p : Slot) (e : Expr) : (State.filled (p.fill e)).argDepth = p.argDepth := by
  cases p <;> rfl

theorem exists_list_of_fill (hp : 0 < p.argDepth) (e : Expr) :
    ∃ q, p.fill e = .list q ∧ q.argDepth = p.argDepth ∧ q.allowsBreak = true := by
  cases p with
  | entry => cases hp
  | typeArg | attributeArg | item | callArg => exact ⟨_, rfl, rfl, rfl⟩

theorem leads_fill {e : Expr} (hd : p.argDepth + closings [l] = n + openings [l])
    (hl : l.token ≠ .colon) : Leads l n (.filled (p.fill e)) where
  depth := by rwa [argDepth_fill]
  inside := by
    intro hp
    rw [argDepth_fill] at hp
    obtain ⟨q, hq, hdepth, hb⟩ := exists_list_of_fill hp e
    rw [hq]
    exact .filled (hdepth ▸ hp) hb hl

theorem leads_out (hs : s.argDepth = 0) (hd : closings [l] = n + openings [l]) : Leads l n s where
  depth := by rwa [hs, Nat.zero_add]
  inside := by
    intro h
    rw [hs] at h
    cases h

theorem leads_close? (h : p.close? t = some s) : Leads ⟨t, i⟩ p.argDepth s := by
  simp only [Slot.close?] at h
  split at h
  · cases h
    exact leads_out rfl rfl
  · cases h
    exact leads_out rfl rfl
  · cases h
    exact leads_fill rfl (by simp)
  · cases h
    exact leads_fill rfl (by simp)
  · cases h

theorem leads_label? {name : String} (hp : 0 < p.argDepth) (h : p.label? name = some q) :
    Leads ⟨.colon, i⟩ p.argDepth (.slot q) := by
  have hlabel : q.argDepth = p.argDepth ∧ q.allowsBreak = false := by
    simp only [Slot.label?] at h
    split at h
    · cases h
      exact ⟨rfl, rfl⟩
    · cases h
      exact ⟨rfl, rfl⟩
    · cases h
      exact ⟨rfl, rfl⟩
    · cases h
  refine ⟨hlabel.1, ?_⟩
  intro hq
  exact .slot hq (by simp [hlabel.2])

theorem leads_endValue (hp : 0 < p.argDepth) (hb : p.allowsBreak = true)
    (h : endValue (.list p) ⟨t, i⟩ = .ok s) : Leads ⟨t, i⟩ p.argDepth s := by
  rw [endValue_list] at h
  dsimp only at h
  split at h
  · next ht =>
    cases h
    subst ht
    exact ⟨rfl, fun _ => .filled hp hb (by simp)⟩
  · split at h
    · next ht =>
      cases h
      subst ht
      exact ⟨rfl, fun _ => .slot hp (iff_of_true hb (by simp))⟩
    · split at h
      · next hc =>
        cases h
        exact leads_close? hc
      · cases h

theorem leads_endValue_fill {e : Expr} (hp : 0 < p.argDepth)
    (h : endValue (p.fill e) ⟨t, i⟩ = .ok s) : Leads ⟨t, i⟩ p.argDepth s := by
  obtain ⟨q, hq, hdepth, hb⟩ := exists_list_of_fill hp e
  rw [hq] at h
  rw [← hdepth] at hp ⊢
  exact leads_endValue hp hb h

theorem leads_slot (hp : 0 < p.argDepth) (h : step (.slot p) ⟨t, i⟩ = .ok s) :
    Leads ⟨t, i⟩ p.argDepth s := by
  simp only [step] at h
  split at h
  · split at h
    · next hb =>
      cases h
      exact ⟨rfl, fun _ => .slot hp (iff_of_true hb (by simp))⟩
    · cases h
  · cases h
    exact ⟨rfl, fun _ => .ident hp (by simp)⟩
  · cases h
    exact leads_fill rfl (by simp)
  · cases h
    exact leads_fill rfl (by simp)
  · cases h
    exact ⟨rfl, fun _ => .slot hp (iff_of_true rfl (by simp))⟩
  · split at h
    · next hc =>
      cases h
      exact leads_close? hc
    · cases h

theorem leads_ident {name : String} (hp : 0 < p.argDepth)
    (h : step (.ident name p) ⟨t, i⟩ = .ok s) : Leads ⟨t, i⟩ p.argDepth s := by
  simp only [step] at h
  split at h
  · cases h
    exact ⟨rfl, fun hq => .slot hq (iff_of_true rfl (by simp))⟩
  · next hlabel =>
    cases h
    exact leads_label? hp hlabel
  · exact leads_endValue_fill hp h

theorem Inside.leads (h : Inside t s) (hs : step s l = .ok s') : Leads l s.argDepth s' := by
  cases h with
  | slot hp _ => exact leads_slot hp hs
  | ident hp _ => exact leads_ident hp hs
  | filled hp hb _ => exact leads_endValue hp hb hs

theorem ne_of_slot (h : step (.slot p) ⟨t, i⟩ = .ok s) : t ≠ .leftParen ∧ t ≠ .colon := by
  refine ⟨?_, ?_⟩
  · rintro rfl
    cases hc : p.close? .leftParen with
    | some s₁ => cases closing_of_close? hc <;> contradiction
    | none => simp [step, hc, unexpected] at h
  · rintro rfl
    cases hc : p.close? .colon with
    | some s₁ => cases closing_of_close? hc <;> contradiction
    | none => simp [step, hc, unexpected] at h

/-- Outside the blocks that are skipped, an opening parenthesis begins an argument list. -/
theorem inside_of_leftParen (h : step s ⟨.leftParen, i⟩ = .ok s')
    (hs : ∀ before keyword name depth, s ≠ .otherBody before keyword name depth) :
    Inside .leftParen s' := by
  cases s with
  | otherBody => exact (hs _ _ _ _ rfl).elim
  | typeArgs f =>
    cases h
    exact .slot Nat.one_pos (iff_of_true rfl nofun)
  | attributeArgs o name =>
    cases h
    exact .slot Nat.one_pos (iff_of_true rfl nofun)
  | ident name p =>
    cases h
    exact .slot (Nat.succ_pos _) (iff_of_true rfl nofun)
  | slot p => exact ((ne_of_slot h).1 rfl).elim
  | filled f => exact ((ne_of_endValue h).1 rfl).elim
  | declared o => cases o <;> cases h
  | _ => cases h

theorem Inside.argDepth_pos (h : Inside t s) : 0 < s.argDepth := by
  cases h with
  | slot hp _ => exact hp
  | ident hp _ => exact hp
  | filled hp _ _ => exact hp

/-- As long as the list is not closed, the reader is within arguments. -/
theorem inside_of_open {as bs : List Lexeme}
    (h : follow (.top []) (as ++ ⟨.leftParen, i⟩ :: bs) = .ok s)
    (hskip : ∀ before keyword name depth,
      follow (.top []) as ≠ .ok (.otherBody before keyword name depth))
    (hopen : ∀ cs, cs <+: bs → closings cs ≤ openings cs) :
    openings bs < s.argDepth + closings bs ∧
      ∃ l, (as ++ ⟨.leftParen, i⟩ :: bs).getLast? = some l ∧ Inside l.token s := by
  induction bs using List.reverseRecOn generalizing s with
  | nil =>
    obtain ⟨s₁, has, hl⟩ := exists_of_follow_append h
    rw [follow_singleton] at hl
    have hin := inside_of_leftParen hl fun _ _ _ _ he => hskip _ _ _ _ (he ▸ has)
    exact ⟨hin.argDepth_pos, _, List.getLast?_concat, hin⟩
  | append_singleton bs l ih =>
    rw [← List.cons_append, ← List.append_assoc] at h ⊢
    obtain ⟨s₁, hbs, hl⟩ := exists_of_follow_append h
    rw [follow_singleton] at hl
    obtain ⟨hdepth, k, _, hin⟩ := ih hbs fun cs hcs => hopen cs (hcs.trans (List.prefix_append _ _))
    have hleads := hin.leads hl
    have hstep := hleads.depth
    have hclosed := hopen _ List.prefix_rfl
    simp only [openings, closings, List.countP_append] at hdepth hstep hclosed ⊢
    have hpos : 0 < s.argDepth := by omega
    refine ⟨by omega, l, List.getLast?_concat, hleads.inside hpos⟩

theorem inside_of_within {ps : List Lexeme} (hw : Document.WithinArguments (ps ++ [l]))
    (h : follow (.top []) (ps ++ [l]) = .ok s) : Inside l.token s := by
  obtain ⟨as, i, bs, he, hskip, hopen⟩ := hw
  rw [he] at h
  obtain ⟨_, k, hk, hin⟩ := inside_of_open h hskip hopen
  rw [← he, List.getLast?_concat] at hk
  rwa [Option.some.inj hk]

variable {k : Lexeme} {ms : List Lexeme}

/-- What becomes of a line break behind the token `t`, when the lexeme `k` leads on to `s'`. -/
inductive BreakRead (t : Token) (i : Nat) (k : Lexeme) (s s' : State) : Prop
  | ignored {s₁ : State} (ht : t ≠ .colon) (hc : k.token ≠ .colon) (hp : k.token ≠ .leftParen)
      (hb : step s ⟨.lineBreak, i⟩ = .ok s₁) (hk : step s₁ k = .ok s')
  | refused (ht : t = .colon) (hc : k.token ≠ .colon) (hp : k.token ≠ .leftParen)
      (hb : step s ⟨.lineBreak, i⟩ = unexpected ⟨.lineBreak, i⟩ .value)
  | parted {s₁ : State} {expected : Expected} (ht : t ≠ .colon)
      (hk : k.token = .colon ∨ k.token = .leftParen) (hb : step s ⟨.lineBreak, i⟩ = .ok s₁)
      (hr : step s₁ k = unexpected k expected)

theorem endValue_unexpected (hk : k.token = .colon ∨ k.token = .leftParen) :
    endValue (.list p) k = unexpected k p.expectedEnd := by
  obtain ⟨t, j⟩ := k
  rw [endValue_list]
  rcases hk with rfl | rfl
  · cases hc : p.close? .colon with
    | some s₁ => cases closing_of_close? hc <;> contradiction
    | none => simp
  · cases hc : p.close? .leftParen with
    | some s₁ => cases closing_of_close? hc <;> contradiction
    | none => simp

theorem breakRead_ident {name : String} (hp : 0 < p.argDepth) (ht : t ≠ .colon)
    (hk : step (.ident name p) k = .ok s') (i : Nat) : BreakRead t i k (.ident name p) s' := by
  obtain ⟨u, j⟩ := k
  obtain ⟨q, hq, _, hb⟩ := exists_list_of_fill hp (.ident name)
  have hbreak : step (.ident name p) ⟨.lineBreak, i⟩ = .ok (.filled (.list q)) := by
    rw [step_ident (t := .lineBreak) nofun nofun, hq, endValue_list, if_pos rfl]
  by_cases hparts : u = .colon ∨ u = .leftParen
  · exact .parted ht hparts hbreak (endValue_unexpected hparts)
  · obtain ⟨hcolon, hparen⟩ := not_or.1 hparts
    rw [step_ident hparen hcolon, hq] at hk
    exact .ignored ht hcolon hparen hbreak hk

theorem Inside.breakRead (h : Inside t s) (hk : step s k = .ok s') (i : Nat) :
    BreakRead t i k s s' := by
  cases h with
  | @slot p hp ht =>
    obtain ⟨hparen, hcolon⟩ := ne_of_slot hk
    by_cases hb : p.allowsBreak = true
    · refine .ignored (ht.1 hb) hcolon hparen ?_ hk
      rw [step, if_pos hb]
    · refine .refused (by_contra fun hne => hb (ht.2 hne)) hcolon hparen ?_
      rw [step, if_neg hb]
  | ident hp ht => exact breakRead_ident hp ht hk i
  | filled hp hb ht =>
    obtain ⟨hparen, hcolon⟩ := ne_of_endValue hk
    exact .ignored ht hcolon hparen rfl hk

end Reader

namespace Document

variable {ps ms : List Lexeme} {l k : Lexeme} {d : Document} {line : Nat}

theorem exists_step_of_within (hps : NoEnd (ps ++ [l])) (hw : WithinArguments (ps ++ [l]))
    (hd : ofLexemes (ps ++ l :: k :: ms) = .ok d) :
    ∃ s s', Reader.follow (.top []) (ps ++ [l]) = .ok s ∧ Reader.Inside l.token s ∧
      Reader.step s k = .ok s' ∧ k.token ≠ .endOfText ∧ Reader.run s' ms = .ok d := by
  rw [List.append_cons, ofLexemes] at hd
  cases hf : Reader.follow (.top []) (ps ++ [l]) with
  | error e =>
    obtain ⟨_, _, _, _, _, _, _, hrun⟩ := Reader.exists_of_follow_error hf hps
    cases (hrun _).1.symm.trans hd
  | ok s =>
    have hin := Reader.inside_of_within hw hf
    rw [Reader.run_append hf hps, Reader.run] at hd
    split at hd
    · cases hin <;> cases hd
    · next hk =>
      split at hd
      · next s' hs => exact ⟨s, s', rfl, hin, hs, hk, hd⟩
      · cases hd

/--
A line break between two lexemes of an argument list does not change the document, unless it stands
next to the colon of a label or before the parenthesis of a call. There it is an error.
-/
theorem ofLexemes_break_iff (hps : NoEnd (ps ++ [l])) (hw : WithinArguments (ps ++ [l]))
    (hd : ofLexemes (ps ++ l :: k :: ms) = .ok d) (line : Nat) :
    (ofLexemes (ps ++ l :: ⟨.lineBreak, line⟩ :: k :: ms) = .ok d ↔
      l.token ≠ .colon ∧ k.token ≠ .colon ∧ k.token ≠ .leftParen) ∧
    (l.token = .colon → ofLexemes (ps ++ l :: ⟨.lineBreak, line⟩ :: k :: ms) =
      .error (.unexpected .lineBreak line .value)) ∧
    (k.token = .colon ∨ k.token = .leftParen → ∃ expected,
      ofLexemes (ps ++ l :: ⟨.lineBreak, line⟩ :: k :: ms) =
        .error (.unexpected k.token k.line expected)) := by
  obtain ⟨s, s', hf, hin, hk, hend, hrun⟩ := exists_step_of_within hps hw hd
  rw [List.append_cons, ofLexemes, Reader.run_append hf hps, Reader.run, if_neg Token.noConfusion]
  cases hin.breakRead hk line with
  | ignored ht hc hp hb hk =>
    rw [hb]
    dsimp only
    rw [Reader.run, if_neg hend, hk]
    dsimp only
    exact ⟨iff_of_true hrun ⟨ht, hc, hp⟩, fun h => (ht h).elim, fun h => (not_or.2 ⟨hc, hp⟩ h).elim⟩
  | refused ht hc hp hb =>
    rw [hb]
    exact ⟨iff_of_false (by intro h; cases h) fun h => h.1 ht, fun _ => rfl,
      fun h => (not_or.2 ⟨hc, hp⟩ h).elim⟩
  | parted ht hparts hb hr =>
    rw [hb]
    dsimp only
    rw [Reader.run, if_neg hend, hr]
    refine ⟨iff_of_false (by intro h; cases h) ?_, fun h => (ht h).elim, fun _ => ⟨_, rfl⟩⟩
    intro h
    exact not_or.2 h.2 hparts

/-- A model with an attribute, up to the name of the attribute. -/
def labelHead : List Lexeme :=
  (([.word "model", .word "A", .leftBrace, .lineBreak] : List Token).map (⟨·, 1⟩)) ++
    (([.word "id", .word "Int", .atSign, .word "default"] : List Token).map (⟨·, 2⟩))

def labelTail : List Lexeme :=
  (([.word "f", .leftParen, .number "1", .rightParen, .rightParen, .lineBreak] :
    List Token).map (⟨·, 3⟩)) ++
    (([.rightBrace, .endOfText] : List Token).map (⟨·, 4⟩))

def labelDocument : Document :=
  ⟨[.model ⟨"A", 1, [.field ⟨"id", ⟨"Int", .required⟩, [⟨.field, "default",
    some [⟨some "value", .call "f" [⟨none, .number "1"⟩]⟩]⟩], 2⟩]⟩]⟩

theorem within_labelHead {bs : List Lexeme} (hb : closings bs = 0) :
    WithinArguments (labelHead ++ ⟨.leftParen, 2⟩ :: bs) := by
  refine ⟨labelHead, 2, bs, rfl, ?_, ?_⟩
  · intro _ _ _ _ h
    cases h
  · intro cs hcs
    have hle : closings cs ≤ closings bs := hcs.sublist.countP_le
    rw [hb] at hle
    exact Nat.le_trans hle (Nat.zero_le _)

theorem ofLexemes_break_iff_parenthesis :
    NoEnd (labelHead ++ [⟨.leftParen, 2⟩]) ∧ WithinArguments (labelHead ++ [⟨.leftParen, 2⟩]) ∧
      ofLexemes (labelHead ++ ⟨.leftParen, 2⟩ :: ⟨.word "value", 2⟩ :: ⟨.colon, 3⟩ :: labelTail) =
        .ok labelDocument ∧
      ofLexemes (labelHead ++ ⟨.leftParen, 2⟩ :: ⟨.lineBreak, 2⟩ :: ⟨.word "value", 2⟩ ::
        ⟨.colon, 3⟩ :: labelTail) = .ok labelDocument := by
  have hend : NoEnd (labelHead ++ [⟨.leftParen, 2⟩]) := by decide
  have hw : WithinArguments (labelHead ++ [⟨.leftParen, 2⟩]) := within_labelHead rfl
  have hd : ofLexemes (labelHead ++ ⟨.leftParen, 2⟩ :: ⟨.word "value", 2⟩ :: ⟨.colon, 3⟩ ::
    labelTail) = .ok labelDocument := rfl
  exact ⟨hend, hw, hd, (ofLexemes_break_iff hend hw hd 2).1.2 ⟨nofun, nofun, nofun⟩⟩

/-- Between a label and its colon a line break is refused. -/
theorem ofLexemes_break_label :
    WithinArguments (labelHead ++ [⟨.leftParen, 2⟩] ++ [⟨.word "value", 2⟩]) ∧
      ofLexemes (labelHead ++ [⟨.leftParen, 2⟩] ++ ⟨.word "value", 2⟩ :: ⟨.colon, 3⟩ :: labelTail) =
        .ok labelDocument ∧
      ∀ d, ofLexemes (labelHead ++ [⟨.leftParen, 2⟩] ++ ⟨.word "value", 2⟩ :: ⟨.lineBreak, 2⟩ ::
        ⟨.colon, 3⟩ :: labelTail) ≠ .ok d := by
  refine ⟨?_, rfl, nofun⟩
  rw [List.append_assoc]
  exact within_labelHead rfl

end Document

end EntityDiagram
