import EntityDiagram.Proofs.Schema.Document.Places
import EntityDiagram.Proofs.Schema.Document.Grammar

namespace EntityDiagram

open Grammar

namespace Grammar

variable {α : Type} {close : Token} {P : List Lexeme → α → List Lexeme → Prop} {i : Nat}
  {ls rest : List Lexeme} {xs : List α}

theorem Listed.lineBreak (h : Listed close P ls xs rest) :
    Listed close P (⟨.lineBreak, i⟩ :: ls) xs rest := by
  cases h with
  | close hb => exact .close (.more hb)
  | last hb hx hc => exact .last (.more hb) hx hc
  | more hb hx hc h => exact .more (.more hb) hx hc h

theorem Body.lineBreak (h : Body P ls xs rest) : Body P (⟨.lineBreak, i⟩ :: ls) xs rest := by
  cases h with
  | close hb => exact .close (.more hb)
  | last hb hx => exact .last (.more hb) hx
  | more hb hx h => exact .more (.more hb) hx h

theorem Blocks.lineBreak {bs : List Block} (h : Blocks ls bs) :
    Blocks (⟨.lineBreak, i⟩ :: ls) bs := by
  cases h with
  | done hb => exact .done (.more hb)
  | block hb h hs => exact .block (.more hb) h hs

end Grammar

namespace Reader

variable {ls rest : List Lexeme} {d : Document} {s : Slot} {α : Type}

/-- What comes after an item of a list: line breaks, and then a comma or the end of the list. -/
theorem filled_list_sound (h : Accepts (.filled (.list s)) ls d) :
    ∃ t i rest, Breaks ls (⟨t, i⟩ :: rest) ∧ rest.length < ls.length ∧
      (t = .comma ∧ Accepts (.slot s) rest d ∨
        ∃ s', s.close? t = some s' ∧ Accepts s' rest d) := by
  induction ls with
  | nil => cases accepts_nil_iff.1 h
  | cons l ls ih =>
    obtain ⟨t, i⟩ := l
    obtain ⟨s', hs, hls⟩ := accepts_cons.1 h
    simp only [step, endValue_list] at hs
    split at hs
    · next ht =>
      cases ht
      cases hs
      obtain ⟨t, i, rest, hb, hlt, hrest⟩ := ih hls
      exact ⟨t, i, rest, .more hb, Nat.lt_succ_of_lt hlt, hrest⟩
    · split at hs
      · next ht =>
        cases hs
        exact ⟨t, i, ls, .none, Nat.lt_succ_self _, .inl ⟨ht, hls⟩⟩
      · split at hs
        · next hc =>
          cases hs
          exact ⟨t, i, ls, .none, Nat.lt_succ_self _, .inr ⟨_, hc, hls⟩⟩
        · cases hs

/--
What is read next where things follow each other: a line break, the end of them, or the next one.
The states before a thing, after one and after the end depend on the things read so far.
-/
inductive NextRead (close : Token) (P : List Lexeme → α → List Lexeme → Prop)
    (opened ended closed : List α → State) (d : Document) (xs : List α) : List Lexeme → Prop
  | lineBreak {i ls} (h : Accepts (opened xs) ls d) :
      NextRead close P opened ended closed d xs (⟨.lineBreak, i⟩ :: ls)
  | close {i ls} (h : Accepts (closed xs) ls d) :
      NextRead close P opened ended closed d xs (⟨close, i⟩ :: ls)
  | next {x ls rest} (hx : P ls x rest) (hlt : rest.length < ls.length)
      (h : Accepts (ended (xs ++ [x])) rest d) : NextRead close P opened ended closed d xs ls

abbrev ListRead (close : Token) (P : List Lexeme → α → List Lexeme → Prop)
    (slot : List α → Slot) (closed : List α → State) (d : Document) (xs : List α) :=
  NextRead close P (fun xs => .slot (slot xs)) (fun xs => .filled (.list (slot xs))) closed d xs

theorem listed_sound {close : Token} {P : List Lexeme → α → List Lexeme → Prop} {n : Nat}
    (slot : List α → Slot) (closed : List α → State)
    (hclose : ∀ xs t s', (slot xs).close? t = some s' → t = close ∧ s' = closed xs)
    (hnext : ∀ xs ls, ls.length < n → Accepts (.slot (slot xs)) ls d →
      ListRead close P slot closed d xs ls)
    {xs : List α} (hn : ls.length < n) (h : Accepts (.slot (slot xs)) ls d) :
    ∃ ys rest, Listed close P ls ys rest ∧ rest.length < ls.length ∧
      Accepts (closed (xs ++ ys)) rest d := by
  induction hl : ls.length using Nat.strongRecOn generalizing ls xs with
  | ind m ih =>
    subst hl
    cases hnext xs ls hn h with
    | @lineBreak i ms hms =>
      have hlt := Nat.lt_succ_self ms.length
      obtain ⟨ys, rest, hys, hr, hrest⟩ := ih ms.length hlt (Nat.lt_trans hlt hn) hms rfl
      exact ⟨ys, rest, hys.lineBreak, Nat.lt_trans hr hlt, hrest⟩
    | @close i ms hms =>
      refine ⟨[], ms, .close .none, Nat.lt_succ_self _, ?_⟩
      rwa [List.append_nil]
    | @next x _ os hx hlt hos =>
      obtain ⟨t, i, rest, hb, hr, hrest⟩ := filled_list_sound hos
      have hr := Nat.lt_trans hr hlt
      rcases hrest with ⟨rfl, hrest⟩ | ⟨s', hc, hrest⟩
      · obtain ⟨ys, end_, hys, he, hend⟩ := ih _ hr (Nat.lt_trans hr hn) hrest rfl
        refine ⟨x :: ys, end_, .more .none hx hb hys, Nat.lt_trans he hr, ?_⟩
        rwa [List.append_cons]
      · obtain ⟨rfl, rfl⟩ := hclose _ _ _ hc
        exact ⟨[x], rest, .last .none hx hb, hr, hrest⟩

/-- What a place reads first: a line break, the end of its list, a label, or an expression. -/
inductive SlotRead (d : Document) (s : Slot) : List Lexeme → Prop
  | lineBreak {i ls} (hb : s.allowsBreak = true) (h : Accepts (.slot s) ls d) :
      SlotRead d s (⟨.lineBreak, i⟩ :: ls)
  | close {t i ls s'} (hc : s.close? t = some s') (h : Accepts s' ls d) :
      SlotRead d s (⟨t, i⟩ :: ls)
  | label {name i j ls s'} (hs : s.label? name = some s') (h : Accepts (.slot s') ls d) :
      SlotRead d s (⟨.word name, i⟩ :: ⟨.colon, j⟩ :: ls)
  | expression {e ls rest} (he : e.Written ls rest) (hlt : rest.length < ls.length)
      (h : Accepts (.filled (s.fill e)) rest d) : SlotRead d s ls

/-- Fewer than `n` lexemes are read at every place as `SlotRead` says. -/
def ReadsBelow (n : Nat) : Prop :=
  ∀ (ls : List Lexeme) (s : Slot) (d : Document), ls.length < n → Accepts (.slot s) ls d →
    SlotRead d s ls

namespace ArgPlace

variable (p : ArgPlace) {n : Nat} {args : List Arg}

theorem expression_of_label {label : String} (hr : ReadsBelow n) (hn : ls.length < n)
    (h : Accepts (.slot (p.slot (some label) args)) ls d) :
    ∃ e rest, e.Written ls rest ∧ rest.length < ls.length ∧
      Accepts (.filled (.list (p.slot none (args ++ [⟨some label, e⟩])))) rest d := by
  cases hr ls _ d hn h with
  | lineBreak hb _ =>
    rw [p.allowsBreak_slot] at hb
    cases hb
  | close hc _ =>
    rw [p.close?_slot, if_neg (by simp)] at hc
    cases hc
  | label hs _ =>
    rw [p.label?_slot, if_neg (by simp)] at hs
    cases hs
  | @expression e _ rest he hlt hrest =>
    rw [p.fill_slot] at hrest
    exact ⟨e, rest, he, hlt, hrest⟩

theorem end_of_close? {t : Token} {s' : State} (h : (p.slot none args).close? t = some s') :
    t = .rightParen ∧ s' = p.closed args := by
  rw [p.close?_slot] at h
  split at h
  · next ht =>
    cases h
    exact ⟨ht.2, rfl⟩
  · cases h

theorem listRead (hr : ReadsBelow n) (hn : ls.length < n)
    (h : Accepts (.slot (p.slot none args)) ls d) :
    ListRead .rightParen (Argument Expr.Written) (p.slot none) p.closed d args ls := by
  cases hr ls _ d hn h with
  | lineBreak _ hms => exact .lineBreak hms
  | close hc hms =>
    obtain ⟨rfl, rfl⟩ := p.end_of_close? hc
    exact .close hms
  | @label name i j ms s' hs hms =>
    rw [p.label?_slot, if_pos rfl] at hs
    cases hs
    have hl : ms.length < ms.length + 1 + 1 := by omega
    obtain ⟨e, rest, he, hlt, hrest⟩ := p.expression_of_label hr (Nat.lt_trans hl hn) hms
    exact .next (.labelled he) (Nat.lt_trans hlt hl) hrest
  | expression he hlt hrest =>
    rw [p.fill_slot] at hrest
    exact .next (.plain he) hlt hrest

theorem sound_below (hr : ReadsBelow n) (hn : ls.length < n)
    (h : Accepts (.slot (p.slot none args)) ls d) :
    ∃ more rest, Listed .rightParen (Argument Expr.Written) ls more rest ∧
      rest.length < ls.length ∧ Accepts (p.closed (args ++ more)) rest d := by
  apply listed_sound (p.slot none) p.closed ?_ ?_ hn h
  · intro args t s' hc
    exact p.end_of_close? hc
  · intro args ms hm hms
    exact p.listRead hr hm hms

end ArgPlace

theorem items_sound {n : Nat} (hr : ReadsBelow n) (hn : ls.length < n) {items : List Expr}
    {outer : Slot} (h : Accepts (.slot (.item items outer)) ls d) :
    ∃ more rest, Listed .rightBracket Expr.Written ls more rest ∧ rest.length < ls.length ∧
      Accepts (.filled (outer.fill (.array (items ++ more)))) rest d := by
  have hclose : ∀ items t s', (Slot.item items outer).close? t = some s' →
      t = .rightBracket ∧ s' = .filled (outer.fill (.array items)) := by
    intro items t s' hc
    rw [close?_item] at hc
    split at hc
    · next ht =>
      cases hc
      exact ⟨ht, rfl⟩
    · cases hc
  apply listed_sound (fun items => .item items outer)
    (fun items => .filled (outer.fill (.array items))) hclose ?_ hn h
  intro items ms hm hms
  cases hr ms _ d hm hms with
  | lineBreak _ hos => exact .lineBreak hos
  | close hc hos =>
    obtain ⟨rfl, rfl⟩ := hclose _ _ _ hc
    exact .close hos
  | label hs _ => cases hs
  | expression he hlt hrest => exact .next he hlt hrest

theorem ident_sound {name : String} {i n : Nat} (hr : ReadsBelow n) (hn : ls.length ≤ n)
    (h : Accepts (.ident name s) ls d) : SlotRead d s (⟨.word name, i⟩ :: ls) := by
  obtain ⟨t, j, ms, s', rfl, hs, hms⟩ := h.exists_step rfl
  have hlt := Nat.lt_succ_self ms.length
  simp only [step] at hs
  split at hs
  · cases hs
    have hm := Nat.lt_of_lt_of_le hlt hn
    obtain ⟨args, rest, ha, hr, hrest⟩ := (ArgPlace.ofCall name s).sound_below hr hm hms
    exact .expression (.call ha) (Nat.lt_trans hr (Nat.lt_succ_of_lt hlt)) hrest
  · next hlabel =>
    cases hs
    exact .label hlabel hms
  · exact .expression .ident (Nat.lt_succ_self _) (.read hs hms)

theorem slot_sound (h : Accepts (.slot s) ls d) : SlotRead d s ls := by
  induction hl : ls.length using Nat.strongRecOn generalizing ls s d with
  | ind n ih =>
    have hr : ReadsBelow n := by
      intro ms s d hm h
      exact ih _ hm h rfl
    obtain ⟨t, i, ms, s', rfl, hs, hms⟩ := h.exists_step rfl
    have hlt := Nat.lt_succ_self ms.length
    have hn : ms.length < n := hl ▸ hlt
    simp only [step] at hs
    split at hs
    · split at hs
      · next hb =>
        cases hs
        exact .lineBreak hb hms
      · cases hs
    · cases hs
      exact ident_sound hr (Nat.le_of_lt hn) hms
    · cases hs
      exact .expression .text hlt hms
    · cases hs
      exact .expression .number hlt hms
    · cases hs
      obtain ⟨items, rest, hi, hr, hrest⟩ := items_sound hr hn hms
      exact .expression (.array hi) (Nat.lt_trans hr hlt) hrest
    · split at hs
      · next hc =>
        cases hs
        exact .close hc hms
      · cases hs

theorem ArgPlace.sound (p : ArgPlace) (args : List Arg)
    (h : Accepts (.slot (p.slot none args)) ls d) :
    ∃ more rest, Listed .rightParen (Argument Expr.Written) ls more rest ∧
      rest.length < ls.length ∧ Accepts (p.closed (args ++ more)) rest d := by
  apply p.sound_below ?_ (Nat.lt_succ_self _) h
  intro ms s d _ h
  exact slot_sound h

theorem entry_sound {source : OpenSource} {key : String}
    (h : Accepts (.slot (.entry source key)) ls d) :
    ∃ e rest, e.Written ls rest ∧ rest.length < ls.length ∧
      Accepts (.filled (.entry (source.add key e))) rest d := by
  cases slot_sound h with
  | lineBreak hb _ => cases hb
  | close hc _ => cases hc
  | label hs _ => cases hs
  | @expression e _ rest he hlt hrest => exact ⟨e, rest, he, hlt, hrest⟩

theorem path_sound {o : Owner} {name : String} (h : Accepts (.attributeArgs o name) ls d) :
    ∃ path args ms rest, Path name ls path ms ∧ Arguments ms args rest ∧
      rest.length ≤ ls.length ∧ Accepts (.declared (o.add path args)) rest d := by
  induction hl : ls.length using Nat.strongRecOn generalizing ls name with
  | ind n ih =>
    subst hl
    obtain ⟨t, i, ms, s', rfl, hs, hms⟩ := h.exists_step rfl
    simp only [step] at hs
    split at hs
    · cases hs
      obtain ⟨t, j, os, s', rfl, hs, hos⟩ := hms.exists_step rfl
      simp only [step] at hs
      split at hs
      · cases hs
        have hlt : os.length < os.length + 1 + 1 := by omega
        obtain ⟨path, args, ps, rest, hp, ha, hle, hrest⟩ := ih _ hlt hos rfl
        exact ⟨path, args, ps, rest, .dot hp, ha, Nat.le_trans hle (Nat.le_of_lt hlt), hrest⟩
      · cases hs
    · cases hs
      obtain ⟨args, rest, ha, hlt, hrest⟩ := (ArgPlace.ofAttribute o name).sound [] hms
      exact ⟨name, some args, _, rest, .last, .some ha, Nat.le_succ_of_le (Nat.le_of_lt hlt), hrest⟩
    · exact ⟨name, none, _, _, .last, .none, Nat.le_refl _, .read hs hms⟩

theorem attribute_sound {o : Owner} (i : Nat) (h : Accepts (.attributeName o) ls d) :
    ∃ name args rest,
      Attribute.Written o.scope (⟨o.scope.sign, i⟩ :: ls) ⟨o.scope, name, args⟩ rest ∧
      rest.length < ls.length ∧ Accepts (.declared (o.add name args)) rest d := by
  obtain ⟨t, j, ms, s', rfl, hs, hms⟩ := h.exists_step rfl
  simp only [step] at hs
  split at hs
  · cases hs
    obtain ⟨path, args, os, rest, hp, ha, hle, hrest⟩ := path_sound hms
    exact ⟨path, args, rest, .mk hp ha, Nat.lt_succ_of_le hle, hrest⟩
  · cases hs

theorem attributes_sound {f : OpenField} (h : Accepts (.declared (.field f)) ls d) :
    ∃ as rest, Many (Attribute.Written .field) ls as rest ∧ rest.length ≤ ls.length ∧
      Accepts (.declared (.model (f.closeWith as))) rest d := by
  induction hl : ls.length using Nat.strongRecOn generalizing ls f with
  | ind n ih =>
    subst hl
    obtain ⟨t, i, ms, s', rfl, hs, hms⟩ := h.exists_step rfl
    simp only [step, endDeclared] at hs
    split at hs
    · next ht =>
      cases ht
      cases hs
      obtain ⟨name, args, os, ha, hlt, hos⟩ := attribute_sound i hms
      have hlt := Nat.lt_succ_of_lt hlt
      obtain ⟨as, rest, has, hle, hrest⟩ := ih _ hlt hos rfl
      rw [OpenField.closeWith_add] at hrest
      exact ⟨_, rest, .cons ha has, Nat.le_trans hle (Nat.le_of_lt hlt), hrest⟩
    · refine ⟨[], _, .nil, Nat.le_refl _, ?_⟩
      rw [OpenField.closeWith_nil]
      exact .read hs hms

theorem modifier_sound {f : OpenField} (hf : f.setModifier .required = f)
    (h : Accepts (.modifier f) ls d) :
    ∃ k rest, Modifier.Written ls k rest ∧ rest.length ≤ ls.length ∧
      Accepts (.declared (.field (f.setModifier k))) rest d := by
  obtain ⟨t, i, ms, s', rfl, hs, hms⟩ := h.exists_step rfl
  simp only [step, modify] at hs
  split at hs
  · cases hs
    exact ⟨.optional, ms, .optional, Nat.le_succ _, hms⟩
  · cases hs
    obtain ⟨t, j, os, s', rfl, hs, hos⟩ := hms.exists_step rfl
    simp only [step] at hs
    split at hs
    · cases hs
      exact ⟨.list, os, .list, Nat.le_succ_of_le (Nat.le_succ _), hos⟩
    · cases hs
  · refine ⟨.required, _, .required, Nat.le_refl _, ?_⟩
    rw [hf]
    exact .read hs hms

theorem arguments_sound {f : OpenField} (h : Accepts (.typeArgs f) ls d) :
    ∃ args rest, Arguments ls args rest ∧ rest.length ≤ ls.length ∧
      Accepts (.modifier f) rest d := by
  obtain ⟨t, i, ms, s', rfl, hs, hms⟩ := h.exists_step rfl
  simp only [step] at hs
  split at hs
  · cases hs
    obtain ⟨args, rest, ha, hlt, hrest⟩ := (ArgPlace.ofType f).sound [] hms
    exact ⟨some args, rest, .some ha, Nat.le_succ_of_le (Nat.le_of_lt hlt), hrest⟩
  · exact ⟨none, _, .none, Nat.le_refl _, .read hs hms⟩

theorem field_sound {m : OpenModel} {name : String} {line : Nat}
    (h : Accepts (.fieldType m name line) ls d) :
    ∃ f rest, FieldDecl.Written (⟨.word name, line⟩ :: ls) f rest ∧ rest.length < ls.length ∧
      Accepts (.declared (.model (m.add (.field f)))) rest d := by
  obtain ⟨t, i, ms, s', rfl, hs, hms⟩ := h.exists_step rfl
  simp only [step] at hs
  split at hs
  · cases hs
    obtain ⟨args, os, ha, hle₁, hos⟩ := arguments_sound hms
    obtain ⟨k, ps, hk, hle₂, hps⟩ := modifier_sound rfl hos
    obtain ⟨as, rest, has, hle₃, hrest⟩ := attributes_sound hps
    have hle := Nat.le_trans hle₃ (Nat.le_trans hle₂ hle₁)
    exact ⟨_, rest, .mk ha hk has, Nat.lt_succ_of_le hle, hrest⟩
  all_goals cases hs

/-- The body of a block: the states before a thing in it, after one, and after its end. -/
structure BodyPlace (P : List Lexeme → α → List Lexeme → Prop) where
  opened : List α → State
  ended : List α → State
  closed : List α → State
  next {xs : List α} {ls : List Lexeme} {d : Document} (h : Accepts (opened xs) ls d) :
    NextRead .rightBrace P opened ended closed d xs ls
  ends {xs : List α} {ls : List Lexeme} {d : Document} (h : Accepts (ended xs) ls d) :
    ∃ i rest, ls = ⟨.lineBreak, i⟩ :: rest ∧ Accepts (opened xs) rest d ∨
      ls = ⟨.rightBrace, i⟩ :: rest ∧ Accepts (closed xs) rest d

theorem BodyPlace.sound {P : List Lexeme → α → List Lexeme → Prop} (p : BodyPlace P)
    (xs : List α) (h : Accepts (p.opened xs) ls d) :
    ∃ ys rest, Body P ls ys rest ∧ rest.length < ls.length ∧
      Accepts (p.closed (xs ++ ys)) rest d := by
  induction hl : ls.length using Nat.strongRecOn generalizing ls xs with
  | ind n ih =>
    subst hl
    cases p.next h with
    | @lineBreak i ms hms =>
      have hlt := Nat.lt_succ_self ms.length
      obtain ⟨ys, rest, hys, hr, hrest⟩ := ih _ hlt _ hms rfl
      exact ⟨ys, rest, hys.lineBreak, Nat.lt_trans hr hlt, hrest⟩
    | @close i ms hms =>
      refine ⟨[], ms, .close .none, Nat.lt_succ_self _, ?_⟩
      rwa [List.append_nil]
    | @next x _ ms hx hlt hms =>
      obtain ⟨i, os, ⟨rfl, hos⟩ | ⟨rfl, hos⟩⟩ := p.ends hms
      · have hlt := Nat.lt_of_succ_lt hlt
        obtain ⟨ys, rest, hys, hr, hrest⟩ := ih _ hlt _ hos rfl
        refine ⟨x :: ys, rest, .more .none hx hys, Nat.lt_trans hr hlt, ?_⟩
        rwa [List.append_cons]
      · exact ⟨[x], os, .last .none hx, Nat.lt_of_succ_lt hlt, hos⟩

def BodyPlace.members (before : List Block) (name : String) (line : Nat) :
    BodyPlace Member.Written where
  opened xs := .members ⟨before, ⟨name, line, xs⟩⟩
  ended xs := .declared (.model ⟨before, ⟨name, line, xs⟩⟩)
  closed xs := .top (before ++ [Block.model ⟨name, line, xs⟩])
  next {xs ls d} h := by
    obtain ⟨t, i, ms, s', rfl, hs, hms⟩ := h.exists_step rfl
    simp only [step] at hs
    split at hs
    · cases hs
      exact .lineBreak hms
    · cases hs
      exact .close hms
    · cases hs
      obtain ⟨name, args, rest, ha, hlt, hrest⟩ := attribute_sound i hms
      exact .next (.blockAttribute ha) (Nat.lt_succ_of_lt hlt) hrest
    · cases hs
      obtain ⟨f, rest, hf, hlt, hrest⟩ := field_sound hms
      exact .next (.field hf) (Nat.lt_succ_of_lt hlt) hrest
    · cases hs
  ends {xs ls d} h := by
    obtain ⟨t, i, ms, s', rfl, hs, hms⟩ := h.exists_step rfl
    simp only [step, endDeclared, endMember] at hs
    split at hs
    · cases hs
      exact ⟨i, ms, .inl ⟨rfl, hms⟩⟩
    · cases hs
      exact ⟨i, ms, .inr ⟨rfl, hms⟩⟩
    · cases hs

def BodyPlace.entries (before : List Block) (name : String) : BodyPlace Entry where
  opened xs := .entries ⟨before, ⟨name, xs⟩⟩
  ended xs := .filled (.entry ⟨before, ⟨name, xs⟩⟩)
  closed xs := .top (before ++ [Block.source ⟨name, xs⟩])
  next {xs ls d} h := by
    obtain ⟨t, i, ms, s', rfl, hs, hms⟩ := h.exists_step rfl
    simp only [step] at hs
    split at hs
    · cases hs
      exact .lineBreak hms
    · cases hs
      exact .close hms
    · cases hs
      obtain ⟨t, j, os, s', rfl, hs, hos⟩ := hms.exists_step rfl
      simp only [step] at hs
      split at hs
      · cases hs
        obtain ⟨e, rest, he, hlt, hrest⟩ := entry_sound hos
        exact .next (.mk he) (Nat.lt_succ_of_lt (Nat.lt_succ_of_lt hlt)) hrest
      · cases hs
    · cases hs
  ends {xs ls d} h := by
    obtain ⟨t, i, ms, s', rfl, hs, hms⟩ := h.exists_step rfl
    cases t with
    | lineBreak =>
      cases hs
      exact ⟨i, ms, .inl ⟨rfl, hms⟩⟩
    | rightBrace =>
      cases hs
      exact ⟨i, ms, .inr ⟨rfl, hms⟩⟩
    | _ => cases hs

/-- Balanced lexemes after each of `depth` open braces, and after one more. -/
inductive Closes : Nat → List Lexeme → List Lexeme → Prop
  | zero {i ls rest} (h : Balanced ls (⟨.rightBrace, i⟩ :: rest)) : Closes 0 ls rest
  | succ {n i ls ms rest} (h : Balanced ls (⟨.rightBrace, i⟩ :: ms)) (hs : Closes n ms rest) :
      Closes (n + 1) ls rest

theorem Closes.other {n : Nat} {l : Lexeme} (h : Closes n ls rest) (ho : l.token ≠ .leftBrace)
    (hc : l.token ≠ .rightBrace) : Closes n (l :: ls) rest := by
  cases h with
  | zero h => exact .zero (.other ho hc h)
  | succ h hs => exact .succ (.other ho hc h) hs

theorem Closes.brace {n i : Nat} (h : Closes (n + 1) ls rest) :
    Closes n (⟨.leftBrace, i⟩ :: ls) rest := by
  cases h with
  | succ h hs =>
    cases hs with
    | zero hs => exact .zero (.braces h hs)
    | succ hs ht => exact .succ (.braces h hs) ht

theorem otherBody_sound {before : List Block} {keyword name : String} {depth : Nat}
    (h : Accepts (.otherBody before keyword name depth) ls d) :
    ∃ rest, Closes depth ls rest ∧ rest.length < ls.length ∧
      Accepts (.top (before ++ [.other keyword name])) rest d := by
  induction ls generalizing depth with
  | nil => cases accepts_nil_iff.1 h
  | cons l ls ih =>
    obtain ⟨s', hs, hls⟩ := accepts_cons.1 h
    obtain ⟨t, i⟩ := l
    simp only [step] at hs
    split at hs
    · cases hs
      obtain ⟨rest, hc, hlt, hrest⟩ := ih hls
      exact ⟨rest, hc.brace, Nat.lt_succ_of_lt hlt, hrest⟩
    · cases hs
      exact ⟨ls, .zero .nil, Nat.lt_succ_self _, hls⟩
    · cases hs
      obtain ⟨rest, hc, hlt, hrest⟩ := ih hls
      exact ⟨rest, .succ .nil hc, Nat.lt_succ_of_lt hlt, hrest⟩
    · next ho hz hc =>
      cases hs
      obtain ⟨rest, hr, hlt, hrest⟩ := ih hls
      refine ⟨rest, hr.other ho ?_, Nat.lt_succ_of_lt hlt, hrest⟩
      intro ht
      cases depth with
      | zero => exact hz ht rfl
      | succ n => exact hc n ht rfl

theorem modelName_sound {before : List Block} (i : Nat) (h : Accepts (.modelName before) ls d) :
    ∃ b rest, Block.Written (⟨.word "model", i⟩ :: ls) b rest ∧ rest.length < ls.length ∧
      Accepts (.top (before ++ [b])) rest d := by
  obtain ⟨t, line, ms, s', rfl, hs, hms⟩ := h.exists_step rfl
  simp only [step] at hs
  split at hs
  · next name =>
    cases hs
    obtain ⟨t, j, os, s', rfl, hs, hos⟩ := hms.exists_step rfl
    simp only [step] at hs
    split at hs
    · cases hs
      obtain ⟨xs, rest, hx, hlt, hrest⟩ := (BodyPlace.members before name line).sound [] hos
      exact ⟨_, rest, .model hx, Nat.lt_succ_of_lt (Nat.lt_succ_of_lt hlt), hrest⟩
    · cases hs
  · cases hs

theorem sourceName_sound {before : List Block} (i : Nat) (h : Accepts (.sourceName before) ls d) :
    ∃ b rest, Block.Written (⟨.word "datasource", i⟩ :: ls) b rest ∧ rest.length < ls.length ∧
      Accepts (.top (before ++ [b])) rest d := by
  obtain ⟨t, j, ms, s', rfl, hs, hms⟩ := h.exists_step rfl
  simp only [step] at hs
  split at hs
  · next name =>
    cases hs
    obtain ⟨t, k, os, s', rfl, hs, hos⟩ := hms.exists_step rfl
    simp only [step] at hs
    split at hs
    · cases hs
      obtain ⟨xs, rest, hx, hlt, hrest⟩ := (BodyPlace.entries before name).sound [] hos
      exact ⟨_, rest, .source hx, Nat.lt_succ_of_lt (Nat.lt_succ_of_lt hlt), hrest⟩
    · cases hs
  · cases hs

theorem otherName_sound {before : List Block} {keyword : String} (i : Nat)
    (hm : keyword ≠ "model") (hd : keyword ≠ "datasource")
    (h : Accepts (.otherName before keyword) ls d) :
    ∃ b rest, Block.Written (⟨.word keyword, i⟩ :: ls) b rest ∧ rest.length < ls.length ∧
      Accepts (.top (before ++ [b])) rest d := by
  obtain ⟨t, j, ms, s', rfl, hs, hms⟩ := h.exists_step rfl
  simp only [step] at hs
  split at hs
  · next name =>
    cases hs
    obtain ⟨t, k, os, s', rfl, hs, hos⟩ := hms.exists_step rfl
    simp only [step] at hs
    split at hs
    · cases hs
      obtain ⟨rest, hc, hlt, hrest⟩ := otherBody_sound hos
      cases hc with
      | zero hb =>
        exact ⟨_, rest, .other hm hd hb, Nat.lt_succ_of_lt (Nat.lt_succ_of_lt hlt), hrest⟩
    · cases hs
  · cases hs

theorem blocks_sound {bs : List Block} (h : Accepts (.top bs) ls d) :
    ∃ cs, Blocks ls cs ∧ d.blocks = bs ++ cs := by
  induction hl : ls.length using Nat.strongRecOn generalizing ls bs with
  | ind n ih =>
    subst hl
    cases ls with
    | nil =>
      cases accepts_nil_iff.1 h
      exact ⟨[], .done .none, (List.append_nil _).symm⟩
    | cons l ls =>
      obtain ⟨s', hs, hls⟩ := accepts_cons.1 h
      obtain ⟨t, i⟩ := l
      have hlt := Nat.lt_succ_self ls.length
      have next {b : Block} {rest : List Lexeme} (hb : b.Written (⟨t, i⟩ :: ls) rest)
          (hr : rest.length < ls.length) (hrest : Accepts (.top (bs ++ [b])) rest d) :
          ∃ cs, Blocks (⟨t, i⟩ :: ls) cs ∧ d.blocks = bs ++ cs := by
        obtain ⟨cs, hcs, hd⟩ := ih _ (Nat.lt_trans hr hlt) hrest rfl
        refine ⟨b :: cs, .block .none hb hcs, ?_⟩
        rw [List.append_cons]
        exact hd
      simp only [step] at hs
      split at hs
      · cases hs
        obtain ⟨cs, hcs, hd⟩ := ih _ hlt hls rfl
        exact ⟨cs, hcs.lineBreak, hd⟩
      · split at hs
        · next hm =>
          cases hm
          cases hs
          obtain ⟨b, rest, hb, hr, hrest⟩ := modelName_sound i hls
          exact next hb hr hrest
        · next hm =>
          split at hs
          · next hd =>
            cases hd
            cases hs
            obtain ⟨b, rest, hb, hr, hrest⟩ := sourceName_sound i hls
            exact next hb hr hrest
          · next hd =>
            cases hs
            obtain ⟨b, rest, hb, hr, hrest⟩ := otherName_sound i hm hd hls
            exact next hb hr hrest
      · cases hs

/-- What the reader accepts from the start is a document of the grammar. -/
theorem written_of_accepts (h : Accepts (.top []) ls d) : d.Written ls := by
  obtain ⟨bs, hbs, hd⟩ := blocks_sound h
  rw [Document.Written, hd]
  exact hbs

end Reader

end EntityDiagram
