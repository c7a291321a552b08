import EntityDiagram.Proofs.Schema.Document.Soundness

namespace EntityDiagram

open Grammar

namespace Reader

variable {ls ms rest : List Lexeme} {d : Document} {s : Slot} {α : Type}

theorem accepts_breaks {s : State} (hs : ∀ i, step s ⟨.lineBreak, i⟩ = .ok s) (hb : Breaks ls ms)
    (h : Accepts s ms d) : Accepts s ls d := by
  induction hb with
  | none => exact h
  | more _ ih => exact .read (hs _) (ih h)

theorem accepts_slot_breaks (hs : s.allowsBreak = true) :
    Breaks ls ms → Accepts (.slot s) ms d → Accepts (.slot s) ls d :=
  accepts_breaks (fun _ => if_pos hs)

theorem accepts_filled_breaks :
    Breaks ls ms → Accepts (.filled (.list s)) ms d → Accepts (.filled (.list s)) ls d :=
  accepts_breaks (fun _ => rfl)

theorem accepts_ident {name : String} (h : Accepts (.filled (s.fill (.ident name))) ls d) :
    Accepts (.ident name s) ls d := by
  obtain ⟨t, i, ms, s', rfl, hs, hms⟩ := h.exists_step rfl
  obtain ⟨hp, hc⟩ := ne_of_endValue hs
  exact .read ((step_ident hp hc).trans hs) hms

-- The rules of the grammar refer to each other, and so do these statements, one for each of them.
mutual

theorem accepts_of_expression : ∀ {ls rest e}, Expr.Written ls e rest → ∀ {s d},
    Accepts (.filled (s.fill e)) rest d → Accepts (.slot s) ls d
  | _, _, _, .ident, _, _, h => .read rfl (accepts_ident h)
  | _, _, _, .text, _, _, h => .read rfl h
  | _, _, _, .number, _, _, h => .read rfl h
  | _, _, _, .array hi, s, _, h => .read rfl (accepts_of_items hi [] s h)
  | _, _, _, .call ha, s, _, h =>
    .read rfl (.read rfl (accepts_of_arguments ha (.ofCall _ s) [] h))

theorem accepts_of_items : ∀ {ls rest more}, Listed .rightBracket Expr.Written ls more rest →
    ∀ (items : List Expr) (outer : Slot) {d},
      Accepts (.filled (outer.fill (.array (items ++ more)))) rest d →
      Accepts (.slot (.item items outer)) ls d
  | _, _, _, .close hb, items, _, _, h => by
    rw [List.append_nil] at h
    exact accepts_slot_breaks rfl hb (.read rfl h)
  | _, _, _, .last hb hx hc, _, _, _, h => by
    apply accepts_slot_breaks rfl hb
    apply accepts_of_expression hx
    exact accepts_filled_breaks hc (.read rfl h)
  | _, _, _, .more hb hx hc hm, _, _, _, h => by
    rw [List.append_cons] at h
    apply accepts_slot_breaks rfl hb
    apply accepts_of_expression hx
    exact accepts_filled_breaks hc (.read rfl (accepts_of_items hm _ _ h))

theorem accepts_of_arguments : ∀ {ls rest more},
    Listed .rightParen (Argument Expr.Written) ls more rest →
    ∀ (p : ArgPlace) (args : List Arg) {d}, Accepts (p.closed (args ++ more)) rest d →
      Accepts (.slot (p.slot none args)) ls d
  | _, _, _, .close hb, p, args, _, h => by
    rw [List.append_nil] at h
    apply accepts_slot_breaks (p.allowsBreak_slot _ _) hb
    exact .read (step_slot_close (p.close?_end args)) h
  | _, _, _, .last hb hx hc, p, _, _, h => by
    apply accepts_slot_breaks (p.allowsBreak_slot _ _) hb
    apply accepts_of_argument hx
    exact accepts_filled_breaks hc (.read (step_filled_close (p.close?_end _)) h)
  | _, _, _, .more hb hx hc hm, p, _, _, h => by
    rw [List.append_cons] at h
    apply accepts_slot_breaks (p.allowsBreak_slot _ _) hb
    apply accepts_of_argument hx
    exact accepts_filled_breaks hc (.read rfl (accepts_of_arguments hm p _ h))

theorem accepts_of_argument : ∀ {ls rest a}, Argument Expr.Written ls a rest →
    ∀ {p : ArgPlace} {args : List Arg} {d},
      Accepts (.filled (.list (p.slot none (args ++ [a])))) rest d →
      Accepts (.slot (p.slot none args)) ls d
  | _, _, _, .plain he, p, _, _, h => by
    rw [← p.fill_slot] at h
    exact accepts_of_expression he h
  | _, _, _, .labelled he, p, args, _, h => by
    rw [← p.fill_slot] at h
    exact .read rfl (.read (p.step_label args _ _) (accepts_of_expression he h))

end

theorem token_of_endMember {m : OpenModel} {t : Token} {i : Nat} {s' : State}
    (h : endMember m ⟨t, i⟩ = .ok s') : t = .lineBreak ∨ t = .rightBrace := by
  simp only [endMember] at h
  split at h
  · exact .inl rfl
  · exact .inr rfl
  · cases h

theorem token_of_endDeclared {o : Owner} {t : Token} {i : Nat} {s' : State}
    (h : endDeclared o ⟨t, i⟩ = .ok s') : t = .atSign ∨ t = .lineBreak ∨ t = .rightBrace := by
  cases o with
  | model m => exact .inr (token_of_endMember h)
  | field f =>
    simp only [endDeclared] at h
    split at h
    · next ht => exact .inl ht
    · exact .inr (token_of_endMember h)

theorem accepts_of_path {o : Owner} {name path : String} {args : Option (List Arg)}
    (hp : Path name ls path ms) (ha : Arguments ms args rest)
    (h : Accepts (.declared (o.add path args)) rest d) : Accepts (.attributeArgs o name) ls d := by
  induction hp with
  | dot _ ih => exact .read rfl (.read rfl (ih ha h))
  | @last name ms =>
    cases ha with
    | some ha => exact .read rfl (accepts_of_arguments ha (.ofAttribute o name) [] h)
    | none =>
      obtain ⟨t, i, os, s', rfl, hs, hos⟩ := h.exists_step rfl
      rcases token_of_endDeclared hs with rfl | rfl | rfl <;> exact .read hs hos

theorem accepts_of_attributes {f : OpenField} {as : List Attribute}
    (has : Many (Attribute.Written .field) ls as rest)
    (h : Accepts (.declared (.model (f.closeWith as))) rest d) :
    Accepts (.declared (.field f)) ls d := by
  induction has generalizing f with
  | nil =>
    rw [OpenField.closeWith_nil] at h
    obtain ⟨t, i, os, s', rfl, hs, hos⟩ := h.exists_step rfl
    rcases token_of_endMember hs with rfl | rfl <;> exact .read hs hos
  | cons ha _ ih =>
    cases ha with
    | mk hp ha =>
      rw [← OpenField.closeWith_add] at h
      exact .read rfl (.read rfl (accepts_of_path hp ha (ih h)))

theorem accepts_of_modifier {f : OpenField} (hf : f.setModifier .required = f) {k : Modifier}
    (hk : k.Written ls rest) (h : Accepts (.declared (.field (f.setModifier k))) rest d) :
    Accepts (.modifier f) ls d := by
  cases hk with
  | optional => exact .read rfl h
  | list => exact .read rfl (.read rfl h)
  | required =>
    rw [hf] at h
    obtain ⟨t, i, os, s', rfl, hs, hos⟩ := h.exists_step rfl
    rcases token_of_endDeclared (o := .field f) hs with rfl | rfl | rfl <;> exact .read hs hos

theorem token_of_modify {f : OpenField} {t : Token} {i : Nat} {s' : State}
    (h : modify f ⟨t, i⟩ = .ok s') : t ≠ .leftParen := by
  rintro rfl
  have ht := token_of_endDeclared (o := .field f) (t := .leftParen) (i := i) h
  simp at ht

theorem accepts_of_typeArgs {f : OpenField} {args : Option (List Arg)} (ha : Arguments ls args rest)
    (h : Accepts (.modifier f) rest d) : Accepts (.typeArgs f) ls d := by
  cases ha with
  | some ha => exact .read rfl (accepts_of_arguments ha (.ofType f) [] h)
  | none =>
    obtain ⟨t, i, os, s', rfl, hs, hos⟩ := h.exists_step rfl
    have ht := token_of_modify hs
    apply Accepts.read _ hos
    rw [← hs]
    cases t <;> first | rfl | contradiction

theorem accepts_of_member {m : OpenModel} {x : Member} (hx : x.Written ls rest)
    (h : Accepts (.declared (.model (m.add x))) rest d) : Accepts (.members m) ls d := by
  cases hx with
  | blockAttribute ha =>
    cases ha with
    | mk hp ha =>
      exact .read rfl (.read rfl (accepts_of_path (o := .model m) hp ha h))
  | field hf =>
    cases hf with
    | @mk name line type _ _ _ _ _ _ _ _ ht hk has =>
      let f : OpenField := ⟨m, ⟨name, ⟨type, .required⟩, [], line⟩⟩
      have hmodifier := accepts_of_modifier (f := f) rfl hk (accepts_of_attributes has h)
      exact .read rfl (.read rfl (accepts_of_typeArgs ht hmodifier))

theorem accepts_of_body {P : List Lexeme → α → List Lexeme → Prop} (p : BodyPlace P)
    (hbreaks : ∀ xs i, step (p.opened xs) ⟨.lineBreak, i⟩ = .ok (p.opened xs))
    (hclose : ∀ xs i, step (p.opened xs) ⟨.rightBrace, i⟩ = .ok (p.closed xs))
    (hbreak : ∀ xs i, step (p.ended xs) ⟨.lineBreak, i⟩ = .ok (p.opened xs))
    (hend : ∀ xs i, step (p.ended xs) ⟨.rightBrace, i⟩ = .ok (p.closed xs))
    (hnext : ∀ {xs x ls rest}, P ls x rest → Accepts (p.ended (xs ++ [x])) rest d →
      Accepts (p.opened xs) ls d)
    {more : List α} (hm : Body P ls more rest) (xs : List α)
    (h : Accepts (p.closed (xs ++ more)) rest d) : Accepts (p.opened xs) ls d := by
  induction hm generalizing xs with
  | close hb =>
    rw [List.append_nil] at h
    exact accepts_breaks (hbreaks xs) hb (.read (hclose xs _) h)
  | last hb hx =>
    apply accepts_breaks (hbreaks xs) hb
    apply hnext hx
    exact .read (hend _ _) h
  | more hb hx _ ih =>
    rw [List.append_cons xs] at h
    apply accepts_breaks (hbreaks xs) hb
    apply hnext hx
    exact .read (hbreak _ _) (ih _ h)

theorem accepts_of_members {before : List Block} {name : String} {line : Nat} {xs : List Member}
    (hm : Body Member.Written ls xs rest)
    (h : Accepts (.top (before ++ [.model ⟨name, line, xs⟩])) rest d) :
    Accepts (.members ⟨before, ⟨name, line, []⟩⟩) ls d := by
  apply accepts_of_body (.members before name line) (fun _ _ => rfl) (fun _ _ => rfl)
    (fun _ _ => rfl) (fun _ _ => rfl) ?_ hm [] h
  intro xs x ls rest hx h
  exact accepts_of_member (m := ⟨before, ⟨name, line, xs⟩⟩) hx h

theorem accepts_of_entries {before : List Block} {name : String} {xs : List (String × Expr)}
    (hm : Body Entry ls xs rest)
    (h : Accepts (.top (before ++ [.source ⟨name, xs⟩])) rest d) :
    Accepts (.entries ⟨before, ⟨name, []⟩⟩) ls d := by
  apply accepts_of_body (.entries before name) (fun _ _ => rfl) (fun _ _ => rfl) (fun _ _ => rfl)
    (fun _ _ => rfl) ?_ hm [] h
  intro xs x ls rest hx h
  cases hx with
  | mk he => exact .read rfl (.read rfl (accepts_of_expression he h))

theorem accepts_of_balanced {before : List Block} {keyword name : String} {depth : Nat}
    (hb : Balanced ls rest) (h : Accepts (.otherBody before keyword name depth) rest d) :
    Accepts (.otherBody before keyword name depth) ls d := by
  induction hb generalizing depth with
  | nil => exact h
  | @other l ls rest ho hc _ ih =>
    apply Accepts.read _ (ih h)
    obtain ⟨t, i⟩ := l
    cases t <;> first | rfl | contradiction
  | braces _ _ ihi ih => exact .read rfl (ihi (.read rfl (ih h)))

theorem accepts_of_block {bs : List Block} {b : Block} (hb : b.Written ls rest)
    (h : Accepts (.top (bs ++ [b])) rest d) : Accepts (.top bs) ls d := by
  cases hb with
  | model hm => exact .read rfl (.read rfl (.read rfl (accepts_of_members hm h)))
  | source he => exact .read rfl (.read rfl (.read rfl (accepts_of_entries he h)))
  | @other keyword name i _ _ _ _ _ hm hd hb =>
    have hkeyword : step (.top bs) ⟨.word keyword, i⟩ = .ok (.otherName bs keyword) := by
      simp only [step, hm, hd, ↓reduceIte]
    exact .read hkeyword (.read rfl (.read rfl (accepts_of_balanced hb (.read rfl h))))

theorem accepts_of_blocks {cs : List Block} (bs : List Block) (h : Blocks ls cs) :
    Accepts (.top bs) ls ⟨bs ++ cs⟩ := by
  induction h generalizing bs with
  | done hb =>
    apply accepts_breaks (fun _ => rfl) hb
    rw [List.append_nil]
    exact accepts_nil_iff.2 rfl
  | @block _ _ _ b _ hb h _ ih =>
    apply accepts_breaks (fun _ => rfl) hb
    apply accepts_of_block h
    have hrest := ih (bs ++ [b])
    rwa [← List.append_cons] at hrest

theorem accepts_iff_written : Accepts (.top []) ls d ↔ d.Written ls := by
  constructor
  · exact written_of_accepts
  · intro h
    exact accepts_of_blocks [] h

end Reader

namespace Document

theorem Written.unique {ls : List Lexeme} {d d' : Document} (h : d.Written ls)
    (h' : d'.Written ls) : d = d' :=
  (Reader.accepts_iff_written.2 h).unique (Reader.accepts_iff_written.2 h')

/--
Lexemes with the end of the text behind them are read exactly when the grammar derives a document
from them, and then this is the document. The grammar derives at most one.
-/
theorem ofLexemes_eq_ok_iff {ls : List Lexeme} {e : Lexeme} (hls : Lexeme.NoEnd ls)
    (he : e.token = .endOfText) :
    (∀ d, ofLexemes (ls ++ [e]) = .ok d ↔ d.Written ls) ∧
      ∀ d d' : Document, d.Written ls → d'.Written ls → d = d' := by
  constructor
  · intro d
    rw [ofLexemes, Reader.run_eq_ok_iff hls he]
    exact Reader.accepts_iff_written
  · intro d d' h h'
    exact h.unique h'

/-- The lexemes of a skipped block with braces in it, and of a model with nested arguments. -/
def nestedLexemes : List Lexeme :=
  (([.word "enum", .word "Role", .leftBrace, .leftBrace, .comma, .rightBrace, .rightBrace,
      .lineBreak] : List Token).map (⟨·, 1⟩)) ++
    (([.word "model", .word "Post", .leftBrace, .lineBreak] : List Token).map (⟨·, 2⟩)) ++
    (([.doubleAtSign, .word "index", .leftParen, .leftBracket, .word "a", .comma, .rightBracket,
      .rightParen, .lineBreak] : List Token).map (⟨·, 3⟩)) ++
    (([.word "tag", .word "Tag", .leftParen, .number "1", .rightParen, .leftBracket, .rightBracket,
      .atSign, .word "db", .dot, .word "Set", .leftParen, .word "by", .colon, .word "f",
      .leftParen, .text "x", .lineBreak] : List Token).map (⟨·, 4⟩)) ++
    (([.rightParen, .comma, .rightParen, .rightBrace] : List Token).map (⟨·, 5⟩))

def nestedDocument : Document :=
  ⟨[.other "enum" "Role",
    .model ⟨"Post", 2,
      [.blockAttribute ⟨.block, "index", some [⟨none, .array [.ident "a"]⟩]⟩,
        .field ⟨"tag", ⟨"Tag", .list⟩,
          [⟨.field, "db.Set", some [⟨some "by", .call "f" [⟨none, .text "x"⟩]⟩]⟩], 4⟩]⟩]⟩

theorem ofLexemes_eq_ok_iff_nested :
    Lexeme.NoEnd nestedLexemes ∧
      ofLexemes (nestedLexemes ++ [⟨.endOfText, 5⟩]) = .ok nestedDocument ∧
      nestedDocument.Written nestedLexemes ∧
      ∀ d : Document, d.Written nestedLexemes → d = nestedDocument := by
  have hend : Lexeme.NoEnd nestedLexemes := by decide
  have hread : ofLexemes (nestedLexemes ++ [⟨.endOfText, 5⟩]) = .ok nestedDocument := by
    rfl
  obtain ⟨hiff, hunique⟩ := ofLexemes_eq_ok_iff hend (rfl : (⟨.endOfText, 5⟩ : Lexeme).token = _)
  have hwritten := (hiff _).1 hread
  exact ⟨hend, hread, hwritten, fun d hd => hunique d _ hd hwritten⟩

end Document

end EntityDiagram
