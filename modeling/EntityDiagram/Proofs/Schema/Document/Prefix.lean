import EntityDiagram.Proofs.Schema.Document.Run

namespace EntityDiagram

open Lexeme

namespace Reader

variable {s s' : State} {l e : Lexeme} {ls : List Lexeme} {d : Document} {x : SyntaxError}

/-- Some lexemes after the state complete a document. -/
def Completable (s : State) : Prop := ∃ us d, NoEnd us ∧ Accepts s us d

theorem Completable.after (t : Token) (hs : step s ⟨t, 1⟩ = .ok s') (ht : t ≠ .endOfText)
    (h : Completable s') : Completable s := by
  obtain ⟨us, d, hus, hd⟩ := h
  exact ⟨⟨t, 1⟩ :: us, d, NoEnd.cons_iff.2 ⟨ht, hus⟩, hd.read hs⟩

theorem completable_top (blocks : List Block) : Completable (.top blocks) :=
  ⟨[], ⟨blocks⟩, .nil, accepts_nil.2 rfl⟩

theorem completable_of_brace {blocks : List Block}
    (hs : step s ⟨.rightBrace, 1⟩ = .ok (.top blocks)) : Completable s :=
  .after .rightBrace hs nofun (completable_top blocks)

theorem completable_otherBody (before : List Block) (keyword name : String) (depth : Nat) :
    Completable (.otherBody before keyword name depth) := by
  induction depth with
  | zero => exact completable_of_brace rfl
  | succ depth ih => exact .after .rightBrace rfl nofun ih

theorem completable_declared (o : Owner) : Completable (.declared o) := by
  cases o with
  | field f => exact completable_of_brace rfl
  | model m => exact completable_of_brace rfl

theorem completable_attributeArgs (o : Owner) (name : String) :
    Completable (.attributeArgs o name) := by
  cases o with
  | field f => exact completable_of_brace rfl
  | model m => exact completable_of_brace rfl

/-- The lists around an expression are closed from the innermost one outwards. -/
theorem completable_fill (s : Slot) (v : Expr) : Completable (.filled (s.fill v)) := by
  induction s generalizing v with
  | entry s key => exact completable_of_brace rfl
  | typeArg f label => exact .after .rightParen rfl nofun (completable_of_brace rfl)
  | attributeArg o name args label =>
    exact .after .rightParen rfl nofun (completable_declared _)
  | item items outer ih => exact .after .rightBracket rfl nofun (ih _)
  | callArg name args label outer ih => exact .after .rightParen rfl nofun (ih _)

theorem completable_slot (s : Slot) : Completable (.slot s) :=
  .after (.number "0") rfl nofun (completable_fill s _)

theorem completable (s : State) : Completable s := by
  cases s with
  | top blocks => exact completable_top blocks
  | otherName before keyword =>
    apply Completable.after (.word "a") rfl nofun
    exact .after .leftBrace rfl nofun (completable_otherBody _ _ _ _)
  | otherOpen => exact .after .leftBrace rfl nofun (completable_otherBody _ _ _ _)
  | otherBody => exact completable_otherBody _ _ _ _
  | modelName =>
    apply Completable.after (.word "a") rfl nofun
    exact .after .leftBrace rfl nofun (completable_of_brace rfl)
  | modelOpen => exact .after .leftBrace rfl nofun (completable_of_brace rfl)
  | members => exact completable_of_brace rfl
  | fieldType => exact .after (.word "a") rfl nofun (completable_of_brace rfl)
  | typeArgs => exact completable_of_brace rfl
  | modifier => exact completable_of_brace rfl
  | listEnd => exact .after .rightBracket rfl nofun (completable_declared _)
  | declared => exact completable_declared _
  | attributeName => exact .after (.word "a") rfl nofun (completable_attributeArgs _ _)
  | attributeArgs => exact completable_attributeArgs _ _
  | attributePath => exact .after (.word "a") rfl nofun (completable_attributeArgs _ _)
  | sourceName =>
    apply Completable.after (.word "a") rfl nofun
    exact .after .leftBrace rfl nofun (completable_of_brace rfl)
  | sourceOpen => exact .after .leftBrace rfl nofun (completable_of_brace rfl)
  | entries => exact completable_of_brace rfl
  | entryEquals => exact .after .equals rfl nofun (completable_slot _)
  | slot s => exact completable_slot s
  | ident => exact .after .leftParen rfl nofun (completable_slot _)
  | filled f =>
    cases f with
    | entry s => exact completable_of_brace rfl
    | list s => exact .after .comma rfl nofun (completable_slot s)

/-- What the reader says of a lexeme that does not fit. -/
inductive Misfit (l : Lexeme) : SyntaxError → Prop
  | unexpected {expected} : Misfit l (.unexpected l.token l.line expected)
  | missingType {field line} : Misfit l (.missingType field line)

theorem misfit_of_unexpected {expected : Expected} (h : unexpected l expected = .error x) :
    Misfit l x := by
  cases h
  exact .unexpected

theorem misfit_of_endMember {m : OpenModel} (h : endMember m l = .error x) : Misfit l x := by
  rw [endMember] at h
  split at h
  · cases h
  · cases h
  · exact misfit_of_unexpected h

theorem misfit_of_endDeclared {o : Owner} (h : endDeclared o l = .error x) : Misfit l x := by
  cases o with
  | model m => exact misfit_of_endMember h
  | field f =>
    rw [endDeclared] at h
    split at h
    · cases h
    · exact misfit_of_endMember h

theorem misfit_of_modify {f : OpenField} (h : modify f l = .error x) : Misfit l x := by
  rw [modify] at h
  split at h
  · cases h
  · cases h
  · exact misfit_of_endDeclared h

theorem misfit_of_endValue {f : Filled} (h : endValue f l = .error x) : Misfit l x := by
  rw [endValue.eq_def] at h
  split at h
  · cases h
  · cases h
  · exact misfit_of_unexpected h
  · cases h
  · cases h
  · split at h
    · cases h
    · exact misfit_of_unexpected h

theorem misfit_of_step (h : step s l = .error x) : Misfit l x := by
  cases s with
  | otherName | otherOpen | modelName | modelOpen | listEnd | attributeName | attributePath
  | sourceName | sourceOpen | entryEquals =>
    rw [step] at h
    split at h
    · cases h
    · exact misfit_of_unexpected h
  | top blocks =>
    rw [step] at h
    split at h
    · cases h
    · split at h
      · cases h
      · split at h <;> cases h
    · exact misfit_of_unexpected h
  | otherBody before keyword name depth =>
    rw [step.eq_def] at h
    dsimp only at h
    split at h <;> cases h
  | members m =>
    rw [step] at h
    split at h
    · cases h
    · cases h
    · cases h
    · cases h
    · exact misfit_of_unexpected h
  | entries s =>
    rw [step] at h
    split at h
    · cases h
    · cases h
    · cases h
    · exact misfit_of_unexpected h
  | fieldType m name line =>
    rw [step] at h
    split at h
    · cases h
    · cases h
      exact .missingType
    · cases h
      exact .missingType
    · cases h
      exact .missingType
    · exact misfit_of_unexpected h
  | typeArgs f =>
    rw [step] at h
    split at h
    · cases h
    · exact misfit_of_modify h
  | modifier f => exact misfit_of_modify h
  | declared o => exact misfit_of_endDeclared h
  | attributeArgs o name =>
    rw [step] at h
    split at h
    · cases h
    · cases h
    · exact misfit_of_endDeclared h
  | slot s =>
    rw [step] at h
    split at h
    · split at h
      · cases h
      · exact misfit_of_unexpected h
    · cases h
    · cases h
    · cases h
    · cases h
    · split at h
      · cases h
      · exact misfit_of_unexpected h
  | ident name s =>
    rw [step] at h
    split at h
    · cases h
    · cases h
    · exact misfit_of_endValue h
  | filled f => exact misfit_of_endValue h

theorem finish_cases (s : State) :
    (∃ d, finish s = .ok d) ∨ finish s = .error .unexpectedEnd ∨
      ∃ field line, finish s = .error (.missingType field line) := by
  cases s with
  | top blocks => exact .inl ⟨_, rfl⟩
  | fieldType m name line => exact .inr (.inr ⟨_, _, rfl⟩)
  | _ => exact .inr (.inl rfl)

theorem finish_error_iff :
    (finish s = .error .unexpectedEnd ∨
      ∃ field line, finish s = .error (.missingType field line)) ↔ ∀ d, finish s ≠ .ok d := by
  rcases finish_cases s with ⟨d, h⟩ | h | ⟨field, line, h⟩
  · simp [h]
  · simp [h]
  · simp [h]

theorem finish_ne_unexpected {found : Token} {line : Nat} {expected : Expected} :
    finish s ≠ .error (.unexpected found line expected) := by
  intro h
  rcases finish_cases s with ⟨d, hs⟩ | hs | ⟨field, line, hs⟩
  · cases hs.symm.trans h
  · cases hs.symm.trans h
  · cases hs.symm.trans h

end Reader

namespace Document

/-- The lexemes can be continued to those of a document. -/
def Viable (e : Lexeme) (ts : List Lexeme) : Prop :=
  ∃ us d, NoEnd us ∧ ofLexemes (ts ++ us ++ [e]) = .ok d

variable {ts : List Lexeme} {e : Lexeme} {s : Reader.State} {x : SyntaxError}

theorem viable_of_follow (h : Reader.follow (.top []) ts = .ok s) (hts : NoEnd ts)
    (he : e.token = .endOfText) : Viable e ts := by
  obtain ⟨us, d, hus, hd⟩ := Reader.completable s
  refine ⟨us, d, hus, ?_⟩
  rw [ofLexemes, Reader.run_eq_ok_iff (NoEnd.append_iff.2 ⟨hts, hus⟩) he]
  exact (Reader.accepts_append h).2 hd

theorem ofLexemes_of_follow_error (h : Reader.follow (.top []) ts = .error x) (hts : NoEnd ts)
    (us : List Lexeme) : ofLexemes (ts ++ us) = .error x := by
  obtain ⟨_, _, _, _, _, _, _, hrun⟩ := Reader.exists_of_follow_error h hts
  exact (hrun us).1

/-- A run that fails within the lexemes fails at the first with which no document goes on. -/
theorem exists_misfit (h : Reader.follow (.top []) ts = .error x) (hts : NoEnd ts)
    (he : e.token = .endOfText) :
    ∃ ps l rest, ts = ps ++ l :: rest ∧ Reader.stop (.top []) (ts ++ [e]) = ps.length ∧
      Reader.Misfit l x ∧ Viable e ps ∧ ∀ us, ofLexemes (ps ++ [l] ++ us) = .error x := by
  obtain ⟨ps, s, l, rest, rfl, hps, hl, hrun⟩ := Reader.exists_of_follow_error h hts
  obtain ⟨hnps, hnl⟩ := NoEnd.append_iff.1 hts
  have hfollow : Reader.follow (.top []) (ps ++ [l]) = .error x := by
    rw [Reader.follow_append hps, Reader.follow, hl]
  have hnend : NoEnd (ps ++ [l]) :=
    NoEnd.append_iff.2 ⟨hnps, NoEnd.cons_iff.2 ⟨(NoEnd.cons_iff.1 hnl).1, .nil⟩⟩
  exact ⟨ps, l, rest, rfl, (hrun [e]).2, Reader.misfit_of_step hl, viable_of_follow hps hnps he,
    ofLexemes_of_follow_error hfollow hnend⟩

/--
An error at the end of the text means that lexemes are missing there. Any other stands at the
first lexeme with which no document goes on.
-/
theorem ofLexemes_error_at {answer : Except SyntaxError Document} {i : Nat} (hts : NoEnd ts)
    (he : e.token = .endOfText) (ha : ofLexemes (ts ++ [e]) = answer)
    (hi : Reader.stop (.top []) (ts ++ [e]) = i) :
    ((answer = .error .unexpectedEnd ∨
        i = ts.length ∧ ∃ field line, answer = .error (.missingType field line)) ↔
      (∀ d, answer ≠ .ok d) ∧ Viable e ts) ∧
    (∀ x, answer = .error x → i < ts.length →
      Viable e (ts.take i) ∧ ∀ us d, ofLexemes (ts.take (i + 1) ++ us) ≠ .ok d) ∧
    ∀ found line expected, answer = .error (.unexpected found line expected) →
      ts[i]? = some ⟨found, line⟩ := by
  cases hf : Reader.follow (.top []) ts with
  | ok s =>
    -- All lexemes are read, and the answer is that of the end of the text.
    have hviable := viable_of_follow hf hts he
    rw [Reader.stop_of_follow hf hts he] at hi
    rw [ofLexemes, Reader.run_of_follow hf hts he] at ha
    subst ha hi
    refine ⟨?_, ?_, ?_⟩
    · rw [eq_self, true_and, Reader.finish_error_iff, and_iff_left hviable]
    · intro x _ h
      exact (Nat.lt_irrefl _ h).elim
    · intro found line expected h
      exact (Reader.finish_ne_unexpected h).elim
  | error x =>
    have hall := ofLexemes_of_follow_error hf hts
    obtain ⟨ps, l, rest, rfl, hstop, hl, hviable, hrefused⟩ := exists_misfit hf hts he
    rw [hstop] at hi
    rw [hall] at ha
    subst ha hi
    refine ⟨⟨?_, ?_⟩, ?_, ?_⟩
    · rintro (h | ⟨h, -⟩)
      · cases h
        cases hl
      · simp at h
    · rintro ⟨-, us, d, -, hd⟩
      rw [List.append_assoc, hall] at hd
      cases hd
    · intro y _ _
      rw [List.take_left, List.append_cons, List.take_left' (by simp)]
      apply And.intro hviable
      intro us d hd
      cases (hrefused us).symm.trans hd
    · intro found line expected h
      cases h
      cases hl
      rw [List.getElem?_append_right (Nat.le_refl _), Nat.sub_self]
      rfl

/-- A field with an attribute whose labelled argument has a word too many. -/
def wordyArgument : List Lexeme :=
  (([.word "model", .word "Post", .leftBrace, .lineBreak] : List Token).map (⟨·, 1⟩)) ++
    (([.word "tag", .word "Tag", .question, .atSign, .word "by", .leftParen, .word "on", .colon,
      .word "id", .word "name", .rightParen, .lineBreak] : List Token).map (⟨·, 2⟩))

theorem ofLexemes_error_at_word :
    NoEnd wordyArgument ∧
      ofLexemes (wordyArgument ++ [⟨.endOfText, 3⟩]) =
        .error (.unexpected (.word "name") 2 .argEnd) ∧
      Viable ⟨.endOfText, 3⟩ (wordyArgument.take 13) ∧
      (∀ us d, ofLexemes (wordyArgument.take 14 ++ us) ≠ .ok d) ∧
      wordyArgument[13]? = some ⟨.word "name", 2⟩ := by
  have hend : NoEnd wordyArgument := by decide
  have hanswer : ofLexemes (wordyArgument ++ [⟨.endOfText, 3⟩]) =
      .error (.unexpected (.word "name") 2 .argEnd) := rfl
  have hstop : Reader.stop (.top []) (wordyArgument ++ [⟨.endOfText, 3⟩]) = 13 := rfl
  obtain ⟨-, hinside, hfound⟩ := ofLexemes_error_at hend rfl hanswer hstop
  obtain ⟨hviable, hrefused⟩ := hinside _ rfl (by decide)
  exact ⟨hend, hanswer, hviable, hrefused, hfound _ _ _ rfl⟩

end Document

end EntityDiagram
