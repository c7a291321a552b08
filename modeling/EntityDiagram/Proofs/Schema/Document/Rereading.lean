import EntityDiagram.Proofs.Schema.Document.Rendering

namespace EntityDiagram

open Lexeme Grammar

/-- The text of a model whose body has the member's text as its only line. -/
def modelText (member : String) : String := "model M \x7b\n" ++ member ++ "\n\x7d"

theorem inline_modelHead :
    Inline Anything "model M \x7b".toList [.word "model", .word "M", .leftBrace] := by
  have hmodel : Text.IsWord "model" :=
    ⟨'m', "odel".toList, rfl, by decide, List.all_eq_true.1 (by decide)⟩
  have hname : Text.IsWord "M" := ⟨'M', [], rfl, by decide, nofun⟩
  have hbrace := Inline.space.append (Inline.mark (c := '{') rfl nofun nofun) (fun _ _ => trivial)
  have hrest := Inline.space.append ((Inline.word hname).append hbrace
    (fun _ _ => wordStops_cons (by decide))) (fun _ _ => trivial)
  exact (Inline.word hmodel).append hrest (fun _ _ => wordStops_cons (by decide))

theorem layout_modelEnd (before : List Char) :
    Layout before ['\n', '}'] [⟨.lineBreak, 1 + before.count '\n'⟩,
      ⟨.rightBrace, 2 + before.count '\n'⟩, ⟨.endOfText, 2 + before.count '\n'⟩] := by
  have hend : Layout (before ++ ['\n'] ++ ['}']) [] _ := .ending .nil nofun
  have hbrace := Layout.of_mark (c := '}') rfl (by decide) hend
  have hbreak := Layout.of_mark (c := '\n') rfl (by decide) hbrace
  have hcount : 1 + (List.count '\n' before + 1) = 2 + List.count '\n' before := by omega
  simpa [List.count_append, hcount] using hbreak

def modelLexemes (ts : List Token) : List Lexeme :=
  onLine 1 [.word "model", .word "M", .leftBrace, .lineBreak] ++
    (onLine 2 ts ++ [⟨.lineBreak, 2⟩, ⟨.rightBrace, 3⟩])

theorem layout_modelText {member : String} {ts : List Token} (h : Inline Stops member.toList ts) :
    Layout [] (modelText member).toList (modelLexemes ts ++ [⟨.endOfText, 3⟩]) := by
  have hcount : ("model M \x7b\n".toList ++ member.toList).count '\n' = 1 := by
    rw [List.count_append, List.count_eq_zero.2 h.lineFeed_notMem]
    decide
  have hend := layout_modelEnd ("model M \x7b\n".toList ++ member.toList)
  rw [hcount] at hend
  have hmember := h.layout (stops_cons (by decide)) hend
  have hbreak : Layout ([] ++ "model M \x7b".toList) _ _ :=
    .of_mark (c := '\n') rfl (by decide) hmember
  rw [modelText, String.toList_append, String.toList_append, List.append_assoc, modelLexemes,
    List.append_assoc, List.append_assoc]
  exact inline_modelHead.layout trivial hbreak

theorem mergeBreaks_modelLexemes {ts : List Token} (hne : ts ≠ []) (hts : .lineBreak ∉ ts)
    (e : Lexeme) (he : e.token ≠ .lineBreak) :
    mergeBreaks true (modelLexemes ts ++ [e]) = modelLexemes ts ++ [e] := by
  have hline : ∀ l ∈ onLine 2 ts, l.token ≠ .lineBreak := by
    intro l hl he
    exact hts (he ▸ token_mem_of_mem_onLine hl)
  have hrest : mergeBreaks true (onLine 2 ts ++ [⟨.lineBreak, 2⟩, ⟨.rightBrace, 3⟩, e]) =
      onLine 2 ts ++ [⟨.lineBreak, 2⟩, ⟨.rightBrace, 3⟩, e] := by
    have hempty : (onLine 2 ts).isEmpty = false := by
      cases ts with
      | nil => exact (hne rfl).elim
      | cons => rfl
    rw [mergeBreaks_append hline, hempty]
    simp [mergeBreaks, he]
  rw [modelLexemes, List.append_assoc, List.append_assoc]
  simp only [onLine_cons, onLine_nil, List.cons_append, List.nil_append, mergeBreaks, reduceCtorEq,
    ↓reduceIte, hrest, Bool.false_eq_true]

theorem noEnd_modelLexemes {ts : List Token} (hts : .endOfText ∉ ts) : NoEnd (modelLexemes ts) := by
  have hline : NoEnd (onLine 2 ts) := by
    intro l hl he
    exact hts (he ▸ token_mem_of_mem_onLine hl)
  exact NoEnd.append_iff.2 ⟨by decide, NoEnd.append_iff.2 ⟨hline, by decide⟩⟩

theorem Document.written_modelLexemes {ts : List Token} {x : Member}
    (h : ∀ rest, x.Written (onLine 2 ts ++ rest) rest) :
    Document.Written ⟨[.model ⟨"M", 1, [x]⟩]⟩ (modelLexemes ts) := by
  have hx : x.Written (onLine 2 ts ++ [⟨.lineBreak, 2⟩, ⟨.rightBrace, 3⟩]) _ := h _
  exact .block .none (.model (.more (.more .none) hx (.close .none))) (.done .none)

theorem Document.parse_modelText {member : String} {x : Member}
    (h : Reads 2 Stops member.toList (Member.Written · x ·)) :
    parse (modelText member) = .ok ⟨[.model ⟨"M", 1, [x]⟩]⟩ := by
  obtain ⟨ts, hts, hx⟩ := h
  have hne : ts ≠ [] := by
    rintro rfl
    cases hx [] with
    | field h => cases h
    | blockAttribute h => cases h
  have htext := ofText_of_layout (layout_modelText hts)
  rw [mergeBreaks_modelLexemes hne hts.lineBreak_notMem ⟨.endOfText, 3⟩ nofun] at htext
  rw [parse, htext]
  apply (Reader.run_eq_ok_iff (noEnd_modelLexemes hts.endOfText_notMem) rfl).2
  exact Reader.accepts_iff_written.2 (written_modelLexemes hx)

theorem Grammar.Many.exists_of_mem {α : Type} {P : List Lexeme → α → List Lexeme → Prop}
    {ls rest : List Lexeme} {xs : List α} (h : Many P ls xs rest) :
    ∀ x ∈ xs, ∃ ms ns, P ms x ns := by
  induction h with
  | nil => nofun
  | cons hx _ ih => exact List.forall_mem_cons.2 ⟨⟨_, _, hx⟩, ih⟩

theorem Grammar.Body.exists_of_mem {α : Type} {P : List Lexeme → α → List Lexeme → Prop}
    {ls rest : List Lexeme} {xs : List α} (h : Body P ls xs rest) :
    ∀ x ∈ xs, ∃ ms ns, P ms x ns := by
  induction h with
  | close _ => nofun
  | last _ hx => exact List.forall_mem_cons.2 ⟨⟨_, _, hx⟩, nofun⟩
  | more _ hx _ ih => exact List.forall_mem_cons.2 ⟨⟨_, _, hx⟩, ih⟩

theorem Grammar.Blocks.exists_of_mem {ls : List Lexeme} {bs : List Block} (h : Blocks ls bs) :
    ∀ b ∈ bs, ∃ ms ns, b.Written ms ns := by
  induction h with
  | done _ => nofun
  | block _ hb _ ih => exact List.forall_mem_cons.2 ⟨⟨_, _, hb⟩, ih⟩

theorem Attribute.Written.scope_eq {scope : Scope} {a : Attribute} {ls rest : List Lexeme}
    (h : Attribute.Written scope ls a rest) : a.scope = scope := by
  cases h
  rfl

theorem FieldDecl.Written.scope_eq {f : FieldDecl} {ls rest : List Lexeme}
    (h : f.Written ls rest) : ∀ a ∈ f.attributes, a.scope = .field := by
  cases h with
  | mk _ _ hattributes =>
    intro a ha
    obtain ⟨_, _, h⟩ := hattributes.exists_of_mem a ha
    exact h.scope_eq

namespace Document

variable {text : String} {d : Document} {m : ModelDecl} {x : Member}

/-- A member that was read is well spelled, and the grammar has a way to write it. -/
theorem spelled_written_of_parse (hd : parse text = .ok d) (hm : .model m ∈ d.blocks)
    (hx : x ∈ m.members) : x.Spelled ∧ ∃ ls rest, x.Written ls rest := by
  constructor
  · have hspelled : m.Spelled := parse_spelled hd _ hm
    exact hspelled.members x hx
  · rw [parse] at hd
    split at hd
    · obtain ⟨ms, hms⟩ := Reader.exists_accepts_of_run hd
      obtain ⟨_, _, hb⟩ := (Reader.accepts_iff_written.1 hms).exists_of_mem _ hm
      cases hb with
      | model hbody => exact hbody.exists_of_mem x hx
    · cases hd

theorem kept_iff {texts : List String} :
    (∀ s ∈ texts, Text.rereadText s = s) ↔ ∀ s ∈ texts, ∀ c ∈ s.toList, Text.Kept c :=
  forall₂_congr fun _ _ => Text.rereadText_eq_iff

/--
Each field and each attribute of a model that was read is read again from its text, and it is the
same, but for its line, exactly when no quoted text in it has a character that is lost.
-/
theorem parse_rendered (hd : parse text = .ok d) (hm : .model m ∈ d.blocks) :
    (∀ f, .field f ∈ m.members →
      ∃ g, parse (modelText f.render) = .ok ⟨[.model ⟨"M", 1, [.field g]⟩]⟩ ∧
        ({ g with line := f.line } = f ↔ ∀ s ∈ f.texts, ∀ c ∈ s.toList, Text.Kept c)) ∧
    ∀ a, .blockAttribute a ∈ m.members →
      ∃ b, parse (modelText a.render) = .ok ⟨[.model ⟨"M", 1, [.blockAttribute b]⟩]⟩ ∧
        (b = a ↔ ∀ s ∈ a.texts, ∀ c ∈ s.toList, Text.Kept c) := by
  constructor
  · intro f hf
    obtain ⟨hspelled, ls, rest, hwritten⟩ := spelled_written_of_parse hd hm hf
    cases hwritten with
    | field hwritten =>
      have hreads := reads_field (n := 2) hspelled hwritten.scope_eq
      refine ⟨_, parse_modelText (hreads.imp .field), ?_⟩
      rw [← kept_iff]
      exact FieldDecl.mapTexts_eq_iff (f := Text.rereadText) (d := f)
  · intro a ha
    obtain ⟨hspelled, ls, rest, hwritten⟩ := spelled_written_of_parse hd hm ha
    cases hwritten with
    | blockAttribute hwritten =>
      have hreads := reads_attribute (n := 2) hspelled
      rw [hwritten.scope_eq] at hreads
      refine ⟨_, parse_modelText (hreads.imp .blockAttribute), ?_⟩
      rw [← kept_iff]
      exact Attribute.mapTexts_eq_iff

/-- The text of a model with a control character in a nested text. -/
def postText : String :=
  "model Post \x7b\n  title String? @db.Text(f([\"a\\t\x01\"]))\n  @@map(name: \"b\\\"\")\n\x7d\n"

def postTitle : FieldDecl :=
  ⟨"title", ⟨"String", .optional⟩,
    [⟨.field, "db.Text", some [⟨none, .call "f" [⟨none, .array [.text "a\t\x01"]⟩]⟩]⟩], 2⟩

def postMap : Attribute := ⟨.block, "map", some [⟨some "name", .text "b\""⟩]⟩

def postModel : ModelDecl := ⟨"Post", 1, [.field postTitle, .blockAttribute postMap]⟩

set_option maxRecDepth 10000 in
theorem parse_postText : parse postText = .ok ⟨[.model postModel]⟩ := by
  have h : (parse postText).toOption = some ⟨[.model postModel]⟩ := by decide +kernel
  cases hd : parse postText with
  | ok d =>
    rw [hd] at h
    exact congrArg Except.ok (Option.some.inj h)
  | error e =>
    rw [hd] at h
    cases h

theorem parse_rendered_post :
    parse postText = .ok ⟨[.model postModel]⟩ ∧
      (∃ g, parse (modelText postTitle.render) = .ok ⟨[.model ⟨"M", 1, [.field g]⟩]⟩ ∧
        { g with line := postTitle.line } ≠ postTitle) ∧
      parse (modelText postMap.render) = .ok ⟨[.model ⟨"M", 1, [.blockAttribute postMap]⟩]⟩ := by
  obtain ⟨hfield, hattribute⟩ := parse_rendered parse_postText List.mem_cons_self
  obtain ⟨g, hg, hgf⟩ := hfield postTitle List.mem_cons_self
  obtain ⟨b, hb, hba⟩ := hattribute postMap (List.mem_cons_of_mem _ List.mem_cons_self)
  have hlost : ¬∀ s ∈ postTitle.texts, ∀ c ∈ s.toList, Text.Kept c := by
    intro h
    have hcontrol : ¬Text.Kept '\x01' := by decide +kernel
    exact hcontrol (h "a\t\x01" List.mem_cons_self '\x01' (by decide))
  have hkept : ∀ s ∈ postMap.texts, ∀ c ∈ s.toList, Text.Kept c := by
    intro s hs
    obtain rfl := List.mem_singleton.1 hs
    have hb : Text.Kept 'b' := by decide +kernel
    have hquote : Text.Kept '"' := by decide +kernel
    exact List.forall_mem_cons.2 ⟨hb, List.forall_mem_singleton.2 hquote⟩
  rw [hba.2 hkept] at hb
  exact ⟨parse_postText, ⟨g, hg, fun h => hlost (hgf.1 h)⟩, hb⟩

end Document

end EntityDiagram
