import EntityDiagram.Proofs.Schema.Token.Spelling
import EntityDiagram.Schema.Document.Reader

namespace EntityDiagram

/-- Words with dots between them. -/
inductive Text.IsPath : String → Prop
  | word {s : String} (h : IsWord s) : IsPath s
  | dot {s t : String} (hs : IsPath s) (ht : IsWord t) : IsPath (s ++ "." ++ t)

open Text

inductive Expr.Spelled : Expr → Prop
  | ident {name : String} (h : IsWord name) : Spelled (.ident name)
  | text {content : String} : Spelled (.text content)
  | number {digits : String} (h : IsNumber digits) : Spelled (.number digits)
  | array {items : List Expr} (h : ∀ e ∈ items, Spelled e) : Spelled (.array items)
  | call {name : String} {args : List (Labelled Expr)} (hn : IsWord name)
      (hl : ∀ a ∈ args, ∀ label ∈ a.label, IsWord label) (ha : ∀ a ∈ args, Spelled a.value) :
      Spelled (.call name args)

def ArgsSpelled (args : List Arg) : Prop :=
  ∀ a ∈ args, (∀ label ∈ a.label, IsWord label) ∧ a.value.Spelled

structure Attribute.Spelled (a : Attribute) : Prop where
  name : IsPath a.name
  args : ∀ args ∈ a.args, ArgsSpelled args

structure FieldDecl.Spelled (f : FieldDecl) : Prop where
  name : IsWord f.name
  type : IsWord f.type.name
  attributes : ∀ a ∈ f.attributes, a.Spelled

def Member.Spelled : Member → Prop
  | .field f => f.Spelled
  | .blockAttribute a => a.Spelled

structure ModelDecl.Spelled (d : ModelDecl) : Prop where
  name : IsWord d.name
  members : ∀ x ∈ d.members, x.Spelled

structure SourceDecl.Spelled (d : SourceDecl) : Prop where
  name : IsWord d.name
  entries : ∀ e ∈ d.entries, IsWord e.1 ∧ e.2.Spelled

def Block.Spelled : Block → Prop
  | .model d => d.Spelled
  | .source d => d.Spelled
  | .other keyword name => IsWord keyword ∧ IsWord name

def BlocksSpelled (bs : List Block) : Prop := ∀ b ∈ bs, b.Spelled

def Document.Spelled (d : Document) : Prop := BlocksSpelled d.blocks

namespace Reader

structure OpenModel.Spelled (m : OpenModel) : Prop where
  before : BlocksSpelled m.before
  decl : m.decl.Spelled

structure OpenField.Spelled (f : OpenField) : Prop where
  model : f.model.Spelled
  decl : f.decl.Spelled

structure OpenSource.Spelled (s : OpenSource) : Prop where
  before : BlocksSpelled s.before
  decl : s.decl.Spelled

def Owner.Spelled : Owner → Prop
  | .field f => f.Spelled
  | .model m => m.Spelled

def Slot.Spelled : Slot → Prop
  | .entry s key => s.Spelled ∧ IsWord key
  | .typeArg f label => f.Spelled ∧ ∀ l ∈ label, IsWord l
  | .attributeArg o name args label =>
    o.Spelled ∧ IsPath name ∧ ArgsSpelled args ∧ ∀ l ∈ label, IsWord l
  | .item items outer => (∀ e ∈ items, e.Spelled) ∧ outer.Spelled
  | .callArg name args label outer =>
    IsWord name ∧ ArgsSpelled args ∧ (∀ l ∈ label, IsWord l) ∧ outer.Spelled

def Filled.Spelled : Filled → Prop
  | .entry s => s.Spelled
  | .list s => s.Spelled

def State.Spelled : State → Prop
  | .top blocks => BlocksSpelled blocks
  | .otherName before keyword => BlocksSpelled before ∧ IsWord keyword
  | .otherOpen before keyword name | .otherBody before keyword name _ =>
    BlocksSpelled before ∧ IsWord keyword ∧ IsWord name
  | .modelName before | .sourceName before => BlocksSpelled before
  | .modelOpen before name _ | .sourceOpen before name => BlocksSpelled before ∧ IsWord name
  | .members m => m.Spelled
  | .fieldType m name _ => m.Spelled ∧ IsWord name
  | .typeArgs f | .modifier f | .listEnd f => f.Spelled
  | .declared o | .attributeName o => o.Spelled
  | .attributeArgs o name | .attributePath o name => o.Spelled ∧ IsPath name
  | .entries s => s.Spelled
  | .entryEquals s key => s.Spelled ∧ IsWord key
  | .slot s => s.Spelled
  | .ident name s => IsWord name ∧ s.Spelled
  | .filled f => f.Spelled

theorem spelled_append {α : Type} {p : α → Prop} {xs : List α} {x : α} (hs : ∀ y ∈ xs, p y)
    (hx : p x) : ∀ y ∈ xs ++ [x], p y := by
  intro y hy
  rcases List.mem_append.1 hy with hy | hy
  · exact hs y hy
  · rw [List.mem_singleton.1 hy]
    exact hx

theorem OpenModel.Spelled.close {m : OpenModel} (h : m.Spelled) : m.close.Spelled :=
  spelled_append h.before h.decl

theorem OpenModel.Spelled.add {m : OpenModel} (h : m.Spelled) {x : Member} (hx : x.Spelled) :
    (m.add x).Spelled :=
  ⟨h.before, h.decl.name, spelled_append h.decl.members hx⟩

theorem OpenField.Spelled.close {f : OpenField} (h : f.Spelled) : f.close.Spelled :=
  h.model.add (x := .field f.decl) h.decl

theorem OpenField.Spelled.setModifier {f : OpenField} (h : f.Spelled) (k : Modifier) :
    (f.setModifier k).Spelled :=
  ⟨h.model, h.decl.name, h.decl.type, h.decl.attributes⟩

theorem OpenSource.Spelled.close {s : OpenSource} (h : s.Spelled) : s.close.Spelled :=
  spelled_append h.before h.decl

theorem OpenSource.Spelled.add {s : OpenSource} (h : s.Spelled) {key : String} {e : Expr}
    (hk : IsWord key) (he : e.Spelled) : (s.add key e).Spelled :=
  ⟨h.before, h.decl.name, spelled_append h.decl.entries ⟨hk, he⟩⟩

theorem Owner.Spelled.add {o : Owner} (h : o.Spelled) {name : String} {args : Option (List Arg)}
    (hn : IsPath name) (ha : ∀ as ∈ args, ArgsSpelled as) : (o.add name args).Spelled := by
  cases o with
  | field f => exact ⟨h.model, h.decl.name, h.decl.type, spelled_append h.decl.attributes ⟨hn, ha⟩⟩
  | model m => exact OpenModel.Spelled.add h (x := .blockAttribute _) ⟨hn, ha⟩

theorem label_none_spelled : ∀ l ∈ (none : Option String), IsWord l := nofun

theorem Slot.Spelled.fill {s : Slot} (h : s.Spelled) {e : Expr} (he : e.Spelled) :
    (s.fill e).Spelled := by
  cases s with
  | entry s key => exact h.1.add h.2 he
  | typeArg f label => exact ⟨h.1, label_none_spelled⟩
  | attributeArg o name args label =>
    obtain ⟨ho, hn, ha, hl⟩ := h
    exact ⟨ho, hn, spelled_append ha ⟨hl, he⟩, label_none_spelled⟩
  | item items outer => exact ⟨spelled_append h.1 he, h.2⟩
  | callArg name args label outer =>
    obtain ⟨hn, ha, hl, ho⟩ := h
    exact ⟨hn, spelled_append ha ⟨hl, he⟩, label_none_spelled, ho⟩

theorem Slot.Spelled.close? {s : Slot} (h : s.Spelled) {t : Token} {state : State}
    (hs : s.close? t = some state) : state.Spelled := by
  simp only [Slot.close?] at hs
  split at hs <;> cases hs
  · exact h.1
  · next o name args =>
    obtain ⟨ho, hn, ha, _⟩ := h
    refine ho.add hn fun as has => ?_
    cases has
    exact ha
  · exact h.2.fill (.array h.1)
  · obtain ⟨hn, ha, _, ho⟩ := h
    exact ho.fill (.call hn (fun a hm => (ha a hm).1) (fun a hm => (ha a hm).2))

theorem Slot.Spelled.label? {s s' : Slot} (h : s.Spelled) {l : String} (hl : IsWord l)
    (hs : s.label? l = some s') : s'.Spelled := by
  have hl : ∀ k ∈ some l, IsWord k := fun k hk => Option.some.inj hk ▸ hl
  simp only [Slot.label?] at hs
  split at hs <;> cases hs
  · exact ⟨h.1, hl⟩
  · exact ⟨h.1, h.2.1, h.2.2.1, hl⟩
  · exact ⟨h.1, h.2.1, hl, h.2.2.2⟩

theorem endMember_spelled {m : OpenModel} (h : m.Spelled) {l : Lexeme} {state : State}
    (hs : endMember m l = .ok state) : state.Spelled := by
  rw [endMember] at hs
  split at hs <;> cases hs
  · exact h
  · exact h.close

theorem endDeclared_spelled {o : Owner} (h : o.Spelled) {l : Lexeme} {state : State}
    (hs : endDeclared o l = .ok state) : state.Spelled := by
  simp only [endDeclared] at hs
  split at hs
  · exact endMember_spelled h hs
  · split at hs
    · cases hs
      exact h
    · exact endMember_spelled (OpenField.Spelled.close h) hs

theorem modify_spelled {f : OpenField} (h : f.Spelled) {l : Lexeme} {state : State}
    (hs : modify f l = .ok state) : state.Spelled := by
  rw [modify] at hs
  split at hs
  · cases hs
    exact h.setModifier _
  · cases hs
    exact h
  · exact endDeclared_spelled (o := .field f) h hs

theorem endValue_spelled {f : Filled} (h : f.Spelled) {l : Lexeme} {state : State}
    (hs : endValue f l = .ok state) : state.Spelled := by
  simp only [endValue] at hs
  split at hs
  · cases hs
    exact h
  · cases hs
    exact OpenSource.Spelled.close h
  · cases hs
  · cases hs
    exact h
  · cases hs
    exact h
  · split at hs
    · cases hs
      exact Slot.Spelled.close? h ‹_›
    · cases hs

theorem isWord_of_token {l : Lexeme} (h : l.token.Spelled) {name : String}
    (he : l.token = .word name) : IsWord name := by
  rw [he] at h
  exact h

theorem isNumber_of_token {l : Lexeme} (h : l.token.Spelled) {digits : String}
    (he : l.token = .number digits) : IsNumber digits := by
  rw [he] at h
  exact h

theorem slot_step_spelled {s : Slot} (h : s.Spelled) {l : Lexeme} (hl : l.token.Spelled)
    {state : State} (hs : step (.slot s) l = .ok state) : state.Spelled := by
  simp only [step] at hs
  split at hs
  · split at hs <;> cases hs
    exact h
  · next name he =>
    cases hs
    exact ⟨isWord_of_token hl he, h⟩
  · cases hs
    exact h.fill .text
  · next digits he =>
    cases hs
    exact h.fill (.number (isNumber_of_token hl he))
  · cases hs
    exact ⟨List.forall_mem_nil _, h⟩
  · split at hs <;> cases hs
    exact h.close? ‹_›

theorem ident_step_spelled {name : String} (hn : IsWord name) {s : Slot} (h : s.Spelled)
    {l : Lexeme} {state : State} (hs : step (.ident name s) l = .ok state) : state.Spelled := by
  simp only [step] at hs
  split at hs
  · cases hs
    exact ⟨hn, List.forall_mem_nil _, label_none_spelled, h⟩
  · next labelled _ hlabel =>
    cases hs
    exact h.label? hn hlabel
  · exact endValue_spelled (h.fill (.ident hn)) hs

theorem step_spelled {s s' : State} (h : s.Spelled) {l : Lexeme} (hl : l.token.Spelled)
    (hs : step s l = .ok s') : s'.Spelled := by
  cases s with
  | top blocks =>
    simp only [step] at hs
    split at hs
    · cases hs
      exact h
    · next name he =>
      split at hs
      · cases hs
        exact h
      · split at hs <;> cases hs
        · exact h
        · exact ⟨h, isWord_of_token hl he⟩
    · cases hs
  | otherName before keyword =>
    simp only [step] at hs
    split at hs <;> cases hs
    exact ⟨h.1, h.2, isWord_of_token hl ‹_›⟩
  | otherOpen before keyword name =>
    simp only [step] at hs
    split at hs <;> cases hs
    exact h
  | otherBody before keyword name depth =>
    simp only [step] at hs
    split at hs <;> cases hs
    · exact h
    · exact spelled_append h.1 h.2
    · exact h
    · exact h
  | modelName before =>
    simp only [step] at hs
    split at hs <;> cases hs
    exact ⟨h, isWord_of_token hl ‹_›⟩
  | modelOpen before name line =>
    simp only [step] at hs
    split at hs <;> cases hs
    exact ⟨h.1, h.2, List.forall_mem_nil _⟩
  | members m =>
    simp only [step] at hs
    split at hs <;> cases hs
    · exact h
    · exact OpenModel.Spelled.close h
    · exact h
    · exact ⟨h, isWord_of_token hl ‹_›⟩
  | fieldType m name line =>
    simp only [step] at hs
    split at hs <;> cases hs
    exact ⟨h.1, h.2, isWord_of_token hl ‹_›, List.forall_mem_nil _⟩
  | typeArgs f =>
    simp only [step] at hs
    split at hs
    · cases hs
      exact ⟨h, label_none_spelled⟩
    · exact modify_spelled h hs
  | modifier f => exact modify_spelled h hs
  | listEnd f =>
    simp only [step] at hs
    split at hs <;> cases hs
    exact OpenField.Spelled.setModifier h _
  | declared o => exact endDeclared_spelled h hs
  | attributeName o =>
    simp only [step] at hs
    split at hs <;> cases hs
    exact ⟨h, .word (isWord_of_token hl ‹_›)⟩
  | attributeArgs o name =>
    simp only [step] at hs
    split at hs
    · cases hs
      exact h
    · cases hs
      exact ⟨h.1, h.2, List.forall_mem_nil _, label_none_spelled⟩
    · have ho : (o.add name none).Spelled := h.1.add h.2 (by simp)
      exact endDeclared_spelled ho hs
  | attributePath o name =>
    simp only [step] at hs
    split at hs <;> cases hs
    exact ⟨h.1, .dot h.2 (isWord_of_token hl ‹_›)⟩
  | sourceName before =>
    simp only [step] at hs
    split at hs <;> cases hs
    exact ⟨h, isWord_of_token hl ‹_›⟩
  | sourceOpen before name =>
    simp only [step] at hs
    split at hs <;> cases hs
    exact ⟨h.1, h.2, List.forall_mem_nil _⟩
  | entries s =>
    simp only [step] at hs
    split at hs <;> cases hs
    · exact h
    · exact OpenSource.Spelled.close h
    · exact ⟨h, isWord_of_token hl ‹_›⟩
  | entryEquals s key =>
    simp only [step] at hs
    split at hs <;> cases hs
    exact h
  | slot s => exact slot_step_spelled h hl hs
  | ident name s => exact ident_step_spelled h.1 h.2 hs
  | filled f => exact endValue_spelled h hs

theorem finish_spelled {s : State} (h : s.Spelled) {d : Document} (hs : finish s = .ok d) :
    d.Spelled := by
  simp only [finish] at hs
  split at hs <;> cases hs
  exact h

theorem run_spelled {s : State} (h : s.Spelled) {ls : List Lexeme}
    (hl : ∀ l ∈ ls, l.token.Spelled) {d : Document} (hr : run s ls = .ok d) : d.Spelled := by
  induction ls generalizing s with
  | nil => exact finish_spelled h hr
  | cons l ls ih =>
    rw [run] at hr
    split at hr
    · exact finish_spelled h hr
    · split at hr
      · next s' hs =>
        have hs' := step_spelled h (hl l List.mem_cons_self) hs
        exact ih hs' (fun k hk => hl k (List.mem_cons_of_mem _ hk)) hr
      · cases hr

end Reader

/-- A document that a text declares is well spelled. -/
theorem Document.parse_spelled {text : String} {d : Document} (h : Document.parse text = .ok d) :
    d.Spelled := by
  rw [Document.parse] at h
  split at h
  · next ls hls =>
    exact Reader.run_spelled (s := .top []) (List.forall_mem_nil _) (Lexeme.ofText_spelled hls) h
  · cases h

end EntityDiagram
