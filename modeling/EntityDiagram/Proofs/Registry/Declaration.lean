import Mathlib.Data.List.Nodup
import EntityDiagram.Proofs.Registry.Mention
import EntityDiagram.Proofs.Schema.Document.Spelling

namespace EntityDiagram

theorem firstRepeat?_eq_none {seen xs : List String} (h : firstRepeat? seen xs = none) :
    xs.Nodup ∧ ∀ x ∈ xs, x ∉ seen := by
  induction xs generalizing seen with
  | nil => exact ⟨List.nodup_nil, nofun⟩
  | cons x xs ih =>
    rw [firstRepeat?] at h
    split at h
    · cases h
    · next hx =>
      obtain ⟨hn, hs⟩ := ih h
      refine ⟨List.nodup_cons.2 ⟨fun hm => hs x hm List.mem_cons_self, hn⟩, ?_⟩
      intro y hy
      rcases List.mem_cons.1 hy with rfl | hy
      · exact hx
      · exact fun hm => hs y hy (List.mem_cons_of_mem _ hm)

theorem Expr.Spelled.idents {e : Expr} (h : e.Spelled) : ∀ name ∈ e.idents, Text.IsWord name := by
  cases h with
  | ident h =>
    intro name hn
    rw [List.mem_singleton.1 hn]
    exact h
  | text => exact nofun
  | number h => exact nofun
  | array h =>
    intro name hn
    obtain ⟨e, he, hi⟩ := List.mem_filterMap.1 hn
    have hs := h e he
    cases hs with
    | ident hw =>
      cases hi
      exact hw
    | text | number | array | call => cases hi
  | call hn hl ha => exact nofun

theorem Attribute.Spelled.named {a : Attribute} (h : a.Spelled) {label : String} {e : Expr}
    (he : a.named? label = some e) : e.Spelled := by
  obtain ⟨x, hx, rfl⟩ := Option.map_eq_some_iff.1 he
  have hm := List.mem_of_find?_eq_some hx
  cases ha : a.args with
  | none => simp [ha] at hm
  | some args =>
    rw [ha] at hm
    exact (h.args args ha x hm).2

theorem Attribute.Spelled.namedIdents {a : Attribute} (h : a.Spelled) (label : String) :
    ∀ name ∈ (a.named? label).elim [] Expr.idents, Text.IsWord name := by
  cases he : a.named? label with
  | none => exact nofun
  | some e => exact (h.named he).idents

theorem joinKey_notMem {names : List String} (h : ∀ name ∈ names, Text.IsWord name) :
    '-' ∉ (joinKey names).toList := by
  rw [joinKey]
  induction names with
  | nil => simp
  | cons a names ih =>
    have ha := (h a List.mem_cons_self).hyphen_notMem
    cases names with
    | nil => rwa [String.intercalate_singleton]
    | cons b names =>
      have ht := ih (fun name hn => h name (List.mem_cons_of_mem a hn))
      have hs : '-' ∉ "_".toList := by decide
      rw [String.intercalate_cons_cons, String.toList_append, String.toList_append]
      simp only [List.mem_append, not_or]
      exact ⟨⟨ha, hs⟩, ht⟩

structure Annotation.Spelled (a : Annotation) : Prop where
  fields : ∀ name ∈ a.fields, Text.IsWord name
  references : ∀ name ∈ a.references, Text.IsWord name

structure Field.Spelled (f : Field) : Prop where
  name : Text.IsWord f.name
  annotation : ∀ a ∈ f.annotation?, a.Spelled

theorem annotationOf_spelled {attributes : List Attribute} (h : ∀ a ∈ attributes, a.Spelled) :
    ∀ a ∈ annotationOf attributes, a.Spelled := by
  intro a ha
  obtain ⟨x, hx, rfl⟩ := Option.map_eq_some_iff.1 ha
  have hs := h x (List.mem_of_find?_eq_some hx)
  exact ⟨hs.namedIdents _, hs.namedIdents _⟩

structure Model.Spelled (m : Model) : Prop where
  name : Text.IsWord m.name
  fields : ∀ f ∈ m.fields, f.Spelled

theorem ModelDecl.Spelled.fieldDecls {d : ModelDecl} (h : d.Spelled) :
    ∀ f ∈ d.fieldDecls, f.Spelled := by
  intro f hf
  obtain ⟨x, hx, he⟩ := List.mem_filterMap.1 hf
  cases x with
  | field g =>
    cases he
    exact h.members _ hx
  | blockAttribute a => cases he

theorem Model.ofDecl_spelled {d : ModelDecl} (h : d.Spelled) : (Model.ofDecl d).Spelled where
  name := h.name
  fields := by
    intro f hf
    obtain ⟨g, hg, he⟩ := Model.exists_decl_of_mem hf
    have hs := h.fieldDecls g hg
    have hf : f.unmarked.Spelled := he ▸ ⟨hs.name, annotationOf_spelled hs.attributes⟩
    exact ⟨hf.name, hf.annotation⟩

/-- The fields have distinct names, and the keys that their annotations name are foreign keys. -/
structure Model.Declared (m : Model) : Prop where
  nodup : (m.fields.map (·.name)).Nodup
  foreignKeys : ∀ f ∈ m.fields, ∀ a ∈ f.annotation?, ∀ name ∈ a.fields, name ∈ m.foreignKeys

theorem ModelDecl.mem_foreignKeys {d : ModelDecl} {f : FieldDecl} (hf : f ∈ d.fieldDecls)
    {a : Annotation} (ha : annotationOf f.attributes = some a) {name : String}
    (hn : name ∈ a.fields) : name ∈ d.foreignKeys := by
  refine (d.foreignKeys_firstMentions.mem_iff name).2 (List.mem_flatMap.2 ⟨f, hf, ?_⟩)
  rw [f.mentions_eq, ha]
  exact hn

theorem Model.ofDecl_declared {d : ModelDecl} (hn : (d.fieldDecls.map (·.name)).Nodup) :
    (Model.ofDecl d).Declared where
  nodup := by
    rwa [Model.ofDecl_fields_name]
  foreignKeys := by
    intro f hf a ha name hname
    obtain ⟨g, hg, he⟩ := Model.exists_decl_of_mem hf
    have hg' : annotationOf g.attributes = some a := (congrArg Field.annotation? he).symm.trans ha
    exact d.mem_foreignKeys hg hg' hname

def Block.modelDecl? : Block → Option ModelDecl
  | .model d => some d
  | .source _ => none
  | .other _ _ => none

def Document.modelDecls (d : Document) : List ModelDecl := d.blocks.filterMap Block.modelDecl?

theorem Document.Spelled.modelDecls {d : Document} (h : d.Spelled) :
    ∀ m ∈ d.modelDecls, m.Spelled := by
  intro m hm
  obtain ⟨b, hb, he⟩ := List.mem_filterMap.1 hm
  cases b with
  | model d =>
    cases he
    exact h _ hb
  | source d => cases he
  | other keyword name => cases he

namespace Registry

/-- The models are those of the declarations, which declare no name twice. -/
structure DeclaredBy (r : Registry) (ds : List ModelDecl) : Prop where
  models : r.models = ds.map .ofDecl
  nodup : (ds.map (·.name)).Nodup
  fields_nodup : ∀ d ∈ ds, (d.fieldDecls.map (·.name)).Nodup

theorem DeclaredBy.add {r r' : Registry} {ds : List ModelDecl} (h : r.DeclaredBy ds) {b : Block}
    (ha : r.add b = .ok r') : r'.DeclaredBy (ds ++ b.modelDecl?.toList) := by
  cases b with
  | model d =>
    simp only [Registry.add] at ha
    split at ha
    · cases ha
    · next hf =>
      split at ha
      · cases ha
      · next hc =>
        cases ha
        have hd : d.name ∉ ds.map (·.name) := by
          simpa [contains, h.models, Model.ofDecl] using hc
        constructor
        · simp [h.models, Block.modelDecl?]
        · rw [List.map_append]
          exact h.nodup.append (List.nodup_singleton _) (by simpa [Block.modelDecl?] using hd)
        · intro m hm
          rcases List.mem_append.1 hm with hm | hm
          · exact h.fields_nodup m hm
          · rw [List.mem_singleton.1 hm]
            exact (firstRepeat?_eq_none hf).1
  | source d =>
    cases ha
    rw [Block.modelDecl?, Option.toList_none, List.append_nil]
    exact ⟨h.models, h.nodup, h.fields_nodup⟩
  | other keyword name =>
    cases ha
    rwa [Block.modelDecl?, Option.toList_none, List.append_nil]

/-- What each block adds its part to is true of all blocks with all of their parts. -/
theorem foldlM_add_invariant {α : Type} {P : Registry → List α → Prop} {part? : Block → Option α}
    (hadd : ∀ {r r' xs}, P r xs → ∀ b, r.add b = .ok r' → P r' (xs ++ (part? b).toList))
    {r r' : Registry} {xs : List α} (h : P r xs) {bs : List Block}
    (ha : bs.foldlM Registry.add r = .ok r') : P r' (xs ++ bs.filterMap part?) := by
  induction bs generalizing r xs with
  | nil =>
    cases ha
    rwa [List.filterMap_nil, List.append_nil]
  | cons b bs ih =>
    rw [List.foldlM_cons] at ha
    cases hr : r.add b with
    | error e =>
      rw [hr] at ha
      cases ha
    | ok s =>
      rw [hr] at ha
      have hs := ih (hadd h b hr) ha
      rw [List.append_assoc] at hs
      cases hb : part? b <;> simpa [hb] using hs

theorem ofDocument_declaredBy {d : Document} {r : Registry} (h : ofDocument d = .ok r) :
    r.DeclaredBy d.modelDecls := by
  have he : empty.DeclaredBy [] := ⟨rfl, List.nodup_nil, nofun⟩
  exact foldlM_add_invariant (fun h _ ha => h.add ha) he h

/-- No two models, and no two fields of one model, have the same name. -/
structure Declared (r : Registry) : Prop where
  nodup : (r.models.map (·.name)).Nodup
  models : ∀ m ∈ r.models, m.Declared

theorem Declared.model_ext {r : Registry} (hr : r.Declared) {m n : Model} (hm : m ∈ r.models)
    (hn : n ∈ r.models) (h : m.name = n.name) : m = n :=
  List.inj_on_of_nodup_map hr.nodup hm hn h

theorem Declared.field_ext {r : Registry} (hr : r.Declared) {m : Model} (hm : m ∈ r.models)
    {f g : Field} (hf : f ∈ m.fields) (hg : g ∈ m.fields) (h : f.name = g.name) : f = g :=
  List.inj_on_of_nodup_map (hr.models m hm).nodup hf hg h

theorem DeclaredBy.declared {r : Registry} {ds : List ModelDecl} (h : r.DeclaredBy ds) :
    r.Declared where
  nodup := by
    simpa [h.models, Model.ofDecl, Function.comp_def] using h.nodup
  models := by
    intro m hm
    rw [h.models] at hm
    obtain ⟨d, hd, rfl⟩ := List.mem_map.1 hm
    exact Model.ofDecl_declared (h.fields_nodup d hd)

theorem reversed_models (r : Registry) : r.reversed.models = r.models.reverse := rfl

theorem reversed_reversed (r : Registry) : r.reversed.reversed = r := by
  rw [reversed, reversed_models, List.reverse_reverse]
  rfl

theorem Declared.reversed {r : Registry} (h : r.Declared) : r.reversed.Declared where
  nodup := by
    rw [Registry.reversed, List.map_reverse]
    exact List.nodup_reverse.2 h.nodup
  models := fun m hm => h.models m (List.mem_reverse.1 hm)

def Spelled (r : Registry) : Prop := ∀ m ∈ r.models, m.Spelled

theorem DeclaredBy.spelled {r : Registry} {ds : List ModelDecl} (h : r.DeclaredBy ds)
    (hd : ∀ d ∈ ds, d.Spelled) : r.Spelled := by
  intro m hm
  rw [h.models] at hm
  obtain ⟨d, hmem, rfl⟩ := List.mem_map.1 hm
  exact Model.ofDecl_spelled (hd d hmem)

theorem Spelled.reversed {r : Registry} (h : r.Spelled) : r.reversed.Spelled :=
  fun m hm => h m (List.mem_reverse.1 hm)

theorem parse_eq_ok_iff {text : String} {r : Registry} :
    parse text = .ok r ↔ ∃ d, Document.parse text = .ok d ∧ ofDocument d = .ok r := by
  rw [parse]
  cases Document.parse text with
  | error e => simp
  | ok d => simp

theorem parse_declared {text : String} {r : Registry} (h : parse text = .ok r) :
    r.Declared ∧ r.Spelled := by
  obtain ⟨d, hd, h⟩ := parse_eq_ok_iff.1 h
  have hr := ofDocument_declaredBy h
  exact ⟨hr.declared, hr.spelled (Document.parse_spelled hd).modelDecls⟩

theorem mem_of_get? {r : Registry} {name : String} {m : Model} (h : r.get? name = some m) :
    m ∈ r.models ∧ m.name = name :=
  ⟨List.mem_of_find?_eq_some h, by simpa using List.find?_some h⟩

theorem get?_eq_some_iff {r : Registry} (hn : (r.models.map (·.name)).Nodup) {name : String}
    {m : Model} : r.get? name = some m ↔ m ∈ r.models ∧ m.name = name := by
  constructor
  · exact mem_of_get?
  · rintro ⟨hm, rfl⟩
    cases hg : r.get? m.name with
    | none =>
      have hne := List.find?_eq_none.1 hg m hm
      simp at hne
    | some t =>
      obtain ⟨ht, hname⟩ := mem_of_get? hg
      rw [List.inj_on_of_nodup_map hn ht hm hname]

theorem Declared.get?_name {r : Registry} (h : r.Declared) {m : Model} (hm : m ∈ r.models) :
    r.get? m.name = some m :=
  (get?_eq_some_iff h.nodup).2 ⟨hm, rfl⟩

end Registry

end EntityDiagram
