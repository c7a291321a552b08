import Mathlib.Data.List.Forall2
import EntityDiagram.Proofs.Registry.Annotation
import EntityDiagram.Proofs.Registry.Declaration

namespace EntityDiagram

/-- The element is the first that stands behind an equal one. -/
def FirstRepeat (xs : List String) (x : String) : Prop :=
  ∃ before after, xs = before ++ x :: after ∧ before.Nodup ∧ x ∈ before

theorem FirstRepeat.not_nodup {xs : List String} {x : String} (h : FirstRepeat xs x) :
    ¬xs.Nodup := by
  obtain ⟨before, after, rfl, _, hx⟩ := h
  intro hn
  exact List.disjoint_of_nodup_append hn hx List.mem_cons_self

theorem FirstRepeat.unique {xs : List String} {x y : String} (hx : FirstRepeat xs x)
    (hy : FirstRepeat xs y) : x = y := by
  obtain ⟨b, a, rfl, hb, hxb⟩ := hx
  obtain ⟨b', a', he, hb', hyb⟩ := hy
  rcases List.append_eq_append_iff.1 he with ⟨c, rfl, hc⟩ | ⟨c, rfl, hc⟩
  · cases c with
    | nil => exact (List.cons.inj hc).1
    | cons z c =>
      obtain ⟨rfl, _⟩ := List.cons.inj hc
      exact (List.disjoint_of_nodup_append hb' hxb List.mem_cons_self).elim
  · cases c with
    | nil => exact (List.cons.inj hc).1.symm
    | cons z c =>
      obtain ⟨rfl, _⟩ := List.cons.inj hc
      exact (List.disjoint_of_nodup_append hb hyb List.mem_cons_self).elim

theorem firstRepeat?_eq_some {seen xs : List String} {x : String}
    (h : firstRepeat? seen xs = some x) : ∃ before after, xs = before ++ x :: after ∧
      before.Nodup ∧ (∀ y ∈ before, y ∉ seen) ∧ (x ∈ before ∨ x ∈ seen) := by
  induction xs generalizing seen with
  | nil => cases h
  | cons y ys ih =>
    rw [firstRepeat?] at h
    split at h
    · next hy =>
      cases h
      exact ⟨[], ys, rfl, List.nodup_nil, List.forall_mem_nil _, .inr hy⟩
    · next hy =>
      obtain ⟨before, after, rfl, hn, hseen, hx⟩ := ih h
      have hyb : y ∉ before := fun hm => hseen y hm List.mem_cons_self
      refine ⟨y :: before, after, rfl, List.nodup_cons.2 ⟨hyb, hn⟩, ?_, ?_⟩
      · exact List.forall_mem_cons.2 ⟨hy, fun z hz hs => hseen z hz (List.mem_cons_of_mem y hs)⟩
      · simp only [List.mem_cons] at hx ⊢
        tauto

theorem firstRepeat_of_eq_some {xs : List String} {x : String} (h : firstRepeat? [] xs = some x) :
    FirstRepeat xs x := by
  obtain ⟨before, after, hxs, hn, _, hx⟩ := firstRepeat?_eq_some h
  exact ⟨before, after, hxs, hn, hx.resolve_right List.not_mem_nil⟩

namespace ModelDecl

/-- The model declares one of its fields twice, or has the name of one before it. -/
def Repeats (m : ModelDecl) (before : List ModelDecl) : Prop :=
  ¬(m.fieldDecls.map (·.name)).Nodup ∨ m.name ∈ before.map (·.name)

/-- What is wrong with a model that stands behind others: first its fields, then its name. -/
inductive Fault (m : ModelDecl) (before : List ModelDecl) : SchemaError → Prop
  | field {name} (h : FirstRepeat (m.fieldDecls.map (·.name)) name) :
      Fault m before (.duplicateField m.name name)
  | model (hf : (m.fieldDecls.map (·.name)).Nodup) (h : m.name ∈ before.map (·.name)) :
      Fault m before (.duplicateModel m.name)

variable {m : ModelDecl} {before : List ModelDecl} {e e' : SchemaError}

theorem Fault.repeats (h : m.Fault before e) : m.Repeats before := by
  cases h with
  | field h => exact .inl h.not_nodup
  | model _ h => exact .inr h

theorem Fault.unique (h : m.Fault before e) (h' : m.Fault before e') : e = e' := by
  cases h with
  | field h =>
    cases h' with
    | field h' => rw [h.unique h']
    | model hf _ => exact (h.not_nodup hf).elim
  | model hf _ =>
    cases h' with
    | field h' => exact (h'.not_nodup hf).elim
    | model => rfl

end ModelDecl

/-- The error is the fault of the first model that repeats a name, where `ds` stand before `ms`. -/
def FirstFault (ds ms : List ModelDecl) (e : SchemaError) : Prop :=
  ∃ before m after, ms = before ++ m :: after ∧
    (∀ earlier n later, before = earlier ++ n :: later → ¬n.Repeats (ds ++ earlier)) ∧
    m.Fault (ds ++ before) e

theorem FirstFault.unique {ds ms : List ModelDecl} {e e' : SchemaError} (h : FirstFault ds ms e)
    (h' : FirstFault ds ms e') : e = e' := by
  obtain ⟨b, m, a, rfl, hb, hm⟩ := h
  obtain ⟨b', m', a', he, hb', hm'⟩ := h'
  rcases List.append_eq_append_iff.1 he with ⟨c, rfl, hc⟩ | ⟨c, rfl, hc⟩
  · cases c with
    | nil =>
      obtain ⟨rfl, _⟩ := List.cons.inj hc
      rw [List.append_nil] at hm'
      exact hm.unique hm'
    | cons n c =>
      obtain ⟨rfl, _⟩ := List.cons.inj hc
      exact (hb' _ _ _ rfl hm.repeats).elim
  · cases c with
    | nil =>
      obtain ⟨rfl, _⟩ := List.cons.inj hc
      rw [List.append_nil] at hm
      exact hm.unique hm'
    | cons n c =>
      obtain ⟨rfl, _⟩ := List.cons.inj hc
      exact (hb _ _ _ rfl hm'.repeats).elim

theorem FirstFault.cons {ds ms : List ModelDecl} {e : SchemaError} {m : ModelDecl}
    (hm : ¬m.Repeats ds) (h : FirstFault (ds ++ [m]) ms e) : FirstFault ds (m :: ms) e := by
  obtain ⟨before, n, after, rfl, hbefore, hn⟩ := h
  refine ⟨m :: before, n, after, rfl, ?_, by rwa [List.append_cons]⟩
  intro earlier k later he
  cases earlier with
  | nil =>
    obtain ⟨rfl, _⟩ := List.cons.inj he
    rwa [List.append_nil]
  | cons j earlier =>
    obtain ⟨rfl, rfl⟩ := List.cons.inj he
    rw [List.append_cons]
    exact hbefore _ _ _ rfl

theorem FirstFault.not_nodup {ms : List ModelDecl} {e : SchemaError} (h : FirstFault [] ms e) :
    ¬((ms.map (·.name)).Nodup ∧ ∀ m ∈ ms, (m.fieldDecls.map (·.name)).Nodup) := by
  obtain ⟨before, m, after, rfl, _, hm⟩ := h
  intro hn
  rcases hm.repeats with hf | hname
  · exact hf (hn.2 m (by simp))
  · have hnodup := hn.1
    rw [List.map_append] at hnodup
    exact List.disjoint_of_nodup_append hnodup hname (by simp)

namespace Registry

variable {r r' : Registry} {ds : List ModelDecl}

theorem DeclaredBy.contains_iff (h : r.DeclaredBy ds) {name : String} :
    r.contains name = true ↔ name ∈ ds.map (·.name) := by
  simp [contains, h.models, Model.ofDecl]

end Registry

/-- The field is the declared one. -/
structure Field.Images (f : Field) (d : FieldDecl) : Prop where
  name : f.name = d.name
  type : f.type.name = d.type.name
  attributes : f.attributes = d.attributes
  isOptional : f.isOptional = true ↔ d.type.modifier = .optional
  isList : f.isList = true ↔ d.type.modifier = .list
  annotation : ∀ x, f.annotation? = x ↔ Annotation.OfAttributes d.attributes x

/-- The model is the declared one, with its fields and attributes in order and no relation yet. -/
structure Model.Images (m : Model) (d : ModelDecl) : Prop where
  name : m.name = d.name
  fields : List.Forall₂ Field.Images m.fields d.fieldDecls
  blockAttributes : m.blockAttributes = d.blockAttributes
  relatedTo : m.relatedTo = []
  links : m.links = []

def Block.sourceDecl? : Block → Option SourceDecl
  | .source d => some d
  | .model _ => none
  | .other _ _ => none

def Document.sourceDecls (d : Document) : List SourceDecl := d.blocks.filterMap Block.sourceDecl?

/-- The setting is the text of the first entry with the key in the last of the data sources. -/
def LastText (ss : List SourceDecl) (key : String) (setting : Option String) : Prop :=
  ∀ value, setting = some value ↔
    ∃ s, ss.getLast? = some s ∧ IsFirst s.entries (·.1 = key) (key, .text value)

/-- The registry holds the models of the document, and the settings of its last data source. -/
structure Registry.Images (r : Registry) (d : Document) : Prop where
  models : List.Forall₂ Model.Images r.models d.modelDecls
  provider : LastText d.sourceDecls "provider" r.provider
  relationMode : LastText d.sourceDecls "relationMode" r.relationMode

theorem SourceDecl.entry?_eq_some_iff {s : SourceDecl} {key : String} {x : Expr} :
    s.entry? key = some x ↔ IsFirst s.entries (·.1 = key) (key, x) := by
  unfold entry?
  rw [List.lookup_eq_some_iff, IsFirst]
  simp only [bne_iff_ne, ne_comm, true_and, ne_eq]

theorem SourceDecl.lastText (ss : List SourceDecl) (s : SourceDecl) (key : String) :
    LastText (ss ++ [s]) key ((s.entry? key).bind Expr.asText?) := by
  intro value
  simp only [List.getLast?_concat, Option.some.injEq, exists_eq_left', Option.bind_eq_some_iff,
    Expr.asText?_eq_some_iff, exists_eq_right, SourceDecl.entry?_eq_some_iff]

namespace Registry

variable {r r' : Registry} {d : Document}

def HasSettings (r : Registry) (ss : List SourceDecl) : Prop :=
  LastText ss "provider" r.provider ∧ LastText ss "relationMode" r.relationMode

theorem HasSettings.add {ss : List SourceDecl} (h : r.HasSettings ss) {b : Block}
    (ha : r.add b = .ok r') : r'.HasSettings (ss ++ b.sourceDecl?.toList) := by
  cases b with
  | model m =>
    rw [Block.sourceDecl?, Option.toList_none, List.append_nil]
    simp only [Registry.add] at ha
    split at ha
    · cases ha
    · split at ha
      · cases ha
      · cases ha
        exact h
  | source s =>
    cases ha
    exact ⟨s.lastText ss _, s.lastText ss _⟩
  | other keyword name =>
    cases ha
    rwa [Block.sourceDecl?, Option.toList_none, List.append_nil]

/-- A data source that has its provider twice and no mode. -/
def records : SourceDecl :=
  ⟨"records", [("url", .call "env" [⟨none, .text "URL"⟩]), ("provider", .text "postgresql"),
    ("provider", .text "sqlite")]⟩

end Registry

end EntityDiagram
