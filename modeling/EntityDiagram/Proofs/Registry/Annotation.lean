import EntityDiagram.Registry.Model

namespace EntityDiagram

/-- The element is the first of the list that has the property. -/
def IsFirst {α : Type} (xs : List α) (P : α → Prop) (x : α) : Prop :=
  ∃ before after, xs = before ++ x :: after ∧ P x ∧ ∀ y ∈ before, ¬P y

theorem find?_eq_some_iff_isFirst {α : Type} {xs : List α} {P : α → Prop} {p : α → Bool}
    (hp : ∀ x, p x = true ↔ P x) {x : α} : xs.find? p = some x ↔ IsFirst xs P x := by
  simp only [List.find?_eq_some_iff_append, Bool.not_eq_true', ← Bool.not_eq_true, hp, IsFirst]
  constructor
  · intro h
    obtain ⟨hx, before, after, he, hb⟩ := h
    exact ⟨before, after, he, hx, hb⟩
  · intro h
    obtain ⟨before, after, he, hx, hb⟩ := h
    exact ⟨hx, before, after, he, hb⟩

theorem exists_isFirst {α : Type} {P : α → Prop} {xs : List α} (h : ∃ x ∈ xs, P x) :
    ∃ x, IsFirst xs P x := by
  classical
  have hsome : (xs.find? (P ·)).isSome = true := List.find?_isSome.2 (by simpa using h)
  obtain ⟨x, hx⟩ := Option.isSome_iff_exists.1 hsome
  exact ⟨x, (find?_eq_some_iff_isFirst fun _ => decide_eq_true_iff).1 hx⟩

namespace Attribute

/-- The first argument with the label has the value; for `none`, the first without a label. -/
def Argument (a : Attribute) (label : Option String) (x : Expr) : Prop :=
  IsFirst (a.args.getD []) (·.label = label) ⟨label, x⟩

/-- The value behind the label, or else the first one without any. -/
inductive NamedOrFirst (a : Attribute) (name : String) : Expr → Prop
  | named {x} (h : a.Argument (some name) x) : NamedOrFirst a name x
  | first {x} (hn : ∀ b ∈ a.args.getD [], b.label ≠ some name) (h : a.Argument none x) :
      NamedOrFirst a name x

variable {a : Attribute} {x : Expr} {name : String}

theorem find?_label_iff {args : List Arg} {label : Option String} {p : Arg → Bool}
    (hp : ∀ b, p b = true ↔ b.label = label) : (args.find? p).map (·.value) = some x ↔
    IsFirst args (·.label = label) ⟨label, x⟩ := by
  rw [Option.map_eq_some_iff]
  constructor
  · intro h
    obtain ⟨⟨_, value⟩, hb, hx⟩ := h
    cases hx
    cases (hp _).1 (List.find?_some hb)
    exact (find?_eq_some_iff_isFirst hp).1 hb
  · intro h
    exact ⟨_, (find?_eq_some_iff_isFirst hp).2 h, rfl⟩

theorem named?_eq_some_iff : a.named? name = some x ↔ a.Argument (some name) x :=
  find?_label_iff fun _ => decide_eq_true_iff

theorem named?_eq_none_iff :
    a.named? name = none ↔ ∀ b ∈ a.args.getD [], b.label ≠ some name := by
  rw [named?, Option.map_eq_none_iff, List.find?_eq_none]
  simp only [decide_eq_true_eq, ne_eq]

theorem positional?_zero_eq_some_iff : a.positional? 0 = some x ↔ a.Argument none x := by
  have hfirst : a.positional? 0 = ((a.args.getD []).find? (·.label.isNone)).map (·.value) := by
    rw [positional?, ← List.head?_filter, List.head?_eq_getElem?]
  rw [hfirst]
  exact find?_label_iff fun _ => Option.isNone_iff_eq_none

theorem namedOrFirst?_eq_some_iff : a.namedOrFirst? name = some x ↔ a.NamedOrFirst name x := by
  rw [namedOrFirst?, Option.or_eq_some_iff, named?_eq_some_iff, named?_eq_none_iff,
    positional?_zero_eq_some_iff]
  constructor
  · intro h
    rcases h with h | ⟨hn, h⟩
    · exact .named h
    · exact .first hn h
  · intro h
    cases h with
    | named h => exact .inl h
    | first hn h => exact .inr ⟨hn, h⟩

end Attribute

namespace Expr

/-- The names that stand among the items, in their order. -/
inductive Names : List Expr → List String → Prop
  | nil : Names [] []
  | ident {name items names} (h : Names items names) : Names (.ident name :: items) (name :: names)
  | other {x items names} (hx : ∀ name, x ≠ .ident name) (h : Names items names) :
      Names (x :: items) names

/-- The names that an expression lists: itself, or those in an array. -/
inductive Lists : Expr → List String → Prop
  | ident {name} : Lists (.ident name) [name]
  | array {items names} (h : Names items names) : Lists (.array items) names
  | other {x} (hi : ∀ name, x ≠ .ident name) (ha : ∀ items, x ≠ .array items) : Lists x []

theorem asText?_eq_some_iff {x : Expr} {content : String} :
    x.asText? = some content ↔ x = .text content := by
  cases x <;> simp [asText?]

theorem asIdent?_eq_some_iff {x : Expr} {name : String} :
    x.asIdent? = some name ↔ x = .ident name := by
  cases x <;> simp [asIdent?]

theorem asIdent?_eq_none_iff {x : Expr} : x.asIdent? = none ↔ ∀ name, x ≠ .ident name := by
  cases x <;> simp [asIdent?]

theorem names_filterMap (items : List Expr) : Names items (items.filterMap asIdent?) := by
  induction items with
  | nil => exact .nil
  | cons x items ih =>
    cases hx : x.asIdent? with
    | none =>
      rw [List.filterMap_cons_none hx]
      exact .other (asIdent?_eq_none_iff.1 hx) ih
    | some name =>
      rw [List.filterMap_cons_some hx, asIdent?_eq_some_iff.1 hx]
      exact .ident ih

theorem Names.eq_filterMap {items : List Expr} {names : List String} (h : Names items names) :
    names = items.filterMap asIdent? := by
  induction h with
  | nil => rfl
  | ident _ ih => rw [List.filterMap_cons, asIdent?, ← ih]
  | other hx _ ih => rw [List.filterMap_cons_none (asIdent?_eq_none_iff.2 hx), ih]

theorem lists_idents (x : Expr) : x.Lists x.idents := by
  cases x with
  | ident name => exact .ident
  | array items => exact .array (names_filterMap items)
  | text | number | call => exact .other nofun nofun

theorem Lists.eq_idents {x : Expr} {names : List String} (h : x.Lists names) :
    names = x.idents := by
  cases h with
  | ident => rfl
  | array h => exact h.eq_filterMap
  | other hi ha =>
    cases x with
    | ident name => exact (hi name rfl).elim
    | array items => exact (ha items rfl).elim
    | text | number | call => rfl

end Expr

namespace Attribute

/-- The names listed behind the label; there are none without such an argument. -/
inductive ListsBehind (a : Attribute) (name : String) : List String → Prop
  | named {x names} (h : a.Argument (some name) x) (hx : x.Lists names) : ListsBehind a name names
  | absent (h : ∀ b ∈ a.args.getD [], b.label ≠ some name) : ListsBehind a name []

variable {a : Attribute} {name : String} {names : List String}

theorem listsBehind_iff :
    a.ListsBehind name names ↔ names = (a.named? name).elim [] Expr.idents := by
  constructor
  · intro h
    cases h with
    | named h hx =>
      rw [named?_eq_some_iff.2 h]
      exact hx.eq_idents
    | absent h => rw [named?_eq_none_iff.2 h, Option.elim_none]
  · rintro rfl
    cases hx : a.named? name with
    | none => exact .absent (named?_eq_none_iff.1 hx)
    | some x => exact .named (named?_eq_some_iff.1 hx) x.lists_idents

end Attribute

namespace Annotation

/-- The parts of an annotation are read from the arguments of an attribute. -/
structure Reads (x : Annotation) (a : Attribute) : Prop where
  name : ∀ s, x.name = some s ↔ a.NamedOrFirst "name" (.text s) ∧ s ≠ ""
  fields : a.ListsBehind "fields" x.fields
  references : a.ListsBehind "references" x.references
  onDelete : ∀ s, x.onDelete = some s ↔ a.Argument (some "onDelete") (.ident s)
  onUpdate : ∀ s, x.onUpdate = some s ↔ a.Argument (some "onUpdate") (.ident s)
  map : ∀ s, x.map = some s ↔ a.Argument (some "map") (.text s)

theorem Reads.unique {x y : Annotation} {a : Attribute} (hx : x.Reads a) (hy : y.Reads a) :
    x = y := by
  have hname : x.name = y.name := Option.ext fun s => (hx.name s).trans (hy.name s).symm
  have hfields : x.fields = y.fields :=
    (Attribute.listsBehind_iff.1 hx.fields).trans (Attribute.listsBehind_iff.1 hy.fields).symm
  have hreferences : x.references = y.references :=
    (Attribute.listsBehind_iff.1 hx.references).trans
      (Attribute.listsBehind_iff.1 hy.references).symm
  have hdelete : x.onDelete = y.onDelete :=
    Option.ext fun s => (hx.onDelete s).trans (hy.onDelete s).symm
  have hupdate : x.onUpdate = y.onUpdate :=
    Option.ext fun s => (hx.onUpdate s).trans (hy.onUpdate s).symm
  have hmap : x.map = y.map := Option.ext fun s => (hx.map s).trans (hy.map s).symm
  cases x
  cases y
  rw [mk.injEq]
  exact ⟨hname, hfields, hreferences, hdelete, hupdate, hmap⟩

/-- The annotation of attributes is that of the first attribute `relation`. -/
inductive OfAttributes (attributes : List Attribute) : Option Annotation → Prop
  | relation {a x} (ha : IsFirst attributes (·.name = "relation") a) (hx : Reads x a) :
      OfAttributes attributes (some x)
  | none (h : ∀ a ∈ attributes, a.name ≠ "relation") : OfAttributes attributes none

end Annotation

end EntityDiagram
