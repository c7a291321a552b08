import EntityDiagram.Schema.Document

namespace EntityDiagram

variable {f : String → String}

namespace Expr

mutual

/-- The quoted texts in an expression, at any depth. -/
def texts : Expr → List String
  | ident _ | number _ => []
  | text content => [content]
  | array items => itemTexts items
  | call _ args => argTexts args

def itemTexts : List Expr → List String
  | [] => []
  | e :: es => e.texts ++ itemTexts es

def argTexts : List (Labelled Expr) → List String
  | [] => []
  | ⟨_, e⟩ :: as => e.texts ++ argTexts as

end

mutual

/-- The expression with each quoted text replaced. -/
def mapTexts (f : String → String) : Expr → Expr
  | ident name => .ident name
  | number digits => .number digits
  | text content => .text (f content)
  | array items => .array (mapItems f items)
  | call name args => .call name (mapArgs f args)

def mapItems (f : String → String) : List Expr → List Expr
  | [] => []
  | e :: es => e.mapTexts f :: mapItems f es

def mapArgs (f : String → String) : List (Labelled Expr) → List (Labelled Expr)
  | [] => []
  | ⟨label, e⟩ :: as => ⟨label, e.mapTexts f⟩ :: mapArgs f as

end

mutual

theorem mapTexts_eq_iff : ∀ {e : Expr}, e.mapTexts f = e ↔ ∀ s ∈ e.texts, f s = s
  | .ident _ | .number _ => by simp [mapTexts, texts]
  | .text content => by simp [mapTexts, texts]
  | .array items => by
    rw [mapTexts, texts, array.injEq]
    exact mapItems_eq_iff
  | .call _ args => by
    rw [mapTexts, texts, call.injEq, ← mapArgs_eq_iff]
    exact and_iff_right rfl

theorem mapItems_eq_iff : ∀ {es : List Expr}, mapItems f es = es ↔ ∀ s ∈ itemTexts es, f s = s
  | [] => by simp [mapItems, itemTexts]
  | e :: es => by
    rw [mapItems, itemTexts, List.forall_mem_append, List.cons.injEq, mapTexts_eq_iff,
      mapItems_eq_iff]

theorem mapArgs_eq_iff : ∀ {as : List (Labelled Expr)},
    mapArgs f as = as ↔ ∀ s ∈ argTexts as, f s = s
  | [] => by simp [mapArgs, argTexts]
  | ⟨label, e⟩ :: as => by
    rw [mapArgs, argTexts, List.forall_mem_append, List.cons.injEq, Labelled.mk.injEq,
      mapTexts_eq_iff, mapArgs_eq_iff, and_iff_right rfl]

end

end Expr

namespace Attribute

def texts (a : Attribute) : List String := a.args.elim [] Expr.argTexts

def mapTexts (f : String → String) (a : Attribute) : Attribute :=
  { a with args := a.args.map (Expr.mapArgs f) }

theorem mapTexts_eq_iff {a : Attribute} : a.mapTexts f = a ↔ ∀ s ∈ a.texts, f s = s := by
  obtain ⟨scope, name, args⟩ := a
  cases args with
  | none => simp [mapTexts, texts]
  | some args =>
    rw [mapTexts, Attribute.mk.injEq, and_iff_right rfl, and_iff_right rfl, Option.map_some,
      Option.some.injEq, Expr.mapArgs_eq_iff]
    rfl

theorem map_mapTexts_eq_iff {attributes : List Attribute} :
    attributes.map (mapTexts f) = attributes ↔ ∀ s ∈ attributes.flatMap texts, f s = s := by
  induction attributes with
  | nil => simp
  | cons a attributes ih =>
    rw [List.map_cons, List.flatMap_cons, List.forall_mem_append, List.cons.injEq,
      mapTexts_eq_iff, ih]

end Attribute

namespace FieldDecl

def texts (d : FieldDecl) : List String := d.attributes.flatMap Attribute.texts

def mapTexts (f : String → String) (d : FieldDecl) : FieldDecl :=
  { d with attributes := d.attributes.map (Attribute.mapTexts f) }

theorem mapTexts_eq_iff {d : FieldDecl} : d.mapTexts f = d ↔ ∀ s ∈ d.texts, f s = s := by
  obtain ⟨name, type, attributes, line⟩ := d
  rw [mapTexts, FieldDecl.mk.injEq, Attribute.map_mapTexts_eq_iff]
  simp [texts]

end FieldDecl

end EntityDiagram
