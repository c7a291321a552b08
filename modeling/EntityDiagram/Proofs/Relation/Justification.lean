import EntityDiagram.Proofs.Relation.Collection
import EntityDiagram.Proofs.Relation.Evaluation

namespace EntityDiagram

theorem Field.isList_of_isOptional {f : Field} (h : f.isOptional = true) : f.isList = false := by
  have hm : f.type.modifier = .optional := by simpa [isOptional] using h
  simp [isList, hm]

def OptionalAndList (f g : Field) : Prop :=
  f.isOptional = true ∧ g.isList = true ∨ f.isList = true ∧ g.isOptional = true

theorem selfKind?_eq_some_iff {f g : Field} {kind : RelationKind} :
    selfKind? f g = some kind ↔
      (f.isOptional = true ∧ g.isOptional = true) ∧ kind = .selfOneOne ∨
        OptionalAndList f g ∧ kind = .selfOneMany := by
  have hexcl : OptionalAndList f g → ¬(f.isOptional = true ∧ g.isOptional = true) := by
    rintro (⟨_, hl⟩ | ⟨hl, _⟩) ⟨hf, hg⟩
    · rw [Field.isList_of_isOptional hg] at hl
      cases hl
    · rw [Field.isList_of_isOptional hf] at hl
      cases hl
  rw [selfKind?]
  split
  · next h =>
    have ho : f.isOptional = true ∧ g.isOptional = true := by simpa using h
    constructor
    · rintro ⟨⟩
      exact .inl ⟨ho, rfl⟩
    · rintro (⟨_, rfl⟩ | ⟨hl, _⟩)
      · rfl
      · exact absurd ho (hexcl hl)
  · next h =>
    have ho : ¬(f.isOptional = true ∧ g.isOptional = true) := by simpa using h
    split
    · next h =>
      have hl : OptionalAndList f g := by simpa [OptionalAndList] using h
      constructor
      · rintro ⟨⟩
        exact .inr ⟨hl, rfl⟩
      · rintro (⟨h, _⟩ | ⟨_, rfl⟩)
        · exact absurd h ho
        · rfl
    · next h =>
      have hl : ¬OptionalAndList f g := by simpa [OptionalAndList] using h
      simp [ho, hl]

namespace Relation

/-- A field of `m` holds the key to `t`, and a field of `t` answers it. -/
structure Keyed (x : Relation) (m t : Model) : Prop where
  key : ∃ f ∈ m.fields, f.type.name = t.name ∧ f.relationName? = x.name ∧
    ∃ a, f.annotation? = some a ∧ a.fields ≠ [] ∧ a.references ≠ [] ∧
      joinKey a.fields = x.target.field ∧ joinKey a.references = x.source.field ∧
      ∀ name ∈ a.fields, name ∈ m.foreignKeys
  back : ∃ g ∈ t.fields, g.type.name = m.name ∧ g.relationName? = x.name
  oneOne_iff : x.kind = .oneOne ↔
    ∃ g ∈ t.fields, g.type.name = m.name ∧ g.relationName? = x.name ∧ g.isList = false

/-- A list field of `m` and one of `t` are typed as each other's model. -/
structure ListPair (x : Relation) (m t : Model) : Prop where
  target : ∃ f ∈ m.fields, f.name = x.target.field ∧ f.isList = true ∧
    f.type.name = t.name ∧ f.relationName? = x.name
  source : ∃ g ∈ t.fields, g.name = x.source.field ∧ g.isList = true ∧
    g.type.name = m.name ∧ g.relationName? = x.name

/-- Two fields of `m` are typed as it, and what `f` does not say of the key is said by `g`. -/
structure SelfPair (x : Relation) (m : Model) (f g : Field) : Prop where
  names_ne : f.name ≠ g.name
  types : f.type.name = m.name ∧ g.type.name = m.name
  relationNames : f.relationName? = x.name ∧ g.relationName? = x.name
  named : x.name ≠ none
  oneOne_iff : x.kind = .selfOneOne ↔ f.isOptional = true ∧ g.isOptional = true
  oneMany_iff : x.kind = .selfOneMany ↔ OptionalAndList f g
  references : f.referencedKey?.or g.referencedKey? = some x.source.field
  key : f.foreignKey?.or g.foreignKey? = some x.target.field

/-- The relation is what fields of the declared models say. -/
def Justified (x : Relation) (r : Registry) : Prop :=
  ∃ m ∈ r.models, ∃ t ∈ r.models, x.target.model = m.name ∧ x.source.model = t.name ∧
    match x.kind with
    | .oneOne | .oneMany => x.Keyed m t
    | .manyManyImplicit => x.ListPair m t
    | .selfOneOne | .selfOneMany => ∃ f ∈ m.fields, ∃ g ∈ m.fields, x.SelfPair m f g

end Relation

theorem selfRelation_pair {m : Model} {f : Field} (ht : f.type.name = m.name) {x : Relation}
    (h : selfRelation m f = .ok x) : ∃ g ∈ m.fields, x.SelfPair m f g := by
  obtain ⟨name, g, kind, references, key, hn, hg, hk, hr, hkey, rfl⟩ := selfRelation_eq_ok_iff.1 h
  obtain ⟨hgm, hne, hgt, hgn⟩ := Model.pair?_eq_some hg
  refine ⟨g, hgm, hne.symm, ⟨ht, hgt⟩, ⟨hn, hgn.trans hn⟩, nofun, ?_, ?_, hr, hkey⟩
  · constructor
    · rintro rfl
      simpa using selfKind?_eq_some_iff.1 hk
    · intro ho
      exact Option.some.inj (hk.symm.trans (selfKind?_eq_some_iff.2 (.inl ⟨ho, rfl⟩)))
  · constructor
    · rintro rfl
      simpa using selfKind?_eq_some_iff.1 hk
    · intro hl
      exact Option.some.inj (hk.symm.trans (selfKind?_eq_some_iff.2 (.inr ⟨hl, rfl⟩)))

theorem selfRelation_kind {m : Model} {f : Field} {x : Relation} (h : selfRelation m f = .ok x) :
    x.kind = .selfOneOne ∨ x.kind = .selfOneMany := by
  obtain ⟨_, _, _, _, _, _, _, hk, _, _, rfl⟩ := selfRelation_eq_ok_iff.1 h
  exact (selfKind?_eq_some_iff.1 hk).imp And.right And.right

theorem crossRelation_keyed {m t : Model} (hm : m.Declared) {f : Field} (hf : f ∈ m.fields)
    (ht : f.type.name = t.name) {key references : String} {kind : RelationKind}
    (hk : f.foreignKey? = some key) (hr : f.referencedKey? = some references)
    (hkind : keyedKind? (t.backFields m.name f.relationName?) = some kind) :
    (Relation.ofEnds kind f.relationName? ⟨t.name, references⟩ ⟨m.name, key⟩).Keyed m t := by
  obtain ⟨hne, _, hone⟩ := keyedKind?_eq_some_iff.1 hkind
  simp only [Model.mem_backFields, and_assoc] at hone
  constructor
  · obtain ⟨a, ha, hfields, rfl⟩ := Field.foreignKey?_eq_some_iff.1 hk
    obtain ⟨b, hb, hreferences, rfl⟩ := Field.referencedKey?_eq_some_iff.1 hr
    cases ha.symm.trans hb
    exact ⟨f, hf, ht, rfl, a, ha, hfields, hreferences, rfl, rfl, hm.foreignKeys f hf a ha⟩
  · obtain ⟨g, hg⟩ := List.exists_mem_of_ne_nil _ hne
    exact ⟨g, Model.mem_backFields.1 hg⟩
  · exact hone

theorem crossRelation_lists {m t : Model} {f g : Field} (hf : f ∈ m.fields)
    (ht : f.type.name = t.name) (hl : f.isList = true)
    (hg : (t.backFields m.name f.relationName?).find? (·.isList) = some g) :
    (Relation.ofEnds .manyManyImplicit f.relationName? ⟨t.name, g.name⟩
      ⟨m.name, f.name⟩).ListPair m t := by
  obtain ⟨hgt, hgm, hgn⟩ := Model.mem_backFields.1 (List.mem_of_find?_eq_some hg)
  exact ⟨⟨f, hf, rfl, hl, ht, rfl⟩, ⟨g, hgt, rfl, List.find?_some hg, hgm, hgn⟩⟩

namespace Registry

theorem fieldRelation?_justified {r : Registry} (hr : r.Declared) {m : Model} (hm : m ∈ r.models)
    {f : Field} (hf : f ∈ m.fields) {x : Relation} (h : r.fieldRelation? m f = some x) :
    x.Justified r := by
  rcases fieldRelation?_cases h with ⟨ht, hs⟩ | ⟨t, htm, ht, _, hc⟩
  · obtain ⟨hx, hy⟩ := fieldRelation?_models h
    refine ⟨m, hm, m, hm, hx, hy.trans ht, ?_⟩
    rcases selfRelation_kind hs with hk | hk <;> rw [hk] <;> exact ⟨f, hf, selfRelation_pair ht hs⟩
  · rcases crossRelation_cases hc with ⟨key, references, kind, hk, href, hkind, rfl⟩ |
      ⟨hl, g, hg, rfl⟩
    · refine ⟨m, hm, t, htm, rfl, rfl, ?_⟩
      have hkeyed := crossRelation_keyed (hr.models m hm) hf ht hk href hkind
      rcases (keyedKind?_eq_some_iff.1 hkind).2.1 with rfl | rfl <;> exact hkeyed
    · exact ⟨m, hm, t, htm, rfl, rfl, crossRelation_lists hf ht hl hg⟩

theorem fieldRelation?_isSelf {r : Registry} {m : Model} {f : Field} {x : Relation}
    (h : r.fieldRelation? m f = some x) : x.isSelf = true ↔ x.kind.isSelf = true := by
  have hb := (fieldRelation?_regular h).between
  obtain ⟨hx, hy⟩ := fieldRelation?_models h
  have hself : x.isSelf = true ↔ f.type.name = m.name := by
    simp [Relation.isSelf, hb, hx, hy]
  rw [hself]
  rcases fieldRelation?_cases h with ⟨ht, hs⟩ | ⟨t, _, ht, hne, hc⟩
  · rcases selfRelation_kind hs with hk | hk <;> simp [ht, hk, RelationKind.isSelf]
  · have hf : f.type.name ≠ m.name := by rwa [ht]
    rcases crossRelation_cases hc with ⟨_, _, kind, _, _, hkind, rfl⟩ | ⟨_, _, _, rfl⟩
    · rcases (keyedKind?_eq_some_iff.1 hkind).2.1 with rfl | rfl <;>
        simp [hf, Relation.ofEnds, RelationKind.isSelf]
    · simp [hf, Relation.ofEnds, RelationKind.isSelf]

theorem contains_of_mem {r : Registry} {m : Model} (hm : m ∈ r.models) :
    r.contains m.name = true := by
  simpa [contains] using ⟨m, hm, rfl⟩

/--
The relations inferred from a text have distinct ids. Each has the id and the models that its ends
give, and is what fields of declared models say.
-/
theorem infer_justified {text : String} {r r' : Registry} {xs : List Relation}
    (hr : parse text = .ok r) (hx : r.infer = .ok (xs, r')) :
    (xs.map (·.id)).Nodup ∧ ∀ x ∈ xs,
      x.between = (x.source.model, x.target.model) ∧
      (r.contains x.source.model = true ∧ r.contains x.target.model = true) ∧
      x.id = relationId x.between (x.source.field, x.target.field) ∧
      (x.isSelf = true ↔ x.kind.isSelf = true) ∧ x.Justified r := by
  obtain ⟨hd, hs⟩ := parse_declared hr
  obtain ⟨_, rfl⟩ := relations_of_infer hx
  refine ⟨firstOfEachId_nodup _ _, fun x hm => ?_⟩
  have hall := List.mem_of_find?_eq_some (mem_firstOfEachId.1 hm).2
  obtain ⟨m, hm, f, hf, h⟩ := mem_allRelations.1 hall
  have hreg := fieldRelation?_regular h
  have hj := fieldRelation?_justified hd hm hf h
  refine ⟨hreg.between, ?_, hreg.id, fieldRelation?_isSelf h, hj⟩
  obtain ⟨n, hn, t, ht, hxn, hxt, _⟩ := hj
  exact ⟨hxt ▸ contains_of_mem ht, hxn ▸ contains_of_mem hn⟩

/-- A schema with a relation of each kind. -/
def blogText : String :=
  "model User \x7b
    id Int @id
    bossId Int?
    boss User? @relation(\"Chain\", fields: [bossId], references: [id])
    deputyId Int?
    deputy User? @relation(\"Deputy\", fields: [deputyId])
    principal User? @relation(\"Deputy\", references: [id])
    reports User[] @relation(\"Chain\")
    posts Post[]
    profile Profile?
  \x7d
  model Profile \x7b
    userId Int
    user User @relation(fields: [userId], references: [id])
  \x7d
  model Post \x7b
    authorId Int
    author User @relation(fields: [authorId], references: [id])
    tags Tag[]
  \x7d
  model Tag \x7b
    posts Post[]
  \x7d"

set_option maxRecDepth 10000 in
theorem infer_justified_blog : ∃ r r' xs, parse blogText = .ok r ∧ r.infer = .ok (xs, r') ∧
    xs.map (·.kind) = [.selfOneMany, .selfOneOne, .oneOne, .oneMany, .manyManyImplicit] ∧
    (xs.map (·.id)).Nodup ∧ ∀ x ∈ xs, x.Justified r := by
  obtain ⟨r, xs, r', hr, hx, h⟩ := exists_of_check blogText (fun _ xs =>
    xs.map (·.kind) = [.selfOneMany, .selfOneOne, .oneOne, .oneMany, .manyManyImplicit]) rfl
    (by decide +kernel)
  obtain ⟨hn, hj⟩ := infer_justified hr hx
  exact ⟨r, r', xs, hr, hx, of_decide_eq_true h, hn, fun x hm => (hj x hm).2.2.2.2⟩

end Registry

end EntityDiagram
