import EntityDiagram.Proofs.Relation.Id
import EntityDiagram.Relation.Inference

namespace EntityDiagram

theorem joinKey?_eq_some_iff {names : List String} {key : String} :
    joinKey? names = some key ↔ names ≠ [] ∧ joinKey names = key := by
  rw [joinKey?]
  split
  · next h => simp [h]
  · next h => simp [h]

namespace Field

theorem foreignKey?_eq_some_iff {f : Field} {key : String} :
    f.foreignKey? = some key ↔
      ∃ a, f.annotation? = some a ∧ a.fields ≠ [] ∧ joinKey a.fields = key := by
  simp only [foreignKey?, Annotation.foreignKey?, Option.bind_eq_some_iff, joinKey?_eq_some_iff]

theorem referencedKey?_eq_some_iff {f : Field} {key : String} :
    f.referencedKey? = some key ↔
      ∃ a, f.annotation? = some a ∧ a.references ≠ [] ∧ joinKey a.references = key := by
  simp only [referencedKey?, Annotation.referencedKey?, Option.bind_eq_some_iff,
    joinKey?_eq_some_iff]

theorem Spelled.foreignKey_notMem {f : Field} (h : f.Spelled) {key : String}
    (hk : f.foreignKey? = some key) : '-' ∉ key.toList := by
  obtain ⟨a, ha, _, rfl⟩ := foreignKey?_eq_some_iff.1 hk
  exact joinKey_notMem (h.annotation a ha).fields

theorem Spelled.referencedKey_notMem {f : Field} (h : f.Spelled) {key : String}
    (hk : f.referencedKey? = some key) : '-' ∉ key.toList := by
  obtain ⟨a, ha, _, rfl⟩ := referencedKey?_eq_some_iff.1 hk
  exact joinKey_notMem (h.annotation a ha).references

end Field

theorem Model.pair?_eq_some {m : Model} {f g : Field} (h : m.pair? f = some g) :
    g ∈ m.fields ∧ g.name ≠ f.name ∧ g.type.name = m.name ∧ g.relationName? = f.relationName? := by
  refine ⟨List.mem_of_find?_eq_some h, ?_⟩
  simpa [and_assoc] using List.find?_some h

theorem Model.mem_backFields {m : Model} {g : Field} {source : String} {name : Option String} :
    g ∈ m.backFields source name ↔
      g ∈ m.fields ∧ g.type.name = source ∧ g.relationName? = name := by
  simp [Model.backFields]

theorem keyedKind?_eq_some_iff {back : List Field} {kind : RelationKind} :
    keyedKind? back = some kind ↔ back ≠ [] ∧ (kind = .oneOne ∨ kind = .oneMany) ∧
      (kind = .oneOne ↔ ∃ g ∈ back, g.isList = false) := by
  rw [keyedKind?]
  by_cases hone : ∃ g ∈ back, g.isList = false
  · have hany : back.any (!·.isList) = true := by simpa using hone
    obtain ⟨g, hg, _⟩ := hone
    rw [if_pos hany]
    constructor
    · rintro ⟨⟩
      exact ⟨List.ne_nil_of_mem hg, .inl rfl, fun _ => ⟨g, hg, ‹_›⟩, fun _ => rfl⟩
    · rintro ⟨_, _, he⟩
      rw [he.2 ⟨g, hg, ‹_›⟩]
  · have hany : ¬back.any (!·.isList) = true := by simpa using hone
    rw [if_neg hany]
    cases back with
    | nil => simp
    | cons g back =>
      have hg : g.isList = true := by
        by_contra hg
        exact hone ⟨g, List.mem_cons_self, by simpa using hg⟩
      rw [if_pos (by simp [hg])]
      constructor
      · rintro ⟨⟩
        exact ⟨nofun, .inr rfl, nofun, fun h => absurd h hone⟩
      · rintro ⟨_, rfl | rfl, he⟩
        · exact absurd (he.1 rfl) hone
        · rfl

theorem exists_keyedKind? {back : List Field} (h : back ≠ []) :
    ∃ kind, keyedKind? back = some kind := by
  by_cases hone : ∃ g ∈ back, g.isList = false
  · exact ⟨.oneOne, keyedKind?_eq_some_iff.2 ⟨h, .inl rfl, fun _ => hone, fun _ => rfl⟩⟩
  · exact ⟨.oneMany, keyedKind?_eq_some_iff.2 ⟨h, .inr rfl, nofun, fun hs => absurd hs hone⟩⟩

theorem selfRelation_eq_ok_iff {m : Model} {f : Field} {x : Relation} :
    selfRelation m f = .ok x ↔ ∃ name g kind references key,
      f.relationName? = some name ∧ m.pair? f = some g ∧ selfKind? f g = some kind ∧
      f.referencedKey?.or g.referencedKey? = some references ∧
      f.foreignKey?.or g.foreignKey? = some key ∧
      x = .ofEnds kind (some name) ⟨m.name, references⟩ ⟨m.name, key⟩ := by
  rw [selfRelation]
  constructor
  · intro h
    split at h
    · cases h
    · next name hn =>
      split at h
      · cases h
      · next g hg =>
        split at h
        · cases h
        · next kind hk =>
          split at h
          · next references key hr hf =>
            cases h
            exact ⟨name, g, kind, references, key, hn, hg, hk, hr, hf, rfl⟩
          · cases h
  · rintro ⟨name, g, kind, references, key, hn, hg, hk, hr, hf, rfl⟩
    simp only [hn, hg, hk, hr, hf]

theorem crossRelation_of_keys {m t : Model} {f : Field} {key references : String}
    (hk : f.foreignKey? = some key) (hr : f.referencedKey? = some references) :
    crossRelation m f t = (keyedKind? (t.backFields m.name f.relationName?)).map fun kind =>
      .ofEnds kind f.relationName? ⟨t.name, references⟩ ⟨m.name, key⟩ := by
  simp only [crossRelation, hk, hr]

theorem crossRelation_of_no_keys {m t : Model} {f : Field}
    (h : f.foreignKey? = none ∨ f.referencedKey? = none) :
    crossRelation m f t = if f.isList then
      ((t.backFields m.name f.relationName?).find? (·.isList)).map fun g =>
        .ofEnds .manyManyImplicit f.relationName? ⟨t.name, g.name⟩ ⟨m.name, f.name⟩
      else none := by
  rw [crossRelation]
  split
  · next key references hk hr => simp [hk, hr] at h
  · rfl

theorem crossRelation_cases {m t : Model} {f : Field} {x : Relation}
    (h : crossRelation m f t = some x) :
    (∃ key references kind, f.foreignKey? = some key ∧ f.referencedKey? = some references ∧
      keyedKind? (t.backFields m.name f.relationName?) = some kind ∧
      x = .ofEnds kind f.relationName? ⟨t.name, references⟩ ⟨m.name, key⟩) ∨
    (f.isList = true ∧ ∃ g, (t.backFields m.name f.relationName?).find? (·.isList) = some g ∧
      x = .ofEnds .manyManyImplicit f.relationName? ⟨t.name, g.name⟩ ⟨m.name, f.name⟩) := by
  by_cases hn : f.foreignKey? = none ∨ f.referencedKey? = none
  · rw [crossRelation_of_no_keys hn] at h
    split at h
    · next hl =>
      obtain ⟨g, hg, rfl⟩ := Option.map_eq_some_iff.1 h
      exact .inr ⟨hl, g, hg, rfl⟩
    · cases h
  · rw [not_or] at hn
    obtain ⟨key, hk⟩ := Option.ne_none_iff_exists'.1 hn.1
    obtain ⟨references, hr⟩ := Option.ne_none_iff_exists'.1 hn.2
    rw [crossRelation_of_keys hk hr] at h
    obtain ⟨kind, hkind, rfl⟩ := Option.map_eq_some_iff.1 h
    exact .inl ⟨key, references, kind, hk, hr, hkind, rfl⟩

namespace Relation

/-- The id and the models are those that the ends give. -/
structure Regular (x : Relation) : Prop where
  between : x.between = (x.source.model, x.target.model)
  id : x.id = relationId x.between (x.source.field, x.target.field)

theorem ofEnds_regular (kind : RelationKind) (name : Option String) (source target : Endpoint) :
    (ofEnds kind name source target).Regular :=
  ⟨rfl, rfl⟩

structure Spelled (x : Relation) : Prop where
  sourceModel : '-' ∉ x.source.model.toList
  sourceField : '-' ∉ x.source.field.toList
  targetModel : '-' ∉ x.target.model.toList
  targetField : '-' ∉ x.target.field.toList

end Relation

namespace Registry

def fieldRelation? (r : Registry) (m : Model) (f : Field) : Option Relation :=
  match r.relationOf m f with
  | .ok x => x
  | .error _ => none

theorem fieldRelation?_of_ok {r : Registry} {m : Model} {f : Field} {x : Option Relation}
    (h : r.relationOf m f = .ok x) : r.fieldRelation? m f = x := by
  simp [fieldRelation?, h]

theorem fieldRelation?_of_self {r : Registry} {m : Model} {f : Field} {x : Relation}
    (hf : f.type.name = m.name) (h : selfRelation m f = .ok x) :
    r.fieldRelation? m f = some x := by
  apply fieldRelation?_of_ok
  rw [relationOf, if_pos hf, h]
  rfl

theorem fieldRelation?_of_cross {r : Registry} (hr : r.Declared) {m t : Model} {f : Field}
    (ht : t ∈ r.models) (hf : f.type.name = t.name) (hne : t.name ≠ m.name) :
    r.fieldRelation? m f = crossRelation m f t := by
  apply fieldRelation?_of_ok
  rw [relationOf, if_neg (by rwa [hf]), hf, hr.get?_name ht]
  rfl

theorem fieldRelation?_cases {r : Registry} {m : Model} {f : Field} {x : Relation}
    (h : r.fieldRelation? m f = some x) :
    (f.type.name = m.name ∧ selfRelation m f = .ok x) ∨
      ∃ t ∈ r.models, f.type.name = t.name ∧ t.name ≠ m.name ∧ crossRelation m f t = some x := by
  rw [fieldRelation?, relationOf] at h
  by_cases hf : f.type.name = m.name
  · rw [if_pos hf] at h
    cases hs : selfRelation m f with
    | error e => simp [hs, Except.map] at h
    | ok y =>
      simp only [hs, Except.map, Option.some.injEq] at h
      exact .inl ⟨hf, by rw [h]⟩
  · rw [if_neg hf] at h
    obtain ⟨t, ht, hx⟩ := Option.bind_eq_some_iff.1 h
    obtain ⟨hm, hn⟩ := mem_of_get? ht
    exact .inr ⟨t, hm, hn.symm, fun he => hf (by rw [← hn, he]), hx⟩

theorem fieldRelation?_regular {r : Registry} {m : Model} {f : Field} {x : Relation}
    (h : r.fieldRelation? m f = some x) : x.Regular := by
  rcases fieldRelation?_cases h with ⟨_, hs⟩ | ⟨t, _, _, _, hc⟩
  · obtain ⟨_, _, _, _, _, _, _, _, _, _, rfl⟩ := selfRelation_eq_ok_iff.1 hs
    exact Relation.ofEnds_regular _ _ _ _
  · rcases crossRelation_cases hc with ⟨_, _, _, _, _, _, rfl⟩ | ⟨_, _, _, rfl⟩ <;>
      exact Relation.ofEnds_regular _ _ _ _

/-- The target of the relation of a field is its model, and the source is what it is typed as. -/
theorem fieldRelation?_models {r : Registry} {m : Model} {f : Field} {x : Relation}
    (h : r.fieldRelation? m f = some x) :
    x.target.model = m.name ∧ x.source.model = f.type.name := by
  rcases fieldRelation?_cases h with ⟨hf, hs⟩ | ⟨t, _, hf, _, hc⟩
  · obtain ⟨_, _, _, _, _, _, _, _, _, _, rfl⟩ := selfRelation_eq_ok_iff.1 hs
    exact ⟨rfl, hf.symm⟩
  · rcases crossRelation_cases hc with ⟨_, _, _, _, _, _, rfl⟩ | ⟨_, _, _, rfl⟩ <;>
      exact ⟨rfl, hf.symm⟩

theorem fieldRelation?_spelled {r : Registry} (hr : r.Spelled) {m : Model} (hm : m ∈ r.models)
    {f : Field} (hf : f ∈ m.fields) {x : Relation} (h : r.fieldRelation? m f = some x) :
    x.Spelled := by
  have hmn := (hr m hm).name.hyphen_notMem
  have hfs := (hr m hm).fields f hf
  rcases fieldRelation?_cases h with ⟨_, hs⟩ | ⟨t, ht, _, _, hc⟩
  · obtain ⟨_, g, _, references, key, _, hg, _, href, hkey, rfl⟩ := selfRelation_eq_ok_iff.1 hs
    have hgs := (hr m hm).fields g (Model.pair?_eq_some hg).1
    have hrefs : '-' ∉ references.toList := by
      rcases Option.or_eq_some_iff.1 href with h | ⟨_, h⟩
      · exact hfs.referencedKey_notMem h
      · exact hgs.referencedKey_notMem h
    have hkeys : '-' ∉ key.toList := by
      rcases Option.or_eq_some_iff.1 hkey with h | ⟨_, h⟩
      · exact hfs.foreignKey_notMem h
      · exact hgs.foreignKey_notMem h
    exact ⟨hmn, hrefs, hmn, hkeys⟩
  · have htn := (hr t ht).name.hyphen_notMem
    rcases crossRelation_cases hc with ⟨key, references, _, hk, href, _, rfl⟩ | ⟨_, g, hg, rfl⟩
    · exact ⟨htn, hfs.referencedKey_notMem href, hmn, hfs.foreignKey_notMem hk⟩
    · have hgt := (Model.mem_backFields.1 (List.mem_of_find?_eq_some hg)).1
      exact ⟨htn, ((hr t ht).fields g hgt).name.hyphen_notMem, hmn, hfs.name.hyphen_notMem⟩

end Registry

end EntityDiagram
