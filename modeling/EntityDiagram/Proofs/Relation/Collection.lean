import Mathlib.Data.List.Find
import EntityDiagram.Proofs.Relation.Field

namespace EntityDiagram

namespace Relation

/-- The two models and the two names of the sides, whichever side has which. -/
def sides (x : Relation) : Sym2 String × Sym2 String :=
  (s(x.source.model, x.target.model), s(x.source.field, x.target.field))

theorem id_eq_iff {x y : Relation} (hx : x.Regular) (hy : y.Regular) (sx : x.Spelled)
    (sy : y.Spelled) : x.id = y.id ↔ x.sides = y.sides := by
  rw [hx.id, hy.id, hx.between, hy.between, relationId_eq_iff sx.sourceModel sx.targetModel
    sy.sourceModel sy.targetModel sx.sourceField sx.targetField sy.sourceField sy.targetField]
  exact Prod.mk_inj.symm

end Relation

theorem mem_firstOfEachId {x : Relation} {seen : List String} {l : List Relation} :
    x ∈ firstOfEachId seen l ↔ x.id ∉ seen ∧ l.find? (·.id = x.id) = some x := by
  induction l generalizing seen with
  | nil => simp [firstOfEachId]
  | cons y l ih =>
    rw [firstOfEachId]
    by_cases hid : y.id = x.id
    · rw [List.find?_cons_of_pos (by simpa using hid), hid]
      split
      · next hs =>
        rw [ih]
        exact ⟨fun h => absurd hs h.1, fun h => absurd hs h.1⟩
      · next hs =>
        rw [List.mem_cons, ih]
        constructor
        · rintro (rfl | h)
          · exact ⟨hs, rfl⟩
          · exact absurd List.mem_cons_self h.1
        · rintro ⟨_, h⟩
          exact .inl (Option.some.inj h).symm
    · rw [List.find?_cons_of_neg (by simpa using hid)]
      have hne : x ≠ y := fun he => hid (he ▸ rfl)
      split
      · exact ih
      · rw [List.mem_cons, ih, List.mem_cons]
        have hid : x.id ≠ y.id := Ne.symm hid
        simp [hne, hid]

theorem firstOfEachId_nodup (seen : List String) (l : List Relation) :
    ((firstOfEachId seen l).map (·.id)).Nodup := by
  induction l generalizing seen with
  | nil => exact List.nodup_nil
  | cons y l ih =>
    rw [firstOfEachId]
    split
    · exact ih seen
    · refine List.nodup_cons.2 ⟨fun hm => ?_, ih _⟩
      obtain ⟨x, hx, he⟩ := List.mem_map.1 hm
      exact (mem_firstOfEachId.1 hx).1 (he ▸ List.mem_cons_self)

namespace Registry

def modelRelations (r : Registry) (m : Model) : List Relation :=
  m.fields.filterMap (r.fieldRelation? m)

/-- The relations that the fields stand for, in the order of the declarations. -/
def allRelations (r : Registry) : List Relation := r.models.flatMap r.modelRelations

/-- The first relation that joins two models through two names. -/
def first? (r : Registry) (sides : Sym2 String × Sym2 String) : Option Relation :=
  r.allRelations.find? (·.sides = sides)

theorem relationsOf_eq_ok {r : Registry} {ps : List (Model × Field)}
    (h : ∀ p ∈ ps, ∃ x, r.relationOf p.1 p.2 = .ok x) :
    r.relationsOf ps = .ok (ps.filterMap fun p => r.fieldRelation? p.1 p.2) := by
  induction ps with
  | nil => rfl
  | cons p ps ih =>
    obtain ⟨x, hx⟩ := h p List.mem_cons_self
    have hs := ih fun q hq => h q (List.mem_cons_of_mem p hq)
    simp only [relationsOf, hx, hs, Except.map, List.filterMap_cons, fieldRelation?_of_ok hx]
    cases x <;> rfl

theorem relationOf_ok_of_mem {r : Registry} {ps : List (Model × Field)} {xs : List Relation}
    (h : r.relationsOf ps = .ok xs) : ∀ p ∈ ps, ∃ x, r.relationOf p.1 p.2 = .ok x := by
  induction ps generalizing xs with
  | nil => exact nofun
  | cons p ps ih =>
    rw [relationsOf] at h
    split at h
    · next x hx =>
      cases hs : r.relationsOf ps with
      | error e => simp [hs, Except.map] at h
      | ok ys =>
        intro q hq
        rcases List.mem_cons.1 hq with rfl | hq
        · exact ⟨x, hx⟩
        · exact ih hs q hq
    · cases h

theorem mem_allFields {r : Registry} {m : Model} {f : Field} :
    (m, f) ∈ r.allFields ↔ m ∈ r.models ∧ f ∈ m.fields := by
  rw [allFields]
  constructor
  · intro h
    obtain ⟨n, hn, he⟩ := List.mem_flatMap.1 h
    obtain ⟨g, hg, he⟩ := List.mem_map.1 he
    cases he
    exact ⟨hn, hg⟩
  · rintro ⟨hm, hf⟩
    exact List.mem_flatMap.2 ⟨m, hm, List.mem_map_of_mem hf⟩

theorem filterMap_allFields (r : Registry) :
    (r.allFields.filterMap fun p => r.fieldRelation? p.1 p.2) = r.allRelations := by
  rw [allFields, allRelations, List.filterMap_flatMap]
  apply List.flatMap_congr
  intro m _
  rw [List.filterMap_map]
  rfl

/-- Every field is no malformed side of a self-relation. -/
def WellFormed (r : Registry) : Prop :=
  ∀ m ∈ r.models, ∀ f ∈ m.fields, ∃ x, r.relationOf m f = .ok x

theorem relations_eq_ok_iff {r : Registry} {xs : List Relation} :
    r.relations = .ok xs ↔ r.WellFormed ∧ xs = firstOfEachId [] r.allRelations := by
  rw [relations]
  constructor
  · intro h
    cases hs : r.relationsOf r.allFields with
    | error e => simp [hs, Except.map] at h
    | ok ys =>
      have hall := relationOf_ok_of_mem hs
      refine ⟨fun m hm f hf => hall (m, f) (mem_allFields.2 ⟨hm, hf⟩), ?_⟩
      rw [relationsOf_eq_ok hall, filterMap_allFields] at h
      cases h
      rfl
  · rintro ⟨hw, rfl⟩
    rw [relationsOf_eq_ok fun p hp => hw p.1 (mem_allFields.1 hp).1 p.2 (mem_allFields.1 hp).2,
      filterMap_allFields]
    rfl

theorem relations_of_infer {r r' : Registry} {xs : List Relation} (h : r.infer = .ok (xs, r')) :
    r.WellFormed ∧ xs = firstOfEachId [] r.allRelations := by
  rw [infer] at h
  cases hs : r.relations with
  | error e => simp [hs, Except.map] at h
  | ok ys =>
    rw [hs] at h
    cases h
    exact relations_eq_ok_iff.1 hs

theorem mem_modelRelations {r : Registry} {m : Model} {x : Relation} :
    x ∈ r.modelRelations m ↔ ∃ f ∈ m.fields, r.fieldRelation? m f = some x :=
  List.mem_filterMap

theorem mem_allRelations {r : Registry} {x : Relation} :
    x ∈ r.allRelations ↔ ∃ m ∈ r.models, ∃ f ∈ m.fields, r.fieldRelation? m f = some x := by
  simp only [allRelations, List.mem_flatMap, mem_modelRelations]

theorem regular_of_mem {r : Registry} {x : Relation} (hx : x ∈ r.allRelations) : x.Regular := by
  obtain ⟨_, _, _, _, hrel⟩ := mem_allRelations.1 hx
  exact fieldRelation?_regular hrel

theorem spelled_of_mem {r : Registry} (hr : r.Spelled) {x : Relation} (hx : x ∈ r.allRelations) :
    x.Spelled := by
  obtain ⟨_, hm, _, hf, hrel⟩ := mem_allRelations.1 hx
  exact fieldRelation?_spelled hr hm hf hrel

theorem allRelations_id_eq_iff {r : Registry} (hr : r.Spelled) {x y : Relation}
    (hx : x ∈ r.allRelations) (hy : y ∈ r.allRelations) : x.id = y.id ↔ x.sides = y.sides :=
  Relation.id_eq_iff (regular_of_mem hx) (regular_of_mem hy) (spelled_of_mem hr hx)
    (spelled_of_mem hr hy)

theorem first?_eq_some {r : Registry} {sides : Sym2 String × Sym2 String} {x : Relation}
    (h : r.first? sides = some x) : x ∈ r.allRelations ∧ x.sides = sides :=
  ⟨List.mem_of_find?_eq_some h, by simpa using List.find?_some h⟩

theorem exists_first? {r : Registry} {x : Relation} (h : x ∈ r.allRelations) :
    ∃ y, r.first? x.sides = some y := by
  cases hf : r.first? x.sides with
  | none =>
    have hx := List.find?_eq_none.1 hf x h
    simp at hx
  | some y => exact ⟨y, rfl⟩

/-- A relation is kept exactly when it is the first one of its sides. -/
theorem mem_iff_first? {r r' : Registry} (hr : r.Spelled) {xs : List Relation}
    (h : r.infer = .ok (xs, r')) {x : Relation} : x ∈ xs ↔ r.first? x.sides = some x := by
  rw [(relations_of_infer h).2, mem_firstOfEachId]
  have hcongr (hx : x ∈ r.allRelations) :
      r.allRelations.find? (·.id = x.id) = r.first? x.sides := by
    apply List.find?_congr
    intro y hy
    exact decide_eq_decide.2 (allRelations_id_eq_iff hr hy hx)
  constructor
  · rintro ⟨_, hx⟩
    rwa [hcongr (List.mem_of_find?_eq_some hx)] at hx
  · intro hx
    refine ⟨List.not_mem_nil, ?_⟩
    rwa [hcongr (first?_eq_some hx).1]

theorem mem_of_first? {r r' : Registry} (hr : r.Spelled) {xs : List Relation}
    (h : r.infer = .ok (xs, r')) {sides : Sym2 String × Sym2 String} {x : Relation}
    (hx : r.first? sides = some x) : x ∈ xs := by
  rw [mem_iff_first? hr h, (first?_eq_some hx).2]
  exact hx

end Registry

end EntityDiagram
