import EntityDiagram.Proofs.Relation.Stability

namespace EntityDiagram

namespace Field

variable {f : Field}

def DeclaresReferences (f : Field) : Prop := ∃ a, f.annotation? = some a ∧ a.references ≠ []

def DeclaresFields (f : Field) : Prop := ∃ a, f.annotation? = some a ∧ a.fields ≠ []

theorem referencedKey?_eq_none_iff : f.referencedKey? = none ↔ ¬f.DeclaresReferences := by
  rw [← not_iff_not, not_not, ← ne_eq, Option.ne_none_iff_exists']
  simp [referencedKey?_eq_some_iff, DeclaresReferences]

theorem foreignKey?_eq_none_iff : f.foreignKey? = none ↔ ¬f.DeclaresFields := by
  rw [← not_iff_not, not_not, ← ne_eq, Option.ne_none_iff_exists']
  simp [foreignKey?_eq_some_iff, DeclaresFields]

end Field

namespace Model

variable {m : Model} {f g : Field} {name : String} {e : RelationError}

def Answers (m : Model) (f : Field) (name : String) (g : Field) : Prop :=
  g ≠ f ∧ g.type.name = m.name ∧ g.relationName? = some name

def FirstAnswer (m : Model) (f : Field) (name : String) (g : Field) : Prop :=
  ∃ as bs, m.fields = as ++ g :: bs ∧ m.Answers f name g ∧ ∀ h ∈ as, ¬m.Answers f name h

/-- Why a field that is typed as its own model stands for no relation, the first reason first. -/
inductive SelfFault (m : Model) (f : Field) : RelationError → Prop
  | unnamed (hn : f.relationName? = none) : SelfFault m f (.unnamed m.name f.name)
  | unpaired {name : String} (hn : f.relationName? = some name)
      (hg : ∀ g ∈ m.fields, ¬m.Answers f name g) : SelfFault m f (.unpaired m.name f.name name)
  | ambiguous {name : String} {g : Field} (hn : f.relationName? = some name)
      (hg : m.FirstAnswer f name g) (ho : ¬(f.isOptional = true ∧ g.isOptional = true))
      (hl : ¬OptionalAndList f g) : SelfFault m f (.ambiguous m.name name f.name g.name)
  | keyless {name : String} {g : Field} (hn : f.relationName? = some name)
      (hg : m.FirstAnswer f name g)
      (hk : (f.isOptional = true ∧ g.isOptional = true) ∨ OptionalAndList f g)
      (hkeys : ¬f.DeclaresReferences ∧ ¬g.DeclaresReferences ∨
        ¬f.DeclaresFields ∧ ¬g.DeclaresFields) : SelfFault m f (.keyless m.name name)

def Malformed (m : Model) (f : Field) (e : RelationError) : Prop :=
  f.type.name = m.name ∧ m.SelfFault f e

theorem answers_iff (hm : m.Declared) (hf : f ∈ m.fields) (hn : f.relationName? = some name)
    (hg : g ∈ m.fields) : m.Answers f name g ↔
      (g.name ≠ f.name && g.type.name = m.name && g.relationName? = f.relationName?) = true := by
  have hne : g ≠ f ↔ g.name ≠ f.name :=
    not_congr ⟨congrArg _, List.inj_on_of_nodup_map hm.nodup hg hf⟩
  simp [Answers, hne, hn, and_assoc]

theorem pair?_eq_none_iff (hm : m.Declared) (hf : f ∈ m.fields)
    (hn : f.relationName? = some name) :
    m.pair? f = none ↔ ∀ g ∈ m.fields, ¬m.Answers f name g := by
  rw [pair?, List.find?_eq_none]
  apply forall₂_congr
  intro g hg
  rw [answers_iff hm hf hn hg]

theorem pair?_eq_some_iff (hm : m.Declared) (hf : f ∈ m.fields)
    (hn : f.relationName? = some name) : m.pair? f = some g ↔ m.FirstAnswer f name g := by
  rw [pair?, List.find?_eq_some_iff_append]
  simp only [← exists_and_left]
  apply exists₂_congr
  intro as bs
  rw [and_left_comm]
  apply and_congr_right
  intro he
  have hfields : ∀ k ∈ as ++ g :: bs, k ∈ m.fields := fun k hk => he ▸ hk
  rw [answers_iff hm hf hn (hfields g (by simp))]
  apply and_congr_right
  intro _
  apply forall₂_congr
  intro k hk
  rw [answers_iff hm hf hn (hfields k (List.mem_append_left _ hk)), Bool.not_eq_true',
    Bool.not_eq_true]

theorem selfKind?_eq_none_iff : selfKind? f g = none ↔
    ¬(f.isOptional = true ∧ g.isOptional = true) ∧ ¬OptionalAndList f g := by
  constructor
  · intro h
    refine ⟨?_, ?_⟩
    · intro ho
      cases h.symm.trans (selfKind?_eq_some_iff.2 (.inl ⟨ho, rfl⟩))
    · intro hl
      cases h.symm.trans (selfKind?_eq_some_iff.2 (.inr ⟨hl, rfl⟩))
  · intro h
    apply Option.eq_none_iff_forall_ne_some.2
    intro kind hk
    rcases selfKind?_eq_some_iff.1 hk with ⟨ho, _⟩ | ⟨hl, _⟩
    · exact h.1 ho
    · exact h.2 hl

theorem keys_eq_none_iff :
    (f.referencedKey?.or g.referencedKey? = none ∨ f.foreignKey?.or g.foreignKey? = none) ↔
      ¬f.DeclaresReferences ∧ ¬g.DeclaresReferences ∨ ¬f.DeclaresFields ∧ ¬g.DeclaresFields := by
  simp only [Option.or_eq_none_iff, Field.referencedKey?_eq_none_iff,
    Field.foreignKey?_eq_none_iff]

theorem selfFault_of_error (hm : m.Declared) (hf : f ∈ m.fields)
    (h : selfRelation m f = .error e) : m.SelfFault f e := by
  rw [selfRelation] at h
  split at h
  · next hn =>
    cases h
    exact .unnamed hn
  · next name hn =>
    split at h
    · next hg =>
      cases h
      exact .unpaired hn ((pair?_eq_none_iff hm hf hn).1 hg)
    · next g hg =>
      rw [pair?_eq_some_iff hm hf hn] at hg
      split at h
      · next hk =>
        cases h
        obtain ⟨ho, hl⟩ := selfKind?_eq_none_iff.1 hk
        exact .ambiguous hn hg ho hl
      · next kind hk =>
        split at h
        · cases h
        · next hkeys =>
          cases h
          refine .keyless hn hg ((selfKind?_eq_some_iff.1 hk).imp And.left And.left) ?_
          apply keys_eq_none_iff.1
          cases hr : f.referencedKey?.or g.referencedKey? with
          | none => exact .inl rfl
          | some references =>
            cases hk : f.foreignKey?.or g.foreignKey? with
            | none => exact .inr rfl
            | some key => exact (hkeys references key hr hk).elim

theorem selfRelation_eq_error_iff (hm : m.Declared) (hf : f ∈ m.fields) :
    selfRelation m f = .error e ↔ m.SelfFault f e := by
  refine ⟨selfFault_of_error hm hf, ?_⟩
  intro h
  cases h with
  | unnamed hn => simp only [selfRelation, hn]
  | unpaired hn hg => simp only [selfRelation, hn, (pair?_eq_none_iff hm hf hn).2 hg]
  | ambiguous hn hg ho hl =>
    simp only [selfRelation, hn, (pair?_eq_some_iff hm hf hn).2 hg,
      selfKind?_eq_none_iff.2 ⟨ho, hl⟩]
  | @keyless name g hn hg hk hkeys =>
    obtain ⟨kind, hkind⟩ : ∃ kind, selfKind? f g = some kind := by
      rcases hk with ho | hl
      · exact ⟨_, selfKind?_eq_some_iff.2 (.inl ⟨ho, rfl⟩)⟩
      · exact ⟨_, selfKind?_eq_some_iff.2 (.inr ⟨hl, rfl⟩)⟩
    simp only [selfRelation, hn, (pair?_eq_some_iff hm hf hn).2 hg, hkind]
    rcases keys_eq_none_iff.2 hkeys with hr | hk
    · rw [hr]
    · rw [hk]
      cases f.referencedKey?.or g.referencedKey? <;> rfl

end Model

namespace Registry

variable {r s : Registry} {m : Model} {f : Field} {e : RelationError}

theorem relationOf_eq_error_iff (hr : r.Declared) (hm : m ∈ r.models) (hf : f ∈ m.fields) :
    r.relationOf m f = .error e ↔ m.Malformed f e := by
  rw [relationOf, Model.Malformed]
  by_cases ht : f.type.name = m.name
  · rw [if_pos ht, and_iff_right ht, ← Model.selfRelation_eq_error_iff (hr.models m hm) hf]
    cases selfRelation m f <;> simp [Except.map]
  · rw [if_neg ht]
    exact iff_of_false (by intro h; cases h) fun h => ht h.1

theorem relationsOf_cons_eq_error_iff {p : Model × Field} {ps : List (Model × Field)} :
    r.relationsOf (p :: ps) = .error e ↔ r.relationOf p.1 p.2 = .error e ∨
      (∃ x, r.relationOf p.1 p.2 = .ok x) ∧ r.relationsOf ps = .error e := by
  rw [relationsOf]
  cases r.relationOf p.1 p.2 with
  | error y => simp
  | ok x => cases r.relationsOf ps <;> simp [Except.map]

theorem relationsOf_eq_error_iff {ps : List (Model × Field)} :
    r.relationsOf ps = .error e ↔
      ∃ as p bs, ps = as ++ p :: bs ∧ (∀ q ∈ as, ∃ x, r.relationOf q.1 q.2 = .ok x) ∧
        r.relationOf p.1 p.2 = .error e := by
  induction ps with
  | nil =>
    apply iff_of_false (by intro h; cases h)
    intro h
    obtain ⟨as, p, bs, he, _⟩ := h
    cases as <;> cases he
  | cons p ps ih =>
    rw [relationsOf_cons_eq_error_iff, ih]
    constructor
    · intro h
      rcases h with hp | ⟨hp, as, q, bs, rfl, has, hq⟩
      · exact ⟨[], p, ps, rfl, List.forall_mem_nil _, hp⟩
      · exact ⟨p :: as, q, bs, rfl, List.forall_mem_cons.2 ⟨hp, has⟩, hq⟩
    · intro h
      obtain ⟨as, q, bs, he, has, hq⟩ := h
      cases as with
      | nil =>
        cases he
        exact .inl hq
      | cons a as =>
        cases he
        obtain ⟨hp, has⟩ := List.forall_mem_cons.1 has
        exact .inr ⟨hp, as, q, bs, rfl, has, hq⟩

theorem infer_eq_error_iff : r.infer = .error e ↔ r.relationsOf r.allFields = .error e := by
  rw [infer, relations]
  cases r.relationsOf r.allFields <;> simp [Except.map]

/-- The error of the first malformed field, in the order of the models and of their fields. -/
def FirstMalformed (r : Registry) (e : RelationError) : Prop :=
  ∃ as m f bs, r.allFields = as ++ (m, f) :: bs ∧ m.Malformed f e ∧
    ∀ p ∈ as, ∀ e', ¬p.1.Malformed p.2 e'

/--
Inference on a registry that is changed in place. The models are linked when all relations are
found.
-/
def inferInPlace : StateM Registry (Except RelationError (List Relation)) := do
  match (← get).relations with
  | .error e => return .error e
  | .ok xs =>
    xs.forM fun x => modify (attach · x)
    return .ok xs

theorem forM_attach (xs : List Relation) (r : Registry) :
    (xs.forM fun x => modify (attach · x) : StateM Registry Unit).run r =
      ((), xs.foldl attach r) := by
  induction xs generalizing r with
  | nil => rfl
  | cons x xs ih => exact ih (r.attach x)

theorem inferInPlace_run (r : Registry) :
    inferInPlace.run r =
      match r.infer with
      | .ok (xs, s) => (.ok xs, s)
      | .error e => (.error e, r) := by
  rw [inferInPlace, StateT.run_bind, StateT.run_get, pure_bind, infer]
  dsimp only
  cases r.relations with
  | error e => rfl
  | ok xs => exact congrArg (fun p => (Except.ok xs, p.2)) (forM_attach xs r)

theorem relationOf_ok_iff (hr : r.Declared) (hm : m ∈ r.models) (hf : f ∈ m.fields) :
    (∃ x, r.relationOf m f = .ok x) ↔ ∀ e, ¬m.Malformed f e := by
  simp only [← relationOf_eq_error_iff hr hm hf]
  cases r.relationOf m f <;> simp

theorem Declared.first_error_iff (hr : r.Declared) {as bs : List (Model × Field)}
    (he : r.allFields = as ++ (m, f) :: bs) :
    (∀ q ∈ as, ∃ x, r.relationOf q.1 q.2 = .ok x) ∧ r.relationOf m f = .error e ↔
      m.Malformed f e ∧ ∀ q ∈ as, ∀ e', ¬q.1.Malformed q.2 e' := by
  have hmem : ∀ q ∈ as ++ (m, f) :: bs, q.1 ∈ r.models ∧ q.2 ∈ q.1.fields := by
    intro q hq
    rw [← he] at hq
    exact mem_allFields.1 hq
  obtain ⟨hm, hf⟩ := hmem (m, f) (by simp)
  rw [and_comm, relationOf_eq_error_iff hr hm hf]
  apply and_congr_right
  intro _
  apply forall₂_congr
  intro q hq
  obtain ⟨hm, hf⟩ := hmem q (List.mem_append_left _ hq)
  exact relationOf_ok_iff hr hm hf

theorem Declared.infer_eq_error_iff (hr : r.Declared) :
    r.infer = .error e ↔ r.FirstMalformed e := by
  rw [Registry.infer_eq_error_iff, relationsOf_eq_error_iff]
  constructor
  · intro h
    obtain ⟨as, p, bs, he, hp⟩ := h
    exact ⟨as, p.1, p.2, bs, he, (hr.first_error_iff he).1 hp⟩
  · intro h
    obtain ⟨as, m, f, bs, he, hp⟩ := h
    exact ⟨as, (m, f), bs, he, (hr.first_error_iff he).2 hp⟩

theorem Declared.exists_infer_error_iff (hr : r.Declared) :
    (∃ e, r.infer = .error e) ↔ ∃ m ∈ r.models, ∃ f ∈ m.fields, ∃ e, m.Malformed f e := by
  have hfails : (∃ e, r.infer = .error e) ↔ ¬∃ p, r.infer = .ok p := by
    cases r.infer <;> simp
  rw [hfails, exists_infer_iff, WellFormed]
  constructor
  · intro h
    by_contra hnone
    push Not at hnone
    exact h fun m hm f hf => (relationOf_ok_iff hr hm hf).2 (hnone m hm f hf)
  · intro h hw
    obtain ⟨m, hm, f, hf, e, he⟩ := h
    exact (relationOf_ok_iff hr hm hf).1 (hw m hm f hf) e he

/--
Inference on the registry of a document, also after any steps, fails exactly if a field that is
typed as its own model is malformed. The error is that of the first such field, and the registry
stays as it is.
-/
theorem infer_error_iff {d : Document} {q : Registry} (hq : ofDocument d = .ok q)
    (steps : List Step) :
    ((∃ e, (q.run steps).infer = .error e) ↔
      ∃ m ∈ (q.run steps).models, ∃ f ∈ m.fields, ∃ e, m.Malformed f e) ∧
    ∀ e, ((q.run steps).infer = .error e ↔ (q.run steps).FirstMalformed e) ∧
      ((q.run steps).infer = .error e →
        inferInPlace.run (q.run steps) = (.error e, q.run steps)) := by
  have hd := (ofDocument_declaredBy hq).declared.run steps
  refine ⟨hd.exists_infer_error_iff, ?_⟩
  intro e
  refine ⟨hd.infer_eq_error_iff, ?_⟩
  intro h
  rw [inferInPlace_run, h]

/-- Two pairs of fields typed as their model. The first is well-formed, the second ambiguous. -/
def lists : Document :=
  let person (name : String) (modifier : Modifier) (args : List Arg) : Member :=
    .field ⟨name, ⟨"Person", modifier⟩, [⟨.field, "relation", some args⟩], 1⟩
  ⟨[.model ⟨"Person", 1, [
    .field ⟨"id", ⟨"Int", .required⟩, [⟨.field, "id", none⟩], 1⟩,
    person "boss" .optional [⟨none, .text "Chain"⟩, ⟨some "fields", .array [.ident "bossId"]⟩,
      ⟨some "references", .array [.ident "id"]⟩],
    person "reports" .list [⟨none, .text "Chain"⟩],
    person "likes" .list [⟨none, .text "Likes"⟩],
    person "likedBy" .list [⟨none, .text "Likes"⟩]]⟩]⟩

theorem infer_error_iff_lists : ∃ q, ofDocument lists = .ok q ∧
    q.infer = .error (.ambiguous "Person" "Likes" "likes" "likedBy") ∧
    q.FirstMalformed (.ambiguous "Person" "Likes" "likes" "likedBy") ∧
    inferInPlace.run q = (.error (.ambiguous "Person" "Likes" "likes" "likedBy"), q) := by
  have hq : ∃ q, ofDocument lists = .ok q ∧
      q.infer = .error (.ambiguous "Person" "Likes" "likes" "likedBy") := ⟨_, rfl, rfl⟩
  obtain ⟨q, hq, hx⟩ := hq
  have h := (infer_error_iff hq []).2 (.ambiguous "Person" "Likes" "likes" "likedBy")
  exact ⟨q, hq, hx, h.1.1 hx, h.2 hx⟩

end Registry

end EntityDiagram
