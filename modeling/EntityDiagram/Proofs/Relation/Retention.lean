import EntityDiagram.Proofs.Relation.Justification

namespace EntityDiagram

namespace Relation

def Joins (x : Relation) (source target : Endpoint) (name : Option String) : Prop :=
  x.source = source ∧ x.target = target ∧ x.name = name

instance (x : Relation) (source target : Endpoint) (name : Option String) :
    Decidable (x.Joins source target name) :=
  inferInstanceAs (Decidable (_ ∧ _))

/-- The relation is one of two lists, of which the field is one. -/
def ListAt (x : Relation) (e : Endpoint) : Prop :=
  x.kind = .manyManyImplicit ∧ (x.source = e ∨ x.target = e)

instance (x : Relation) (e : Endpoint) : Decidable (x.ListAt e) :=
  inferInstanceAs (Decidable (_ ∧ _))

theorem Joins.sides {x : Relation} {source target : Endpoint} {name : Option String}
    (h : x.Joins source target name) :
    x.sides = (s(source.model, target.model), s(source.field, target.field)) := by
  obtain ⟨rfl, rfl, _⟩ := h
  rfl

end Relation

namespace Field

def Answers (g f : Field) (m : Model) : Prop :=
  g.type.name = m.name ∧ g.relationName? = f.relationName?

instance (g f : Field) (m : Model) : Decidable (g.Answers f m) :=
  inferInstanceAs (Decidable (_ ∧ _))

/-- The field of `m` is typed as another model `t` and declares both lists of a key. -/
def HoldsKey (f : Field) (m t : Model) (a : Annotation) : Prop :=
  (f.type.name = t.name ∧ t.name ≠ m.name) ∧
    f.annotation? = some a ∧ a.fields ≠ [] ∧ a.references ≠ []

instance (f : Field) (m t : Model) (a : Annotation) : Decidable (f.HoldsKey m t a) :=
  inferInstanceAs (Decidable (_ ∧ _))

/-- The field of `m` is a list of another model `t` and declares not both lists of a key. -/
def IsKeylessList (f : Field) (m t : Model) : Prop :=
  (f.type.name = t.name ∧ t.name ≠ m.name) ∧
    f.isList = true ∧ ∀ a ∈ f.annotation?, a.fields = [] ∨ a.references = []

instance (f : Field) (m t : Model) : Decidable (f.IsKeylessList m t) :=
  inferInstanceAs (Decidable (_ ∧ _))

end Field

/-- The relation of a field of `m` that holds a key to `t` is among `xs`. -/
def KeyedKept (xs : List Relation) (m t : Model) (f : Field) (a : Annotation) : Prop :=
  ∃ x ∈ xs, x.Joins ⟨t.name, joinKey a.references⟩ ⟨m.name, joinKey a.fields⟩ f.relationName?

instance (xs : List Relation) (m t : Model) (f : Field) (a : Annotation) :
    Decidable (KeyedKept xs m t f a) :=
  inferInstanceAs (Decidable (∃ x ∈ xs, _))

/-- A relation of two lists of `m` and `t`, one of which is the field, is among `xs`. -/
def ListKept (xs : List Relation) (m t : Model) (f : Field) : Prop :=
  ∃ x ∈ xs, s(x.between.1, x.between.2) = s(m.name, t.name) ∧ x.name = f.relationName? ∧
    x.ListAt ⟨m.name, f.name⟩

instance (xs : List Relation) (m t : Model) (f : Field) : Decidable (ListKept xs m t f) :=
  inferInstanceAs (Decidable (∃ x ∈ xs, _))

namespace Registry

variable {r r' : Registry} {xs : List Relation}

theorem keyed_mem_allRelations (hr : r.Declared) {m t : Model} (hm : m ∈ r.models)
    (ht : t ∈ r.models) {f : Field} (hf : f ∈ m.fields) {a : Annotation} (h : f.HoldsKey m t a)
    (hback : ∃ g ∈ t.fields, g.Answers f m) : KeyedKept r.allRelations m t f a := by
  obtain ⟨⟨hft, hne⟩, ha, hk, href⟩ := h
  obtain ⟨g, hg, hgm, hgn⟩ := hback
  have hgb := Model.mem_backFields.2 ⟨hg, hgm, hgn⟩
  obtain ⟨kind, hkind⟩ := exists_keyedKind? (List.ne_nil_of_mem hgb)
  have hrel := fieldRelation?_of_cross hr ht hft hne
  rw [crossRelation_of_keys (Field.foreignKey?_eq_some_iff.2 ⟨a, ha, hk, rfl⟩)
    (Field.referencedKey?_eq_some_iff.2 ⟨a, ha, href, rfl⟩), hkind] at hrel
  exact ⟨_, mem_allRelations.2 ⟨m, hm, f, hf, hrel⟩, rfl, rfl, rfl⟩

/-- The other side of a relation of two lists is a list of the model that the field is typed as. -/
theorem listAt_answers (hr : r.Declared) {m t : Model} (hm : m ∈ r.models) (ht : t ∈ r.models)
    {f : Field} (hf : f ∈ m.fields) (hft : f.type.name = t.name) {x : Relation}
    (hx : x ∈ r.allRelations) (h : x.ListAt ⟨m.name, f.name⟩) :
    x.name = f.relationName? ∧ ∃ g ∈ t.fields, g.isList = true ∧ g.Answers f m ∧
      x.sides = (s(t.name, m.name), s(g.name, f.name)) := by
  obtain ⟨n, hn, k, hk, hfield⟩ := mem_allRelations.1 hx
  obtain ⟨n, hn, u, hu, hxn, hxu, hj⟩ := fieldRelation?_justified hr hn hk hfield
  obtain ⟨hkind, hend⟩ := h
  rw [hkind] at hj
  obtain ⟨⟨k, hk, hkn, hkl, hkt, hkr⟩, ⟨g, hg, hgn, hgl, hgt, hgr⟩⟩ := hj
  rcases hend with he | he
  · rw [he] at hxu hgn
    cases hr.model_ext hm hu hxu
    cases hr.field_ext hm hf hg hgn.symm
    cases hr.model_ext ht hn (hft.symm.trans hgt)
    refine ⟨hgr.symm, k, hk, hkl, ⟨hkt, hkr.trans hgr.symm⟩, ?_⟩
    rw [Relation.sides, he, hxn, ← hkn]
    exact Prod.ext Sym2.eq_swap Sym2.eq_swap
  · rw [he] at hxn hkn
    cases hr.model_ext hm hn hxn
    cases hr.field_ext hm hf hk hkn.symm
    cases hr.model_ext ht hu (hft.symm.trans hkt)
    refine ⟨hkr.symm, g, hg, hgl, ⟨hgt, hgr.trans hkr.symm⟩, ?_⟩
    rw [Relation.sides, he, hxu, ← hgn]

theorem keyedKept_iff (hr : r.Declared) (hs : r.Spelled) (hx : r.infer = .ok (xs, r'))
    {m t : Model} {f : Field} {a : Annotation} (hm : m ∈ r.models) (ht : t ∈ r.models)
    (hf : f ∈ m.fields) (hkey : f.HoldsKey m t a) (hback : ∃ g ∈ t.fields, g.Answers f m) :
    KeyedKept xs m t f a ↔
      ∀ y, r.first? (s(t.name, m.name), s(joinKey a.references, joinKey a.fields)) = some y →
        y.Joins ⟨t.name, joinKey a.references⟩ ⟨m.name, joinKey a.fields⟩ f.relationName? := by
  constructor
  · intro h y hy
    obtain ⟨x, hxm, hj⟩ := h
    have hfirst := (mem_iff_first? hs hx).1 hxm
    rw [hj.sides, hy] at hfirst
    cases hfirst
    exact hj
  · intro h
    obtain ⟨z, hz, hj⟩ := keyed_mem_allRelations hr hm ht hf hkey hback
    obtain ⟨y, hy⟩ := exists_first? hz
    rw [hj.sides] at hy
    exact ⟨y, mem_of_first? hs hx hy, h y hy⟩

theorem listKept_iff (hr : r.Declared) (hs : r.Spelled) (hx : r.infer = .ok (xs, r'))
    {m t : Model} {f : Field} (hm : m ∈ r.models) (ht : t ∈ r.models) (hf : f ∈ m.fields)
    (hft : f.type.name = t.name) :
    ListKept xs m t f ↔ ∃ g ∈ t.fields, (g.isList = true ∧ g.Answers f m) ∧
      ∃ y, r.first? (s(t.name, m.name), s(g.name, f.name)) = some y ∧
        y.ListAt ⟨m.name, f.name⟩ := by
  constructor
  · intro h
    obtain ⟨x, hxm, _, _, hl⟩ := h
    have hfirst := (mem_iff_first? hs hx).1 hxm
    obtain ⟨_, g, hg, hgl, hga, hsides⟩ :=
      listAt_answers hr hm ht hf hft (first?_eq_some hfirst).1 hl
    rw [hsides] at hfirst
    exact ⟨g, hg, ⟨hgl, hga⟩, x, hfirst, hl⟩
  · intro h
    obtain ⟨g, hg, _, y, hy, hl⟩ := h
    obtain ⟨hall, hsides⟩ := first?_eq_some hy
    obtain ⟨hname, _⟩ := listAt_answers hr hm ht hf hft hall hl
    refine ⟨y, mem_of_first? hs hx hy, ?_, hname, hl⟩
    rw [(regular_of_mem hall).between]
    exact (congrArg Prod.fst hsides).trans Sym2.eq_swap

/--
A field with a key has its relation kept exactly when the first relation of the same sides is that
one. A list without a key has its relation kept exactly when, for some list that answers it, the
first relation of the sides of these two is one of two lists.
-/
theorem infer_keeps_iff {text : String} (hr : parse text = .ok r) (hx : r.infer = .ok (xs, r'))
    {m t : Model} {f : Field} (hm : m ∈ r.models) (ht : t ∈ r.models) (hf : f ∈ m.fields) :
    (∀ a, f.HoldsKey m t a → (∃ g ∈ t.fields, g.Answers f m) →
      (KeyedKept xs m t f a ↔
        ∀ y, r.first? (s(t.name, m.name), s(joinKey a.references, joinKey a.fields)) = some y →
          y.Joins ⟨t.name, joinKey a.references⟩ ⟨m.name, joinKey a.fields⟩ f.relationName?)) ∧
    (f.IsKeylessList m t → (∃ g ∈ t.fields, g.isList = true ∧ g.Answers f m) →
      (ListKept xs m t f ↔
        ∃ g ∈ t.fields, (g.isList = true ∧ g.Answers f m) ∧
          ∃ y, r.first? (s(t.name, m.name), s(g.name, f.name)) = some y ∧
            y.ListAt ⟨m.name, f.name⟩)) := by
  obtain ⟨hd, hs⟩ := parse_declared hr
  constructor
  · intro a hkey hback
    exact keyedKept_iff hd hs hx hm ht hf hkey hback
  · intro hlist _
    exact listKept_iff hd hs hx hm ht hf hlist.1.1

/-- Two keyed relations on one key, and two pairs of lists whose names are exchanged. -/
def collidingText : String :=
  "model User \x7b
    id Int @id
    written Post[] @relation(\"Written\")
    pinned Post? @relation(\"Pinned\")
    marks Post[] @relation(\"Likes\")
    views Post[] @relation(\"Visits\")
  \x7d
  model Post \x7b
    userId Int
    author User @relation(\"Written\", fields: [userId], references: [id])
    pinnedBy User? @relation(\"Pinned\", fields: [userId], references: [id])
    views User[] @relation(\"Likes\")
    marks User[] @relation(\"Visits\")
  \x7d"

set_option maxRecDepth 10000 in
theorem infer_keeps_iff_colliding : ∃ r r' xs, parse collidingText = .ok r ∧
    r.infer = .ok (xs, r') ∧ ∃ m ∈ r.models, ∃ t ∈ r.models, ∃ f ∈ m.fields, ∃ a ∈ f.annotation?,
      f.name = "author" ∧ f.HoldsKey m t a ∧ (∃ g ∈ t.fields, g.Answers f m) ∧
        KeyedKept xs m t f a := by
  obtain ⟨r, xs, r', hr, hx, h⟩ := exists_of_check collidingText (fun r _ =>
    ∃ m ∈ r.models, ∃ t ∈ r.models, ∃ f ∈ m.fields, ∃ a ∈ f.annotation?,
      f.name = "author" ∧ f.HoldsKey m t a ∧ (∃ g ∈ t.fields, g.Answers f m) ∧
        ∀ y ∈ r.first? (s(t.name, m.name), s(joinKey a.references, joinKey a.fields)),
          y.Joins ⟨t.name, joinKey a.references⟩ ⟨m.name, joinKey a.fields⟩ f.relationName?) rfl
    (by decide +kernel)
  obtain ⟨m, hm, t, ht, f, hf, a, ha, hname, hkey, hback, hfirst⟩ := of_decide_eq_true h
  exact ⟨r, r', xs, hr, hx, m, hm, t, ht, f, hf, a, ha, hname, hkey, hback,
    ((infer_keeps_iff hr hx hm ht hf).1 a hkey hback).2 hfirst⟩

set_option maxRecDepth 10000 in
/-- The relation of the pinned post and that of the visits are lost. -/
theorem infer_loses_colliding : ∃ r r' xs, parse collidingText = .ok r ∧
    r.infer = .ok (xs, r') ∧
    (∃ m ∈ r.models, ∃ t ∈ r.models, ∃ f ∈ m.fields, ∃ a ∈ f.annotation?, f.name = "pinnedBy" ∧
      f.HoldsKey m t a ∧ (∃ g ∈ t.fields, g.Answers f m) ∧ ¬KeyedKept xs m t f a) ∧
    ∃ m ∈ r.models, ∃ t ∈ r.models, ∃ f ∈ m.fields, f.name = "views" ∧ f.IsKeylessList m t ∧
      (∃ g ∈ t.fields, g.isList = true ∧ g.Answers f m) ∧ ¬ListKept xs m t f := by
  obtain ⟨r, xs, r', hr, hx, h⟩ := exists_of_check collidingText (fun r xs =>
    (∃ m ∈ r.models, ∃ t ∈ r.models, ∃ f ∈ m.fields, ∃ a ∈ f.annotation?, f.name = "pinnedBy" ∧
      f.HoldsKey m t a ∧ (∃ g ∈ t.fields, g.Answers f m) ∧ ¬KeyedKept xs m t f a) ∧
    ∃ m ∈ r.models, ∃ t ∈ r.models, ∃ f ∈ m.fields, f.name = "views" ∧ f.IsKeylessList m t ∧
      (∃ g ∈ t.fields, g.isList = true ∧ g.Answers f m) ∧ ¬ListKept xs m t f) rfl
    (by decide +kernel)
  exact ⟨r, r', xs, hr, hx, of_decide_eq_true h⟩

end Registry

end EntityDiagram
