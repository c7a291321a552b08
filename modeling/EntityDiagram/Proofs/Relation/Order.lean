import EntityDiagram.Proofs.Relation.Collection
import EntityDiagram.Proofs.Relation.Evaluation

namespace EntityDiagram

section Lists

variable {α β : Type} {l : List α} {f : α → Option β} {a b : α} {x y : β}

theorem findSome?_of_only (hb : b ∈ l) (hy : f b = some y) (hn : ∀ c ∈ l, c ≠ b → f c = none) :
    l.findSome? f = some y := by
  cases hf : l.findSome? f with
  | none =>
    rw [List.findSome?_eq_none_iff.1 hf b hb] at hy
    cases hy
  | some z =>
    obtain ⟨c, hc, hz⟩ := List.exists_of_findSome?_eq_some hf
    by_cases he : c = b
    · rw [← hz, he, hy]
    · rw [hn c hc he] at hz
      cases hz

/--
Where only two elements have a result, that of the first one is found, and in the reversed list that
of the second one.
-/
theorem findSome?_reverse_of_only {s t : List α} (hl : (s ++ a :: t).Nodup) (hb : b ∈ t)
    (hx : f a = some x) (hy : f b = some y)
    (hn : ∀ c ∈ s ++ a :: t, c ≠ a → c ≠ b → f c = none) :
    (s ++ a :: t).findSome? f = some x ∧ (s ++ a :: t).reverse.findSome? f = some y := by
  obtain ⟨_, hat, hst⟩ := List.nodup_append.1 hl
  have hs : s.findSome? f = none := by
    apply List.findSome?_eq_none_iff.2
    intro c hc
    apply hn c (List.mem_append_left _ hc)
    · exact hst c hc a List.mem_cons_self
    · exact hst c hc b (List.mem_cons_of_mem a hb)
  have ht : t.reverse.findSome? f = some y := by
    apply findSome?_of_only (List.mem_reverse.2 hb) hy
    intro c hc
    have hct := List.mem_reverse.1 hc
    apply hn c (List.mem_append_right s (List.mem_cons_of_mem a hct))
    intro he
    exact (List.nodup_cons.1 hat).1 (he ▸ hct)
  constructor
  · rw [List.findSome?_append, hs, List.findSome?_cons, hx]
    rfl
  · rw [List.reverse_append, List.reverse_cons, List.append_assoc, List.findSome?_append, ht]
    rfl

end Lists

namespace Registry

variable {r : Registry} {m t : Model} {sides : Sym2 String × Sym2 String} {x y : Relation}

theorem Declared.get?_reversed (hr : r.Declared) (name : String) :
    r.reversed.get? name = r.get? name := by
  apply Option.ext
  intro m
  rw [get?_eq_some_iff hr.reversed.nodup, get?_eq_some_iff hr.nodup, reversed_models,
    List.mem_reverse]

theorem Declared.relationOf_reversed (hr : r.Declared) (m : Model) (f : Field) :
    r.reversed.relationOf m f = r.relationOf m f := by
  rw [relationOf, relationOf, hr.get?_reversed]

theorem Declared.modelRelations_reversed (hr : r.Declared) (m : Model) :
    r.reversed.modelRelations m = r.modelRelations m := by
  apply List.filterMap_congr
  intro f _
  rw [fieldRelation?, fieldRelation?, hr.relationOf_reversed]

theorem Declared.wellFormed_reversed (hr : r.Declared) : r.reversed.WellFormed ↔ r.WellFormed := by
  constructor
  · intro h m hm f hf
    rw [← hr.relationOf_reversed]
    exact h m (List.mem_reverse.2 hm) f hf
  · intro h m hm f hf
    rw [hr.relationOf_reversed]
    exact h m (List.mem_reverse.1 hm) f hf

theorem Declared.mem_allRelations_reversed (hr : r.Declared) :
    x ∈ r.reversed.allRelations ↔ x ∈ r.allRelations := by
  simp only [allRelations, List.mem_flatMap, hr.modelRelations_reversed, reversed_models,
    List.mem_reverse]

theorem exists_infer_iff : (∃ p, r.infer = .ok p) ↔ r.WellFormed := by
  constructor
  · rintro ⟨⟨xs, r'⟩, h⟩
    exact (relations_of_infer h).1
  · intro h
    rw [infer, relations_eq_ok_iff.2 ⟨h, rfl⟩]
    exact ⟨_, rfl⟩

def firstOf? (r : Registry) (m : Model) (sides : Sym2 String × Sym2 String) : Option Relation :=
  (r.modelRelations m).find? (·.sides = sides)

/-- Models whose first relations have the same sides give them the same kind. -/
def KindsAgree (r : Registry) : Prop :=
  ∀ m ∈ r.models, ∀ t ∈ r.models, ∀ sides x y,
    r.firstOf? m sides = some x → r.firstOf? t sides = some y → x.kind = y.kind

theorem first?_eq_findSome? (r : Registry) (sides : Sym2 String × Sym2 String) :
    r.first? sides = r.models.findSome? (r.firstOf? · sides) :=
  List.find?_flatMap

theorem Declared.first?_reversed (hr : r.Declared) (sides : Sym2 String × Sym2 String) :
    r.reversed.first? sides = r.models.reverse.findSome? (r.firstOf? · sides) := by
  rw [first?_eq_findSome?]
  simp only [firstOf?, hr.modelRelations_reversed, reversed_models]

theorem exists_firstOf? (h : r.first? sides = some x) :
    ∃ m ∈ r.models, r.firstOf? m sides = some x := by
  rw [first?_eq_findSome?] at h
  exact List.exists_of_findSome?_eq_some h

theorem Declared.exists_firstOf?_reversed (hr : r.Declared)
    (h : r.reversed.first? sides = some x) : ∃ m ∈ r.models, r.firstOf? m sides = some x := by
  rw [hr.first?_reversed] at h
  obtain ⟨m, hm, hx⟩ := List.exists_of_findSome?_eq_some h
  exact ⟨m, List.mem_reverse.1 hm, hx⟩

theorem firstOf?_eq_some (h : r.firstOf? m sides = some x) :
    x ∈ r.modelRelations m ∧ x.sides = sides :=
  ⟨List.mem_of_find?_eq_some h, by simpa using List.find?_some h⟩

theorem firstOf?_name_mem (h : r.firstOf? m sides = some x) : m.name ∈ sides.1 := by
  obtain ⟨hm, hs⟩ := firstOf?_eq_some h
  obtain ⟨f, _, hf⟩ := mem_modelRelations.1 hm
  rw [← hs, ← (fieldRelation?_models hf).1]
  exact Sym2.mem_mk_right _ _

/-- At most two models have relations of the same sides. -/
theorem Declared.firstOf?_eq_none (hr : r.Declared) (hm : m ∈ r.models) (ht : t ∈ r.models)
    (hne : m ≠ t) (hx : r.firstOf? m sides = some x) (hy : r.firstOf? t sides = some y) {n : Model}
    (hn : n ∈ r.models) (hnm : n ≠ m) (hnt : n ≠ t) : r.firstOf? n sides = none := by
  by_contra h
  obtain ⟨z, hz⟩ := Option.ne_none_iff_exists'.1 h
  have hsides : sides.1 = s(m.name, t.name) :=
    (Sym2.mem_and_mem_iff fun he => hne (hr.model_ext hm ht he)).1
      ⟨firstOf?_name_mem hx, firstOf?_name_mem hy⟩
  have hmem := firstOf?_name_mem hz
  rw [hsides, Sym2.mem_iff] at hmem
  rcases hmem with he | he
  · exact hnm (hr.model_ext hn hm he)
  · exact hnt (hr.model_ext hn ht he)

/-- The relation of one of two models is kept in one order, and that of the other in the other. -/
theorem Declared.first?_of_firstOf? (hr : r.Declared) (hm : m ∈ r.models) (ht : t ∈ r.models)
    (hne : m ≠ t) (hx : r.firstOf? m sides = some x) (hy : r.firstOf? t sides = some y) :
    (r.first? sides = some x ∧ r.reversed.first? sides = some y) ∨
      (r.first? sides = some y ∧ r.reversed.first? sides = some x) := by
  rw [first?_eq_findSome?, hr.first?_reversed]
  have hnodup : r.models.Nodup := hr.nodup.of_map _
  have hnone (c : Model) (hc : c ∈ r.models) (hcm : c ≠ m) (hct : c ≠ t) :=
    hr.firstOf?_eq_none hm ht hne hx hy hc hcm hct
  -- One of the two models stands before the other one in the list.
  obtain ⟨l₁, l₂, hl⟩ := List.append_of_mem hm
  rw [hl] at ht hnodup hnone ⊢
  rcases List.mem_append.1 ht with ht | ht
  · have hrev : (l₁ ++ m :: l₂).reverse = l₂.reverse ++ m :: l₁.reverse := by
      rw [List.reverse_append, List.reverse_cons, List.append_assoc, List.singleton_append]
    have hfound := findSome?_reverse_of_only (f := (r.firstOf? · sides))
      (hrev ▸ List.nodup_reverse.2 hnodup) (List.mem_reverse.2 ht) hx hy
      (fun c hc => hnone c (List.mem_reverse.1 (hrev ▸ hc)))
    rw [← hrev, List.reverse_reverse] at hfound
    exact .inr hfound.symm
  · have ht : t ∈ l₂ := (List.mem_cons.1 ht).resolve_left hne.symm
    exact .inl (findSome?_reverse_of_only hnodup ht hx hy hnone)

theorem KindsAgree.kind_eq (h : r.KindsAgree) (hr : r.Declared) (hx : r.first? sides = some x)
    (hy : r.reversed.first? sides = some y) : x.kind = y.kind := by
  obtain ⟨m, hm, hx⟩ := exists_firstOf? hx
  obtain ⟨t, ht, hy⟩ := hr.exists_firstOf?_reversed hy
  exact h m hm t ht sides x y hx hy

theorem Declared.kindsAgree (hr : r.Declared)
    (h : ∀ sides x y, r.first? sides = some x → r.reversed.first? sides = some y →
      x.kind = y.kind) : r.KindsAgree := by
  intro m hm t ht sides x y hx hy
  by_cases he : m = t
  · rw [he, hy] at hx
    rw [Option.some.inj hx]
  · rcases hr.first?_of_firstOf? hm ht he hx hy with ⟨h₁, h₂⟩ | ⟨h₁, h₂⟩
    · exact h sides x y h₁ h₂
    · exact (h sides y x h₁ h₂).symm

variable {r' s' : Registry} {xs ys : List Relation}

theorem exists_mem_reversed (hr : r.Declared) (hs : r.Spelled) (hx : r.infer = .ok (xs, r'))
    (hy : r.reversed.infer = .ok (ys, s')) (hm : x ∈ xs) :
    ∃ y ∈ ys, y.id = x.id ∧ r.first? x.sides = some x ∧ r.reversed.first? x.sides = some y := by
  have hfirst := (mem_iff_first? hs hx).1 hm
  have hall := hr.mem_allRelations_reversed.2 (first?_eq_some hfirst).1
  obtain ⟨y, hlast⟩ := exists_first? hall
  obtain ⟨hally, hsides⟩ := first?_eq_some hlast
  refine ⟨y, mem_of_first? hs.reversed hy hlast, ?_, hfirst, hlast⟩
  exact (allRelations_id_eq_iff hs.reversed hally hall).2 hsides

theorem id_mem_reversed (hr : r.Declared) (hs : r.Spelled) (hx : r.infer = .ok (xs, r'))
    (hy : r.reversed.infer = .ok (ys, s')) {id : String} (h : id ∈ xs.map (·.id)) :
    id ∈ ys.map (·.id) := by
  obtain ⟨x, hm, rfl⟩ := List.mem_map.1 h
  obtain ⟨y, hmy, hid, _⟩ := exists_mem_reversed hr hs hx hy hm
  exact List.mem_map.2 ⟨y, hmy, hid⟩

theorem KindsAgree.mem_reversed (h : r.KindsAgree) (hr : r.Declared) (hs : r.Spelled)
    (hx : r.infer = .ok (xs, r')) (hy : r.reversed.infer = .ok (ys, s'))
    {p : String × RelationKind} (hp : p ∈ xs.map fun x => (x.id, x.kind)) :
    p ∈ ys.map fun x => (x.id, x.kind) := by
  obtain ⟨x, hm, rfl⟩ := List.mem_map.1 hp
  obtain ⟨y, hmy, hid, hfirst, hlast⟩ := exists_mem_reversed hr hs hx hy hm
  exact List.mem_map.2 ⟨y, hmy, Prod.ext hid (h.kind_eq hr hfirst hlast).symm⟩

theorem Declared.kindsAgree_reversed (hr : r.Declared) (h : r.KindsAgree) :
    r.reversed.KindsAgree := by
  intro m hm t ht sides x y hx hy
  rw [firstOf?, hr.modelRelations_reversed] at hx hy
  exact h m (List.mem_reverse.1 hm) t (List.mem_reverse.1 ht) sides x y hx hy

theorem kindsAgree_of_mem_reversed (hr : r.Declared) (hs : r.Spelled)
    (hx : r.infer = .ok (xs, r')) (hy : r.reversed.infer = .ok (ys, s'))
    (h : ∀ p, p ∈ xs.map (fun x => (x.id, x.kind)) → p ∈ ys.map fun x => (x.id, x.kind)) :
    r.KindsAgree := by
  apply hr.kindsAgree
  intro sides x y hfirst hlast
  have hp := List.mem_map_of_mem (f := fun x => (x.id, x.kind)) (mem_of_first? hs hx hfirst)
  obtain ⟨z, hz, he⟩ := List.mem_map.1 (h _ hp)
  obtain ⟨hid, hkind⟩ := Prod.mk.inj he
  obtain ⟨hall, hsides⟩ := first?_eq_some hfirst
  have hzlast := (mem_iff_first? hs.reversed hy).1 hz
  have hzsides := (allRelations_id_eq_iff hs.reversed (first?_eq_some hzlast).1
    (hr.mem_allRelations_reversed.2 hall)).1 hid
  rw [hzsides, hsides, hlast] at hzlast
  rw [← hkind, Option.some.inj hzlast]

/--
Inference succeeds on both orders of the models or on none, with the same ids. With every id comes
the same kind exactly when the models agree on the kinds.
-/
theorem infer_reversed_iff {text : String} (hr : parse text = .ok r) :
    ((∃ p, r.infer = .ok p) ↔ ∃ p, r.reversed.infer = .ok p) ∧
    ∀ xs r' ys s', r.infer = .ok (xs, r') → r.reversed.infer = .ok (ys, s') →
      (∀ id, id ∈ xs.map (·.id) ↔ id ∈ ys.map (·.id)) ∧
      ((∀ p, p ∈ xs.map (fun x => (x.id, x.kind)) ↔ p ∈ ys.map fun x => (x.id, x.kind)) ↔
        r.KindsAgree) := by
  obtain ⟨hd, hs⟩ := parse_declared hr
  constructor
  · rw [exists_infer_iff, exists_infer_iff, hd.wellFormed_reversed]
  · intro xs r' ys s' hx hy
    have hx' : r.reversed.reversed.infer = .ok (xs, r') := by rwa [reversed_reversed]
    constructor
    · intro id
      exact ⟨id_mem_reversed hd hs hx hy, id_mem_reversed hd.reversed hs.reversed hy hx'⟩
    · constructor
      · intro h
        exact kindsAgree_of_mem_reversed hd hs hx hy fun p => (h p).1
      · intro h p
        exact ⟨h.mem_reversed hd hs hx hy,
          (hd.kindsAgree_reversed h).mem_reversed hd.reversed hs.reversed hy hx'⟩

theorem kindsAgree_of_allRelations (h : ∀ x ∈ r.allRelations, ∀ y ∈ r.allRelations,
    x.sides = y.sides → x.kind = y.kind) : r.KindsAgree := by
  intro m hm t ht sides x y hx hy
  obtain ⟨hxm, hxs⟩ := firstOf?_eq_some hx
  obtain ⟨hyt, hys⟩ := firstOf?_eq_some hy
  apply h x (List.mem_flatMap.2 ⟨m, hm, hxm⟩) y (List.mem_flatMap.2 ⟨t, ht, hyt⟩)
  rw [hxs, hys]

def groupsText : String :=
  "model Person \x7b
    id Int @id
    groups Group[]
    owned Group[] @relation(\"Owner\")
  \x7d
  model Group \x7b
    ownerId Int
    owner Person @relation(\"Owner\", fields: [ownerId], references: [id])
    members Person[]
  \x7d"

set_option maxRecDepth 10000 in
theorem infer_reversed_iff_groups : ∃ r xs r' ys s', parse groupsText = .ok r ∧
    r.infer = .ok (xs, r') ∧ r.reversed.infer = .ok (ys, s') ∧ xs.length = 2 ∧
    ∀ p, p ∈ xs.map (fun x => (x.id, x.kind)) ↔ p ∈ ys.map fun x => (x.id, x.kind) := by
  obtain ⟨r, xs, r', hr, hx, h⟩ := exists_of_check groupsText (fun r xs => xs.length = 2 ∧
    ∀ x ∈ r.allRelations, ∀ y ∈ r.allRelations, x.sides = y.sides → x.kind = y.kind) rfl
    (by decide +kernel)
  obtain ⟨hl, hk⟩ := of_decide_eq_true h
  obtain ⟨hboth, hall⟩ := infer_reversed_iff hr
  obtain ⟨⟨ys, s'⟩, hy⟩ := hboth.1 ⟨(xs, r'), hx⟩
  exact ⟨r, xs, r', ys, s', hr, hx, hy, hl,
    (hall xs r' ys s' hx hy).2.2 (kindsAgree_of_allRelations hk)⟩

/-- Each model has a key of its own to the other one, on the same two fields. -/
def mutualKeysText : String :=
  "model A \x7b
    id Int @id
    first B? @relation(\"First\", fields: [id], references: [id])
    second B? @relation(\"Second\")
  \x7d
  model B \x7b
    id Int @id
    first A[] @relation(\"First\")
    second A? @relation(\"Second\", fields: [id], references: [id])
  \x7d"

set_option maxRecDepth 10000 in
theorem infer_reversed_mutualKeys : ∃ r xs r' ys s', parse mutualKeysText = .ok r ∧
    r.infer = .ok (xs, r') ∧ r.reversed.infer = .ok (ys, s') ∧
    ¬∀ p, p ∈ xs.map (fun x => (x.id, x.kind)) ↔ p ∈ ys.map fun x => (x.id, x.kind) := by
  obtain ⟨r, xs, r', hr, hx, h⟩ := exists_of_check mutualKeysText (fun r xs =>
    ∃ q ∈ r.reversed.infer.toOption, ∃ p ∈ xs.map fun x => (x.id, x.kind),
      p ∉ q.1.map fun x => (x.id, x.kind)) rfl (by decide +kernel)
  obtain ⟨⟨ys, s'⟩, hq, p, hp, hn⟩ := of_decide_eq_true h
  cases hy : r.reversed.infer with
  | error e =>
    rw [hy] at hq
    cases hq
  | ok q =>
    rw [hy] at hq
    cases hq
    exact ⟨r, xs, r', ys, s', hr, hx, hy, fun hall => hn ((hall p).1 hp)⟩

end Registry

end EntityDiagram
