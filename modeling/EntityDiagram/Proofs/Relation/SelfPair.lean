import EntityDiagram.Proofs.Relation.Justification

namespace EntityDiagram

namespace Model

def selfFields (m : Model) (name : String) : List Field :=
  m.fields.filter fun f => f.type.name = m.name && f.relationName? = some name

/-- The sides of the relation of `f` with `g`, where the keys of `f` come before those of `g`. -/
def selfSides? (m : Model) (f g : Field) : Option (Sym2 String × Sym2 String) :=
  match f.referencedKey?.or g.referencedKey?, f.foreignKey?.or g.foreignKey? with
  | some references, some key => some (s(m.name, m.name), s(references, key))
  | _, _ => none

theorem selfSides?_fst {m : Model} {f g : Field} {a : Sym2 String × Sym2 String}
    (h : m.selfSides? f g = some a) : a.1 = s(m.name, m.name) := by
  rw [selfSides?] at h
  split at h
  · cases h
    rfl
  · cases h

theorem mem_selfFields {m : Model} {f : Field} {name : String} :
    f ∈ m.selfFields name ↔
      f ∈ m.fields ∧ f.type.name = m.name ∧ f.relationName? = some name := by
  simp [selfFields]

end Model

namespace Relation

def Within (x : Relation) (m : Model) (name : String) : Prop :=
  x.between = (m.name, m.name) ∧ x.name = some name

instance (x : Relation) (m : Model) (name : String) : Decidable (x.Within m name) :=
  inferInstanceAs (Decidable (_ ∧ _))

theorem SelfPair.selfSides? {x : Relation} {m : Model} {f g : Field} (h : x.SelfPair m f g)
    (hr : x.Regular) (hb : x.between = (m.name, m.name)) : m.selfSides? f g = some x.sides := by
  rw [hr.between] at hb
  obtain ⟨hs, ht⟩ := Prod.mk.inj hb
  rw [Model.selfSides?, h.references, h.key, sides, hs, ht]

theorem SelfPair.kind {x : Relation} {m : Model} {f g : Field} (h : x.SelfPair m f g) :
    (f.isOptional = true ∧ g.isOptional = true → x.kind = .selfOneOne) ∧
      (OptionalAndList f g → x.kind = .selfOneMany) :=
  ⟨h.oneOne_iff.2, h.oneMany_iff.2⟩

theorem between_of_sides_fst {x : Relation} (hr : x.Regular) {a : String}
    (hs : x.sides.1 = s(a, a)) : x.between = (a, a) := by
  rw [hr.between]
  rcases Sym2.eq_iff.1 hs with ⟨ha, hb⟩ | ⟨ha, hb⟩ <;> rw [ha, hb]

end Relation

namespace Registry

variable {r r' : Registry} {xs : List Relation} {m : Model} {f g : Field} {name : String}

def FirstNamed (r : Registry) (sides : Sym2 String × Sym2 String) (name : String) : Prop :=
  ∃ x ∈ r.first? sides, x.name = some name

instance (r : Registry) (sides : Sym2 String × Sym2 String) (name : String) :
    Decidable (r.FirstNamed sides name) :=
  inferInstanceAs (Decidable (∃ x ∈ r.first? sides, _))

theorem pair_of_selfFields (hfg : ∀ h, h ∈ m.selfFields name ↔ h = f ∨ h = g) {x : Relation}
    {k : Field} (hk : k ∈ m.fields) (hx : x.SelfPair m f k) (hn : x.name = some name) : k = g := by
  have hmem : k ∈ m.selfFields name :=
    Model.mem_selfFields.2 ⟨hk, hx.types.2, hx.relationNames.2.trans hn⟩
  rcases (hfg k).1 hmem with rfl | rfl
  · exact absurd rfl hx.names_ne
  · rfl

theorem Declared.selfPair_of_within (hr : r.Declared) (hm : m ∈ r.models)
    (hfg : ∀ h, h ∈ m.selfFields name ↔ h = f ∨ h = g) {x : Relation} (hx : x ∈ r.allRelations)
    (hw : x.Within m name) : x.SelfPair m f g ∨ x.SelfPair m g f := by
  obtain ⟨n, hn, h, hh, hrel⟩ := mem_allRelations.1 hx
  obtain ⟨hb, hname⟩ := hw
  rw [(fieldRelation?_regular hrel).between] at hb
  obtain ⟨hs, ht⟩ := Prod.mk.inj hb
  obtain ⟨htm, hsm⟩ := fieldRelation?_models hrel
  cases hr.model_ext hn hm (htm.symm.trans ht)
  have htype : h.type.name = m.name := hsm.symm.trans hs
  rcases fieldRelation?_cases hrel with ⟨_, hself⟩ | ⟨t, _, htt, hne, _⟩
  · obtain ⟨k, hk, hpair⟩ := selfRelation_pair htype hself
    have hmem := Model.mem_selfFields.2 ⟨hh, htype, hpair.relationNames.1.trans hname⟩
    rcases (hfg h).1 hmem with rfl | rfl
    · cases pair_of_selfFields hfg hk hpair hname
      exact .inl hpair
    · cases pair_of_selfFields (fun k => (hfg k).trans Or.comm) hk hpair hname
      exact .inr hpair
  · exact absurd (htt.symm.trans htype) hne

theorem WellFormed.exists_selfPair (hw : r.WellFormed) (hm : m ∈ r.models)
    (hfg : ∀ h, h ∈ m.selfFields name ↔ h = f ∨ h = g) :
    ∃ x ∈ r.allRelations, x.between = (m.name, m.name) ∧ x.SelfPair m f g := by
  obtain ⟨hf, htype, hname⟩ := Model.mem_selfFields.1 ((hfg f).2 (.inl rfl))
  obtain ⟨o, ho⟩ := hw m hm f hf
  rw [relationOf, if_pos htype] at ho
  cases hs : selfRelation m f with
  | error e =>
    rw [hs] at ho
    cases ho
  | ok x =>
    have hrel := fieldRelation?_of_self (r := r) htype hs
    obtain ⟨htm, hsm⟩ := fieldRelation?_models hrel
    obtain ⟨k, hk, hpair⟩ := selfRelation_pair htype hs
    have hkg := pair_of_selfFields hfg hk hpair (hpair.relationNames.1.symm.trans hname)
    refine ⟨x, mem_allRelations.2 ⟨m, hm, f, hf, hrel⟩, ?_, hkg ▸ hpair⟩
    rw [(fieldRelation?_regular hrel).between, htm, hsm, htype]

theorem sides_nodup (hs : r.Spelled) (hx : r.infer = .ok (xs, r')) :
    (xs.map (·.sides)).Nodup := by
  have hn : (xs.map (·.id)).Nodup := by
    rw [(relations_of_infer hx).2]
    exact firstOfEachId_nodup _ _
  apply List.Nodup.map_on ?_ (hn.of_map _)
  intro x hxm y hym he
  have hfx := (mem_iff_first? hs hx).1 hxm
  rw [he, (mem_iff_first? hs hx).1 hym] at hfx
  exact (Option.some.inj hfx).symm

theorem Declared.mem_sides_within (hr : r.Declared) (hs : r.Spelled) (hx : r.infer = .ok (xs, r'))
    (hm : m ∈ r.models) (hfg : ∀ h, h ∈ m.selfFields name ↔ h = f ∨ h = g)
    {a b : Sym2 String × Sym2 String} (ha : m.selfSides? f g = some a)
    (hb : m.selfSides? g f = some b) (sides : Sym2 String × Sym2 String) :
    sides ∈ (xs.filter fun x => x.Within m name).map (·.sides) ↔
      (sides = a ∨ sides = b) ∧ r.FirstNamed sides name := by
  constructor
  · intro hmem
    obtain ⟨x, hxm, rfl⟩ := List.mem_map.1 hmem
    obtain ⟨hxm, hw⟩ := List.mem_filter.1 hxm
    have hw := of_decide_eq_true hw
    have hfirst := (mem_iff_first? hs hx).1 hxm
    have hall := (first?_eq_some hfirst).1
    refine ⟨?_, x, hfirst, hw.2⟩
    rcases hr.selfPair_of_within hm hfg hall hw with hp | hp
    · have he := hp.selfSides? (regular_of_mem hall) hw.1
      rw [ha] at he
      exact .inl (Option.some.inj he).symm
    · have he := hp.selfSides? (regular_of_mem hall) hw.1
      rw [hb] at he
      exact .inr (Option.some.inj he).symm
  · intro h
    obtain ⟨hab, x, hfirst, hname⟩ := h
    obtain ⟨hall, rfl⟩ := first?_eq_some hfirst
    have hfst : x.sides.1 = s(m.name, m.name) := by
      rcases hab with he | he
      · rw [he]
        exact Model.selfSides?_fst ha
      · rw [he]
        exact Model.selfSides?_fst hb
    have hbetween := Relation.between_of_sides_fst (regular_of_mem hall) hfst
    refine List.mem_map.2 ⟨x, List.mem_filter.2 ⟨mem_of_first? hs hx hfirst, ?_⟩, rfl⟩
    exact decide_eq_true ⟨hbetween, hname⟩

theorem length_filter_dedup_pair {α : Type} [DecidableEq α] (p : α → Prop) [DecidablePred p]
    (a b : α) : ([a, b].dedup.filter (p ·)).length = 1 ↔
      (a = b ∧ p a) ∨ (a ≠ b ∧ (p a ↔ ¬p b)) := by
  by_cases he : a = b
  · subst he
    by_cases ha : p a <;> simp [ha]
  · by_cases ha : p a <;> by_cases hb : p b <;> simp [he, ha, hb]

/-- The relations of the name are counted by their sides, which no two of them share. -/
theorem Declared.length_within (hr : r.Declared) (hs : r.Spelled) (hx : r.infer = .ok (xs, r'))
    (hm : m ∈ r.models) (hfg : ∀ h, h ∈ m.selfFields name ↔ h = f ∨ h = g)
    {a b : Sym2 String × Sym2 String} (ha : m.selfSides? f g = some a)
    (hb : m.selfSides? g f = some b) :
    (xs.filter fun x => x.Within m name).length =
      ([a, b].dedup.filter (r.FirstNamed · name)).length := by
  have hnodup : ((xs.filter fun x => x.Within m name).map (·.sides)).Nodup :=
    (List.filter_sublist.map _).nodup (sides_nodup hs hx)
  have hperm : ((xs.filter fun x => x.Within m name).map (·.sides)).Perm
      ([a, b].dedup.filter (r.FirstNamed · name)) := by
    apply (List.perm_ext_iff_of_nodup hnodup ((List.nodup_dedup _).filter _)).2
    intro sides
    rw [hr.mem_sides_within hs hx hm hfg ha hb]
    simp
  have hlength := hperm.length_eq
  rwa [List.length_map] at hlength

theorem Declared.kind_of_within (hr : r.Declared) (hs : r.Spelled) (hx : r.infer = .ok (xs, r'))
    (hm : m ∈ r.models) (hfg : ∀ h, h ∈ m.selfFields name ↔ h = f ∨ h = g) {x : Relation}
    (hxm : x ∈ xs) (hw : x.Within m name) :
    (f.isOptional = true ∧ g.isOptional = true → x.kind = .selfOneOne) ∧
      (OptionalAndList f g → x.kind = .selfOneMany) := by
  have hall := (first?_eq_some ((mem_iff_first? hs hx).1 hxm)).1
  rcases hr.selfPair_of_within hm hfg hall hw with hp | hp
  · exact hp.kind
  · obtain ⟨hone, hmany⟩ := hp.kind
    exact ⟨fun h => hone h.symm, fun h => hmany (h.symm.imp And.symm And.symm)⟩

/--
Two fields that alone are typed as their model and have a name leave exactly one relation of the
name when they give the same sides, which no other relation takes before them, or when they give
different sides and one of these is taken by another relation. The kind is that of the two fields.
-/
theorem infer_selfPair_iff {text : String} (hr : parse text = .ok r) (hx : r.infer = .ok (xs, r'))
    (hm : m ∈ r.models) (hfg : m.selfFields name = [f, g]) :
    ∃ a b, m.selfSides? f g = some a ∧ m.selfSides? g f = some b ∧
      ((∃ x, xs.filter (fun x => x.Within m name) = [x]) ↔
        (a = b ∧ r.FirstNamed a name) ∨
          (a ≠ b ∧ (r.FirstNamed a name ↔ ¬r.FirstNamed b name))) ∧
      ∀ x ∈ xs, x.Within m name →
        (f.isOptional = true ∧ g.isOptional = true → x.kind = .selfOneOne) ∧
          (OptionalAndList f g → x.kind = .selfOneMany) := by
  obtain ⟨hd, hs⟩ := parse_declared hr
  have hw := (relations_of_infer hx).1
  have hfg (h : Field) : h ∈ m.selfFields name ↔ h = f ∨ h = g := by
    rw [hfg, List.mem_pair]
  obtain ⟨y, hy, hyb, hyp⟩ := hw.exists_selfPair hm hfg
  obtain ⟨z, hz, hzb, hzp⟩ := hw.exists_selfPair hm fun h => (hfg h).trans Or.comm
  have ha := hyp.selfSides? (regular_of_mem hy) hyb
  have hb := hzp.selfSides? (regular_of_mem hz) hzb
  refine ⟨y.sides, z.sides, ha, hb, ?_, ?_⟩
  · rw [← List.length_eq_one_iff, hd.length_within hs hx hm hfg ha hb]
    exact length_filter_dedup_pair (r.FirstNamed · name) _ _
  · intro x hxm hwithin
    exact hd.kind_of_within hs hx hm hfg hxm hwithin

set_option maxRecDepth 10000 in
theorem infer_selfPair_iff_blog : ∃ r r' xs, parse blogText = .ok r ∧ r.infer = .ok (xs, r') ∧
    ∃ m ∈ r.models, ∃ f g, m.selfFields "Chain" = [f, g] ∧
      ∃ x, xs.filter (fun x => x.Within m "Chain") = [x] ∧ x.kind = .selfOneMany := by
  obtain ⟨r, xs, r', hr, hx, h⟩ := exists_of_check blogText (fun r _ =>
    ∃ m ∈ r.models, ∃ f ∈ m.fields, ∃ g ∈ m.fields, m.selfFields "Chain" = [f, g] ∧
      m.selfSides? f g = m.selfSides? g f ∧
      (∃ a ∈ m.selfSides? f g, r.FirstNamed a "Chain") ∧ f.isOptional ∧ g.isList) rfl
    (by decide +kernel)
  obtain ⟨m, hm, f, _, g, _, hfg, hsides, ⟨a, ha, hfirst⟩, hkind⟩ := of_decide_eq_true h
  obtain ⟨b, c, hb, hc, hone, hall⟩ := infer_selfPair_iff hr hx hm hfg
  cases ha.symm.trans hb
  cases (hsides.trans hc).symm.trans ha
  obtain ⟨x, hfilter⟩ := hone.2 (.inl ⟨rfl, hfirst⟩)
  obtain ⟨hxm, hw⟩ := List.mem_filter.1 (hfilter ▸ List.mem_singleton_self x)
  refine ⟨r, r', xs, hr, hx, m, hm, f, g, hfg, x, hfilter, ?_⟩
  exact (hall x hxm (of_decide_eq_true hw)).2 (.inl hkind)

/-- A pair with a key on each of its fields, and one with a key of the other pair. -/
def twoKeysText : String :=
  "model Person \x7b
    id Int @id
    bossId Int?
    heirId Int?
    boss Person? @relation(\"Chain\", fields: [bossId], references: [id])
    reports Person[] @relation(\"Chain\", fields: [heirId], references: [id])
    deputy Person? @relation(\"Deputy\", fields: [bossId], references: [id])
    principal Person? @relation(\"Deputy\")
  \x7d"

set_option maxRecDepth 10000 in
/-- The first pair leaves two relations, and the second one none. -/
theorem infer_selfPair_twoKeys : ∃ r r' xs, parse twoKeysText = .ok r ∧ r.infer = .ok (xs, r') ∧
    ∃ m ∈ r.models,
      ((∃ f g, m.selfFields "Chain" = [f, g]) ∧
        (xs.filter fun x => x.Within m "Chain").length = 2) ∧
      (∃ f g, m.selfFields "Deputy" = [f, g]) ∧
        (xs.filter fun x => x.Within m "Deputy").length = 0 := by
  obtain ⟨r, xs, r', hr, hx, h⟩ := exists_of_check twoKeysText (fun r xs =>
    ∃ m ∈ r.models,
      ((m.selfFields "Chain").length = 2 ∧
        (xs.filter fun x => x.Within m "Chain").length = 2) ∧
      (m.selfFields "Deputy").length = 2 ∧
        (xs.filter fun x => x.Within m "Deputy").length = 0) rfl
    (by decide +kernel)
  obtain ⟨m, hm, ⟨hc, hcx⟩, hd, hdx⟩ := of_decide_eq_true h
  exact ⟨r, r', xs, hr, hx, m, hm, ⟨List.length_eq_two.1 hc, hcx⟩, List.length_eq_two.1 hd, hdx⟩

end Registry

end EntityDiagram
