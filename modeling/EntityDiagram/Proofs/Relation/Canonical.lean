import EntityDiagram.Proofs.Relation.Field

namespace EntityDiagram

theorem pair_eq_iff {a b c d : String} :
    ({a, b} : Multiset String) = {c, d} ↔ s(a, b) = s(c, d) := by
  rw [← (Sym2.equivMultiset String).injective.eq_iff, ← Subtype.val_injective.eq_iff]
  rfl

/-- The names that ids are made of have no hyphens: of models, of fields, and of joined keys. -/
structure Registry.Hyphenless (r : Registry) : Prop where
  model : ∀ m ∈ r.models, '-' ∉ m.name.toList
  field : ∀ m ∈ r.models, ∀ f ∈ m.fields, '-' ∉ f.name.toList
  foreignKey : ∀ m ∈ r.models, ∀ f ∈ m.fields, ∀ key ∈ f.foreignKey?, '-' ∉ key.toList
  referencedKey : ∀ m ∈ r.models, ∀ f ∈ m.fields, ∀ key ∈ f.referencedKey?, '-' ∉ key.toList

theorem Registry.Spelled.hyphenless {r : Registry} (h : r.Spelled) : r.Hyphenless where
  model m hm := (h m hm).name.hyphen_notMem
  field m hm f hf := ((h m hm).fields f hf).name.hyphen_notMem
  foreignKey m hm f hf _ hk := ((h m hm).fields f hf).foreignKey_notMem hk
  referencedKey m hm f hf _ hk := ((h m hm).fields f hf).referencedKey_notMem hk

/--
Without hyphens in its names, the id of a relation says which two models and which two names it is
made of, and not more. The names that a text gives have none.
-/
theorem relationId_canonical :
    (∀ a b c d f g h k : String, (∀ name ∈ [a, b, c, d, f, g, h, k], '-' ∉ name.toList) →
      (relationId (a, b) (f, g) = relationId (c, d) (h, k) ↔
        ({a, b} : Multiset String) = {c, d} ∧ ({f, g} : Multiset String) = {h, k})) ∧
    ∀ text r, Registry.parse text = .ok r → r.Hyphenless := by
  constructor
  · intro a b c d f g h k hn
    simp only [List.forall_mem_cons] at hn
    obtain ⟨ha, hb, hc, hd, hf, hg, hh, hk, -⟩ := hn
    rw [relationId_eq_iff ha hb hc hd hf hg hh hk, pair_eq_iff, pair_eq_iff]
  · intro text r hr
    exact (Registry.parse_declared hr).2.hyphenless

/-- The two sides of a relation in either order, and two relations of a model with itself. -/
theorem relationId_canonical_swapped :
    relationId ("User", "Post") ("id", "userId") = relationId ("Post", "User") ("userId", "id") ∧
    relationId ("User", "User") ("id", "") ≠ relationId ("User", "User") ("", "") := by
  constructor
  · apply (relationId_canonical.1 _ _ _ _ _ _ _ _ (by decide)).2
    exact ⟨Multiset.pair_comm _ _, Multiset.pair_comm _ _⟩
  · intro h
    have hne : ¬({"id", ""} : Multiset String) = {"", ""} := by decide
    exact hne ((relationId_canonical.1 _ _ _ _ _ _ _ _ (by decide)).1 h).2

end EntityDiagram
