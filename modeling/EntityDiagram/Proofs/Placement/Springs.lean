import EntityDiagram.Placement.Springs
import EntityDiagram.Proofs.Placement.AtLeastOne

namespace EntityDiagram

namespace Relation

def Known (names : List String) (x : Relation) : Prop :=
  x.source.model ∈ names ∧ x.target.model ∈ names

def Pulls (names : List String) (x : Relation) : Prop :=
  x.Known names ∧ x.source.model ≠ x.target.model

instance (names : List String) (x : Relation) : Decidable (x.Known names) :=
  inferInstanceAs (Decidable (_ ∧ _))

instance (names : List String) (x : Relation) : Decidable (x.Pulls names) :=
  inferInstanceAs (Decidable (_ ∧ _))

/-- The models at both ends; a relation of a model with itself has it twice. -/
def ends (x : Relation) : List String := [x.source.model, x.target.model]

end Relation

/-- The ends of all relations whose models are both among the names. -/
def knownEnds (names : List String) (xs : List Relation) : List String :=
  (xs.filter (·.Known names)).flatMap Relation.ends

namespace Spring

variable {n : Nat} {names : List String} {xs : List Relation} {x : Relation}
  {e : Fin names.length × Fin names.length} {es : List (Fin names.length × Fin names.length)}

def Locates (names : List String) (x : Relation) (e : Fin names.length × Fin names.length) :
    Prop :=
  names[e.1] = x.source.model ∧ names[e.2] = x.target.model

theorem getElem_inj (h : names.Nodup) {i j : Fin names.length} : names[i] = names[j] ↔ i = j := by
  rw [Fin.ext_iff]
  exact h.getElem_inj_iff

/-- In a list without repeats the first place of a name is its only one. -/
theorem finIdxOf?_eq_some_iff (h : names.Nodup) {name : String} {i : Fin names.length} :
    names.finIdxOf? name = some i ↔ names[i] = name := by
  rw [List.finIdxOf?_eq_some_iff, and_iff_left_iff_imp]
  rintro rfl j hj he
  exact hj.ne ((getElem_inj h).1 he)

theorem ends?_eq_some_iff (h : names.Nodup) : ends? names x = some e ↔ Locates names x e := by
  rw [Locates, ← finIdxOf?_eq_some_iff h, ← finIdxOf?_eq_some_iff h, ends?]
  cases names.finIdxOf? x.source.model <;> cases names.finIdxOf? x.target.model <;>
    simp [Prod.ext_iff]

theorem ends?_eq_none_iff : ends? names x = none ↔ ¬ x.Known names := by
  rw [Relation.Known, not_and_or, ← List.finIdxOf?_eq_none_iff, ← List.finIdxOf?_eq_none_iff,
    ends?]
  cases names.finIdxOf? x.source.model <;> cases names.finIdxOf? x.target.model <;> simp

theorem forall₂_ends (h : names.Nodup) (xs : List Relation) :
    List.Forall₂ (Locates names) (xs.filter (·.Known names)) (xs.filterMap (ends? names)) := by
  induction xs with
  | nil => exact .nil
  | cons x xs ih =>
    cases he : ends? names x with
    | none =>
      rw [List.filterMap_cons_none he, List.filter_cons_of_neg]
      · exact ih
      · simpa using ends?_eq_none_iff.1 he
    | some e =>
      have hw : x.Known names := by
        by_contra hw
        cases he.symm.trans (ends?_eq_none_iff.2 hw)
      rw [List.filterMap_cons_some he, List.filter_cons_of_pos (by simpa using hw)]
      exact .cons ((ends?_eq_some_iff h).1 he) ih

theorem degree_nil (i : Fin n) : degree [] i = 0 := rfl

theorem degree_cons (e : Fin n × Fin n) (es : List (Fin n × Fin n)) (i : Fin n) :
    degree (e :: es) i = (if e.1 = i then 1 else 0) + (if e.2 = i then 1 else 0) + degree es i := by
  simp only [degree, List.map_cons, List.count_cons, beq_iff_eq]
  omega

theorem degree_eq_count (h : names.Nodup) (hes : List.Forall₂ (Locates names) xs es)
    (i : Fin names.length) : degree es i = (xs.flatMap Relation.ends).count names[i] := by
  induction hes with
  | nil => rfl
  | @cons x e xs es he hes ih =>
    rw [degree_cons, ih, List.flatMap_cons, List.count_append, Relation.ends, ← he.1, ← he.2]
    simp only [List.count_cons, List.count_nil, beq_iff_eq, getElem_inj h]
    omega

/--
The spring joins the places of the relation's models, which are different, and has the numbers of
their ends. Neither its strength nor its bias is divided by zero.
-/
structure Joins (ends : List String) (x : Relation) (s : Spring names.length) : Prop where
  source : names[s.source] = x.source.model
  target : names[s.target] = x.target.model
  ne : s.source ≠ s.target
  sourceDegree : s.sourceDegree = ends.count x.source.model
  targetDegree : s.targetDegree = ends.count x.target.model
  sourceDegree_pos : 0 < s.sourceDegree
  targetDegree_pos : 0 < s.targetDegree
  zero_lt_min : 0 < min s.sourceDegree.toFloat s.targetDegree.toFloat
  zero_lt_add : 0 < s.sourceDegree.toFloat + s.targetDegree.toFloat

theorem filter_pulls (names : List String) (xs : List Relation) :
    xs.filter (·.Pulls names) =
      (xs.filter (·.Known names)).filter fun x => x.source.model ≠ x.target.model := by
  rw [List.filter_filter]
  apply List.filter_congr
  intro x _
  rw [Bool.eq_iff_iff]
  simp [Relation.Pulls, and_comm]

theorem count_pos_of_known (hx : x ∈ xs) (hw : x.Known names) :
    0 < (knownEnds names xs).count x.source.model ∧
      0 < (knownEnds names xs).count x.target.model := by
  have hmem : x ∈ xs.filter (·.Known names) := List.mem_filter.2 ⟨hx, by simpa using hw⟩
  have hends (name : String) (hn : name ∈ x.ends) : name ∈ knownEnds names xs :=
    List.mem_flatMap.2 ⟨x, hmem, hn⟩
  exact ⟨List.count_pos_iff.2 (hends _ (by simp [Relation.ends])),
    List.count_pos_iff.2 (hends _ (by simp [Relation.ends]))⟩

theorem forall₂_ofRelations (h : names.Nodup) (xs : List Relation) :
    List.Forall₂ (Joins (knownEnds names xs)) (xs.filter (·.Pulls names))
      (ofRelations names xs) := by
  have hes := forall₂_ends h xs
  have hne (x : Relation) (e) (he : Locates names x e) :
      x.source.model ≠ x.target.model ↔ e.1 ≠ e.2 := by
    rw [← he.1, ← he.2]
    exact not_congr (getElem_inj h)
  have hpulls : List.Forall₂ (Locates names) (xs.filter (·.Pulls names))
      ((xs.filterMap (ends? names)).filter fun e => e.1 ≠ e.2) := by
    rw [filter_pulls]
    apply List.rel_filter _ hes
    intro x e he
    simp only [decide_eq_true_eq]
    exact hne x e he
  rw [ofRelations, List.forall₂_map_right_iff]
  refine ((List.forall₂_and_left _ _).2 ⟨fun x hx => hx, hpulls⟩).imp ?_
  rintro x ⟨s, t⟩ ⟨hx, he⟩
  obtain ⟨hx, hp⟩ := List.mem_filter.1 hx
  have hp : x.Pulls names := of_decide_eq_true hp
  obtain ⟨hs, ht⟩ := count_pos_of_known hx hp.1
  have hsource := degree_eq_count h hes s
  have htarget := degree_eq_count h hes t
  rw [he.1] at hsource
  rw [he.2] at htarget
  rw [knownEnds, ← hsource] at hs
  rw [knownEnds, ← htarget] at ht
  exact ⟨he.1, he.2, (hne x _ he).1 hp.2, hsource, htarget, hs, ht, zero_lt_min_toFloat hs ht,
    zero_lt_toFloat_add hs ht⟩

theorem sum_count_knownEnds (h : names.Nodup) (xs : List Relation) :
    (names.map (knownEnds names xs).count).sum = 2 * (xs.filter (·.Known names)).length := by
  have hends : ∀ name ∈ (knownEnds names xs : Multiset String), name ∈ names.toFinset := by
    intro name hn
    obtain ⟨x, hx, hname⟩ := List.mem_flatMap.1 (Multiset.mem_coe.1 hn)
    have hw : x.Known names := by simpa using (List.mem_filter.1 hx).2
    rw [List.mem_toFinset]
    simp only [Relation.ends, List.mem_cons, List.not_mem_nil, or_false] at hname
    rcases hname with rfl | rfl
    · exact hw.1
    · exact hw.2
  have hlength : (knownEnds names xs).length = 2 * (xs.filter (·.Known names)).length := by
    rw [knownEnds, List.length_flatMap]
    simp [Relation.ends, mul_comm]
  calc (names.map (knownEnds names xs).count).sum
      = ∑ name ∈ names.toFinset, (knownEnds names xs).count name := (List.sum_toFinset _ h).symm
    _ = (knownEnds names xs).length := by simpa using Multiset.sum_count_eq_card hends
    _ = 2 * (xs.filter (·.Known names)).length := hlength

end Spring

end EntityDiagram
