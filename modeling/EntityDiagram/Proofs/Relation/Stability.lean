import Mathlib.Algebra.Ring.Parity
import EntityDiagram.Proofs.Relation.Linking
import EntityDiagram.Proofs.Relation.Order

namespace EntityDiagram

namespace Registry

variable {p r s t : Registry} {xs ys : List Relation}

theorem get?_unlinked (r : Registry) (name : String) :
    r.unlinked.get? name = (r.get? name).map Model.unlinked := by
  rw [get?, unlinked, List.find?_map]
  rfl

theorem relationOf_unlinked (r : Registry) (m : Model) (f : Field) :
    r.unlinked.relationOf m.unlinked f = r.relationOf m f := by
  rw [relationOf, relationOf, get?_unlinked]
  have hself : selfRelation m.unlinked f = selfRelation m f := rfl
  have hcross (t : Model) : crossRelation m.unlinked f t.unlinked = crossRelation m f t := rfl
  have hname : m.unlinked.name = m.name := rfl
  rw [hname, hself]
  cases r.get? f.type.name with
  | none => rfl
  | some t => rw [Option.map_some, Option.bind_some, Option.bind_some, hcross]

theorem relationsOf_unlinked (r : Registry) (ps : List (Model × Field)) :
    r.unlinked.relationsOf (ps.map fun p => (p.1.unlinked, p.2)) = r.relationsOf ps := by
  induction ps with
  | nil => rfl
  | cons p ps ih => rw [List.map_cons, relationsOf, relationsOf, relationOf_unlinked, ih]

theorem allFields_unlinked (r : Registry) :
    r.unlinked.allFields = r.allFields.map fun p => (p.1.unlinked, p.2) := by
  rw [allFields, allFields, unlinked, List.map_flatMap, List.flatMap_map]
  apply List.flatMap_congr
  intro m _
  rw [List.map_map]
  rfl

theorem relations_unlinked (r : Registry) : r.unlinked.relations = r.relations := by
  rw [relations, relations, allFields_unlinked, relationsOf_unlinked]

theorem relations_of_unlinked_eq (h : s.unlinked = r.unlinked) : s.relations = r.relations := by
  rw [← relations_unlinked, h, relations_unlinked]

theorem unlinked_reversed (r : Registry) : r.reversed.unlinked = r.unlinked.reversed := by
  rw [unlinked, reversed, unlinked, reversed, List.map_reverse]

theorem foldl_attach_eq_self (h : ∀ x ∈ xs, ∀ m ∈ s.models, m.attach x = m) :
    xs.foldl attach s = s := by
  induction xs with
  | nil => rfl
  | cons x xs ih =>
    have hx : s.models.map (·.attach x) = s.models :=
      (List.map_congr_left (h x List.mem_cons_self)).trans (List.map_id _)
    rw [List.foldl_cons, attach_eq, hx]
    exact ih fun y hy => h y (List.mem_cons_of_mem x hy)

/-- Inference finds `xs`, in the opposite order `ys`, and changes nothing in either order. -/
structure Settled (s : Registry) (xs ys : List Relation) : Prop where
  infer : s.infer = .ok (xs, s)
  reversed : s.reversed.infer = .ok (ys, s.reversed)

theorem Settled.symm (h : s.Settled xs ys) : s.reversed.Settled ys xs where
  infer := h.reversed
  reversed := by
    rw [reversed_reversed]
    exact h.infer

theorem exists_mem_of_reversed (hr : r.Declared) (hs : r.Spelled) (hx : r.infer = .ok (xs, s))
    (hy : r.reversed.infer = .ok (ys, t)) {y : Relation} (hm : y ∈ ys) :
    ∃ x ∈ xs, x.id = y.id ∧ s(x.between.1, x.between.2) = s(y.between.1, y.between.2) := by
  have hx' : r.reversed.reversed.infer = .ok (xs, s) := by rwa [reversed_reversed]
  obtain ⟨x, hxm, hid, _, hfirst⟩ := exists_mem_reversed hr.reversed hs.reversed hy hx' hm
  refine ⟨x, hxm, hid, ?_⟩
  rw [between_of_mem hx hxm, between_of_mem hy hm]
  exact congrArg Prod.fst (first?_eq_some hfirst).2

/-- After its first success, inference has noted all that it finds in either order. -/
theorem exists_settled (hr : r.Declared) (hs : r.Spelled) (hu : r.unlinked = r)
    (hx : r.infer = .ok (xs, s)) :
    ∃ ys, s.Settled xs ys ∧ ∀ id, id ∈ ys.map (·.id) ↔ id ∈ xs.map (·.id) := by
  have hsu := unlinked_of_infer hx
  have hmirrors := mirrors_of_infer hu hx
  obtain ⟨⟨ys, t⟩, hy⟩ : ∃ p, r.reversed.infer = .ok p :=
    exists_infer_iff.2 (hr.wellFormed_reversed.2 (exists_infer_iff.1 ⟨(xs, s), hx⟩))
  have hx' : r.reversed.reversed.infer = .ok (xs, s) := by rwa [reversed_reversed]
  refine ⟨ys, ⟨infer_eq_ok_iff.2 ⟨?_, ?_⟩, infer_eq_ok_iff.2 ⟨?_, ?_⟩⟩, ?_⟩
  · rw [relations_of_unlinked_eq hsu]
    exact (infer_eq_ok_iff.1 hx).1
  · apply Eq.symm
    apply foldl_attach_eq_self
    intro x hxm m hm
    exact (hmirrors m hm).attach_eq_self hxm rfl rfl
  · rw [relations_of_unlinked_eq (r := r.reversed)
      (by rw [unlinked_reversed, hsu, unlinked_reversed])]
    exact (infer_eq_ok_iff.1 hy).1
  · apply Eq.symm
    apply foldl_attach_eq_self
    intro y hym m hm
    obtain ⟨x, hxm, hid, hb⟩ := exists_mem_of_reversed hr hs hx hy hym
    exact (hmirrors m (List.mem_reverse.1 hm)).attach_eq_self hxm hid hb
  · intro id
    exact ⟨id_mem_reversed hr.reversed hs.reversed hy hx', id_mem_reversed hr hs hx hy⟩

inductive Step
  | reverse
  | infer
  deriving DecidableEq, Repr

/-- The registry after a step; an inference that fails leaves it as it is. -/
def step (s : Registry) : Step → Registry
  | .reverse => s.reversed
  | .infer =>
    match s.infer with
    | .ok (_, t) => t
    | .error _ => s

def run (s : Registry) (steps : List Step) : Registry := steps.foldl step s

theorem Declared.step (h : s.Declared) (a : Step) : (s.step a).Declared := by
  cases a with
  | reverse => exact h.reversed
  | infer =>
    rw [Registry.step]
    cases hx : s.infer with
    | error e => exact h
    | ok p =>
      apply Declared.of_unlinked
      rw [unlinked_of_infer hx]
      exact h.unlinked

theorem Declared.run (h : s.Declared) (steps : List Step) : (s.run steps).Declared := by
  induction steps generalizing s with
  | nil => exact h
  | cons a steps ih => exact ih (h.step a)

theorem Settled.step_infer (h : s.Settled xs ys) : s.step .infer = s := by
  rw [step, h.infer]

/-- A settled registry is only turned around, once for every reversal. -/
theorem Settled.run_eq (h : s.Settled xs ys) (steps : List Step) :
    s.run steps = if Even (steps.count .reverse) then s else s.reversed := by
  induction steps generalizing s xs ys with
  | nil => rfl
  | cons a steps ih =>
    rw [run, List.foldl_cons]
    cases a with
    | infer =>
      have hne : Step.infer ≠ Step.reverse := by decide
      rw [h.step_infer, List.count_cons_of_ne hne]
      exact ih h
    | reverse =>
      have hrun := ih h.symm
      rw [reversed_reversed] at hrun
      simp only [List.count_cons_self, Nat.even_add_one, ite_not]
      exact hrun

theorem Settled.infer_run (h : s.Settled xs ys) (steps : List Step) :
    (s.run steps).infer =
      .ok (if Even (steps.count .reverse) then xs else ys, s.run steps) := by
  rw [h.run_eq]
  split
  · exact h.infer
  · exact h.reversed

/--
Once inference has succeeded on the registry of a text, in either order of its models, it succeeds
after any steps. It finds the same ids, and the same relations after an even number of reversals,
and what is noted in the models stays as it was after the first time.
-/
theorem infer_stable {text : String} (hp : parse text = .ok p) (hr : r = p ∨ r = p.reversed)
    (hx : r.infer = .ok (xs, s)) (steps : List Step) :
    ∃ ys, (s.run steps).infer = .ok (ys, s.run steps) ∧
      (∀ id, id ∈ ys.map (·.id) ↔ id ∈ xs.map (·.id)) ∧
      (∀ name, (s.run steps).get? name = s.get? name) ∧
      (Even (steps.count .reverse) → ys = xs) ∧
      ∀ later, Even (later.count .reverse) →
        (s.run (steps ++ later)).infer = .ok (ys, s.run (steps ++ later)) := by
  obtain ⟨hpd, hps⟩ := parse_declared hp
  have hpu := parse_unlinked hp
  have ⟨hd, hs, hu⟩ : r.Declared ∧ r.Spelled ∧ r.unlinked = r := by
    rcases hr with rfl | rfl
    · exact ⟨hpd, hps, hpu⟩
    · exact ⟨hpd.reversed, hps.reversed, by rw [unlinked_reversed, hpu]⟩
  obtain ⟨zs, h, hids⟩ := exists_settled hd hs hu hx
  have hsd := hd.of_infer hu hx
  refine ⟨_, h.infer_run steps, ?_, ?_, ?_, ?_⟩
  · intro id
    split
    · exact Iff.rfl
    · exact hids id
  · intro name
    rw [h.run_eq]
    split
    · rfl
    · exact hsd.get?_reversed name
  · intro heven
    exact if_pos heven
  · intro later heven
    rw [h.infer_run, List.count_append]
    simp only [Nat.even_add, heven, iff_true]

set_option maxRecDepth 10000 in
theorem infer_stable_blog : ∃ p xs s ys, parse blogText = .ok p ∧ p.infer = .ok (xs, s) ∧
    xs.length = 5 ∧ (s.run [.infer, .reverse]).infer = .ok (ys, s.run [.infer, .reverse]) ∧
    (∀ id, id ∈ ys.map (·.id) ↔ id ∈ xs.map (·.id)) ∧
    ∀ name, (s.run [.infer, .reverse]).get? name = s.get? name := by
  obtain ⟨p, xs, s, hp, hx, h⟩ := exists_of_check blogText (fun _ xs => xs.length = 5) rfl
    (by decide +kernel)
  obtain ⟨ys, hy, hids, hget, _⟩ := infer_stable hp (.inl rfl) hx [.infer, .reverse]
  exact ⟨p, xs, s, ys, hp, hx, of_decide_eq_true h, hy, hids, hget⟩

end Registry

end EntityDiagram
