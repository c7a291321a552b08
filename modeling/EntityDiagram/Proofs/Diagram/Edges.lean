import Mathlib.Data.List.Forall2
import EntityDiagram.Diagram.Basic
import EntityDiagram.Proofs.Diagram.Handles
import EntityDiagram.Proofs.Placement.Models

namespace EntityDiagram

structure Edge.Draws (e : Edge) (x : Relation) : Prop where
  id : e.id = x.id
  kind : e.kind = x.kind
  source : e.source = x.source.model
  target : e.target = x.target.model

namespace Diagram

/-- Draws one edge between the given sides of its models. -/
def drawEdge (h : Handles) (x : Relation) (s : Side × Side) : Edge × Handles :=
  let (sourceHandle, h) := h.source x.source.model x.source.field s.1
  let (targetHandle, h) := h.target x.target.model x.target.field s.2
  (⟨x.id, x.source.model, x.target.model, sourceHandle, targetHandle, x.kind⟩, h)

theorem drawEdge_draws (h : Handles) (x : Relation) (s : Side × Side) :
    (drawEdge h x s).1.Draws x :=
  ⟨rfl, rfl, rfl, rfl⟩

end Diagram

/-- A relation with the places of its two models. -/
structure Drawn where
  relation : Relation
  source : Position
  target : Position

namespace Drawn

variable {c : Drawn} {cs : List Drawn} {h h' : Handles} {rs : List (Anchor × Side)} {e : Edge}

def sourceSide (c : Drawn) : Side :=
  if c.relation.isSelf ∨ c.source.x ≤ c.target.x then .right else .left

def targetSide (c : Drawn) : Side :=
  if ¬c.relation.isSelf ∧ c.source.x ≤ c.target.x then .left else .right

theorem sides_eq (c : Drawn) :
    Diagram.sides c.relation c.source c.target = (c.sourceSide, c.targetSide) := by
  rw [Diagram.sides, sourceSide, targetSide]
  by_cases hself : c.relation.isSelf = true
  · simp [hself]
  · by_cases hle : c.source.x ≤ c.target.x <;> simp [hself, hle]

def sourceAnchor (c : Drawn) : Anchor :=
  ⟨c.relation.source.model, c.relation.source.field, .source c.sourceSide⟩

def targetAnchor (c : Drawn) : Anchor :=
  ⟨c.relation.target.model, c.relation.target.field, .target⟩

def requests (c : Drawn) : List (Anchor × Side) :=
  [(c.sourceAnchor, c.sourceSide), (c.targetAnchor, c.targetSide)]

def draw (h : Handles) (c : Drawn) : Edge × Handles :=
  Diagram.drawEdge h c.relation (c.sourceSide, c.targetSide)

def drawAll (h : Handles) : List Drawn → List Edge × Handles
  | [] => ([], h)
  | c :: cs => ((c.draw h).1 :: (drawAll (c.draw h).2 cs).1, (drawAll (c.draw h).2 cs).2)

/-- The edge is that of the relation, between the handles of its ends. -/
structure Joins (c : Drawn) (e : Edge) (h : Handles) : Prop where
  draws : e.Draws c.relation
  source : h.HasId c.sourceAnchor e.sourceHandle
  target : h.HasId c.targetAnchor e.targetHandle

theorem Joins.mono (hj : c.Joins e h) (hh : h.Extends h') : c.Joins e h' where
  draws := hj.draws
  source := hh.keeps _ _ hj.source
  target := hh.keeps _ _ hj.target

theorem draw_extends (h : Handles) (c : Drawn) : h.Extends (c.draw h).2 :=
  (h.request_extends _ _).trans (Handles.request_extends _ _ _)

theorem draw_joins (h : Handles) (c : Drawn) : c.Joins (c.draw h).1 (c.draw h).2 where
  draws := Diagram.drawEdge_draws h c.relation _
  source := (Handles.request_extends _ _ _).keeps _ _ (h.request_hasId _ _)
  target := Handles.request_hasId _ _ _

theorem draw_serves (hs : h.Serves rs) (c : Drawn) : (c.draw h).2.Serves (rs ++ c.requests) := by
  have hboth := (hs.request c.sourceAnchor c.sourceSide).request c.targetAnchor c.targetSide
  rwa [List.append_assoc] at hboth

theorem drawAll_extends (h : Handles) (cs : List Drawn) : h.Extends (drawAll h cs).2 := by
  induction cs generalizing h with
  | nil => exact .refl h
  | cons c cs ih => exact (draw_extends h c).trans (ih _)

theorem drawAll_joins (h : Handles) (cs : List Drawn) :
    List.Forall₂ (fun e c => c.Joins e (drawAll h cs).2) (drawAll h cs).1 cs := by
  induction cs generalizing h with
  | nil => exact .nil
  | cons c cs ih =>
    -- the handles of this edge are still there after those of the later ones are made
    exact .cons ((draw_joins h c).mono (drawAll_extends _ cs)) (ih _)

theorem drawAll_serves (hs : h.Serves rs) (cs : List Drawn) :
    (drawAll h cs).2.Serves (rs ++ cs.flatMap requests) := by
  induction cs generalizing h rs with
  | nil =>
    rw [List.flatMap_nil, List.append_nil]
    exact hs
  | cons c cs ih =>
    have hrest := ih (draw_serves hs c)
    rwa [List.append_assoc] at hrest

end Drawn

namespace Diagram

variable {p : Placement} {xs : List Relation} {x : Relation}

def Placed (p : Placement) (x : Relation) : Prop :=
  x.source.model ∈ p.models ∧ x.target.model ∈ p.models

def drawn? (p : Placement) (x : Relation) : Option Drawn :=
  (p.get? x.source.model).bind fun s => (p.get? x.target.model).map fun t => ⟨x, s, t⟩

def drawn (p : Placement) (xs : List Relation) : List Drawn := xs.filterMap (drawn? p)

theorem drawEdges_eq (p : Placement) (h : Handles) (xs : List Relation) :
    drawEdges p h xs = Drawn.drawAll h (drawn p xs) := by
  induction xs generalizing h with
  | nil => rfl
  | cons x xs ih =>
    rw [drawEdges, drawn, List.filterMap_cons, drawn?]
    cases p.get? x.source.model with
    | none => exact ih h
    | some s =>
      cases p.get? x.target.model with
      | none => exact ih h
      | some t =>
        have hsides : sides x s t = _ := Drawn.sides_eq ⟨x, s, t⟩
        simp only [hsides, ih, Option.bind_some, Option.map_some]
        rfl

theorem drawEdges_extends (p : Placement) (h : Handles) (xs : List Relation) :
    h.Extends (drawEdges p h xs).2 := by
  rw [drawEdges_eq]
  exact Drawn.drawAll_extends h _

theorem map_relation_drawn (hp : ∀ x ∈ xs, Placed p x) :
    (drawn p xs).map (·.relation) = xs := by
  induction xs with
  | nil => rfl
  | cons x xs ih =>
    obtain ⟨hx, hxs⟩ := List.forall_mem_cons.1 hp
    obtain ⟨s, hs⟩ := Placement.exists_get? hx.1
    obtain ⟨t, ht⟩ := Placement.exists_get? hx.2
    have hc : drawn? p x = some ⟨x, s, t⟩ := by
      rw [drawn?, hs, ht]
      rfl
    rw [drawn, List.filterMap_cons_some hc, List.map_cons]
    exact congrArg (x :: ·) (ih hxs)

/-- What holds of each edge and its drawn relation holds of the edges and the relations. -/
theorem drawEdges_forall₂ {R : Edge → Relation → Prop} {h : Handles} (hp : ∀ x ∈ xs, Placed p x)
    (hR : ∀ e (c : Drawn), c.Joins e (drawEdges p h xs).2 → R e c.relation) :
    List.Forall₂ R (drawEdges p h xs).1 xs := by
  have hjoins := Drawn.drawAll_joins h (drawn p xs)
  rw [← drawEdges_eq] at hjoins
  have hmap := List.forall₂_map_right_iff.2 (hjoins.imp hR)
  rwa [map_relation_drawn hp] at hmap

theorem drawEdges_draws (h : Handles) (hp : ∀ x ∈ xs, Placed p x) :
    List.Forall₂ Edge.Draws (drawEdges p h xs).1 xs :=
  drawEdges_forall₂ hp fun _ _ hj => hj.draws

end Diagram

end EntityDiagram
