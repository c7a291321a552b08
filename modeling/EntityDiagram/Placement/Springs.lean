import EntityDiagram.Placement.Basic
import EntityDiagram.Relation.Basic

namespace EntityDiagram

/-- A relation between two of `n` models, by their places in the list of models. -/
structure Spring (n : Nat) where
  source : Fin n
  target : Fin n
  /-- The number of relation ends at the source. -/
  sourceDegree : Nat
  targetDegree : Nat
  deriving DecidableEq, Repr

namespace Spring

variable {n : Nat}

/-- The fewer relation ends its models have, the stronger a spring. -/
def strength (s : Spring n) : Float :=
  1 / min s.sourceDegree.toFloat s.targetDegree.toFloat

/-- The share of the pull that moves the target. -/
def bias (s : Spring n) : Float :=
  s.sourceDegree.toFloat / (s.sourceDegree.toFloat + s.targetDegree.toFloat)

/-- The places of a relation's models, when both are in the list. -/
def ends? (names : List String) (r : Relation) : Option (Fin names.length × Fin names.length) :=
  match names.finIdxOf? r.source.model, names.finIdxOf? r.target.model with
  | some s, some t => some (s, t)
  | _, _ => none

/-- The number of ends at a place; a relation of a model with itself has both there. -/
def degree (ends : List (Fin n × Fin n)) (place : Fin n) : Nat :=
  (ends.map (·.1)).count place + (ends.map (·.2)).count place

/-- The springs of the relations, in order. A relation of a model with itself has none. -/
def ofRelations (names : List String) (relations : List Relation) : List (Spring names.length) :=
  let ends := relations.filterMap (ends? names)
  (ends.filter fun e => e.1 ≠ e.2).map fun (s, t) =>
    { source := s
      target := t
      sourceDegree := degree ends s
      targetDegree := degree ends t }

end Spring

end EntityDiagram
