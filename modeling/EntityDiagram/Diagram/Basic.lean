import EntityDiagram.Diagram.Handles
import EntityDiagram.Placement.Basic
import EntityDiagram.Relation.Basic

namespace EntityDiagram

structure NodeField where
  field : Field
  handles : FieldHandles

structure Node where
  model : String
  position : Position
  fields : List NodeField

structure Edge where
  id : String
  source : String
  target : String
  sourceHandle : String
  targetHandle : String
  kind : RelationKind
  deriving DecidableEq, Repr

structure Diagram where
  nodes : List Node
  edges : List Edge

namespace Diagram

/-- The sides that an edge leaves and reaches its models on. -/
def sides (r : Relation) (source target : Position) : Side × Side :=
  if r.isSelf then (.right, .right)
  else if source.x ≤ target.x then (.right, .left)
  else (.left, .right)

/-- The edges of the relations with both models placed, and the handles after drawing them. -/
def drawEdges (p : Placement) (h : Handles) : List Relation → List Edge × Handles
  | [] => ([], h)
  | r :: rs =>
    match p.get? r.source.model, p.get? r.target.model with
    | some s, some t =>
      let (sourceSide, targetSide) := sides r s t
      let (sourceHandle, h) := h.source r.source.model r.source.field sourceSide
      let (targetHandle, h) := h.target r.target.model r.target.field targetSide
      let (edges, h) := drawEdges p h rs
      (⟨r.id, r.source.model, r.target.model, sourceHandle, targetHandle, r.kind⟩ :: edges, h)
    | _, _ => drawEdges p h rs

/-- The nodes of the placed models of a registry, in the order of their placement. -/
def drawNodes (r : Registry) (p : Placement) (h : Handles) : List Node :=
  p.entries.filterMap fun (name, position) =>
    (r.get? name).map fun m =>
      { model := m.name
        position
        fields := m.fields.map fun f => ⟨f, h.ofField m.name f.name⟩ }

/-- The diagram of a placement. With a focus, only the relations that touch it are drawn. -/
def project (r : Registry) (relations : List Relation) (p : Placement) (focus : Option String)
    (ids : Nat → String) : Diagram :=
  let (edges, h) := drawEdges p (.start ids) (relations.filter fun x => focus.all x.touches)
  ⟨drawNodes r p h, edges⟩

end Diagram

end EntityDiagram
