import EntityDiagram.Diagram.Build
import EntityDiagram.Json.Writer

namespace EntityDiagram

def Handle.toJson (h : Handle) : Json :=
  .object [("id", .text h.id), ("position", .text h.side.text)]

/-- Only the handles that there are. -/
def FieldHandles.toJson (h : FieldHandles) : Json :=
  let entry (key : String) (handle : Option Handle) := handle.toList.map fun x => (key, x.toJson)
  .object (entry "sourceLeft" h.sourceLeft ++ entry "sourceRight" h.sourceRight ++
    entry "target" h.target)

/-- The entry for the handles is left out when there are none. -/
def NodeField.toJson (f : NodeField) : Json :=
  .object <|
    [("name", .text f.field.name),
      ("dType", .text f.field.type.name),
      ("optional", .bool f.field.isOptional),
      ("iterable", .bool f.field.isList),
      ("isForeignKey", .bool f.field.isForeignKey),
      ("isPrimaryKey", .bool f.field.isPrimaryKey)] ++
    if f.handles.isEmpty then [] else [("handle", f.handles.toJson)]

def Position.toJson (p : Position) : Json := .object [("x", .float p.x), ("y", .float p.y)]

def Node.toJson (n : Node) : Json :=
  .object [
    ("id", .text n.model),
    ("position", n.position.toJson),
    ("data", .object [
      ("name", .text n.model),
      ("fields", .array (n.fields.map (·.toJson)))])]

def Edge.toJson (e : Edge) : Json :=
  .object [
    ("id", .text e.id),
    ("source", .text e.source),
    ("target", .text e.target),
    ("sourceHandle", .text e.sourceHandle),
    ("targetHandle", .text e.targetHandle),
    ("data", .text e.kind.text)]

namespace Diagram

def toJson (d : Diagram) : Json :=
  .object [("nodes", .array (d.nodes.map (·.toJson))), ("edges", .array (d.edges.map (·.toJson)))]

inductive ExportError
  | unknownStrategy (name : String)
  | diagram (error : DiagramError)
  deriving DecidableEq, Repr

def ExportError.message : ExportError → String
  | unknownStrategy name => s!"Unknown layout strategy: {name}"
  | diagram error => error.message

/-- The diagram of a schema text as a JSON text, for a strategy given by its name. -/
def exportText (text : String) (root strategy : Option String) : Except ExportError String :=
  match strategy.elim (some Strategy.forces) Strategy.ofName? with
  | none => .error (.unknownStrategy (strategy.getD ""))
  | some s =>
    match build text { strategy := s, root } with
    | .ok d => .ok d.toJson.compact
    | .error e => .error (.diagram e)

end Diagram

end EntityDiagram
