import EntityDiagram.Diagram.Basic
import EntityDiagram.Diagram.Options

namespace EntityDiagram

inductive DiagramError
  /-- The text defines no registry. -/
  | malformed (error : SchemaError)
  /-- Its relations make no sense. -/
  | invalid (error : RelationError)
  deriving DecidableEq, Repr

def DiagramError.message : DiagramError → String
  | malformed error => "Malformed schema: " ++ error.message
  | invalid error => "Invalid schema: " ++ error.message

namespace Diagram

def ofRegistry (r : Registry) (relations : List Relation) (o : Options) : Diagram :=
  project r relations (o.layout r relations) (o.focus r) (countedIds "h")

/-- The diagram of a schema text. -/
def build (text : String) (o : Options) : Except DiagramError Diagram :=
  match Registry.parse text with
  | .error e => .error (.malformed e)
  | .ok r =>
    match r.infer with
    | .error e => .error (.invalid e)
    | .ok (relations, r) => .ok (ofRegistry r relations o)

end Diagram

end EntityDiagram
