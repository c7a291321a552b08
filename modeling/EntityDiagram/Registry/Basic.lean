import EntityDiagram.Registry.Model
import EntityDiagram.Schema.Document.Reader

namespace EntityDiagram

/-- The first element that is among those before it; `seen` are elements before the list. -/
def firstRepeat? (seen : List String) : List String → Option String
  | [] => none
  | x :: xs => if x ∈ seen then some x else firstRepeat? (x :: seen) xs

structure Registry where
  models : List Model
  /-- The provider of the data source. -/
  provider : Option String
  /-- How the data source treats relations. -/
  relationMode : Option String
  deriving DecidableEq, Repr

inductive SchemaError
  | syntactic (error : SyntaxError)
  | duplicateModel (name : String)
  | duplicateField (model field : String)
  deriving DecidableEq, Repr

def SchemaError.message : SchemaError → String
  | syntactic error => error.message
  | duplicateModel name => s!"Model '{name}' is declared more than once"
  | duplicateField model field => s!"Field '{field}' is declared more than once in model '{model}'"

namespace Registry

def empty : Registry := ⟨[], none, none⟩

def get? (r : Registry) (name : String) : Option Model := r.models.find? (·.name = name)

def contains (r : Registry) (name : String) : Bool := r.models.any (·.name = name)

/-- The registry with one more block; a data source replaces what an earlier one says. -/
def add (r : Registry) : Block → Except SchemaError Registry
  | .model d =>
    match firstRepeat? [] (d.fieldDecls.map (·.name)) with
    | some field => .error (.duplicateField d.name field)
    | none =>
      if r.contains d.name then .error (.duplicateModel d.name)
      else .ok { r with models := r.models ++ [.ofDecl d] }
  | .source d =>
    .ok { r with
      provider := (d.entry? "provider").bind Expr.asText?
      relationMode := (d.entry? "relationMode").bind Expr.asText? }
  | .other _ _ => .ok r

def ofDocument (d : Document) : Except SchemaError Registry := d.blocks.foldlM add empty

def parse (text : String) : Except SchemaError Registry :=
  match Document.parse text with
  | .ok d => ofDocument d
  | .error e => .error (.syntactic e)

def reversed (r : Registry) : Registry := { r with models := r.models.reverse }

end Registry

end EntityDiagram
