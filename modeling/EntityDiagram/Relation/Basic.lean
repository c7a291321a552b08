import EntityDiagram.Registry.Basic

namespace EntityDiagram

/-- How many records of one side a record of the other side can have. -/
inductive RelationKind
  | oneOne
  | oneMany
  | manyManyImplicit
  | selfOneOne
  | selfOneMany
  deriving DecidableEq, Repr

namespace RelationKind

def text : RelationKind → String
  | oneOne => "one-one"
  | oneMany => "one-many"
  | manyManyImplicit => "many-many-implicit"
  | selfOneOne => "self-one-one"
  | selfOneMany => "self-one-many"

def isSelf (k : RelationKind) : Bool := k = selfOneOne || k = selfOneMany

end RelationKind

/-- One side of a relation: a model, and the field or joined key it takes part with. -/
structure Endpoint where
  model : String
  field : String
  deriving DecidableEq, Repr

structure Relation where
  id : String
  kind : RelationKind
  between : String × String
  name : Option String
  /-- The side that is referred to. -/
  source : Endpoint
  /-- The side that holds the key, or the many. -/
  target : Endpoint
  deriving DecidableEq, Repr

def sortPair (a b : String) : String × String := if b < a then (b, a) else (a, b)

/-- The id of a relation between two models through two fields, whichever side has which. -/
def relationId (models fields : String × String) : String :=
  let (a, b) := sortPair models.1 models.2
  let (f, g) := sortPair fields.1 fields.2
  a ++ "-" ++ b ++ "-" ++ f ++ "-" ++ g

namespace Relation

/-- The relation from `source` to `target`, with the id and models that these give. -/
def ofEnds (kind : RelationKind) (name : Option String) (source target : Endpoint) : Relation where
  id := relationId (source.model, target.model) (source.field, target.field)
  kind := kind
  between := (source.model, target.model)
  name := name
  source := source
  target := target

def isSelf (r : Relation) : Bool := r.between.1 = r.between.2

def touches (r : Relation) (model : String) : Bool :=
  r.between.1 = model || r.between.2 = model

end Relation

end EntityDiagram
