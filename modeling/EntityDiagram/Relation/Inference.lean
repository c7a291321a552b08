import EntityDiagram.Relation.Basic

namespace EntityDiagram

/-- Why the fields of a model that are typed as this model form no relation. -/
inductive RelationError
  | unnamed (model field : String)
  | unpaired (model field name : String)
  | ambiguous (model name first second : String)
  | keyless (model name : String)
  deriving DecidableEq, Repr

def RelationError.message : RelationError → String
  | unnamed model field => s!"Self-relation field '{model}.{field}' needs a relation name"
  | unpaired model field name =>
    s!"Self-relation \"{name}\" on model '{model}' has no field paired with '{field}'"
  | ambiguous model name first second =>
    s!"Self-relation \"{name}\" on model '{model}' pairs '{first}' and '{second}' " ++
      "with an unsupported cardinality"
  | keyless model name =>
    s!"Self-relation \"{name}\" on model '{model}' declares no fields/references mapping"

namespace Model

/-- The first other field of the model that is typed as it and has the field's relation name. -/
def pair? (m : Model) (f : Field) : Option Field :=
  m.fields.find? fun g =>
    g.name ≠ f.name && g.type.name = m.name && g.relationName? = f.relationName?

/-- The fields that are typed as the model `source` and have the relation name. -/
def backFields (m : Model) (source : String) (name : Option String) : List Field :=
  m.fields.filter fun g => g.type.name = source && g.relationName? = name

end Model

def selfKind? (f g : Field) : Option RelationKind :=
  if f.isOptional && g.isOptional then some .selfOneOne
  else if (f.isOptional && g.isList) || (f.isList && g.isOptional) then some .selfOneMany
  else none

/-- The relation of a field that is typed as its own model; the keys may be on either field. -/
def selfRelation (m : Model) (f : Field) : Except RelationError Relation :=
  match f.relationName? with
  | none => .error (.unnamed m.name f.name)
  | some name =>
    match m.pair? f with
    | none => .error (.unpaired m.name f.name name)
    | some g =>
      match selfKind? f g with
      | none => .error (.ambiguous m.name name f.name g.name)
      | some kind =>
        match f.referencedKey?.or g.referencedKey?, f.foreignKey?.or g.foreignKey? with
        | some references, some key =>
          .ok (.ofEnds kind (some name) ⟨m.name, references⟩ ⟨m.name, key⟩)
        | _, _ => .error (.keyless m.name name)

/-- The kind of a relation with a key, by the fields on the side that is referred to. -/
def keyedKind? (back : List Field) : Option RelationKind :=
  if back.any (!·.isList) then some .oneOne else if back.any (·.isList) then some .oneMany else none

/--
The relation of a field of `m` typed as another model `t`. A field with a key forms one with any
field back; without a key, a list forms one with the first list back.
-/
def crossRelation (m : Model) (f : Field) (t : Model) : Option Relation :=
  let back := t.backFields m.name f.relationName?
  match f.foreignKey?, f.referencedKey? with
  | some key, some references =>
    (keyedKind? back).map fun kind =>
      .ofEnds kind f.relationName? ⟨t.name, references⟩ ⟨m.name, key⟩
  | _, _ =>
    if f.isList then
      (back.find? (·.isList)).map fun g =>
        .ofEnds .manyManyImplicit f.relationName? ⟨t.name, g.name⟩ ⟨m.name, f.name⟩
    else none

/-- The first relation of each id that is not among `seen`. -/
def firstOfEachId (seen : List String) : List Relation → List Relation
  | [] => []
  | r :: rs =>
    if r.id ∈ seen then firstOfEachId seen rs else r :: firstOfEachId (r.id :: seen) rs

namespace Registry

/-- The relation that a field stands for, if any. -/
def relationOf (r : Registry) (m : Model) (f : Field) : Except RelationError (Option Relation) :=
  if f.type.name = m.name then (selfRelation m f).map some
  else .ok ((r.get? f.type.name).bind (crossRelation m f))

/-- The relations of the fields, or the error of the first field that has one. -/
def relationsOf (r : Registry) : List (Model × Field) → Except RelationError (List Relation)
  | [] => .ok []
  | (m, f) :: rest =>
    match r.relationOf m f with
    | .ok found => (r.relationsOf rest).map (found.toList ++ ·)
    | .error e => .error e

def allFields (r : Registry) : List (Model × Field) :=
  r.models.flatMap fun m => m.fields.map (m, ·)

def relations (r : Registry) : Except RelationError (List Relation) :=
  (r.relationsOf r.allFields).map (firstOfEachId [])

end Registry

/-- Notes a relation with the model `other`, after those that are noted already. -/
def noteLink (other id : String) : List (String × List String) → List (String × List String)
  | [] => [(other, [id])]
  | (name, ids) :: rest =>
    if name = other then (name, if id ∈ ids then ids else ids ++ [id]) :: rest
    else (name, ids) :: noteLink other id rest

/-- Links a model to `other`; both what it is related to and by which relations is noted. -/
def Model.link (m : Model) (other id : String) : Model :=
  { m with
    relatedTo := if other ∈ m.relatedTo then m.relatedTo else m.relatedTo ++ [other]
    links := noteLink other id m.links }

namespace Registry

def link (r : Registry) (name other id : String) : Registry :=
  { r with models := r.models.map fun m => if m.name = name then m.link other id else m }

/-- Links the two sides of a relation, a side that is related to itself only once. -/
def attach (r : Registry) (x : Relation) : Registry :=
  let linked := r.link x.between.1 x.between.2 x.id
  if x.isSelf then linked else linked.link x.between.2 x.between.1 x.id

/-- The relations of the registry, and the registry with its models linked by them. -/
def infer (r : Registry) : Except RelationError (List Relation × Registry) :=
  r.relations.map fun xs => (xs, xs.foldl attach r)

end Registry

end EntityDiagram
