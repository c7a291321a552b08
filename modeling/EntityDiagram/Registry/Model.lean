import EntityDiagram.Schema.Document

namespace EntityDiagram

/-- The names of a key's fields as one name. -/
def joinKey (names : List String) : String := "_".intercalate names

def joinKey? (names : List String) : Option String :=
  if names = [] then none else some (joinKey names)

/-- What a field says about the relation it belongs to. -/
structure Annotation where
  name : Option String
  /-- The fields of this model that hold the key. -/
  fields : List String
  /-- The fields of the other model that the key refers to. -/
  references : List String
  onDelete : Option String
  onUpdate : Option String
  map : Option String
  deriving DecidableEq, Repr

namespace Annotation

/-- The name is a text and not empty, behind its label or in the first place. -/
def ofAttribute (a : Attribute) : Annotation where
  name := ((a.namedOrFirst? "name").bind Expr.asText?).filter (· ≠ "")
  fields := (a.named? "fields").elim [] Expr.idents
  references := (a.named? "references").elim [] Expr.idents
  onDelete := (a.named? "onDelete").bind Expr.asIdent?
  onUpdate := (a.named? "onUpdate").bind Expr.asIdent?
  map := (a.named? "map").bind Expr.asText?

def foreignKey? (a : Annotation) : Option String := joinKey? a.fields

def referencedKey? (a : Annotation) : Option String := joinKey? a.references

end Annotation

def hasAttribute (attributes : List Attribute) (name : String) : Bool :=
  attributes.any (·.name = name)

structure Field where
  name : String
  type : TypeRef
  attributes : List Attribute
  isForeignKey : Bool
  isPrimaryKey : Bool
  deriving DecidableEq, Repr

/-- What the first attribute `relation` says. -/
def annotationOf (attributes : List Attribute) : Option Annotation :=
  (attributes.find? (·.name = "relation")).map .ofAttribute

namespace Field

def isOptional (f : Field) : Bool := f.type.modifier = .optional

def isList (f : Field) : Bool := f.type.modifier = .list

def annotation? (f : Field) : Option Annotation := annotationOf f.attributes

def relationName? (f : Field) : Option String := f.annotation?.bind (·.name)

def foreignKey? (f : Field) : Option String := f.annotation?.bind (·.foreignKey?)

def referencedKey? (f : Field) : Option String := f.annotation?.bind (·.referencedKey?)

/-- The declared field, marked as a part of no key yet. -/
def ofDecl (d : FieldDecl) : Field where
  name := d.name
  type := d.type
  attributes := d.attributes
  isForeignKey := false
  isPrimaryKey := false

end Field

/-- Marks the first field of the name as a foreign key; a name without a field is passed over. -/
def markForeignKey : List Field → String → List Field
  | [], _ => []
  | f :: fs, name =>
    if f.name = name then { f with isForeignKey := true } :: fs else f :: markForeignKey fs name

structure Model where
  name : String
  fields : List Field
  /-- The names of the primary key's fields. -/
  key : List String
  /-- The names that relations use as keys, each once. -/
  foreignKeys : List String
  blockAttributes : List Attribute
  /-- The models related to this one, in the order in which they were linked. -/
  relatedTo : List String
  /-- The ids of the relations with each related model. -/
  links : List (String × List String)
  deriving DecidableEq, Repr

namespace ModelDecl

def fieldDecls (d : ModelDecl) : List FieldDecl :=
  d.members.filterMap fun
    | .field f => some f
    | .blockAttribute _ => none

def blockAttributes (d : ModelDecl) : List Attribute :=
  d.members.filterMap fun
    | .field _ => none
    | .blockAttribute a => some a

/-- The key fields that an attribute `id` of the block lists. -/
def keyListOf (a : Attribute) : List String :=
  if a.name = "id" then (a.namedOrFirst? "fields").elim [] Expr.idents else []

/-- The primary key after one more member: `unique` counts only until there is a key. -/
def keyAfter (key : List String) : Member → List String
  | .blockAttribute a => if keyListOf a = [] then key else keyListOf a
  | .field f =>
    if hasAttribute f.attributes "id" ∨
        (hasAttribute f.attributes "unique" ∧ joinKey key = "") then [f.name]
    else key

/-- The names of the primary key's fields; the members are looked at in order. -/
def key (d : ModelDecl) : List String := d.members.foldl keyAfter []

def noteName (names : List String) (name : String) : List String :=
  if name ∈ names then names else names ++ [name]

/-- The foreign keys after one more member: the names that its relation uses are noted. -/
def foreignKeysAfter (names : List String) : Member → List String
  | .field f => ((annotationOf f.attributes).elim [] (·.fields)).foldl noteName names
  | .blockAttribute _ => names

/-- The names that relations use as keys; the members are looked at in order. -/
def foreignKeys (d : ModelDecl) : List String := d.members.foldl foreignKeysAfter []

end ModelDecl

namespace Model

/-- The model that a declaration defines, without any relations yet. -/
def ofDecl (d : ModelDecl) : Model where
  name := d.name
  fields := (d.foreignKeys.foldl markForeignKey (d.fieldDecls.map .ofDecl)).map fun f =>
    { f with isPrimaryKey := d.key.contains f.name }
  key := d.key
  foreignKeys := d.foreignKeys
  blockAttributes := d.blockAttributes
  relatedTo := []
  links := []

/-- The joined name of the primary key, empty when there is none. -/
def primaryKey (m : Model) : String := joinKey m.key

def field? (m : Model) (name : String) : Option Field := m.fields.find? (·.name = name)

def relationsWith (m : Model) (other : String) : List String :=
  (m.links.lookup other).getD []

end Model

end EntityDiagram
