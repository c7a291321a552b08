import EntityDiagram.Schema.Expr

namespace EntityDiagram

/-- What a type says about the number of values. -/
inductive Modifier
  | required
  | optional
  | list
  deriving DecidableEq, Repr

structure TypeRef where
  name : String
  modifier : Modifier
  deriving DecidableEq, Repr

def TypeRef.render (t : TypeRef) : String :=
  match t.modifier with
  | .required => t.name
  | .optional => t.name ++ "?"
  | .list => t.name ++ "[]"

structure FieldDecl where
  name : String
  type : TypeRef
  attributes : List Attribute
  line : Nat
  deriving DecidableEq, Repr

/-- A field, or an attribute of the whole block. -/
inductive Member
  | field (decl : FieldDecl)
  | blockAttribute (value : Attribute)
  deriving DecidableEq, Repr

structure ModelDecl where
  name : String
  line : Nat
  members : List Member
  deriving DecidableEq, Repr

structure SourceDecl where
  name : String
  entries : List (String × Expr)
  deriving DecidableEq, Repr

/-- The value of the first entry with the key. -/
def SourceDecl.entry? (s : SourceDecl) (key : String) : Option Expr := s.entries.lookup key

inductive Block
  | model (decl : ModelDecl)
  | source (decl : SourceDecl)
  /-- A block of another kind, of which only the name is kept. -/
  | other (keyword name : String)
  deriving DecidableEq, Repr

structure Document where
  blocks : List Block
  deriving DecidableEq, Repr

end EntityDiagram
