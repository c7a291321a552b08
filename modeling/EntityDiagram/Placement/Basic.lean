namespace EntityDiagram

structure Position where
  x : Float
  y : Float

namespace Position

def origin : Position := ⟨0, 0⟩

end Position

/-- Where models are placed, in the order in which they were placed first. -/
structure Placement where
  entries : List (String × Position)

namespace Placement

def empty : Placement := ⟨[]⟩

/-- The entries with the model at the position, at the end when it is new. -/
def insertEntry (model : String) (position : Position) :
    List (String × Position) → List (String × Position)
  | [] => [(model, position)]
  | (name, p) :: rest =>
    if name = model then (model, position) :: rest
    else (name, p) :: insertEntry model position rest

/-- Places a model, or moves it if it has a place. -/
def insert (p : Placement) (model : String) (position : Position) : Placement :=
  ⟨insertEntry model position p.entries⟩

def ofList (entries : List (String × Position)) : Placement :=
  entries.foldl (fun p e => p.insert e.1 e.2) empty

def get? (p : Placement) (model : String) : Option Position := p.entries.lookup model

def contains (p : Placement) (model : String) : Bool := (p.get? model).isSome

def models (p : Placement) : List String := p.entries.map (·.1)

def size (p : Placement) : Nat := p.entries.length

end Placement

end EntityDiagram
