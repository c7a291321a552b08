import EntityDiagram.Placement.Angle
import EntityDiagram.Placement.Basic
import EntityDiagram.Relation.Inference

namespace EntityDiagram

structure RingOptions where
  /-- The radius of a ring without models. -/
  baseRadius : Float := 300
  /-- What each related model adds to the radius. -/
  radiusStep : Float := 60
  /-- The largest angle between two neighbours, in degrees. -/
  maxAngleStep : Float := 60
  /-- The angle of the first place, in degrees. -/
  startAngle : Float := -60
  /-- A ring of more models than this is stretched. -/
  stretchThreshold : Nat := 6

def Registry.resolveRoot (r : Registry) (root : Option String) : Option Model :=
  (root.bind r.get?).or r.models.head?

/-- The model on the other side of a relation that touches `root`. -/
def Relation.partner (r : Relation) (root : String) : String :=
  if r.between.1 = root then r.between.2 else r.between.1

/-- The models that share a relation with `root`, each once; it is its own partner, too. -/
def partners (root : String) (relations : List Relation) : List String :=
  ((relations.filter (·.touches root)).map (·.partner root)).eraseDups

namespace RingOptions

/-- The smaller number, the second of two equal ones; a number that is none does not count. -/
def lesser (a b : Float) : Float := if a < b || b.isNaN then a else b

def angleStep (o : RingOptions) (count : Nat) : Float :=
  if count = 0 then o.maxAngleStep else lesser o.maxAngleStep (360 / count.toFloat).floor

/-- How much a crowded ring is stretched in each direction at an angle. -/
def stretch (angle : Float) : Float × Float :=
  let x :=
    if (angle > -30 && angle < 60) || angle > 180 then 1.8
    else if angle > 30 && angle < 90 then 4
    else if angle > 90 && angle < 120 then -4
    else 1
  let y :=
    if angle > -30 && angle < 0 then 3
    else if angle > 0 && angle < 30 then 0
    else if angle > 30 && angle < 60 then 0.8
    else if angle > 180 then 1.2
    else 1
  (x, y)

def place (o : RingOptions) (count index : Nat) : Position :=
  let radius := o.baseRadius + o.radiusStep * count.toFloat
  let angle := o.startAngle + index.toFloat * o.angleStep count
  let (sx, sy) := if count > o.stretchThreshold then stretch angle else (1, 1)
  ⟨radius * cosDegrees angle * sx, radius * sinDegrees angle * sy⟩

/-- The ring around a model. Its own place on the ring stays empty; it comes last, at the origin. -/
def around (o : RingOptions) (root : String) (relations : List Relation) : Placement :=
  let ring := partners root relations
  let others := ring.zipIdx.filter (·.1 ≠ root)
  let placed := Placement.ofList (others.map fun (name, i) => (name, o.place ring.length i))
  placed.insert root .origin

def layout (o : RingOptions) (r : Registry) (relations : List Relation) (root : Option String) :
    Placement :=
  match r.resolveRoot root with
  | some m => o.around m.name relations
  | none => .empty

end RingOptions

end EntityDiagram
