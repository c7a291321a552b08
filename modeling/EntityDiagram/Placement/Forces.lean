import EntityDiagram.Placement.Random
import EntityDiagram.Placement.Springs

namespace EntityDiagram

structure ForceOptions where
  iterations : Nat := 300
  /-- The length of a spring at rest. -/
  linkDistance : Float := 100
  /-- The push between two models; a negative charge pushes away. -/
  chargeStrength : Float := -500
  /-- Where the centre of all models is. -/
  center : Position := ⟨400, 300⟩
  seed : UInt64 := 0x5eed
  /-- How strong the forces are at the end. -/
  alphaMin : Float := 0.001
  /-- The part of its velocity that a model loses in each step. -/
  velocityDecay : Float := 0.4

structure Body where
  x : Float
  y : Float
  vx : Float
  vy : Float

namespace Body

def accelerate (b : Body) (ax ay : Float) : Body := { b with vx := b.vx + ax, vy := b.vy + ay }

/-- One step at a velocity of which `kept` is left. -/
def move (b : Body) (kept : Float) : Body :=
  let vx := b.vx * kept
  let vy := b.vy * kept
  ⟨b.x + vx, b.y + vy, vx, vy⟩

def shift (b : Body) (dx dy : Float) : Body := { b with x := b.x - dx, y := b.y - dy }

end Body

/-- The bodies of a layout, and how many random numbers it has used. -/
structure Motion (n : Nat) where
  bodies : Vector Body n
  drawn : Nat

namespace ForceOptions

variable {n : Nat}

/-- A distance that is not zero, random and tiny where it would be. -/
def apart (key : Random.Key) (distance : Float) (drawn : Nat) : Float × Nat :=
  if distance == 0 then ((key.float drawn - 0.5) * 1e-6, drawn + 1) else (distance, drawn)

/-- Random places in a square around the centre, larger for more bodies. -/
def start (o : ForceOptions) (key : Random.Key) (n : Nat) : Motion n :=
  let spread := o.linkDistance * (max n 1).toFloat.sqrt
  let coordinate (middle : Float) (place : Nat) := middle + (key.float place - 0.5) * spread
  { bodies := Vector.ofFn fun i =>
      ⟨coordinate o.center.x (2 * i), coordinate o.center.y (2 * i + 1), 0, 0⟩
    drawn := 2 * n }

/-- A spring draws its two bodies to the distance that it has at rest. -/
def pull (o : ForceOptions) (key : Random.Key) (alpha : Float) (m : Motion n) (l : Spring n) :
    Motion n :=
  let s := m.bodies[l.source]
  let t := m.bodies[l.target]
  let (dx, drawn) := apart key (t.x + t.vx - s.x - s.vx) m.drawn
  let (dy, drawn) := apart key (t.y + t.vy - s.y - s.vy) drawn
  let length := (dx * dx + dy * dy).sqrt
  let k := (length - o.linkDistance) / length * alpha * l.strength
  let dx := dx * k
  let dy := dy * k
  let bodies := m.bodies.set l.target (t.accelerate (-(dx * l.bias)) (-(dy * l.bias)))
  let s := bodies[l.source]
  { bodies := bodies.set l.source (s.accelerate (dx * (1 - l.bias)) (dy * (1 - l.bias)))
    drawn }

/-- The push of `other` on `body`, added to what others do. -/
def push (o : ForceOptions) (key : Random.Key) (alpha : Float) (body other : Body) (ax ay : Float)
    (drawn : Nat) : Float × Float × Nat :=
  let (dx, drawn) := apart key (other.x - body.x) drawn
  let (dy, drawn) := apart key (other.y - body.y) drawn
  let square := dx * dx + dy * dy
  let square := if square < 1 then square.sqrt else square
  let w := o.chargeStrength * alpha / square
  (ax + dx * w, ay + dy * w, drawn)

/-- What all other bodies do to the one at a place. -/
def pushAll (o : ForceOptions) (key : Random.Key) (alpha : Float) (bodies : Vector Body n)
    (place : Fin n) (drawn : Nat) : Float × Float × Nat :=
  (List.finRange n).foldl (fun (ax, ay, drawn) other =>
    if other = place then (ax, ay, drawn)
    else o.push key alpha bodies[place] bodies[other] ax ay drawn) (0, 0, drawn)

def charge (o : ForceOptions) (key : Random.Key) (alpha : Float) (m : Motion n) : Motion n :=
  (List.finRange n).foldl (fun moved place =>
    let (ax, ay, drawn) := o.pushAll key alpha m.bodies place moved.drawn
    { bodies := moved.bodies.set place (moved.bodies[place].accelerate ax ay), drawn }) m

def mean (xs : Vector Float n) : Float := xs.foldl (· + ·) (-0.0) / n.toFloat

/-- Moves all bodies so that their centre is the wanted one. -/
def recenter (o : ForceOptions) (bodies : Vector Body n) : Vector Body n :=
  let dx := mean (bodies.map (·.x)) - o.center.x
  let dy := mean (bodies.map (·.y)) - o.center.y
  bodies.map (·.shift dx dy)

def step (o : ForceOptions) (key : Random.Key) (springs : List (Spring n)) (alpha : Float)
    (m : Motion n) : Motion n :=
  let m := o.charge key alpha (springs.foldl (o.pull key alpha) m)
  { m with bodies := o.recenter (m.bodies.map (·.move (1 - o.velocityDecay))) }

/-- Steps with forces that fade. -/
def run (o : ForceOptions) (key : Random.Key) (springs : List (Spring n)) (decay : Float) :
    Nat → Float → Motion n → Motion n
  | 0, _, m => m
  | steps + 1, alpha, m =>
    let alpha := alpha - alpha * decay
    o.run key springs decay steps alpha (o.step key springs alpha m)

def layout (o : ForceOptions) (names : List String) (relations : List Relation) : Placement :=
  let key := Random.Key.ofSeed o.seed
  let decay := 1 - o.alphaMin.pow (1 / (max o.iterations 1).toFloat)
  let springs := Spring.ofRelations names relations
  let m := o.run key springs decay o.iterations 1 (o.start key names.length)
  .ofList (names.zip (m.bodies.toList.map fun b => ⟨b.x, b.y⟩))

end ForceOptions

end EntityDiagram
