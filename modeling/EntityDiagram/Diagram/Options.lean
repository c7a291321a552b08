import EntityDiagram.Json.Basic
import EntityDiagram.Placement.Forces
import EntityDiagram.Placement.Ring

namespace EntityDiagram

inductive Strategy
  /-- All models, by forces. -/
  | forces
  /-- One model and those related to it, on a ring. -/
  | ring
  deriving DecidableEq, Repr

def Strategy.ofName? : String → Option Strategy
  | "force" => some .forces
  | "angular" => some .ring
  | _ => none

structure Options where
  strategy : Strategy := .forces
  /-- The model in the middle of a ring. -/
  root : Option String := none
  forces : ForceOptions := {}
  ring : RingOptions := {}

namespace Options

def layout (o : Options) (r : Registry) (relations : List Relation) : Placement :=
  match o.strategy with
  | .forces => o.forces.layout (r.models.map (·.name)) relations
  | .ring => o.ring.layout r relations o.root

/-- The model whose relations alone are drawn. -/
def focus (o : Options) (r : Registry) : Option String :=
  match o.strategy with
  | .forces => none
  | .ring => (r.resolveRoot o.root).map (·.name)

end Options

namespace Json

/-- The entries of a record: an object has them by name, an array by place and maybe not all. -/
def record? (names : List String) : Json → Option (List (String × Json))
  | object entries => some entries
  | array items => if items.length ≤ names.length then some (names.zip items) else none
  | _ => none

/-- The entry with the key as `read` understands it, or the default when there is none. -/
def readOr {α : Type} (entries : List (String × Json)) (key : String) (read : Json → Option α)
    (default : α) : Option α :=
  (entries.lookup key).elim (some default) read

/-- A number, whole or not. -/
def asFloat? : Json → Option Float
  | int n => some (Float.ofInt n)
  | float x => some x
  | _ => none

/-- A whole number of at most 64 bits. -/
def asCount? : Json → Option Nat
  | int n => if 0 ≤ n ∧ n.toNat < UInt64.size then some n.toNat else none
  | _ => none

def asText? : Json → Option String
  | text s => some s
  | _ => none

end Json

/-- A strategy is its name, or an object that has it as the only key, with nothing behind it. -/
def Strategy.ofJson? : Json → Option Strategy
  | .text name | .object [(name, .null)] => ofName? name
  | _ => none

def Position.ofJson? (v : Json) : Option Position := do
  let entries ← v.record? ["x", "y"]
  some ⟨← (← entries.lookup "x").asFloat?, ← (← entries.lookup "y").asFloat?⟩

/-- The options in a record, with the defaults of `o` for those that are missing. -/
def ForceOptions.ofJson? (o : ForceOptions) (v : Json) : Option ForceOptions := do
  let entries ← v.record? ["iterations", "linkDistance", "chargeStrength", "center", "seed",
    "alphaMin", "velocityDecay"]
  some {
    iterations := ← Json.readOr entries "iterations" Json.asCount? o.iterations
    linkDistance := ← Json.readOr entries "linkDistance" Json.asFloat? o.linkDistance
    chargeStrength := ← Json.readOr entries "chargeStrength" Json.asFloat? o.chargeStrength
    center := ← Json.readOr entries "center" Position.ofJson? o.center
    seed := ← Json.readOr entries "seed" (·.asCount?.map Nat.toUInt64) o.seed
    alphaMin := ← Json.readOr entries "alphaMin" Json.asFloat? o.alphaMin
    velocityDecay := ← Json.readOr entries "velocityDecay" Json.asFloat? o.velocityDecay }

@[inherit_doc ForceOptions.ofJson?]
def RingOptions.ofJson? (o : RingOptions) (v : Json) : Option RingOptions := do
  let entries ← v.record? ["baseRadius", "radiusStep", "maxAngleStep", "startAngle",
    "stretchThreshold"]
  some {
    baseRadius := ← Json.readOr entries "baseRadius" Json.asFloat? o.baseRadius
    radiusStep := ← Json.readOr entries "radiusStep" Json.asFloat? o.radiusStep
    maxAngleStep := ← Json.readOr entries "maxAngleStep" Json.asFloat? o.maxAngleStep
    startAngle := ← Json.readOr entries "startAngle" Json.asFloat? o.startAngle
    stretchThreshold := ← Json.readOr entries "stretchThreshold" Json.asCount? o.stretchThreshold }

def Json.asName? : Json → Option (Option String)
  | null => some none
  | v => v.asText?.map some

@[inherit_doc ForceOptions.ofJson?]
def Options.ofJson? (o : Options) (v : Json) : Option Options := do
  let entries ← v.record? ["strategy", "root", "force", "angular"]
  some {
    strategy := ← Json.readOr entries "strategy" Strategy.ofJson? o.strategy
    root := ← Json.readOr entries "root" Json.asName? o.root
    forces := ← Json.readOr entries "force" o.forces.ofJson? o.forces
    ring := ← Json.readOr entries "angular" o.ring.ofJson? o.ring }

end EntityDiagram
