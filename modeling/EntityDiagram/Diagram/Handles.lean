namespace EntityDiagram

inductive Side
  | left
  | right
  deriving DecidableEq, Repr

def Side.text : Side → String
  | left => "left"
  | right => "right"

structure Handle where
  id : String
  side : Side
  deriving DecidableEq, Repr

/-- What a handle is for: edges that start on one side, or edges that end. -/
inductive Role
  | source (side : Side)
  | target
  deriving DecidableEq, Repr

structure Anchor where
  model : String
  field : String
  role : Role
  deriving DecidableEq, Repr

structure FieldHandles where
  sourceLeft : Option Handle
  sourceRight : Option Handle
  target : Option Handle
  deriving DecidableEq, Repr

namespace FieldHandles

def none : FieldHandles := ⟨.none, .none, .none⟩

def isEmpty (h : FieldHandles) : Bool :=
  h.sourceLeft.isNone && h.sourceRight.isNone && h.target.isNone

end FieldHandles

/-- The handles given out so far, in order, and where their ids come from. -/
structure Handles where
  /-- The ids in the order in which they are drawn. -/
  ids : Nat → String
  /-- The number of ids drawn so far. -/
  drawn : Nat
  given : List (Anchor × Handle)

/-- The ids that count up from zero after a stem. -/
def countedIds (stem : String) (n : Nat) : String := stem ++ toString n

namespace Handles

def start (ids : Nat → String) : Handles := ⟨ids, 0, []⟩

def draw (h : Handles) : String × Handles := (h.ids h.drawn, { h with drawn := h.drawn + 1 })

/-- The id of the anchor's handle, which is made on the side when there is none yet. -/
def request (h : Handles) (anchor : Anchor) (side : Side) : String × Handles :=
  match h.given.lookup anchor with
  | some handle => (handle.id, h)
  | none =>
    let (id, h) := h.draw
    (id, { h with given := h.given ++ [(anchor, ⟨id, side⟩)] })

/-- The id of the handle where edges start on one side of a field. -/
def source (h : Handles) (model field : String) (side : Side) : String × Handles :=
  h.request ⟨model, field, .source side⟩ side

/-- The id of the handle where edges of a field end; the side matters only the first time. -/
def target (h : Handles) (model field : String) (side : Side) : String × Handles :=
  h.request ⟨model, field, .target⟩ side

def ofField (h : Handles) (model field : String) : FieldHandles where
  sourceLeft := h.given.lookup ⟨model, field, .source .left⟩
  sourceRight := h.given.lookup ⟨model, field, .source .right⟩
  target := h.given.lookup ⟨model, field, .target⟩

/-- The handles of a field that has any. -/
def get? (h : Handles) (model field : String) : Option FieldHandles :=
  let handles := h.ofField model field
  if handles.isEmpty then none else some handles

end Handles

end EntityDiagram
