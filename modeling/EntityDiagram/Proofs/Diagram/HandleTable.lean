import Mathlib.Data.Finmap
import EntityDiagram.Proofs.Diagram.Handles

namespace EntityDiagram

namespace FieldHandles

def put (h : FieldHandles) (role : Role) (handle : Handle) : FieldHandles :=
  match role with
  | .source .left => { h with sourceLeft := some handle }
  | .source .right => { h with sourceRight := some handle }
  | .target => { h with target := some handle }

variable {h h' : FieldHandles}

theorem get_none (role : Role) : none.get role = .none := by
  cases role with
  | source side => cases side <;> rfl
  | target => rfl

theorem get_put (h : FieldHandles) (role role' : Role) (handle : Handle) :
    (h.put role handle).get role' = if role' = role then some handle else h.get role' := by
  cases role with
  | source side =>
    cases side <;> cases role' with
    | source side' => cases side' <;> rfl
    | target => rfl
  | target =>
    cases role' with
    | source side' => cases side' <;> rfl
    | target => rfl

theorem eq_of_get (hget : ∀ role, h.get role = h'.get role) : h = h' := by
  have hleft := hget (.source .left)
  have hright := hget (.source .right)
  have htarget := hget .target
  cases h
  cases h'
  rw [mk.injEq]
  exact ⟨hleft, hright, htarget⟩

end FieldHandles

/-- Handles in one record for each field, which is there from the first request on. -/
structure HandleTable where
  ids : Nat → String
  drawn : Nat
  records : Finmap fun _ : String × String => FieldHandles

namespace HandleTable

def start (ids : Nat → String) : HandleTable := ⟨ids, 0, ∅⟩

def draw (t : HandleTable) : String × HandleTable :=
  (t.ids t.drawn, { t with drawn := t.drawn + 1 })

/-- The record of a field; an empty one is put in the table when there is none. -/
def record (t : HandleTable) (field : String × String) : FieldHandles × HandleTable :=
  match t.records.lookup field with
  | some r => (r, t)
  | none => (.none, { t with records := t.records.insert field .none })

/-- The id of the anchor's handle; for a new one the record of its field is looked up again. -/
def request (t : HandleTable) (a : Anchor) (side : Side) : String × HandleTable :=
  let (r, t) := t.record (a.model, a.field)
  match r.get a.role with
  | some handle => (handle.id, t)
  | none =>
    let (id, t) := t.draw
    let (r, t) := t.record (a.model, a.field)
    (id, { t with records := t.records.insert (a.model, a.field) (r.put a.role ⟨id, side⟩) })

/-- The record of a field, whatever it holds. -/
def get? (t : HandleTable) (model field : String) : Option FieldHandles :=
  t.records.lookup (model, field)

def answer (t : HandleTable) : Handles.Call → Handles.Answer × HandleTable
  | .source model field side => (t.request ⟨model, field, .source side⟩ side).map .id id
  | .target model field side => (t.request ⟨model, field, .target⟩ side).map .id id
  | .get model field => (.handles (t.get? model field), t)

def run (t : HandleTable) : List Handles.Call → List Handles.Answer × HandleTable
  | [] => ([], t)
  | c :: cs => ((t.answer c).2.run cs).map ((t.answer c).1 :: ·) id

end HandleTable

namespace Handles

variable {h : Handles} {a : Anchor} {side : Side}

theorem lookup_make (ha : h.given.lookup a = none) (b : Anchor) :
    (h.make a side).given.lookup b =
      if b = a then some ⟨h.ids h.drawn, side⟩ else h.given.lookup b := by
  rw [make, List.lookup_append, lookup_singleton]
  split
  · next hb => rw [hb, ha, Option.none_or]
  · rw [Option.or_none]

theorem ofField_make (ha : h.given.lookup a = none) (model field : String) :
    (h.make a side).ofField model field =
      if (model, field) = (a.model, a.field) then
        (h.ofField model field).put a.role ⟨h.ids h.drawn, side⟩
      else h.ofField model field := by
  apply FieldHandles.eq_of_get
  intro role
  rw [get_ofField, lookup_make ha]
  obtain ⟨m, f, r⟩ := a
  split
  · next hb =>
    cases hb
    rw [if_pos rfl, FieldHandles.get_put, if_pos rfl]
  · next hb =>
    split
    · next hf =>
      cases hf
      have hr : role ≠ r := fun he => hb (he ▸ rfl)
      rw [FieldHandles.get_put, if_neg hr, get_ofField]
    · rw [get_ofField]

theorem get?_of_get {model field : String} {role : Role} {x : Handle}
    (hx : (h.ofField model field).get role = some x) :
    h.get? model field = some (h.ofField model field) := by
  apply get?_eq_some_iff.2
  refine ⟨?_, rfl⟩
  apply Bool.eq_false_iff.2
  intro he
  cases hx.symm.trans (isEmpty_eq_true_iff.1 he role)

theorem get?_make (ha : h.given.lookup a = none) (model field : String) :
    (h.make a side).get? model field =
      if (model, field) = (a.model, a.field) then
        some ((h.ofField model field).put a.role ⟨h.ids h.drawn, side⟩)
      else h.get? model field := by
  have hfield : (h.make a side).ofField model field = _ := ofField_make ha model field
  split
  · next hf =>
    rw [if_pos hf] at hfield
    have hput : ((h.make a side).ofField model field).get a.role = some ⟨h.ids h.drawn, side⟩ := by
      rw [hfield, FieldHandles.get_put, if_pos rfl]
    rw [get?_of_get hput, hfield]
  · next hf =>
    rw [if_neg hf] at hfield
    rw [get?, hfield, get?]

end Handles

namespace HandleTable

variable {t : HandleTable} {h : Handles} {field key : String × String} {r : FieldHandles}

theorem record_of_some (hr : t.records.lookup field = some r) : t.record field = (r, t) := by
  rw [record, hr]

theorem record_of_none (hr : t.records.lookup field = none) :
    t.record field = (.none, { t with records := t.records.insert field .none }) := by
  rw [record, hr]

theorem lookup_record (t : HandleTable) (field : String × String) :
    (t.record field).2.records.lookup field = some (t.record field).1 := by
  cases hr : t.records.lookup field with
  | some r => rw [record_of_some hr, hr]
  | none => rw [record_of_none hr, Finmap.lookup_insert]

theorem lookup_record_of_ne (hne : key ≠ field) :
    (t.record field).2.records.lookup key = t.records.lookup key := by
  cases hr : t.records.lookup field with
  | some r => rw [record_of_some hr]
  | none => rw [record_of_none hr, Finmap.lookup_insert_of_ne _ hne]

theorem record_ids (t : HandleTable) (field : String × String) :
    (t.record field).2.ids = t.ids := by
  rw [record]
  split <;> rfl

theorem record_drawn (t : HandleTable) (field : String × String) :
    (t.record field).2.drawn = t.drawn := by
  rw [record]
  split <;> rfl

/-- The table has the same handles, with a record for each field that has any and for no other. -/
structure Holds (t : HandleTable) (h : Handles) : Prop where
  ids : t.ids = h.ids
  drawn : t.drawn = h.drawn
  records : ∀ model field, t.get? model field = h.get? model field

theorem start_holds (ids : Nat → String) : (start ids).Holds (.start ids) where
  ids := rfl
  drawn := rfl
  records _ _ := Finmap.lookup_empty _

theorem request_of_none {a : Anchor} (side : Side)
    (ha : (t.record (a.model, a.field)).1.get a.role = none) :
    t.request a side = (t.ids t.drawn, {
      ids := t.ids
      drawn := t.drawn + 1
      records := (t.record (a.model, a.field)).2.records.insert (a.model, a.field)
        ((t.record (a.model, a.field)).1.put a.role ⟨t.ids t.drawn, side⟩) }) := by
  -- the first lookup has made the record, so that the second one finds it
  have hagain : (t.record (a.model, a.field)).2.draw.2.record (a.model, a.field) =
      ((t.record (a.model, a.field)).1, (t.record (a.model, a.field)).2.draw.2) :=
    record_of_some (t.lookup_record (a.model, a.field))
  simp only [request, ha, hagain]
  simp only [draw, record_ids, record_drawn]

theorem Holds.record_eq (ht : t.Holds h) (model field : String) :
    (t.record (model, field)).1 = h.ofField model field := by
  have hrecord := ht.records model field
  rw [get?] at hrecord
  cases hr : t.records.lookup (model, field) with
  | some r =>
    rw [hr] at hrecord
    rw [record_of_some hr]
    exact (Handles.get?_eq_some_iff.1 hrecord.symm).2
  | none =>
    rw [hr] at hrecord
    have hnone := Handles.get?_eq_none_iff.1 hrecord.symm
    rw [record_of_none hr]
    apply FieldHandles.eq_of_get
    intro role
    rw [FieldHandles.get_none, Handles.get_ofField, hnone]

theorem Holds.request_of_some {a : Anchor} {x : Handle} (ht : t.Holds h)
    (ha : h.given.lookup a = some x) (side : Side) : t.request a side = (x.id, t) := by
  have hget : (h.ofField a.model a.field).get a.role = some x := by
    rw [Handles.get_ofField]
    exact ha
  have hr := ht.records a.model a.field
  rw [Handles.get?_of_get hget] at hr
  rw [request, record_of_some hr]
  dsimp only
  rw [hget]

theorem Holds.request_of_none {a : Anchor} (ht : t.Holds h) (ha : h.given.lookup a = none)
    (side : Side) :
    (t.request a side).1 = h.ids h.drawn ∧ (t.request a side).2.Holds (h.make a side) := by
  have hrecord := ht.record_eq a.model a.field
  have hget : (t.record (a.model, a.field)).1.get a.role = none := by
    rw [hrecord, Handles.get_ofField]
    exact ha
  rw [HandleTable.request_of_none side hget, hrecord, ht.ids, ht.drawn]
  refine ⟨rfl, rfl, rfl, ?_⟩
  intro model field
  rw [Handles.get?_make ha, get?]
  split
  · next hf => rw [hf, Finmap.lookup_insert, ← (Prod.mk.inj hf).1, ← (Prod.mk.inj hf).2]
  · next hf =>
    rw [Finmap.lookup_insert_of_ne _ hf, lookup_record_of_ne hf]
    exact ht.records model field

theorem Holds.request (ht : t.Holds h) (a : Anchor) (side : Side) :
    (t.request a side).1 = (h.request a side).1 ∧
      (t.request a side).2.Holds (h.request a side).2 := by
  cases ha : h.given.lookup a with
  | some x =>
    rw [ht.request_of_some ha, Handles.request_of_some ha]
    exact ⟨rfl, ht⟩
  | none =>
    rw [Handles.request_of_none ha]
    exact ht.request_of_none ha side

theorem Holds.answer (ht : t.Holds h) (c : Handles.Call) :
    (t.answer c).1 = (h.answer c).1 ∧ (t.answer c).2.Holds (h.answer c).2 := by
  cases c with
  | source model field side =>
    obtain ⟨hid, hholds⟩ := ht.request ⟨model, field, .source side⟩ side
    exact ⟨congrArg Handles.Answer.id hid, hholds⟩
  | target model field side =>
    obtain ⟨hid, hholds⟩ := ht.request ⟨model, field, .target⟩ side
    exact ⟨congrArg Handles.Answer.id hid, hholds⟩
  | get model field => exact ⟨congrArg Handles.Answer.handles (ht.records model field), ht⟩

theorem Holds.run (ht : t.Holds h) (cs : List Handles.Call) :
    (t.run cs).1 = (h.run cs).1 ∧ (t.run cs).2.Holds (h.run cs).2 := by
  induction cs generalizing t h with
  | nil => exact ⟨rfl, ht⟩
  | cons c cs ih =>
    obtain ⟨hanswer, hstep⟩ := ht.answer c
    obtain ⟨hanswers, hholds⟩ := ih hstep
    exact ⟨congrArg₂ List.cons hanswer hanswers, hholds⟩

end HandleTable

/--
Over any calls, handles are given out once for each anchor that is asked for. A table that makes a
record for a field before its first handle answers in the same way, and has the same handles.
-/
theorem Handles.run_allocates (ids : Nat → String) (cs : List Call) :
    Allocates ids cs ((start ids).run cs).1 ((start ids).run cs).2 ∧
    ((HandleTable.start ids).run cs).1 = ((start ids).run cs).1 ∧
    ((HandleTable.start ids).run cs).2.Holds ((start ids).run cs).2 :=
  ⟨allocates_run ids cs, (HandleTable.start_holds ids).run cs⟩

end EntityDiagram
