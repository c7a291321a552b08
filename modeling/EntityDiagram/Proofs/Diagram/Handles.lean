import EntityDiagram.Diagram.Handles
import EntityDiagram.Proofs.Relation.Partner

namespace EntityDiagram

namespace Handles

variable {h h' h'' : Handles} {a b : Anchor} {side : Side} {id : String}

def HasId (h : Handles) (a : Anchor) (id : String) : Prop :=
  ∃ x, h.given.lookup a = some x ∧ x.id = id

/-- The ids drawn are those of the handles, in their order. -/
structure Numbered (h : Handles) : Prop where
  drawn : h.drawn = h.given.length
  ids : h.given.map (·.2.id) = (List.range h.drawn).map h.ids

/-- Handles are only made, in the order of the ids, and never changed. -/
structure Extends (h h' : Handles) : Prop where
  ids : h'.ids = h.ids
  keeps : ∀ a id, h.HasId a id → h'.HasId a id
  numbered : h.Numbered → h'.Numbered

theorem Extends.refl (h : Handles) : h.Extends h := ⟨rfl, fun _ _ ha => ha, fun hn => hn⟩

theorem Extends.trans (h₁ : h.Extends h') (h₂ : h'.Extends h'') : h.Extends h'' where
  ids := h₂.ids.trans h₁.ids
  keeps := fun a id ha => h₂.keeps a id (h₁.keeps a id ha)
  numbered := fun hn => h₂.numbered (h₁.numbered hn)

def make (h : Handles) (a : Anchor) (side : Side) : Handles :=
  ⟨h.ids, h.drawn + 1, h.given ++ [(a, ⟨h.ids h.drawn, side⟩)]⟩

theorem request_of_some {x : Handle} (ha : h.given.lookup a = some x) :
    h.request a side = (x.id, h) := by
  rw [request, ha]

theorem request_of_none (ha : h.given.lookup a = none) :
    h.request a side = (h.ids h.drawn, h.make a side) := by
  rw [request, ha]
  rfl

theorem make_extends (h : Handles) (a : Anchor) (side : Side) : h.Extends (h.make a side) where
  ids := rfl
  keeps := by
    intro b id hb
    obtain ⟨x, hx, hid⟩ := hb
    refine ⟨x, ?_, hid⟩
    rw [make, List.lookup_append, hx, Option.some_or]
  numbered := by
    intro hn
    refine ⟨?_, ?_⟩
    · rw [make, List.length_append, hn.drawn, List.length_singleton]
    · rw [make, List.map_append, hn.ids, List.range_succ, List.map_append]
      rfl

theorem request_extends (h : Handles) (a : Anchor) (side : Side) :
    h.Extends (h.request a side).2 := by
  cases ha : h.given.lookup a with
  | none =>
    rw [request_of_none ha]
    exact h.make_extends a side
  | some x =>
    rw [request_of_some ha]
    exact .refl h

theorem request_hasId (h : Handles) (a : Anchor) (side : Side) :
    (h.request a side).2.HasId a (h.request a side).1 := by
  cases ha : h.given.lookup a with
  | none =>
    rw [request_of_none ha]
    refine ⟨⟨h.ids h.drawn, side⟩, ?_, rfl⟩
    rw [make, List.lookup_append, ha, Option.none_or, List.lookup_cons_self]
  | some x =>
    rw [request_of_some ha]
    exact ⟨x, ha, rfl⟩

theorem start_numbered (ids : Nat → String) : (start ids).Numbered := ⟨rfl, rfl⟩

theorem mem_of_hasId (ha : h.HasId a id) : ∃ x, (a, x) ∈ h.given ∧ x.id = id := by
  obtain ⟨x, hx, hid⟩ := ha
  obtain ⟨l₁, l₂, hl, _⟩ := List.lookup_eq_some_iff.1 hx
  refine ⟨x, ?_, hid⟩
  rw [hl]
  exact List.mem_append_right l₁ List.mem_cons_self

theorem Numbered.anchor_eq (hn : h.Numbered) (hi : Function.Injective h.ids) (ha : h.HasId a id)
    (hb : h.HasId b id) : a = b := by
  have hnodup : (h.given.map (·.2.id)).Nodup := by
    rw [hn.ids]
    exact List.nodup_range.map hi
  obtain ⟨x, hx, hxid⟩ := mem_of_hasId ha
  obtain ⟨y, hy, hyid⟩ := mem_of_hasId hb
  exact congrArg Prod.fst (List.inj_on_of_nodup_map hnodup hx hy (hxid.trans hyid.symm))

end Handles

theorem countedIds_injective (stem : String) : Function.Injective (countedIds stem) := by
  intro m n he
  have hl := congrArg String.toList he
  simp only [countedIds, String.toList_append, Nat.toString_eq_repr, Nat.toList_repr] at hl
  have hdigits := List.append_cancel_left hl
  rw [← Nat.ofDigitChars_ten_toDigits (n := m), hdigits, Nat.ofDigitChars_ten_toDigits]

def FieldHandles.get (h : FieldHandles) : Role → Option Handle
  | .source .left => h.sourceLeft
  | .source .right => h.sourceRight
  | .target => h.target

theorem Handles.get_ofField (h : Handles) (model field : String) (role : Role) :
    (h.ofField model field).get role = h.given.lookup ⟨model, field, role⟩ := by
  cases role with
  | source side => cases side <;> rfl
  | target => rfl

namespace Handles

/-- A call: for the handle of a field in a role, or for all handles of a field. -/
inductive Call
  | source (model field : String) (side : Side)
  | target (model field : String) (side : Side)
  | get (model field : String)
  deriving DecidableEq, Repr

/-- The anchor that a call asks for the handle of, with the side that it names. -/
def Call.request? : Call → Option (Anchor × Side)
  | source model field side => some (⟨model, field, .source side⟩, side)
  | target model field side => some (⟨model, field, .target⟩, side)
  | get _ _ => none

inductive Answer
  | id (id : String)
  | handles (handles : Option FieldHandles)
  deriving DecidableEq, Repr

def answer (h : Handles) : Call → Answer × Handles
  | .source model field side => (h.source model field side).map .id id
  | .target model field side => (h.target model field side).map .id id
  | .get model field => (.handles (h.get? model field), h)

def run (h : Handles) : List Call → List Answer × Handles
  | [] => ([], h)
  | c :: cs => ((h.answer c).2.run cs).map ((h.answer c).1 :: ·) id

def requests (cs : List Call) : List (Anchor × Side) := cs.filterMap Call.request?

/-- The anchors of the requests, each once, in the order of the first requests. -/
def firsts (rs : List (Anchor × Side)) : List Anchor := (rs.map (·.1)).eraseDups

variable {h : Handles} {rs : List (Anchor × Side)} {a : Anchor} {side : Side} {c : Call}
  {cs : List Call} {x : Handle}

theorem answer_of_request (hc : c.request? = some (a, side)) :
    h.answer c = (h.request a side).map .id id := by
  cases c <;> cases hc <;> rfl

theorem answer_extends (h : Handles) (c : Call) : h.Extends (h.answer c).2 := by
  cases c with
  | source model field side => exact h.request_extends _ _
  | target model field side => exact h.request_extends _ _
  | get model field => exact .refl h

theorem run_extends (h : Handles) (cs : List Call) : h.Extends (h.run cs).2 := by
  induction cs generalizing h with
  | nil => exact .refl h
  | cons c cs ih => exact (h.answer_extends c).trans (ih _)

theorem getElem?_run {i : Nat} (hi : cs[i]? = some c) :
    (h.run cs).1[i]? = some ((h.run (cs.take i)).2.answer c).1 := by
  induction cs generalizing h i with
  | nil => cases hi
  | cons k cs ih =>
    cases i with
    | zero =>
      cases hi
      rfl
    | succ i => exact ih hi

/-- The id that a request is answered with stays the id of its anchor. -/
theorem hasId_of_request {i : Nat} (hi : cs[i]? = some c) (hc : c.request? = some (a, side)) :
    ∃ id, (h.run cs).1[i]? = some (.id id) ∧ (h.run cs).2.HasId a id := by
  induction cs generalizing h i with
  | nil => cases hi
  | cons k cs ih =>
    cases i with
    | zero =>
      cases hi
      have hanswer := answer_of_request (h := h) hc
      refine ⟨(h.request a side).1, ?_, ?_⟩
      · exact congrArg (fun p => some p.1) hanswer
      · apply (run_extends (h.answer c).2 cs).keeps
        rw [hanswer]
        exact h.request_hasId a side
    | succ i => exact ih hi

/-- The handles are those that the requests, one after the other, have made. -/
structure Serves (h : Handles) (rs : List (Anchor × Side)) : Prop where
  anchors : h.given.map (·.1) = firsts rs
  numbered : h.Numbered
  sides : ∀ a, (h.given.lookup a).map (·.side) = rs.lookup a

theorem start_serves (ids : Nat → String) : (start ids).Serves [] where
  anchors := rfl
  numbered := start_numbered ids
  sides _ := rfl

theorem mem_of_lookup {β : Type} {l : List (Anchor × β)} {b : β} (h : l.lookup a = some b) :
    a ∈ l.map (·.1) := by
  obtain ⟨l₁, l₂, hl, _⟩ := List.lookup_eq_some_iff.1 h
  rw [hl]
  simp

theorem notMem_of_lookup {β : Type} {l : List (Anchor × β)} (h : l.lookup a = none) :
    a ∉ l.map (·.1) := by
  intro ha
  obtain ⟨p, hp, rfl⟩ := List.mem_map.1 ha
  simpa using List.lookup_eq_none_iff.1 h p hp

theorem lookup_singleton {β : Type} (k a : Anchor) (b : β) :
    [(a, b)].lookup k = if k = a then some b else none := by
  split
  · next h => rw [h, List.lookup_cons_self]
  · next h =>
    apply List.lookup_eq_none_iff.2
    simpa using h

theorem Serves.request (hs : h.Serves rs) (a : Anchor) (side : Side) :
    (h.request a side).2.Serves (rs ++ [(a, side)]) := by
  have hfirsts : firsts (rs ++ [(a, side)]) =
      if a ∈ rs.map (·.1) then firsts rs else firsts rs ++ [a] := by
    rw [firsts, List.map_append]
    exact eraseDups_concat _ a
  have hnumbered := (h.request_extends a side).numbered hs.numbered
  have ha := hs.sides a
  cases hx : h.given.lookup a with
  | some x =>
    rw [hx] at ha
    rw [request_of_some hx] at hnumbered ⊢
    refine ⟨?_, hnumbered, ?_⟩
    · rw [hfirsts, if_pos (mem_of_lookup ha.symm), hs.anchors]
    · intro b
      rw [List.lookup_append, ← hs.sides b, lookup_singleton]
      split
      · next hb =>
        rw [hb, hx]
        rfl
      · rw [Option.or_none]
  | none =>
    rw [hx] at ha
    rw [request_of_none hx] at hnumbered ⊢
    refine ⟨?_, hnumbered, ?_⟩
    · rw [hfirsts, if_neg (notMem_of_lookup ha.symm), ← hs.anchors, make, List.map_append]
      rfl
    · intro b
      rw [make, List.lookup_append, List.lookup_append, ← hs.sides b]
      rw [lookup_singleton, lookup_singleton]
      cases h.given.lookup b with
      | some x => rfl
      | none => split <;> rfl

theorem Serves.answer (hs : h.Serves rs) (c : Call) :
    (h.answer c).2.Serves (rs ++ c.request?.toList) := by
  cases c with
  | source model field side => exact hs.request _ _
  | target model field side => exact hs.request _ _
  | get model field =>
    rw [Call.request?, Option.toList_none, List.append_nil]
    exact hs

theorem requests_cons (c : Call) (cs : List Call) :
    requests (c :: cs) = c.request?.toList ++ requests cs := by
  cases hc : c.request? <;> simp [requests, hc]

theorem Serves.run (hs : h.Serves rs) (cs : List Call) :
    (h.run cs).2.Serves (rs ++ requests cs) := by
  induction cs generalizing h rs with
  | nil =>
    rw [requests, List.filterMap_nil, List.append_nil]
    exact hs
  | cons c cs ih =>
    have hrest := ih (hs.answer c)
    rw [List.append_assoc, ← requests_cons] at hrest
    exact hrest

theorem run_serves (ids : Nat → String) (cs : List Call) :
    ((start ids).run cs).2.Serves (requests cs) := (start_serves ids).run cs

theorem Serves.getElem?_of_lookup (hs : h.Serves rs) (hx : h.given.lookup a = some x) :
    ∃ n, (firsts rs)[n]? = some a ∧ x.id = h.ids n := by
  obtain ⟨l₁, l₂, hl, _⟩ := List.lookup_eq_some_iff.1 hx
  refine ⟨l₁.length, ?_, ?_⟩
  · rw [← hs.anchors, hl]
    simp
  · have hn := congrArg (·[l₁.length]?) hs.numbered.ids
    simpa [hl, hs.numbered.drawn] using hn

/-- The handle of an anchor has the id drawn for it, and the side of its first request. -/
theorem Serves.lookup_eq_some_iff (hs : h.Serves rs) :
    h.given.lookup a = some x ↔
      ∃ n, (firsts rs)[n]? = some a ∧ rs.lookup a = some x.side ∧ x.id = h.ids n := by
  constructor
  · intro hx
    have hside := hs.sides a
    rw [hx] at hside
    obtain ⟨n, hn⟩ := hs.getElem?_of_lookup hx
    exact ⟨n, hn.1, hside.symm, hn.2⟩
  · intro hx
    obtain ⟨n, hn, hside, hid⟩ := hx
    rw [← hs.sides a] at hside
    obtain ⟨y, hy, hyside⟩ := Option.map_eq_some_iff.1 hside
    obtain ⟨m, hm, hyid⟩ := hs.getElem?_of_lookup hy
    -- an anchor stands at one place only, so that both handles have the same number
    have hlt := (List.getElem?_eq_some_iff.1 hn).1
    have hmn := (List.getElem?_inj hlt (eraseDups_nodup _)).1 (hn.trans hm.symm)
    rw [← hmn, ← hid] at hyid
    have hxy : y = x := by
      cases x
      cases y
      simp_all
    rw [hy, hxy]

/-- The anchor that the call at the place asks for the handle of. -/
def anchorAt? (cs : List Call) (i : Nat) : Option Anchor := (cs[i]?.bind Call.request?).map (·.1)

theorem exists_of_anchorAt? {i : Nat} (h : anchorAt? cs i = some a) :
    ∃ c side, cs[i]? = some c ∧ c.request? = some (a, side) := by
  obtain ⟨⟨b, side⟩, hr, rfl⟩ := Option.map_eq_some_iff.1 h
  obtain ⟨c, hc, hr⟩ := Option.bind_eq_some_iff.1 hr
  exact ⟨c, side, hc, hr⟩

/--
The side that a handle of the anchor is on: the one that edges start on, or for edges that end the
one of the first request.
-/
def IsSideOf (side : Side) (a : Anchor) (rs : List (Anchor × Side)) : Prop :=
  match a.role with
  | .source s => side = s
  | .target => rs.lookup a = some side

/-- What calls on new handles give: the answers, and the handles that are there after them. -/
structure Allocates (ids : Nat → String) (cs : List Call) (answers : List Answer) (h : Handles) :
    Prop where
  /-- The anchors that are asked for have a handle each, in the order of the first requests. -/
  anchors : h.given.map (·.1) = firsts (requests cs)
  /-- An id is drawn for each of them, and no other. -/
  drawn : h.drawn = (firsts (requests cs)).length
  /-- The handles have the ids in the order in which they are drawn. -/
  numbered : h.given.map (·.2.id) = (List.range h.drawn).map ids
  /-- A request is answered with the id that was drawn at the first one for its anchor. -/
  returned : ∀ i a, anchorAt? cs i = some a →
    ∃ n, (firsts (requests cs))[n]? = some a ∧ answers[i]? = some (.id (ids n))
  /-- Ids that are counted tell the anchors apart. -/
  distinct : ∀ stem, ids = countedIds stem → ∀ i j a b, anchorAt? cs i = some a →
    anchorAt? cs j = some b → (answers[i]? = answers[j]? ↔ a = b)
  /-- A field is shown as it is after the calls before. -/
  shown : ∀ i model field, cs[i]? = some (Call.get model field) →
    answers[i]? = some (Answer.handles (((start ids).run (cs.take i)).2.get? model field))
  /-- A field that no handle was asked of has none. -/
  absent : ∀ model field, h.get? model field = none ↔
    ∀ role, ⟨model, field, role⟩ ∉ firsts (requests cs)
  /-- Any other field has handles in the roles that were asked for, and in no others. -/
  present : ∀ model field r, h.get? model field = some r → r.isEmpty = false ∧
    ∀ role x, r.get role = some x ↔
      ∃ n, (firsts (requests cs))[n]? = some ⟨model, field, role⟩ ∧ x.id = ids n ∧
        IsSideOf x.side ⟨model, field, role⟩ (requests cs)

theorem mem_firsts_iff : a ∈ firsts rs ↔ ∃ side, rs.lookup a = some side := by
  rw [firsts, List.mem_eraseDups]
  constructor
  · intro ha
    cases hl : rs.lookup a with
    | some side => exact ⟨side, rfl⟩
    | none => exact (notMem_of_lookup hl ha).elim
  · intro ha
    obtain ⟨side, hl⟩ := ha
    exact mem_of_lookup hl

theorem side_of_mem_requests {model field : String} {s : Side}
    (h : (⟨model, field, .source s⟩, side) ∈ requests cs) : side = s := by
  obtain ⟨c, _, hc⟩ := List.mem_filterMap.1 h
  cases c <;> cases hc
  rfl

theorem lookup_requests_iff (ha : a ∈ firsts (requests cs)) :
    (requests cs).lookup a = some side ↔ IsSideOf side a (requests cs) := by
  obtain ⟨model, field, role⟩ := a
  cases role with
  | target => exact Iff.rfl
  | source s =>
    obtain ⟨t, ht⟩ := mem_firsts_iff.1 ha
    obtain ⟨l₁, l₂, hl, _⟩ := List.lookup_eq_some_iff.1 ht
    have hmem : (⟨model, field, .source s⟩, t) ∈ requests cs := by simp [hl]
    have hts := side_of_mem_requests hmem
    rw [ht, hts, Option.some.injEq]
    exact eq_comm

theorem isEmpty_eq_true_iff {r : FieldHandles} : r.isEmpty = true ↔ ∀ role, r.get role = none := by
  constructor
  · intro h role
    simp only [FieldHandles.isEmpty, Bool.and_eq_true, Option.isNone_iff_eq_none] at h
    obtain ⟨⟨hl, hr⟩, ht⟩ := h
    cases role with
    | source s => cases s <;> assumption
    | target => exact ht
  · intro h
    have hl := h (.source .left)
    have hr := h (.source .right)
    have ht := h .target
    simp_all [FieldHandles.isEmpty, FieldHandles.get]

theorem get?_eq_none_iff {model field : String} :
    h.get? model field = none ↔ ∀ role, h.given.lookup ⟨model, field, role⟩ = none := by
  rw [get?]
  simp only [ite_eq_left_iff, reduceCtorEq, imp_false, not_not, isEmpty_eq_true_iff, get_ofField]

theorem get?_eq_some_iff {model field : String} {r : FieldHandles} :
    h.get? model field = some r ↔ r.isEmpty = false ∧ r = h.ofField model field := by
  rw [get?]
  constructor
  · intro hr
    split at hr
    · cases hr
    · next he =>
      cases hr
      exact ⟨Bool.eq_false_iff.2 he, rfl⟩
  · intro hr
    obtain ⟨he, rfl⟩ := hr
    exact if_neg (Bool.eq_false_iff.1 he)

theorem Serves.lookup_eq_none_iff (hs : h.Serves rs) :
    h.given.lookup a = none ↔ a ∉ firsts rs := by
  rw [mem_firsts_iff, ← hs.sides a]
  cases h.given.lookup a <;> simp

/-- A request is answered with the id that has the place of its anchor among the first requests. -/
theorem exists_answer (ids : Nat → String) {i : Nat} (ha : anchorAt? cs i = some a) :
    ∃ n, (firsts (requests cs))[n]? = some a ∧ ((start ids).run cs).1[i]? = some (.id (ids n)) := by
  obtain ⟨c, side, hc, hr⟩ := exists_of_anchorAt? ha
  obtain ⟨id, hi, x, hx, hid⟩ := hasId_of_request (h := start ids) hc hr
  obtain ⟨n, hn, hxn⟩ := (run_serves ids cs).getElem?_of_lookup hx
  rw [(run_extends (start ids) cs).ids] at hxn
  rw [hi, ← hid, hxn]
  exact ⟨n, hn, rfl⟩

theorem answers_eq_iff {ids : Nat → String} (hids : Function.Injective ids) {i j : Nat}
    (ha : anchorAt? cs i = some a) (hb : anchorAt? cs j = some b) :
    ((start ids).run cs).1[i]? = ((start ids).run cs).1[j]? ↔ a = b := by
  obtain ⟨m, hm, hi⟩ := exists_answer ids ha
  obtain ⟨n, hn, hj⟩ := exists_answer ids hb
  rw [hi, hj]
  constructor
  · intro he
    have hmn : m = n := hids (Answer.id.inj (Option.some.inj he))
    rw [hmn, hn] at hm
    exact (Option.some.inj hm).symm
  · intro hab
    have hlt := (List.getElem?_eq_some_iff.1 hm).1
    rw [hab, ← hn] at hm
    rw [(List.getElem?_inj hlt (eraseDups_nodup _)).1 hm]

theorem Serves.get_eq_some_iff (hs : h.Serves (requests cs)) {model field : String} {role : Role} :
    (h.ofField model field).get role = some x ↔
      ∃ n, (firsts (requests cs))[n]? = some ⟨model, field, role⟩ ∧ x.id = h.ids n ∧
        IsSideOf x.side ⟨model, field, role⟩ (requests cs) := by
  rw [get_ofField, hs.lookup_eq_some_iff]
  apply exists_congr
  intro n
  apply and_congr_right
  intro hn
  rw [lookup_requests_iff (List.mem_of_getElem? hn)]
  exact And.comm

theorem allocates_run (ids : Nat → String) (cs : List Call) :
    Allocates ids cs ((start ids).run cs).1 ((start ids).run cs).2 := by
  have hs := run_serves ids cs
  have hids := (run_extends (start ids) cs).ids
  constructor
  case anchors => exact hs.anchors
  case drawn => rw [hs.numbered.drawn, ← hs.anchors, List.length_map]
  case numbered =>
    rw [hs.numbered.ids, hids]
    rfl
  case returned =>
    intro i a ha
    exact exists_answer ids ha
  case distinct =>
    intro stem hstem i j a b ha hb
    rw [hstem]
    exact answers_eq_iff (countedIds_injective stem) ha hb
  case shown =>
    intro i model field hi
    exact getElem?_run hi
  case absent =>
    intro model field
    rw [get?_eq_none_iff]
    exact forall_congr' fun role => hs.lookup_eq_none_iff
  case present =>
    intro model field r hr
    obtain ⟨hempty, rfl⟩ := get?_eq_some_iff.1 hr
    refine ⟨hempty, ?_⟩
    intro role x
    rw [hs.get_eq_some_iff, hids]
    rfl

end Handles

end EntityDiagram
