import EntityDiagram.Proofs.Diagram.Drawing
import EntityDiagram.Proofs.Relation.Stability

namespace EntityDiagram

theorem Endpoint.eq_iff {e f : Endpoint} : e = f ↔ e.model = f.model ∧ e.field = f.field := by
  cases e
  cases f
  rw [Endpoint.mk.injEq]

namespace Handles

variable {h : Handles} {a b : Anchor} {id id' : String}

theorem Numbered.id_eq_iff (hn : h.Numbered) (hi : Function.Injective h.ids) (ha : h.HasId a id)
    (hb : h.HasId b id') : id = id' ↔ a = b := by
  constructor
  · intro he
    rw [← he] at hb
    exact hn.anchor_eq hi ha hb
  · intro he
    obtain ⟨x, hx, hid⟩ := ha
    obtain ⟨y, hy, hid'⟩ := hb
    rw [← he, hx] at hy
    rw [← hid, ← hid', Option.some.inj hy]

end Handles

namespace Drawn

variable {c : Drawn} {cs : List Drawn} {f : Endpoint} {side : Side}

/-- The edge starts at the field, on the side. -/
def StartsAt (c : Drawn) (f : Endpoint) (side : Side) : Prop :=
  c.relation.source = f ∧ c.sourceSide = side

def EndsAt (c : Drawn) (f : Endpoint) : Prop := c.relation.target = f

instance (c : Drawn) (f : Endpoint) (side : Side) : Decidable (c.StartsAt f side) :=
  inferInstanceAs (Decidable (_ ∧ _))

instance (c : Drawn) (f : Endpoint) : Decidable (c.EndsAt f) :=
  inferInstanceAs (Decidable (_ = _))

theorem sourceAnchor_eq_iff :
    c.sourceAnchor = ⟨f.model, f.field, .source side⟩ ↔ c.StartsAt f side := by
  rw [sourceAnchor, StartsAt, Endpoint.eq_iff, Anchor.mk.injEq, Role.source.injEq, and_assoc]

theorem targetAnchor_eq_iff : c.targetAnchor = ⟨f.model, f.field, .target⟩ ↔ c.EndsAt f := by
  rw [targetAnchor, EndsAt, Endpoint.eq_iff, Anchor.mk.injEq, and_iff_left rfl]

theorem lookup_requests (c : Drawn) (rs : List (Anchor × Side)) (a : Anchor) :
    (c.requests ++ rs).lookup a =
      if c.sourceAnchor = a then some c.sourceSide
      else if c.targetAnchor = a then some c.targetSide else rs.lookup a := by
  simp only [requests, List.cons_append, List.nil_append, List.lookup_cons, beq_eq_decide,
    eq_comm (a := a)]
  split
  · next h => rw [if_pos (of_decide_eq_true h)]
  · next h =>
    rw [if_neg (of_decide_eq_false h)]
    split
    · next h => rw [if_pos (of_decide_eq_true h)]
    · next h => rw [if_neg (of_decide_eq_false h)]

/-- The handle of a field on a side is asked for when an edge starts there. -/
theorem lookup_source (cs : List Drawn) (f : Endpoint) (side : Side) :
    (cs.flatMap requests).lookup ⟨f.model, f.field, .source side⟩ =
      if ∃ c ∈ cs, c.StartsAt f side then some side else none := by
  induction cs with
  | nil => rfl
  | cons c cs ih =>
    have htarget : c.targetAnchor ≠ ⟨f.model, f.field, .source side⟩ := by
      intro he
      cases congrArg Anchor.role he
    rw [List.flatMap_cons, lookup_requests, if_neg htarget, ih]
    by_cases hc : c.StartsAt f side
    · rw [if_pos (sourceAnchor_eq_iff.2 hc), if_pos ⟨c, List.mem_cons_self, hc⟩, hc.2]
    · simp only [sourceAnchor_eq_iff, List.mem_cons, exists_eq_or_imp, hc, false_or, ↓reduceIte]

/-- The side of the handle where edges end is that of the first of them. -/
theorem lookup_target (cs : List Drawn) (f : Endpoint) :
    (cs.flatMap requests).lookup ⟨f.model, f.field, .target⟩ =
      (cs.find? (·.EndsAt f)).map targetSide := by
  induction cs with
  | nil => rfl
  | cons c cs ih =>
    have hsource : c.sourceAnchor ≠ ⟨f.model, f.field, .target⟩ := by
      intro he
      cases congrArg Anchor.role he
    rw [List.flatMap_cons, lookup_requests, if_neg hsource, ih, List.find?_cons]
    by_cases hc : c.EndsAt f
    · simp only [targetAnchor_eq_iff, hc, ↓reduceIte, decide_true, Option.map_some]
    · simp only [targetAnchor_eq_iff, hc, ↓reduceIte, decide_false]

end Drawn

def Role.all : List Role := [.source .left, .source .right, .target]

theorem Role.all_nodup : Role.all.Nodup := by decide

namespace Node

/-- The side of a relation that the field is. -/
def endpoint (n : Node) (f : NodeField) : Endpoint := ⟨n.model, f.field.name⟩

def anchors (n : Node) : List Anchor :=
  n.fields.flatMap fun f => Role.all.map fun role => ⟨n.model, f.field.name, role⟩

def handles (n : Node) : List Handle := n.fields.flatMap fun f => Role.all.filterMap f.handles.get

def ShowsHandles (n : Node) (h : Handles) : Prop :=
  ∀ f ∈ n.fields, f.handles = h.ofField n.model f.field.name

variable {n : Node} {h : Handles} {a : Anchor}

theorem model_of_mem_anchors (ha : a ∈ n.anchors) : a.model = n.model := by
  obtain ⟨f, _, ha⟩ := List.mem_flatMap.1 ha
  obtain ⟨role, _, rfl⟩ := List.mem_map.1 ha
  rfl

theorem anchors_nodup (hn : (n.fields.map (·.field.name)).Nodup) : n.anchors.Nodup := by
  apply List.nodup_flatMap.2
  refine ⟨?_, ?_⟩
  · intro f _
    apply Role.all_nodup.map
    intro a b he
    exact congrArg Anchor.role he
  · apply (List.pairwise_map.1 hn).imp
    intro f g hne a hf hg
    obtain ⟨_, _, rfl⟩ := List.mem_map.1 hf
    obtain ⟨_, _, he⟩ := List.mem_map.1 hg
    exact hne (congrArg Anchor.field he).symm

theorem handles_eq (hh : n.ShowsHandles h) :
    n.handles = n.anchors.filterMap fun a => h.given.lookup a := by
  rw [handles, anchors, List.filterMap_flatMap]
  apply List.flatMap_congr
  intro f hf
  rw [List.filterMap_map, hh f hf]
  apply List.filterMap_congr
  intro role _
  exact h.get_ofField n.model f.field.name role

end Node

namespace Diagram

variable {r : Registry} {p : Placement} {h : Handles} {xs : List Relation} {cs : List Drawn}
  {n : Node} {f : NodeField} {d : Diagram} {es : List Edge}

def handles (d : Diagram) : List Handle := d.nodes.flatMap Node.handles

theorem drawNode_showsHandles (h : Handles) (m : Model) (position : Position) :
    (drawNode h m position).ShowsHandles h := by
  intro f hf
  obtain ⟨g, _, rfl⟩ := List.mem_map.1 hf
  rfl

theorem handles_nodup (hn : h.Numbered) (hi : Function.Injective h.ids)
    (hmodels : (d.nodes.map (·.model)).Nodup)
    (hfields : ∀ n ∈ d.nodes, (n.fields.map (·.field.name)).Nodup)
    (hh : ∀ n ∈ d.nodes, n.ShowsHandles h) : (d.handles.map (·.id)).Nodup := by
  have hanchors : (d.nodes.flatMap Node.anchors).Nodup := by
    apply List.nodup_flatMap.2
    refine ⟨fun n hn => Node.anchors_nodup (hfields n hn), ?_⟩
    apply (List.pairwise_map.1 hmodels).imp
    intro m n hne a hm hn
    exact hne ((Node.model_of_mem_anchors hm).symm.trans (Node.model_of_mem_anchors hn))
  have heq : d.handles =
      (d.nodes.flatMap Node.anchors).filterMap fun a => h.given.lookup a := by
    rw [handles, List.filterMap_flatMap]
    exact List.flatMap_congr fun n hn => Node.handles_eq (hh n hn)
  rw [heq, List.map_filterMap]
  apply hanchors.filterMap
  intro a b id ha hb
  obtain ⟨x, hx, hxid⟩ := Option.map_eq_some_iff.1 ha
  obtain ⟨y, hy, hyid⟩ := Option.map_eq_some_iff.1 hb
  exact hn.anchor_eq hi ⟨x, hx, hxid⟩ ⟨y, hy, hyid⟩

/--
Fields have handles exactly where edges start and end. A handle is the one of exactly the edges
that are there, and no two handles have the same id.
-/
structure Agrees (d : Diagram) (cs : List Drawn) : Prop where
  edges : List.Forall₂ (fun e c => e.Draws c.relation) d.edges cs
  sources : ∀ n ∈ d.nodes, ∀ f ∈ n.fields, ∀ side,
    (∃ x, f.handles.get (.source side) = some x) ↔ ∃ c ∈ cs, c.StartsAt (n.endpoint f) side
  source : ∀ n ∈ d.nodes, ∀ f ∈ n.fields, ∀ side x, f.handles.get (.source side) = some x →
    x.side = side ∧
    ∀ e c, (e, c) ∈ d.edges.zip cs →
      (e.sourceHandle = x.id ↔ c.StartsAt (n.endpoint f) side)
  targets : ∀ n ∈ d.nodes, ∀ f ∈ n.fields,
    (∃ x, f.handles.get .target = some x) ↔ ∃ c ∈ cs, c.EndsAt (n.endpoint f)
  target : ∀ n ∈ d.nodes, ∀ f ∈ n.fields, ∀ x, f.handles.get .target = some x →
    (∃ c, cs.find? (·.EndsAt (n.endpoint f)) = some c ∧ x.side = c.targetSide) ∧
    ∀ e c, (e, c) ∈ d.edges.zip cs → (e.targetHandle = x.id ↔ c.EndsAt (n.endpoint f))
  handles_nodup : (d.handles.map (·.id)).Nodup

theorem side_source (hs : h.Serves (cs.flatMap Drawn.requests)) (hh : n.ShowsHandles h)
    (hf : f ∈ n.fields) (side : Side) :
    (f.handles.get (.source side)).map (·.side) =
      if ∃ c ∈ cs, c.StartsAt (n.endpoint f) side then some side else none := by
  rw [hh f hf, Handles.get_ofField, hs.sides]
  exact Drawn.lookup_source cs (n.endpoint f) side

theorem side_target (hs : h.Serves (cs.flatMap Drawn.requests)) (hh : n.ShowsHandles h)
    (hf : f ∈ n.fields) :
    (f.handles.get .target).map (·.side) =
      (cs.find? (·.EndsAt (n.endpoint f))).map Drawn.targetSide := by
  rw [hh f hf, Handles.get_ofField, hs.sides]
  exact Drawn.lookup_target cs (n.endpoint f)

theorem exists_source_iff (hs : h.Serves (cs.flatMap Drawn.requests)) (hh : n.ShowsHandles h)
    (hf : f ∈ n.fields) (side : Side) : (∃ x, f.handles.get (.source side) = some x) ↔
      ∃ c ∈ cs, c.StartsAt (n.endpoint f) side := by
  have hside := side_source hs hh hf side
  split at hside
  · next hc =>
    obtain ⟨x, hx, _⟩ := Option.map_eq_some_iff.1 hside
    exact iff_of_true ⟨x, hx⟩ hc
  · next hc =>
    rw [Option.map_eq_none_iff] at hside
    rw [hside]
    exact iff_of_false nofun hc

theorem side_of_source (hs : h.Serves (cs.flatMap Drawn.requests)) (hh : n.ShowsHandles h)
    (hf : f ∈ n.fields) {side : Side} {x : Handle} (hx : f.handles.get (.source side) = some x) :
    x.side = side := by
  have hside := side_source hs hh hf side
  rw [if_pos ((exists_source_iff hs hh hf side).1 ⟨x, hx⟩), hx] at hside
  exact Option.some.inj hside

theorem exists_target_iff (hs : h.Serves (cs.flatMap Drawn.requests)) (hh : n.ShowsHandles h)
    (hf : f ∈ n.fields) : (∃ x, f.handles.get .target = some x) ↔
      ∃ c ∈ cs, c.EndsAt (n.endpoint f) := by
  have hside := side_target hs hh hf
  rw [← Option.isSome_iff_exists, ← Option.isSome_map (f := (·.side)), hside, Option.isSome_map,
    List.find?_isSome]
  simp only [decide_eq_true_eq]

theorem side_of_target (hs : h.Serves (cs.flatMap Drawn.requests)) (hh : n.ShowsHandles h)
    (hf : f ∈ n.fields) {x : Handle} (hx : f.handles.get .target = some x) :
    ∃ c, cs.find? (·.EndsAt (n.endpoint f)) = some c ∧ x.side = c.targetSide := by
  have hside := side_target hs hh hf
  rw [hx] at hside
  obtain ⟨c, hc, he⟩ := Option.map_eq_some_iff.1 hside.symm
  exact ⟨c, hc, he.symm⟩

theorem hasId_of_get (hh : n.ShowsHandles h) (hf : f ∈ n.fields) {role : Role} {x : Handle}
    (hx : f.handles.get role = some x) : h.HasId ⟨n.model, f.field.name, role⟩ x.id := by
  rw [hh f hf, Handles.get_ofField] at hx
  exact ⟨x, hx, rfl⟩

theorem drawNodes_showsHandles (hn : n ∈ drawNodes r p h) : n.ShowsHandles h := by
  obtain ⟨m, _, he⟩ := exists_model_of_mem_drawNodes hn
  rw [he]
  exact drawNode_showsHandles h m n.position

theorem exists_endpoint {e : String × Position} {m : Model} {f : Field} (he : e ∈ p.entries)
    (hm : r.get? e.1 = some m) (hf : f ∈ m.fields) (h : Handles) :
    ∃ n ∈ drawNodes r p h, ∃ g ∈ n.fields, n.endpoint g = ⟨m.name, f.name⟩ :=
  ⟨_, drawNode_mem he hm h, _, List.mem_map_of_mem hf, rfl⟩

theorem mem_drawn {c : Drawn} (hx : c.relation ∈ xs)
    (hs : p.get? c.relation.source.model = some c.source)
    (ht : p.get? c.relation.target.model = some c.target) : c ∈ drawn p xs := by
  apply List.mem_filterMap.2
  refine ⟨_, hx, ?_⟩
  rw [drawn?, hs, ht]
  rfl

/-- The diagram of a registry agrees with the relations that are in focus and have places. -/
theorem project_agrees_of_declared (hr : r.Declared) (hp : p.models.Nodup) (focus : Option String)
    {ids : Nat → String} (hi : Function.Injective ids) :
    (project r xs p focus ids).Agrees (drawn p (inFocus xs focus)) := by
  rw [project_eq, drawEdges_eq]
  generalize drawn p (inFocus xs focus) = cs
  have hs := Drawn.drawAll_serves (Handles.start_serves ids) cs
  have hjoins := Drawn.drawAll_joins (.start ids) cs
  obtain ⟨_, hjoin⟩ := List.forall₂_iff_zip.1 hjoins
  have hinj : Function.Injective (Drawn.drawAll (.start ids) cs).2.ids := by
    rwa [(Drawn.drawAll_extends _ cs).ids]
  constructor
  case edges => exact hjoins.imp fun e c hj => hj.draws
  case sources =>
    intro n hn f hf side
    exact exists_source_iff hs (drawNodes_showsHandles hn) hf side
  case source =>
    intro n hn f hf side x hx
    have hh := drawNodes_showsHandles hn
    refine ⟨side_of_source hs hh hf hx, ?_⟩
    intro e c hc
    rw [hs.numbered.id_eq_iff hinj (hjoin hc).source (hasId_of_get hh hf hx)]
    exact Drawn.sourceAnchor_eq_iff (f := n.endpoint f)
  case targets =>
    intro n hn f hf
    exact exists_target_iff hs (drawNodes_showsHandles hn) hf
  case target =>
    intro n hn f hf x hx
    have hh := drawNodes_showsHandles hn
    refine ⟨side_of_target hs hh hf hx, ?_⟩
    intro e c hc
    rw [hs.numbered.id_eq_iff hinj (hjoin hc).target (hasId_of_get hh hf hx)]
    exact Drawn.targetAnchor_eq_iff (f := n.endpoint f)
  case handles_nodup =>
    apply handles_nodup hs.numbered hinj
    · rw [models_drawNodes]
      exact hp.filter _
    · intro n hn
      obtain ⟨m, hm, he⟩ := exists_model_of_mem_drawNodes hn
      rw [he, drawNode, List.map_map]
      exact (hr.models m hm).nodup
    · intro n hn
      exact drawNodes_showsHandles hn

/--
In every projection of a registry of a document, also after its relations are inferred and its
models turned around, the handles of the fields agree with the ends of the edges.
-/
theorem project_agrees {d : Document} {q : Registry} (hq : Registry.ofDocument d = .ok q)
    (steps : List Registry.Step) (xs : List Relation) (entries : List (String × Position))
    (focus : Option String) (stem : String) :
    (project (q.run steps) xs (.ofList entries) focus (countedIds stem)).Agrees
      (drawn (.ofList entries) (inFocus xs focus)) := by
  have hd := (Registry.ofDocument_declaredBy hq).declared.run steps
  exact project_agrees_of_declared hd (Placement.models_ofList_nodup entries) focus
    (countedIds_injective stem)

set_option maxRecDepth 10000 in
theorem project_agrees_blog : ∃ d q xs r p, Registry.ofDocument d = .ok q ∧
    q.infer = .ok (xs, r) ∧ q.run [.infer] = r ∧ p.models = ["User", "Post"] ∧
    (project r xs p none (countedIds "h")).Agrees (drawn p xs) ∧
    ∃ n ∈ (project r xs p none (countedIds "h")).nodes, ∃ f ∈ n.fields, ∃ side x,
      f.handles.get (.source side) = some x ∧ x.side = side := by
  obtain ⟨q, xs, r, hq, hx, h⟩ := Registry.exists_of_check Registry.blogText (fun q xs =>
    ∃ m ∈ (xs.foldl Registry.attach q).get? "User", m.name = "User" ∧ ∃ f ∈ m.fields,
      ∃ x ∈ xs, x.source = ⟨"User", f.name⟩ ∧ x.target.model = "Post") rfl (by decide +kernel)
  obtain ⟨m, hm, hname, f, hf, x, hxm, hsource, htarget⟩ := of_decide_eq_true h
  rw [← (Registry.infer_eq_ok_iff.1 hx).2] at hm
  obtain ⟨d, _, hd⟩ := Registry.parse_eq_ok_iff.1 hq
  have hrun : q.run [.infer] = r := by
    rw [Registry.run, List.foldl_cons, List.foldl_nil, Registry.step, hx]
  have hagrees := project_agrees hd [.infer] xs [("User", .origin), ("Post", .origin)] none "h"
  rw [hrun, inFocus_none] at hagrees
  refine ⟨d, q, xs, r, _, hd, hx, hrun, rfl, hagrees, ?_⟩
  have hdrawn : ⟨x, .origin, .origin⟩ ∈
      drawn (.ofList [("User", .origin), ("Post", .origin)]) xs := by
    apply mem_drawn hxm
    · rw [hsource]
      rfl
    · rw [htarget]
      rfl
  have he : ("User", Position.origin) ∈
      (Placement.ofList [("User", .origin), ("Post", .origin)]).entries := List.mem_cons_self
  obtain ⟨n, hn, g, hg, hends⟩ := exists_endpoint he hm hf _
  rw [hname, ← hsource] at hends
  obtain ⟨y, hy⟩ := (hagrees.sources n hn g hg _).2 ⟨_, hdrawn, hends.symm, rfl⟩
  exact ⟨n, hn, g, hg, _, y, hy, (hagrees.source n hn g hg _ y hy).1⟩

end Diagram

end EntityDiagram
