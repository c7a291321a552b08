import EntityDiagram.Proofs.Diagram.Drawing

namespace EntityDiagram

/-- A field of the node has the handle in the role. -/
def Node.Has (n : Node) (role : Role) (id : String) : Prop :=
  ∃ f ∈ n.fields, ∃ x, f.handles.get role = some x ∧ x.id = id

namespace Edge

def Leaves (e : Edge) (d : Diagram) : Prop :=
  ∃ n ∈ d.nodes, n.model = e.source ∧ ∃ side, n.Has (.source side) e.sourceHandle

def Reaches (e : Edge) (d : Diagram) : Prop :=
  ∃ n ∈ d.nodes, n.model = e.target ∧ n.Has .target e.targetHandle

/-- The edge is that of the relation, between handles that are made for its ends. -/
structure Anchored (e : Edge) (x : Relation) (h : Handles) : Prop where
  draws : e.Draws x
  source : ∃ side, h.HasId ⟨x.source.model, x.source.field, .source side⟩ e.sourceHandle
  target : h.HasId ⟨x.target.model, x.target.field, .target⟩ e.targetHandle

end Edge

/-- A declared model has a declared field with the name of the end. -/
def Registry.Declares (r : Registry) (e : Endpoint) : Prop :=
  ∃ m ∈ r.models, m.name = e.model ∧ ∃ f ∈ m.fields, f.name = e.field

instance (r : Registry) (e : Endpoint) : Decidable (r.Declares e) :=
  inferInstanceAs (Decidable (∃ m ∈ r.models, _ ∧ ∃ f ∈ m.fields, _))

theorem Registry.declares_unlinked (r : Registry) (e : Endpoint) :
    r.unlinked.Declares e ↔ r.Declares e := by
  simp only [Declares, unlinked, List.mem_map, exists_exists_and_eq_and]
  exact Iff.rfl

namespace Diagram

variable {r : Registry} {p : Placement} {h : Handles} {xs : List Relation} {x : Relation}
  {e : Edge} {id : String}

theorem drawEdges_anchored (h : Handles) (hp : ∀ x ∈ xs, Placed p x) :
    List.Forall₂ (fun e x => e.Anchored x (drawEdges p h xs).2) (drawEdges p h xs).1 xs :=
  drawEdges_forall₂ hp fun _ c hj => ⟨hj.draws, ⟨c.sourceSide, hj.source⟩, hj.target⟩

theorem has_drawNode {m : Model} {position : Position} {role : Role} :
    (drawNode h m position).Has role id ↔
      ∃ f ∈ m.fields, h.HasId ⟨m.name, f.name, role⟩ id := by
  simp only [Node.Has, drawNode, List.mem_map, exists_exists_and_eq_and, Handles.get_ofField]
  exact Iff.rfl

theorem declares_of_has (hn : h.Numbered) (hi : Function.Injective h.ids) {a : Anchor}
    (ha : h.HasId a id) {n : Node} (hmem : n ∈ drawNodes r p h) {role : Role}
    (hhas : n.Has role id) : r.Declares ⟨a.model, a.field⟩ := by
  obtain ⟨m, hm, hnode⟩ := exists_model_of_mem_drawNodes hmem
  rw [hnode] at hhas
  obtain ⟨f, hf, hid⟩ := has_drawNode.1 hhas
  have ha := hn.anchor_eq hi hid ha
  subst ha
  exact ⟨m, hm, rfl, f, hf, rfl⟩

theorem exists_has (hr : r.Declared) {a : Anchor} (hp : a.model ∈ p.models) (ha : h.HasId a id)
    (hd : r.Declares ⟨a.model, a.field⟩) :
    ∃ n ∈ drawNodes r p h, n.model = a.model ∧ n.Has a.role id := by
  obtain ⟨m, hm, hmodel, f, hf, hfield⟩ := hd
  change m.name = a.model at hmodel
  change f.name = a.field at hfield
  obtain ⟨e, he, hname⟩ := List.mem_map.1 hp
  have hget : r.get? e.1 = some m := by
    rw [hname, ← hmodel]
    exact hr.get?_name hm
  refine ⟨drawNode h m e.2, drawNode_mem he hget h, hmodel, ?_⟩
  apply has_drawNode.2
  refine ⟨f, hf, ?_⟩
  rwa [hmodel, hfield]

theorem leaves_iff {es : List Edge} (hr : r.Declared) (hn : h.Numbered)
    (hi : Function.Injective h.ids) (hp : Placed p x) (ha : e.Anchored x h) :
    e.Leaves ⟨drawNodes r p h, es⟩ ↔ r.Declares x.source := by
  obtain ⟨side, hid⟩ := ha.source
  constructor
  · intro hl
    obtain ⟨n, hmem, _, _, hhas⟩ := hl
    exact declares_of_has hn hi hid hmem hhas
  · intro hd
    obtain ⟨n, hmem, hmodel, hhas⟩ := exists_has hr hp.1 hid hd
    exact ⟨n, hmem, hmodel.trans ha.draws.source.symm, side, hhas⟩

theorem reaches_iff {es : List Edge} (hr : r.Declared) (hn : h.Numbered)
    (hi : Function.Injective h.ids) (hp : Placed p x) (ha : e.Anchored x h) :
    e.Reaches ⟨drawNodes r p h, es⟩ ↔ r.Declares x.target := by
  constructor
  · intro hl
    obtain ⟨n, hmem, _, hhas⟩ := hl
    exact declares_of_has hn hi ha.target hmem hhas
  · intro hd
    obtain ⟨n, hmem, hmodel, hhas⟩ := exists_has hr hp.2 ha.target hd
    exact ⟨n, hmem, hmodel.trans ha.draws.target.symm, hhas⟩

theorem project_attached {focus : Option String} {ids : Nat → String} (hr : r.Declared)
    (hp : Fits p r (inFocus xs focus)) (hi : Function.Injective ids)
    (he : e ∈ (project r xs p focus ids).edges) :
    ∃ x ∈ inFocus xs focus, e.Draws x ∧
      (e.Leaves (project r xs p focus ids) ↔ r.Declares x.source) ∧
      (e.Reaches (project r xs p focus ids) ↔ r.Declares x.target) := by
  rw [project_eq] at he ⊢
  have hext := drawEdges_extends p (.start ids) (inFocus xs focus)
  have hn := hext.numbered (Handles.start_numbered ids)
  have hinj : Function.Injective (drawEdges p (.start ids) (inFocus xs focus)).2.ids := by
    rwa [hext.ids]
  obtain ⟨x, hx, ha⟩ := exists_of_forall₂ (drawEdges_anchored _ hp.placed) he
  exact ⟨x, hx, ha.draws, leaves_iff hr hn hinj (hp.placed x hx) ha,
    reaches_iff hr hn hinj (hp.placed x hx) ha⟩

theorem ofRegistry_attached {q : Registry} {o : Options} (hd : q.Declared)
    (hu : q.unlinked = q) (hx : q.infer = .ok (xs, r)) (he : e ∈ (ofRegistry r xs o).edges) :
    ∃ x ∈ xs, e.Draws x ∧
      (e.Leaves (ofRegistry r xs o) ↔ q.Declares x.source) ∧
      (e.Reaches (ofRegistry r xs o) ↔ q.Declares x.target) := by
  obtain ⟨x, hxm, hdraws, hleaves, hreaches⟩ :=
    project_attached (hd.of_infer hu hx) (layout_fits hd hx o) (countedIds_injective "h") he
  have hdeclares (end_ : Endpoint) : r.Declares end_ ↔ q.Declares end_ := by
    rw [← r.declares_unlinked, Registry.unlinked_of_infer hx, q.declares_unlinked]
  rw [hdeclares] at hleaves hreaches
  exact ⟨x, List.mem_of_mem_filter hxm, hdraws, hleaves, hreaches⟩

end Diagram

namespace Registry

variable {p r : Registry} {xs : List Relation} {x : Relation}

theorem Declared.declares_of_manyManyImplicit (hp : p.Declared) (hx : p.infer = .ok (xs, r))
    (hxm : x ∈ xs) (hk : x.kind = .manyManyImplicit) :
    p.Declares x.source ∧ p.Declares x.target := by
  obtain ⟨n, hn, t, ht, hxn, hxt, hends⟩ := hp.justified_of_mem hx hxm
  rw [hk] at hends
  obtain ⟨⟨f, hf, hfx, _⟩, ⟨g, hg, hgx, _⟩⟩ := hends
  exact ⟨⟨t, ht, hxt.symm, g, hg, hgx⟩, ⟨n, hn, hxn.symm, f, hf, hfx⟩⟩

end Registry

namespace Diagram

variable {text : String} {o : Options} {d : Diagram}

/--
Both nodes of every edge are in the diagram. The edge starts at a field exactly when the source of
its relation has the name of a field, and ends at one exactly when the target has; edges between
lists do both.
-/
theorem build_attached_iff (h : build text o = .ok d) :
    ∃ p xs r, Registry.parse text = .ok p ∧ p.infer = .ok (xs, r) ∧ ∀ e ∈ d.edges,
      (∃ n ∈ d.nodes, n.model = e.source) ∧ (∃ n ∈ d.nodes, n.model = e.target) ∧
      ∃ x ∈ xs, e.Draws x ∧ (e.Leaves d ↔ p.Declares x.source) ∧
        (e.Reaches d ↔ p.Declares x.target) ∧
        (x.kind = .manyManyImplicit → e.Leaves d ∧ e.Reaches d) := by
  obtain ⟨p, xs, r, hp, hx, rfl⟩ := build_eq_ok_iff.1 h
  have hd := (Registry.parse_declared hp).1
  refine ⟨p, xs, r, hp, hx, ?_⟩
  intro e he
  obtain ⟨hsource, htarget⟩ := (ofRegistry_shows hd hx o).ends e he
  obtain ⟨x, hxm, hdraws, hleaves, hreaches⟩ :=
    ofRegistry_attached hd (Registry.parse_unlinked hp) hx he
  refine ⟨List.mem_map.1 hsource, List.mem_map.1 htarget, x, hxm, hdraws, hleaves, hreaches, ?_⟩
  intro hk
  obtain ⟨hs, ht⟩ := hd.declares_of_manyManyImplicit hx hxm hk
  exact ⟨hleaves.2 hs, hreaches.2 ht⟩

set_option maxRecDepth 10000 in
theorem build_attached_iff_blog : ∃ d, build Registry.blogText {} = .ok d ∧
    d.edges.length = 5 ∧ ∀ e ∈ d.edges, e.Leaves d ∧ e.Reaches d := by
  obtain ⟨p, xs, r, hp, hx, h⟩ := Registry.exists_of_check Registry.blogText (fun p xs =>
    xs.length = 5 ∧ ∀ x ∈ xs, p.Declares x.source ∧ p.Declares x.target) rfl (by decide +kernel)
  obtain ⟨hlength, hdeclares⟩ := of_decide_eq_true h
  have hd := build_of_infer hp hx {}
  refine ⟨_, hd, ?_, ?_⟩
  · have hshows := ofRegistry_shows (Registry.parse_declared hp).1 hx {}
    exact (hshows.edges.length_eq.trans (congrArg List.length (inFocus_none xs))).trans hlength
  · obtain ⟨p', xs', r', hp', hx', hedges⟩ := build_attached_iff hd
    cases hp.symm.trans hp'
    cases hx.symm.trans hx'
    intro e he
    obtain ⟨_, _, x, hxm, _, hleaves, hreaches, _⟩ := hedges e he
    exact ⟨hleaves.2 (hdeclares x hxm).1, hreaches.2 (hdeclares x hxm).2⟩

/-- The lines of an item, which know it by both parts of its key. -/
def compositeText : String :=
"model Item \x7b
    orderId Int
    sku String
    lines Line[]
    @@id([orderId, sku])
  \x7d
  model Line \x7b
    id Int @id
    orderId Int
    sku String
    item Item @relation(fields: [orderId, sku], references: [orderId, sku])
  \x7d"

set_option maxRecDepth 10000 in
/-- The two parts of a key are joined to a name that no field has, at both ends. -/
theorem build_unattached_composite : ∃ d,
    build compositeText { strategy := .ring, root := some "Item" } = .ok d ∧
      ∃ e ∈ d.edges, ¬e.Leaves d ∧ ¬e.Reaches d := by
  obtain ⟨p, xs, r, hp, hx, h⟩ := Registry.exists_of_check compositeText (fun p xs =>
    (∃ m ∈ (xs.foldl Registry.attach p).get? "Item", m.name = "Item") ∧
      (∃ x ∈ xs, x.touches "Item") ∧
      ∀ x ∈ xs, ¬p.Declares x.source ∧ ¬p.Declares x.target) rfl (by decide +kernel)
  obtain ⟨⟨m, hm, hname⟩, ⟨x, hxm, htouches⟩, hnone⟩ := of_decide_eq_true h
  rw [← (Registry.infer_eq_ok_iff.1 hx).2] at hm
  have hd := (Registry.parse_declared hp).1
  have hroot : r.IsRoot (some "Item") m := .inl ⟨"Item", rfl, hm⟩
  have hedges := (ofRegistry_shows hd hx { strategy := .ring, root := some "Item" }).edges
  obtain ⟨_, hfocus⟩ := Options.layout_ring (o := { strategy := .ring, root := some "Item" })
    rfl hroot xs
  rw [hfocus, hname] at hedges
  have hxf : x ∈ inFocus xs (some "Item") := List.mem_filter.2 ⟨hxm, htouches⟩
  obtain ⟨e, he, _⟩ := exists_of_forall₂ hedges.flip hxf
  obtain ⟨y, hy, _, hleaves, hreaches⟩ :=
    ofRegistry_attached hd (Registry.parse_unlinked hp) hx he
  exact ⟨_, build_of_infer hp hx _, e, he, fun hl => (hnone y hy).1 (hleaves.1 hl),
    fun ht => (hnone y hy).2 (hreaches.1 ht)⟩

end Diagram

end EntityDiagram
