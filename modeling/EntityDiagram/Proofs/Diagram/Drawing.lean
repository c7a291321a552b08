import EntityDiagram.Diagram.Build
import EntityDiagram.Proofs.Diagram.Edges
import EntityDiagram.Proofs.Relation.Linking

namespace EntityDiagram

namespace Diagram

variable {r : Registry} {p : Placement} {h : Handles} {xs : List Relation}

def drawNode (h : Handles) (m : Model) (position : Position) : Node where
  model := m.name
  position := position
  fields := m.fields.map fun f => ⟨f, h.ofField m.name f.name⟩

theorem drawNodes_eq (r : Registry) (p : Placement) (h : Handles) :
    drawNodes r p h = p.entries.filterMap fun e => (r.get? e.1).map (drawNode h · e.2) :=
  rfl

theorem drawNode_mem {e : String × Position} {m : Model} (he : e ∈ p.entries)
    (hm : r.get? e.1 = some m) (h : Handles) : drawNode h m e.2 ∈ drawNodes r p h := by
  rw [drawNodes_eq]
  refine List.mem_filterMap.2 ⟨e, he, ?_⟩
  rw [hm, Option.map_some]

theorem exists_model_of_mem_drawNodes {n : Node} (hn : n ∈ drawNodes r p h) :
    ∃ m ∈ r.models, n = drawNode h m n.position := by
  rw [drawNodes_eq] at hn
  obtain ⟨e, _, he⟩ := List.mem_filterMap.1 hn
  obtain ⟨m, hm, rfl⟩ := Option.map_eq_some_iff.1 he
  exact ⟨m, (Registry.mem_of_get? hm).1, rfl⟩

theorem map_drawNodes (r : Registry) (p : Placement) (h : Handles) :
    (drawNodes r p h).map (fun n => (n.model, n.position)) =
      p.entries.filter fun e => (r.get? e.1).isSome := by
  obtain ⟨entries⟩ := p
  rw [drawNodes_eq]
  induction entries with
  | nil => rfl
  | cons e entries ih =>
    rw [List.filterMap_cons, List.filter_cons]
    cases hm : r.get? e.1 with
    | none => exact ih
    | some m =>
      have hname := (Registry.mem_of_get? hm).2
      rw [Option.map_some, Option.isSome_some, if_pos rfl, List.map_cons, ih, drawNode, hname]

theorem models_drawNodes (r : Registry) (p : Placement) (h : Handles) :
    (drawNodes r p h).map (·.model) = p.models.filter fun name => (r.get? name).isSome := by
  have hmap := congrArg (List.map Prod.fst) (map_drawNodes r p h)
  rw [List.map_map] at hmap
  rw [Placement.models, List.filter_map]
  exact hmap

theorem map_drawNodes_of_declared (hp : ∀ name ∈ p.models, ∃ m, r.get? name = some m) :
    (drawNodes r p h).map (fun n => (n.model, n.position)) = p.entries := by
  rw [map_drawNodes]
  apply List.filter_eq_self.2
  intro e he
  exact Option.isSome_iff_exists.2 (hp e.1 (List.mem_map_of_mem he))

theorem map_model_drawNodes (hp : ∀ name ∈ p.models, ∃ m, r.get? name = some m) :
    (drawNodes r p h).map (·.model) = p.models := by
  rw [models_drawNodes]
  apply List.filter_eq_self.2
  intro name hname
  exact Option.isSome_iff_exists.2 (hp name hname)

/--
The nodes of the diagram are those of the models, with all their fields, and the edges are those of
the relations, both in order and each once. Edges start and end at nodes.
-/
structure Shows (d : Diagram) (r : Registry) (models : List String) (relations : List Relation) :
    Prop where
  nodes : d.nodes.map (·.model) = models
  edges : List.Forall₂ Edge.Draws d.edges relations
  fields : ∀ n ∈ d.nodes, ∃ m ∈ r.models, n.model = m.name ∧ n.fields.map (·.field) = m.fields
  nodes_nodup : (d.nodes.map (·.model)).Nodup
  edges_nodup : (d.edges.map (·.id)).Nodup
  ends : ∀ e ∈ d.edges, e.source ∈ d.nodes.map (·.model) ∧ e.target ∈ d.nodes.map (·.model)

theorem map_id_of_draws {es : List Edge} (h : List.Forall₂ Edge.Draws es xs) :
    es.map (·.id) = xs.map (·.id) := by
  induction h with
  | nil => rfl
  | cons hd _ ih => rw [List.map_cons, List.map_cons, hd.id, ih]

theorem exists_of_forall₂ {α β : Type*} {R : α → β → Prop} {as : List α} {bs : List β}
    (h : List.Forall₂ R as bs) {a : α} (ha : a ∈ as) : ∃ b ∈ bs, R a b := by
  induction h with
  | nil => cases ha
  | cons hr _ ih =>
    rcases List.mem_cons.1 ha with rfl | ha
    · exact ⟨_, List.mem_cons_self, hr⟩
    · obtain ⟨b, hb, hab⟩ := ih ha
      exact ⟨b, List.mem_cons_of_mem _ hb, hab⟩

def inFocus (xs : List Relation) (focus : Option String) : List Relation :=
  xs.filter fun x => focus.all x.touches

theorem inFocus_none (xs : List Relation) : inFocus xs none = xs :=
  List.filter_eq_self.2 fun _ _ => rfl

theorem project_eq (r : Registry) (xs : List Relation) (p : Placement) (focus : Option String)
    (ids : Nat → String) : project r xs p focus ids =
      ⟨drawNodes r p (drawEdges p (.start ids) (inFocus xs focus)).2,
        (drawEdges p (.start ids) (inFocus xs focus)).1⟩ :=
  rfl

/-- The placement has each of its models once, only declared ones, and the ends of the relations. -/
structure Fits (p : Placement) (r : Registry) (xs : List Relation) : Prop where
  nodup : p.models.Nodup
  declared : ∀ name ∈ p.models, ∃ m, r.get? name = some m
  placed : ∀ x ∈ xs, Placed p x

theorem project_shows {focus : Option String} (hp : Fits p r (inFocus xs focus))
    (hids : (xs.map (·.id)).Nodup) (ids : Nat → String) :
    (project r xs p focus ids).Shows r p.models (inFocus xs focus) := by
  rw [project_eq]
  have hnodes := map_model_drawNodes (h := (drawEdges p (.start ids) (inFocus xs focus)).2)
    hp.declared
  have hedges := drawEdges_draws (.start ids) hp.placed
  constructor
  · exact hnodes
  · exact hedges
  · intro n hn
    obtain ⟨m, hm, he⟩ := exists_model_of_mem_drawNodes hn
    refine ⟨m, hm, ?_, ?_⟩
    · rw [he, drawNode]
    · rw [he, drawNode, List.map_map]
      exact List.map_id _
  · rw [hnodes]
    exact hp.nodup
  · rw [map_id_of_draws hedges]
    exact (List.filter_sublist.map _).nodup hids
  · intro e he
    rw [hnodes]
    obtain ⟨x, hx, hex⟩ := exists_of_forall₂ hedges he
    rw [hex.source, hex.target]
    exact hp.placed x hx

end Diagram

namespace Registry

variable {r : Registry} {m : Model} {root : Option String}

theorem exists_get? {name : String} (h : name ∈ r.models.map (·.name)) :
    ∃ m, r.get? name = some m := by
  obtain ⟨m, hm, rfl⟩ := List.mem_map.1 h
  exact Option.isSome_iff_exists.1 (List.find?_isSome.2 ⟨m, hm, decide_eq_true rfl⟩)

/-- The model is the one that is asked for, if that is declared, and else the first one. -/
def IsRoot (r : Registry) (root : Option String) (m : Model) : Prop :=
  (∃ name, root = some name ∧ r.get? name = some m) ∨
    (∀ name, root = some name → r.get? name = none) ∧ r.models.head? = some m

theorem resolveRoot_eq_some_iff : r.resolveRoot root = some m ↔ r.IsRoot root m := by
  rw [resolveRoot, IsRoot, Option.or_eq_some_iff, Option.bind_eq_some_iff, Option.bind_eq_none_iff]

theorem mem_of_isRoot (h : r.IsRoot root m) : m ∈ r.models := by
  rcases h with ⟨_, _, hg⟩ | ⟨_, hh⟩
  · exact (mem_of_get? hg).1
  · exact List.mem_of_mem_head? hh

theorem exists_isRoot (h : r.models ≠ []) (root : Option String) : ∃ m, r.IsRoot root m := by
  cases hm : r.resolveRoot root with
  | none =>
    rw [resolveRoot, Option.or_eq_none_iff, List.head?_eq_none_iff] at hm
    exact absurd hm.2 h
  | some m => exact ⟨m, resolveRoot_eq_some_iff.1 hm⟩

end Registry

namespace Options

variable {r : Registry} {m : Model} {o : Options}

theorem layout_forces (ho : o.strategy = .forces) (hn : (r.models.map (·.name)).Nodup)
    (xs : List Relation) :
    (o.layout r xs).models = r.models.map (·.name) ∧ o.focus r = none := by
  simp only [layout, focus, ho, and_true]
  exact o.forces.models_layout hn xs

theorem layout_ring (ho : o.strategy = .ring) (hm : r.IsRoot o.root m) (xs : List Relation) :
    o.layout r xs = o.ring.around m.name xs ∧ o.focus r = some m.name := by
  have hroot := Registry.resolveRoot_eq_some_iff.2 hm
  simp only [layout, focus, RingOptions.layout, ho, hroot, Option.map_some, and_self]

theorem layout_ring_of_nil (ho : o.strategy = .ring) (hr : r.models = []) (xs : List Relation) :
    o.layout r xs = .empty ∧ o.focus r = none := by
  have hroot : r.resolveRoot o.root = none := by
    cases o.root <;> simp [Registry.resolveRoot, Registry.get?, hr]
  simp only [layout, focus, RingOptions.layout, ho, hroot, Option.map_none, and_self]

end Options

namespace Diagram

variable {text : String} {p r : Registry} {xs : List Relation} {m : Model} {o : Options}

theorem models_eq_nil_iff (hx : p.infer = .ok (xs, r)) : r.models = [] ↔ p.models = [] := by
  rw [← List.map_eq_nil_iff (f := (·.name)), Registry.names_of_infer hx, List.map_eq_nil_iff]

theorem relations_eq_nil (hd : p.Declared) (hx : p.infer = .ok (xs, r)) (hp : p.models = []) :
    xs = [] := by
  apply List.eq_nil_iff_forall_not_mem.2
  intro x hxm
  have hs := (hd.names_of_mem hx hxm).1
  rw [hp] at hs
  cases hs

theorem around_fits (hd : p.Declared) (hx : p.infer = .ok (xs, r)) (hm : m ∈ r.models)
    (o : RingOptions) : Fits (o.around m.name xs) r (inFocus xs (some m.name)) where
  nodup := by
    have hroot : m.name ∉ (partners m.name xs).filter (· ≠ m.name) := by simp
    rw [o.models_around, ← List.concat_eq_append]
    exact ((partners_nodup _ _).filter _).concat hroot
  declared := by
    intro name hn
    apply Registry.exists_get?
    rw [o.models_around, List.mem_append, List.mem_singleton] at hn
    rcases hn with hn | rfl
    · obtain ⟨x, hxm, hb⟩ := mem_partners.1 (List.mem_filter.1 hn).1
      exact hd.names_of_isBetween hx hxm hb
    · exact List.mem_map_of_mem hm
  placed := by
    intro x hxm
    obtain ⟨hxm, ht⟩ := List.mem_filter.1 hxm
    have hplaced := o.mem_models_around hxm ht
    rwa [Registry.between_of_mem hx hxm] at hplaced

theorem layout_fits (hd : p.Declared) (hx : p.infer = .ok (xs, r)) (o : Options) :
    Fits (o.layout r xs) r (inFocus xs (o.focus r)) := by
  have hnames := Registry.names_of_infer hx
  cases ho : o.strategy with
  | forces =>
    obtain ⟨hlayout, hfocus⟩ := Options.layout_forces ho (hnames ▸ hd.nodup) xs
    constructor
    · rw [hlayout, hnames]
      exact hd.nodup
    · intro name hn
      apply Registry.exists_get?
      rwa [← hlayout]
    · intro x hxm
      rw [Placed, hlayout, hnames]
      exact hd.names_of_mem hx (List.mem_of_mem_filter hxm)
  | ring =>
    by_cases hr : r.models = []
    · obtain ⟨hlayout, hfocus⟩ := Options.layout_ring_of_nil ho hr xs
      rw [hlayout, hfocus, relations_eq_nil hd hx ((models_eq_nil_iff hx).1 hr)]
      exact ⟨List.nodup_nil, nofun, nofun⟩
    · obtain ⟨m, hm⟩ := Registry.exists_isRoot hr o.root
      obtain ⟨hlayout, hfocus⟩ := Options.layout_ring ho hm xs
      rw [hlayout, hfocus]
      exact around_fits hd hx (Registry.mem_of_isRoot hm) o.ring

/-- A diagram shows the models that are placed, and all relations that are in focus. -/
theorem ofRegistry_shows (hd : p.Declared) (hx : p.infer = .ok (xs, r)) (o : Options) :
    (ofRegistry r xs o).Shows r (o.layout r xs).models (inFocus xs (o.focus r)) :=
  project_shows (layout_fits hd hx o) (Registry.ids_nodup hx) _

theorem ofRegistry_root_position (hd : p.Declared) (hx : p.infer = .ok (xs, r))
    (ho : o.strategy = .ring) (hm : r.IsRoot o.root m) :
    (ofRegistry r xs o).nodes.getLast?.map (·.position) = some .origin := by
  obtain ⟨ring, hentries, _⟩ := o.ring.entries_around m.name xs
  have hdrawn := map_drawNodes_of_declared
    (h := (drawEdges (o.ring.around m.name xs) (.start (countedIds "h"))
      (inFocus xs (some m.name))).2)
    (around_fits hd hx (Registry.mem_of_isRoot hm) o.ring).declared
  obtain ⟨hlayout, hfocus⟩ := Options.layout_ring ho hm xs
  have hlast := congrArg (fun l => l.getLast?.map (·.2)) (hdrawn.trans hentries)
  simp only [List.getLast?_map, List.getLast?_concat, Option.map_map, Option.map_some] at hlast
  rw [ofRegistry, project_eq, hlayout, hfocus]
  exact hlast

theorem build_eq_ok_iff {d : Diagram} : build text o = .ok d ↔
    ∃ p xs r, Registry.parse text = .ok p ∧ p.infer = .ok (xs, r) ∧ d = ofRegistry r xs o := by
  rw [build]
  cases Registry.parse text with
  | error e => simp
  | ok p =>
    cases hx : p.infer with
    | error e => simp [hx]
    | ok q =>
      obtain ⟨xs, r⟩ := q
      simp [hx, and_assoc, eq_comm]

theorem build_of_infer (hp : Registry.parse text = .ok p) (hx : p.infer = .ok (xs, r))
    (o : Options) : build text o = .ok (ofRegistry r xs o) :=
  build_eq_ok_iff.2 ⟨p, xs, r, hp, hx, rfl⟩

theorem build_fails_iff : (∃ e, build text o = .error e) ↔
    (∃ e, Registry.parse text = .error e) ∨
      ∃ p e, Registry.parse text = .ok p ∧ p.infer = .error e := by
  cases hp : Registry.parse text with
  | error e => simp [build, hp]
  | ok p =>
    cases hx : p.infer with
    | error e => simp [build, hp, hx]
    | ok q => simp [build, hp, hx]

/--
A text has a diagram exactly when it has a registry and this has relations. A diagram by forces
shows all models and all relations. A diagram on a ring shows the models that its root is related
to, the root itself behind them and at the origin, and the relations of the root.
-/
theorem build_shows (text : String) (o : Options) :
    ((∃ e, build text o = .error e) ↔
      (∃ e, Registry.parse text = .error e) ∨
        ∃ p e, Registry.parse text = .ok p ∧ p.infer = .error e) ∧
    ∀ p xs r, Registry.parse text = .ok p → p.infer = .ok (xs, r) →
      ∃ d, build text o = .ok d ∧
        (o.strategy = .forces → d.Shows r (p.models.map (·.name)) xs) ∧
        (o.strategy = .ring → p.models = [] → d.Shows r [] []) ∧
        (o.strategy = .ring → p.models ≠ [] → ∃ m, r.IsRoot o.root m ∧
          d.Shows r (m.relatedTo.filter (· ≠ m.name) ++ [m.name])
            (xs.filter (·.touches m.name)) ∧
          d.nodes.getLast?.map (·.position) = some .origin) := by
  refine ⟨build_fails_iff, ?_⟩
  intro p xs r hp hx
  have hd := (Registry.parse_declared hp).1
  have hshows := ofRegistry_shows hd hx o
  refine ⟨_, build_of_infer hp hx o, ?_, ?_, ?_⟩
  · intro ho
    have hnames := Registry.names_of_infer hx
    obtain ⟨hlayout, hfocus⟩ := Options.layout_forces ho (hnames ▸ hd.nodup) xs
    rwa [hlayout, hfocus, inFocus_none, hnames] at hshows
  · intro ho hnil
    obtain ⟨hlayout, hfocus⟩ := Options.layout_ring_of_nil ho ((models_eq_nil_iff hx).2 hnil) xs
    have hxs := relations_eq_nil hd hx hnil
    subst hxs
    rwa [hlayout, hfocus] at hshows
  · intro ho hne
    obtain ⟨m, hm⟩ := Registry.exists_isRoot (fun hr => hne ((models_eq_nil_iff hx).1 hr)) o.root
    obtain ⟨hlayout, hfocus⟩ := Options.layout_ring ho hm xs
    have hrelated := (Registry.mirrors_of_infer (Registry.parse_unlinked hp) hx m
      (Registry.mem_of_isRoot hm)).relatedTo
    rw [hlayout, hfocus, o.ring.models_around, ← hrelated] at hshows
    exact ⟨m, hm, hshows, ofRegistry_root_position hd hx ho hm⟩

set_option maxRecDepth 10000 in
theorem build_shows_blog : ∃ d,
    build Registry.blogText { strategy := .ring, root := some "Post" } = .ok d ∧
      d.nodes.map (·.model) = ["User", "Tag", "Post"] ∧ d.edges.length = 2 ∧
      d.nodes.getLast?.map (·.position) = some .origin := by
  obtain ⟨p, xs, r, hp, hx, h⟩ := Registry.exists_of_check Registry.blogText (fun p xs =>
    p.models ≠ [] ∧ ∃ m ∈ (xs.foldl Registry.attach p).get? "Post", m.name = "Post" ∧
      m.relatedTo = ["User", "Tag"] ∧ (xs.filter (·.touches "Post")).length = 2) rfl
    (by decide +kernel)
  obtain ⟨hne, m, hm, hname, hrelated, hlength⟩ := of_decide_eq_true h
  rw [← (Registry.infer_eq_ok_iff.1 hx).2] at hm
  obtain ⟨d, hd, _, _, hring⟩ := (build_shows Registry.blogText
    { strategy := .ring, root := some "Post" }).2 p xs r hp hx
  obtain ⟨n, hn, hshows, hlast⟩ := hring rfl hne
  have hmn : m = n := by
    rcases hn with ⟨name, ⟨⟩, hn⟩ | ⟨hnone, _⟩
    · exact Option.some.inj (hm.symm.trans hn)
    · cases (hnone _ rfl).symm.trans hm
  subst hmn
  refine ⟨d, hd, ?_, ?_, hlast⟩
  · rw [hshows.nodes, hrelated, hname]
    rfl
  · rw [hshows.edges.length_eq, hname, hlength]

end Diagram

end EntityDiagram
