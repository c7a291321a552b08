import EntityDiagram.Proofs.Registry.Index
import EntityDiagram.Proofs.Relation.Stability

namespace EntityDiagram

namespace Registry

namespace Indexed

/-- Links the model in the place that the index has for the name, if it has one. -/
def link (s : Indexed) (name other id : String) : Indexed :=
  match s.index.lookup name with
  | some i => { s with models := s.models.modify i (·.link other id) }
  | none => s

def attach (s : Indexed) (x : Relation) : Indexed :=
  let linked := s.link x.between.1 x.between.2 x.id
  if x.isSelf then linked else linked.link x.between.2 x.between.1 x.id

/-- The relation that a field stands for; the index tells if its type is a model. -/
def relationOf (s : Indexed) (m : Model) (f : Field) : Except RelationError (Option Relation) :=
  if f.type.name = m.name then (selfRelation m f).map some
  else .ok ((s.get? f.type.name).bind (crossRelation m f))

def relations (s : Indexed) : Except RelationError (List Relation) :=
  (s.allFields.mapM fun p => s.relationOf p.1 p.2).map fun found =>
    firstOfEachId [] found.reduceOption

def infer (s : Indexed) : Except RelationError (List Relation × Indexed) :=
  s.relations.map fun xs => (xs, xs.foldl attach s)

def step (s : Indexed) : Step → Indexed
  | .reverse => s.reversed
  | .infer =>
    match s.infer with
    | .ok (_, t) => t
    | .error _ => s

def run (s : Indexed) (steps : List Step) : Indexed := steps.foldl step s

variable {s t : Indexed} {xs : List Relation}

/-- Changing the model in the place of a name is changing every model of that name. -/
theorem Consistent.modify_eq_map (h : s.Consistent) {name : String} {i : Nat}
    (hi : s.index.lookup name = some i) (f : Model → Model) :
    s.models.modify i f = s.models.map fun m => if m.name = name then f m else m := by
  apply List.ext_getElem?
  intro j
  rw [List.getElem?_modify, List.getElem?_map]
  cases hj : s.models[j]? with
  | none => rfl
  | some m =>
    have hij : i = j ↔ m.name = name := by
      constructor
      · rintro rfl
        obtain ⟨n, hn, hname⟩ := h.lookup_eq_some_iff.1 hi
        cases hn.symm.trans hj
        exact hname
      · intro hname
        exact Option.some.inj (hi.symm.trans (h.lookup_eq_some_iff.2 ⟨m, hj, hname⟩))
    simp only [Option.map_eq_map, Option.map_some, hij]

theorem Consistent.name_ne_of_lookup (h : s.Consistent) {name : String}
    (hi : s.index.lookup name = none) : ∀ m ∈ s.models, m.name ≠ name := by
  intro m hm hname
  have hc := h.contains_iff.2 ⟨m, hm, hname⟩
  rw [contains, hi] at hc
  cases hc

theorem Consistent.toRegistry_link (h : s.Consistent) (name other id : String) :
    (s.link name other id).toRegistry = s.toRegistry.link name other id := by
  rw [link, Registry.link]
  cases hi : s.index.lookup name with
  | none =>
    have hmap : (s.models.map fun m => if m.name = name then m.link other id else m) = s.models :=
      (List.map_congr_left fun m hm => if_neg (h.name_ne_of_lookup hi m hm)).trans (List.map_id _)
    rw [hmap]
  | some i =>
    rw [← h.modify_eq_map hi fun m => m.link other id]

theorem link_index (s : Indexed) (name other id : String) :
    (s.link name other id).index = s.index := by
  rw [link]
  split <;> rfl

theorem Consistent.link (h : s.Consistent) (name other id : String) :
    (s.link name other id).Consistent := by
  have hnames : (s.toRegistry.link name other id).models.map (·.name) = s.models.map (·.name) := by
    rw [Registry.link, List.map_map]
    apply List.map_congr_left
    intro m _
    rw [Function.comp_apply]
    split <;> rfl
  rw [Consistent, h.toRegistry_link, hnames, link_index]
  exact h

theorem Consistent.toRegistry_attach (h : s.Consistent) (x : Relation) :
    (s.attach x).toRegistry = s.toRegistry.attach x := by
  have hlink := h.link x.between.1 x.between.2 x.id
  rw [attach, Registry.attach]
  split
  · exact h.toRegistry_link _ _ _
  · rw [hlink.toRegistry_link, h.toRegistry_link]

theorem Consistent.attach (h : s.Consistent) (x : Relation) : (s.attach x).Consistent := by
  have hlink := h.link x.between.1 x.between.2 x.id
  rw [Indexed.attach]
  split
  · exact hlink
  · exact hlink.link _ _ _

theorem Consistent.foldl_attach (h : s.Consistent) (xs : List Relation) :
    (xs.foldl Indexed.attach s).Consistent ∧
      (xs.foldl Indexed.attach s).toRegistry = xs.foldl Registry.attach s.toRegistry := by
  induction xs generalizing s with
  | nil => exact ⟨h, rfl⟩
  | cons x xs ih =>
    rw [List.foldl_cons, List.foldl_cons, ← h.toRegistry_attach]
    exact ih (h.attach x)

theorem Consistent.relationOf_toRegistry (h : s.Consistent) (m : Model) (f : Field) :
    s.toRegistry.relationOf m f = s.relationOf m f := by
  rw [Registry.relationOf, h.get?_toRegistry, relationOf]

theorem Consistent.relationsOf_toRegistry (h : s.Consistent) (ps : List (Model × Field)) :
    s.toRegistry.relationsOf ps =
      (ps.mapM fun p => s.relationOf p.1 p.2).map List.reduceOption := by
  induction ps with
  | nil => rfl
  | cons p ps ih =>
    rw [relationsOf, h.relationOf_toRegistry, ih, List.mapM_cons]
    cases s.relationOf p.1 p.2 with
    | error e => rfl
    | ok found =>
      cases ps.mapM fun p => s.relationOf p.1 p.2 with
      | error e => rfl
      | ok founds => cases found <;> rfl

theorem Consistent.relations_toRegistry (h : s.Consistent) :
    s.toRegistry.relations = s.relations := by
  rw [Registry.relations, h.relationsOf_toRegistry, relations]
  cases s.allFields.mapM fun p => s.relationOf p.1 p.2 <;> rfl

theorem Consistent.step_infer (h : s.Consistent) :
    (s.step .infer).Consistent ∧ (s.step .infer).toRegistry = s.toRegistry.step .infer := by
  rw [step, infer, Registry.step, Registry.infer, h.relations_toRegistry]
  cases s.relations with
  | error e => exact ⟨h, rfl⟩
  | ok xs => exact h.foldl_attach xs

theorem Consistent.step (h : s.Consistent) (a : Step) :
    (s.step a).Consistent ∧ (s.step a).toRegistry = s.toRegistry.step a := by
  cases a with
  | reverse => exact ⟨h.reversed, rfl⟩
  | infer => exact h.step_infer

theorem Consistent.run (h : s.Consistent) (steps : List Step) :
    (s.run steps).Consistent ∧ (s.run steps).toRegistry = s.toRegistry.run steps := by
  induction steps generalizing s with
  | nil => exact ⟨h, rfl⟩
  | cons a steps ih =>
    obtain ⟨hs, hr⟩ := h.step a
    rw [Registry.run, List.foldl_cons, ← hr]
    exact ih hs

def IsInitial (s : Indexed) : Prop := s = empty ∨ ∃ d, ofDocument d = .ok s

theorem IsInitial.consistent (h : s.IsInitial) : s.Consistent := by
  rcases h with rfl | ⟨d, hd⟩
  · exact empty_consistent
  · exact consistent_of_ofDocument hd

/-- What is reached by looking through the list is reached with an index too. -/
theorem exists_run_eq {r : Registry} (h : r = Registry.empty ∨ ∃ d, Registry.ofDocument d = .ok r)
    (steps : List Step) : ∃ s : Indexed, s.IsInitial ∧ (s.run steps).toRegistry = r.run steps := by
  obtain ⟨s, hs, rfl⟩ : ∃ s : Indexed, s.IsInitial ∧ s.toRegistry = r := by
    rcases h with rfl | ⟨d, hd⟩
    · exact ⟨empty, .inl rfl, rfl⟩
    · rw [← toRegistry_ofDocument] at hd
      cases hs : ofDocument d with
      | error e =>
        rw [hs] at hd
        cases hd
      | ok s =>
        rw [hs] at hd
        cases hd
        exact ⟨s, .inr ⟨d, hs⟩, rfl⟩
  exact ⟨s, hs, (hs.consistent.run steps).2⟩

/--
From the empty registry or that of a document, and after any reversals and inferences, successful
or not: the models have distinct names, the index leads from each name to the place of its model
and from no other name, and looking up gives the one model of the name. In the opposite order the
same models are reversed, and reversing twice gives the registry back with its index. Without its
index it is what the same steps make of the registry that looks through the list instead, and what
is looked up is the same.
-/
theorem run_lookup {s₀ : Indexed} (h₀ : s₀.IsInitial) (steps : List Step) {s : Indexed}
    (hs : s = s₀.run steps) :
    (s.models.map (·.name)).Nodup ∧
    (∀ name m, s.get? name = some m ↔ m ∈ s.models ∧ m.name = name) ∧
    (∀ name, s.contains name = true ↔ ∃ m ∈ s.models, m.name = name) ∧
    (∀ name i, s.index.lookup name = some i ↔ ∃ m, s.models[i]? = some m ∧ m.name = name) ∧
    s.reversed.models = s.models.reverse ∧
    s.reversed.reversed = s ∧
    s.toRegistry = s₀.toRegistry.run steps ∧
    ∀ name, s.toRegistry.get? name = s.get? name ∧
      s.toRegistry.contains name = s.contains name := by
  obtain ⟨h, hr⟩ := h₀.consistent.run steps
  rw [← hs] at h hr
  exact ⟨h.nodup, fun _ _ => h.get?_eq_some_iff, fun _ => h.contains_iff,
    fun _ _ => h.lookup_eq_some_iff, rfl, h.reversed_reversed, hr,
    fun name => ⟨h.get?_toRegistry name, h.contains_toRegistry name⟩⟩

def writtenBy : Attribute :=
  ⟨.field, "relation", some [⟨some "fields", .array [.ident "authorId"]⟩,
    ⟨some "references", .array [.ident "id"]⟩]⟩

def library : Document :=
  ⟨[.model ⟨"Author", 1, [.field ⟨"books", ⟨"Book", .list⟩, [], 2⟩]⟩,
    .model ⟨"Book", 3, [.field ⟨"author", ⟨"Author", .required⟩, [writtenBy], 4⟩]⟩]⟩

theorem run_lookup_library : ∃ s₀ s : Indexed,
    s₀.IsInitial ∧ s = s₀.run [.infer, .reverse, .infer] ∧
    s.index.lookup "Author" = some 1 ∧
    (∃ m, s.get? "Author" = some m ∧ m.relatedTo = ["Book"]) ∧ s.contains "Author" = true ∧
    s.reversed.reversed = s := by
  obtain ⟨s₀, h₀⟩ : ∃ s₀, ofDocument library = .ok s₀ := ⟨_, rfl⟩
  obtain ⟨_, hget, hcontains, hindex, _, hrev, hrun, _⟩ :=
    run_lookup (.inr ⟨library, h₀⟩) [.infer, .reverse, .infer] rfl
  obtain ⟨m, hm, hname, hto⟩ : ∃ m, (s₀.run [.infer, .reverse, .infer]).models[1]? = some m ∧
      m.name = "Author" ∧ m.relatedTo = ["Book"] := by
    rw [hrun]
    cases h₀
    exact ⟨_, rfl, rfl, rfl⟩
  have hmem := List.mem_of_getElem? hm
  exact ⟨s₀, _, .inr ⟨library, h₀⟩, rfl, (hindex _ 1).2 ⟨m, hm, hname⟩,
    ⟨m, (hget _ m).2 ⟨hmem, hname⟩, hto⟩, (hcontains _).2 ⟨m, hmem, hname⟩, hrev⟩

end Indexed

end Registry

end EntityDiagram
