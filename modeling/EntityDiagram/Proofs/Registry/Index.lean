import Mathlib.Data.Finmap
import EntityDiagram.Proofs.Registry.Declaration

namespace EntityDiagram

/-- Where in a list the model of a name stands. -/
abbrev NameIndex := Finmap fun _ : String => Nat

namespace NameIndex

/-- The names with their places, put in one after the other. -/
def ofNames (names : List String) : NameIndex :=
  names.zipIdx.foldl (fun index p => index.insert p.1 p.2) ∅

def ofModels (ms : List Model) : NameIndex :=
  ms.zipIdx.foldl (fun index p => index.insert p.1.name p.2) ∅

/-- The index leads from each of the names to its place, and from no other name. -/
def Places (index : NameIndex) (names : List String) : Prop :=
  ∀ name i, index.lookup name = some i ↔ names[i]? = some name

variable {index index' : NameIndex} {names : List String} {name : String}

theorem places_empty : Places ∅ [] := by
  intro name i
  rw [Finmap.lookup_empty, List.getElem?_nil]
  simp only [reduceCtorEq]

theorem Places.concat (h : index.Places names) (hn : name ∉ names) :
    Places (index.insert name names.length) (names ++ [name]) := by
  intro key i
  by_cases hk : key = name
  · subst hk
    rw [Finmap.lookup_insert, Option.some.injEq]
    constructor
    · rintro rfl
      exact List.getElem?_concat_length
    · intro hi
      obtain ⟨hlt, _⟩ := List.getElem?_eq_some_iff.1 hi
      rw [List.length_append, List.length_singleton] at hlt
      by_contra hne
      rw [List.getElem?_append_left (by omega)] at hi
      exact hn (List.mem_of_getElem? hi)
  · rw [Finmap.lookup_insert_of_ne _ hk, h]
    constructor
    · intro hi
      obtain ⟨hlt, _⟩ := List.getElem?_eq_some_iff.1 hi
      rwa [List.getElem?_append_left hlt]
    · intro hi
      rw [List.getElem?_append] at hi
      split at hi
      · exact hi
      · exact (hk (List.mem_singleton.1 (List.mem_of_getElem? hi))).elim

/-- A name has only one place in the index, so it cannot have two in the list. -/
theorem Places.nodup (h : index.Places names) : names.Nodup := by
  apply List.nodup_iff_getElem?_ne_getElem?.2
  intro i j hij hj he
  rw [List.getElem?_eq_getElem hj] at he
  have hi := (h _ i).2 he
  rw [(h _ j).2 (List.getElem?_eq_getElem hj)] at hi
  exact hij.ne' (Option.some.inj hi)

theorem Places.unique (h : index.Places names) (h' : index'.Places names) : index = index' := by
  apply Finmap.ext_lookup
  intro name
  apply Option.ext
  intro i
  rw [h, h']

theorem ofNames_concat (names : List String) (name : String) :
    ofNames (names ++ [name]) = (ofNames names).insert name names.length := by
  rw [ofNames, List.zipIdx_append, List.foldl_append, Nat.zero_add]
  rfl

theorem places_ofNames (hn : names.Nodup) : (ofNames names).Places names := by
  induction names using List.reverseRecOn with
  | nil => exact places_empty
  | append_singleton names name ih =>
    obtain ⟨hnames, _, hdisjoint⟩ := List.nodup_append.1 hn
    have hname : name ∉ names := fun hm => hdisjoint _ hm _ List.mem_cons_self rfl
    rw [ofNames_concat]
    exact (ih hnames).concat hname

theorem ofModels_eq_ofNames (ms : List Model) : ofModels ms = ofNames (ms.map (·.name)) := by
  rw [ofModels, ofNames, List.zipIdx_map, List.foldl_map]
  rfl

theorem places_ofModels {ms : List Model} (hn : (ms.map (·.name)).Nodup) :
    (ofModels ms).Places (ms.map (·.name)) := by
  rw [ofModels_eq_ofNames]
  exact places_ofNames hn

end NameIndex

namespace Registry

structure Indexed extends Registry where
  index : NameIndex

namespace Indexed

def empty : Indexed := { Registry.empty with index := ∅ }

def get? (s : Indexed) (name : String) : Option Model :=
  (s.index.lookup name).bind fun i => s.models[i]?

def contains (s : Indexed) (name : String) : Bool := (s.index.lookup name).isSome

/-- Puts a model behind the others, unless the index has its name. -/
def insert (s : Indexed) (m : Model) : Except SchemaError Indexed :=
  if s.contains m.name then .error (.duplicateModel m.name)
  else .ok { s with
    models := s.models ++ [m]
    index := s.index.insert m.name s.models.length }

/-- The registry with one more block; only a model changes the index. -/
def add (s : Indexed) : Block → Except SchemaError Indexed
  | .model d =>
    match firstRepeat? [] (d.fieldDecls.map (·.name)) with
    | some field => .error (.duplicateField d.name field)
    | none => s.insert (.ofDecl d)
  | .source d =>
    .ok { s with
      provider := (d.entry? "provider").bind Expr.asText?
      relationMode := (d.entry? "relationMode").bind Expr.asText? }
  | .other _ _ => .ok s

def ofDocument (d : Document) : Except SchemaError Indexed := d.blocks.foldlM add empty

/-- The same models in the opposite order, with an index of their new places. -/
def reversed (s : Indexed) : Indexed :=
  { s with models := s.models.reverse, index := .ofModels s.models.reverse }

/-- The index says where the models are. -/
def Consistent (s : Indexed) : Prop := s.index.Places (s.models.map (·.name))

variable {s t : Indexed} {name : String} {m : Model} {i : Nat}

theorem Consistent.nodup (h : s.Consistent) : (s.models.map (·.name)).Nodup :=
  NameIndex.Places.nodup h

theorem Consistent.eq_of_toRegistry (hs : s.Consistent) (ht : t.Consistent)
    (h : s.toRegistry = t.toRegistry) : s = t := by
  obtain ⟨r, index⟩ := s
  obtain ⟨r', index'⟩ := t
  cases h
  have hindex : index = index' := NameIndex.Places.unique hs ht
  rw [hindex]

theorem Consistent.lookup_eq_some_iff (h : s.Consistent) :
    s.index.lookup name = some i ↔ ∃ m, s.models[i]? = some m ∧ m.name = name := by
  rw [h name i, List.getElem?_map, Option.map_eq_some_iff]

theorem Consistent.get?_eq_some_iff (h : s.Consistent) :
    s.get? name = some m ↔ m ∈ s.models ∧ m.name = name := by
  rw [get?, Option.bind_eq_some_iff]
  constructor
  · rintro ⟨i, hi, hm⟩
    obtain ⟨n, hn, hname⟩ := h.lookup_eq_some_iff.1 hi
    cases hn.symm.trans hm
    exact ⟨List.mem_of_getElem? hm, hname⟩
  · rintro ⟨hm, hname⟩
    obtain ⟨i, hi⟩ := List.mem_iff_getElem?.1 hm
    exact ⟨i, h.lookup_eq_some_iff.2 ⟨m, hi, hname⟩, hi⟩

theorem Consistent.contains_iff (h : s.Consistent) :
    s.contains name = true ↔ ∃ m ∈ s.models, m.name = name := by
  rw [contains, Option.isSome_iff_exists]
  simp only [h.lookup_eq_some_iff, List.mem_iff_getElem?]
  constructor
  · rintro ⟨i, m, hi, hname⟩
    exact ⟨m, ⟨i, hi⟩, hname⟩
  · rintro ⟨m, ⟨i, hi⟩, hname⟩
    exact ⟨i, m, hi, hname⟩

theorem Consistent.get?_toRegistry (h : s.Consistent) (name : String) :
    s.toRegistry.get? name = s.get? name := by
  apply Option.ext
  intro m
  rw [h.get?_eq_some_iff, Registry.get?_eq_some_iff h.nodup]

theorem Consistent.contains_toRegistry (h : s.Consistent) (name : String) :
    s.toRegistry.contains name = s.contains name := by
  rw [Bool.eq_iff_iff, h.contains_iff, Registry.contains, List.any_eq_true]
  simp only [decide_eq_true_eq]

theorem empty_consistent : empty.Consistent := NameIndex.places_empty

theorem Consistent.insert (h : s.Consistent) (hi : s.insert m = .ok t) : t.Consistent := by
  rw [Indexed.insert] at hi
  split at hi
  · cases hi
  · next hc =>
    cases hi
    have hm : m.name ∉ s.models.map (·.name) :=
      fun hmem => hc (h.contains_iff.2 (List.mem_map.1 hmem))
    have hp := NameIndex.Places.concat h hm
    rwa [List.length_map, ← List.map_singleton (f := Model.name), ← List.map_append] at hp

theorem Consistent.add (h : s.Consistent) {b : Block} (ha : s.add b = .ok t) : t.Consistent := by
  cases b with
  | model d =>
    simp only [Indexed.add] at ha
    split at ha
    · cases ha
    · exact h.insert ha
  | source d =>
    cases ha
    exact h
  | other keyword name =>
    cases ha
    exact h

theorem Consistent.toRegistry_insert (h : s.Consistent) (m : Model) :
    (s.insert m).map toRegistry =
      if s.toRegistry.contains m.name then .error (.duplicateModel m.name)
      else .ok { s.toRegistry with models := s.models ++ [m] } := by
  rw [h.contains_toRegistry, Indexed.insert]
  split <;> rfl

theorem Consistent.toRegistry_add (h : s.Consistent) (b : Block) :
    (s.add b).map toRegistry = s.toRegistry.add b := by
  cases b with
  | model d =>
    rw [Indexed.add, Registry.add]
    cases firstRepeat? [] (d.fieldDecls.map (·.name)) with
    | some field => rfl
    | none => exact h.toRegistry_insert (.ofDecl d)
  | source d => rfl
  | other keyword name => rfl

theorem Consistent.foldlM_add (h : s.Consistent) (bs : List Block) :
    (∀ t, bs.foldlM Indexed.add s = .ok t → t.Consistent) ∧
      (bs.foldlM Indexed.add s).map toRegistry = bs.foldlM Registry.add s.toRegistry := by
  induction bs generalizing s with
  | nil =>
    refine ⟨?_, rfl⟩
    intro t ht
    cases ht
    exact h
  | cons b bs ih =>
    rw [List.foldlM_cons, List.foldlM_cons, ← h.toRegistry_add]
    cases hs : s.add b with
    | error e => exact ⟨nofun, rfl⟩
    | ok u => exact ih (h.add hs)

theorem consistent_of_ofDocument {d : Document} (h : ofDocument d = .ok s) : s.Consistent :=
  (empty_consistent.foldlM_add d.blocks).1 s h

/-- Both registries accept the same documents, and refuse others for the same reason. -/
theorem toRegistry_ofDocument (d : Document) :
    (ofDocument d).map toRegistry = Registry.ofDocument d :=
  (empty_consistent.foldlM_add d.blocks).2

theorem Consistent.reversed (h : s.Consistent) : s.reversed.Consistent := by
  apply NameIndex.places_ofModels
  rw [List.map_reverse]
  exact List.nodup_reverse.2 h.nodup

theorem Consistent.reversed_reversed (h : s.Consistent) : s.reversed.reversed = s :=
  h.reversed.reversed.eq_of_toRegistry h (Registry.reversed_reversed s.toRegistry)

end Indexed

end Registry

end EntityDiagram
