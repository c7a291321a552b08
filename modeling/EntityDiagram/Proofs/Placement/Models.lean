import EntityDiagram.Placement.Forces
import EntityDiagram.Proofs.Relation.Partner

namespace EntityDiagram

namespace Placement

variable {p : Placement} {entries : List (String × Position)} {model : String}
  {position : Position}

theorem insertEntry_of_notMem (h : model ∉ entries.map (·.1)) :
    insertEntry model position entries = entries ++ [(model, position)] := by
  induction entries with
  | nil => rfl
  | cons e entries ih =>
    obtain ⟨name, old⟩ := e
    rw [List.map_cons, List.mem_cons, not_or] at h
    rw [insertEntry, if_neg (Ne.symm h.1), ih h.2]
    rfl

theorem entries_insert (h : model ∉ p.models) :
    (p.insert model position).entries = p.entries ++ [(model, position)] :=
  insertEntry_of_notMem h

theorem entries_ofList (h : (entries.map (·.1)).Nodup) : (ofList entries).entries = entries := by
  induction entries using List.reverseRecOn with
  | nil => rfl
  | append_singleton entries e ih =>
    rw [List.map_append, List.map_singleton] at h
    obtain ⟨hold, _, hne⟩ := List.nodup_append.1 h
    have hentries := ih hold
    have hnew : e.1 ∉ (ofList entries).models := by
      rw [models, hentries]
      exact fun hm => hne _ hm _ List.mem_cons_self rfl
    have hlast : ofList (entries ++ [e]) = (ofList entries).insert e.1 e.2 := by
      rw [ofList, List.foldl_append]
      rfl
    rw [hlast, entries_insert hnew, hentries]

theorem keys_insertEntry (model : String) (position : Position)
    (entries : List (String × Position)) :
    (insertEntry model position entries).map (·.1) =
      if model ∈ entries.map (·.1) then entries.map (·.1) else entries.map (·.1) ++ [model] := by
  induction entries with
  | nil => rfl
  | cons e entries ih =>
    obtain ⟨name, old⟩ := e
    rw [insertEntry]
    by_cases h : name = model
    · simp [h]
    · simp only [h, ↓reduceIte, List.map_cons, ih, List.mem_cons, Ne.symm h, false_or]
      split <;> rfl

theorem models_ofList_nodup (entries : List (String × Position)) :
    (ofList entries).models.Nodup := by
  induction entries using List.reverseRecOn with
  | nil => exact List.nodup_nil
  | append_singleton entries e ih =>
    rw [models] at ih
    rw [ofList, List.foldl_append, ← ofList, models, List.foldl_cons, List.foldl_nil, insert,
      keys_insertEntry]
    split
    · exact ih
    · next hnew =>
      rw [← List.concat_eq_append]
      exact ih.concat hnew

theorem contains_iff : p.contains model = true ↔ model ∈ p.models := by
  rw [contains, get?, List.lookup_isSome_iff, models, List.mem_map]
  simp only [beq_iff_eq, eq_comm (a := model)]

theorem exists_get? (h : model ∈ p.models) : ∃ position, p.get? model = some position :=
  Option.isSome_iff_exists.1 (contains_iff.2 h)

theorem models_ofList_zip {names : List String} {positions : List Position} (h : names.Nodup)
    (hl : names.length ≤ positions.length) : (ofList (names.zip positions)).models = names := by
  have hkeys : (names.zip positions).map (·.1) = names := List.map_fst_zip hl
  rw [models, entries_ofList (by rwa [hkeys]), hkeys]

theorem keys_filter_zipIdx (names : List String) (root : String) (place : Nat → Position) :
    ((names.zipIdx.filter (·.1 ≠ root)).map fun (name, i) => (name, place i)).map (·.1) =
      names.filter (· ≠ root) := by
  have hfst : names.filter (· ≠ root) = (names.zipIdx.map (·.1)).filter (· ≠ root) := by
    rw [List.zipIdx_map_fst]
  rw [hfst, List.filter_map, List.map_map]
  rfl

end Placement

theorem ForceOptions.models_layout (o : ForceOptions) {names : List String} (h : names.Nodup)
    (xs : List Relation) : (o.layout names xs).models = names := by
  rw [ForceOptions.layout]
  apply Placement.models_ofList_zip h
  rw [List.length_map, Vector.length_toList]

/-- A ring has the partners of its root in their order, and the root last and at the origin. -/
theorem RingOptions.entries_around (o : RingOptions) (root : String) (xs : List Relation) :
    ∃ ring : List (String × Position),
      (o.around root xs).entries = ring ++ [(root, .origin)] ∧
        ring.map (·.1) = (partners root xs).filter (· ≠ root) := by
  have hkeys := Placement.keys_filter_zipIdx (partners root xs) root
    (o.place (partners root xs).length)
  have hnodup : ((partners root xs).filter (· ≠ root)).Nodup := (partners_nodup root xs).filter _
  rw [← hkeys] at hnodup
  refine ⟨_, ?_, hkeys⟩
  rw [RingOptions.around, Placement.entries_insert, Placement.entries_ofList hnodup]
  rw [Placement.models, Placement.entries_ofList hnodup, hkeys]
  simp

theorem RingOptions.models_around (o : RingOptions) (root : String) (xs : List Relation) :
    (o.around root xs).models = (partners root xs).filter (· ≠ root) ++ [root] := by
  obtain ⟨ring, hentries, hring⟩ := o.entries_around root xs
  rw [Placement.models, hentries, List.map_append, hring]
  rfl

/-- A ring has room for both models of each relation of its root. -/
theorem RingOptions.mem_models_around (o : RingOptions) {root : String} {xs : List Relation}
    {x : Relation} (hx : x ∈ xs) (ht : x.touches root = true) :
    x.between.1 ∈ (o.around root xs).models ∧ x.between.2 ∈ (o.around root xs).models := by
  have hpartner : x.partner root ∈ partners root xs :=
    mem_partners.2 ⟨x, hx, Relation.isBetween_iff.2 ⟨ht, rfl⟩⟩
  have hplaced (name : String) (h : name = root ∨ name = x.partner root) :
      name ∈ (o.around root xs).models := by
    rw [o.models_around, List.mem_append, List.mem_singleton]
    by_cases hn : name = root
    · exact .inr hn
    · have he := h.resolve_left hn
      exact .inl (List.mem_filter.2 ⟨he ▸ hpartner, by simpa using hn⟩)
  have hb : s(x.between.1, x.between.2) = s(root, x.partner root) :=
    Relation.isBetween_iff.2 ⟨ht, rfl⟩
  rcases Sym2.eq_iff.1 hb with ⟨h₁, h₂⟩ | ⟨h₁, h₂⟩
  · exact ⟨hplaced _ (.inl h₁), hplaced _ (.inr h₂)⟩
  · exact ⟨hplaced _ (.inr h₁), hplaced _ (.inl h₂)⟩

end EntityDiagram
