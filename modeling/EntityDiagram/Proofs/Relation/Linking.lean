import EntityDiagram.Proofs.Relation.Justification
import EntityDiagram.Proofs.Relation.Partner

namespace EntityDiagram

section NoteLink

variable {links : List (String × List String)} {other name id : String} {ids : List String}

theorem keys_noteLink (links : List (String × List String)) (other id : String) :
    (noteLink other id links).map (·.1) =
      if other ∈ links.map (·.1) then links.map (·.1) else links.map (·.1) ++ [other] := by
  induction links with
  | nil => rfl
  | cons p links ih =>
    obtain ⟨name, ids⟩ := p
    rw [noteLink]
    by_cases h : name = other
    · simp [h]
    · have hne : other ≠ name := Ne.symm h
      simp only [h, ↓reduceIte, List.map_cons, ih, List.mem_cons, hne, false_or]
      split <;> rfl

theorem lookup_noteLink_of_ne (h : name ≠ other) :
    (noteLink other id links).lookup name = links.lookup name := by
  induction links with
  | nil =>
    have hb : (name == other) = false := by simpa using h
    simp [noteLink, List.lookup_cons, hb]
  | cons p links ih =>
    obtain ⟨key, ids⟩ := p
    rw [noteLink]
    split
    · next hk =>
      have hb : (name == key) = false := by simpa [hk] using h
      simp only [List.lookup_cons, hb]
    · simp only [List.lookup_cons, ih]

theorem lookup_noteLink_self (hid : id ∉ (links.lookup other).getD []) :
    (noteLink other id links).lookup other = some ((links.lookup other).getD [] ++ [id]) := by
  induction links with
  | nil => simp [noteLink]
  | cons p links ih =>
    obtain ⟨key, ids⟩ := p
    rw [noteLink]
    by_cases h : key = other
    · subst h
      have hid : id ∉ ids := by simpa using hid
      simp [hid]
    · have hb : (other == key) = false := by simpa using Ne.symm h
      simp only [h, ↓reduceIte, List.lookup_cons, hb] at hid ⊢
      exact ih hid

theorem noteLink_eq_self (hid : id ∈ (links.lookup other).getD []) :
    noteLink other id links = links := by
  induction links with
  | nil => simp at hid
  | cons p links ih =>
    obtain ⟨key, ids⟩ := p
    rw [noteLink]
    by_cases h : key = other
    · subst h
      have hid : id ∈ ids := by simpa using hid
      simp [hid]
    · have hb : (other == key) = false := by simpa using Ne.symm h
      simp only [h, ↓reduceIte, List.lookup_cons, hb] at hid ⊢
      rw [ih hid]

end NoteLink

namespace Model

variable {m : Model} {xs ys : List Relation} {x : Relation}

def attach (m : Model) (x : Relation) : Model :=
  if x.touches m.name then m.link (x.partner m.name) x.id else m

def unlinked (m : Model) : Model := { m with relatedTo := [], links := [] }

theorem attach_name (m : Model) (x : Relation) : (m.attach x).name = m.name := by
  rw [attach]
  split <;> rfl

theorem unlinked_attach (m : Model) (x : Relation) : (m.attach x).unlinked = m.unlinked := by
  rw [attach]
  split <;> rfl

theorem foldl_attach_name (m : Model) (xs : List Relation) : (xs.foldl attach m).name = m.name := by
  induction xs generalizing m with
  | nil => rfl
  | cons x xs ih => rw [List.foldl_cons, ih, attach_name]

theorem unlinked_foldl_attach (m : Model) (xs : List Relation) :
    (xs.foldl attach m).unlinked = m.unlinked := by
  induction xs generalizing m with
  | nil => rfl
  | cons x xs ih => rw [List.foldl_cons, ih, unlinked_attach]

/-- Both records of the model say what the relations say. -/
structure Mirrors (m : Model) (xs : List Relation) : Prop where
  relationsWith : ∀ name, m.relationsWith name = idsBetween xs m.name name
  relatedTo : m.relatedTo = partners m.name xs
  keys : m.links.map (·.1) = m.relatedTo

theorem unlinked_mirrors (m : Model) : m.unlinked.Mirrors [] :=
  ⟨fun _ => rfl, rfl, rfl⟩

/-- One step of linking; the id is new, as a relation is found only once. -/
theorem Mirrors.attach (h : m.Mirrors xs) (hid : x.id ∉ xs.map (·.id)) :
    (m.attach x).Mirrors (xs ++ [x]) := by
  have hname := attach_name m x
  by_cases ht : x.touches m.name = true
  · have hm : m.attach x = m.link (x.partner m.name) x.id := by rw [Model.attach, if_pos ht]
    have hnew (name : String) : x.id ∉ m.relationsWith name := by
      intro hmem
      rw [h.relationsWith] at hmem
      obtain ⟨y, hy, _, he⟩ := mem_idsBetween.1 hmem
      exact hid (he ▸ List.mem_map_of_mem hy)
    constructor
    · intro name
      rw [hname, idsBetween_concat, ← h.relationsWith, hm]
      by_cases hp : x.partner m.name = name
      · subst hp
        rw [if_pos (Relation.isBetween_iff.2 ⟨ht, rfl⟩), Model.relationsWith, Model.link,
          lookup_noteLink_self (hnew _)]
        rfl
      · rw [if_neg (fun hx => hp (Relation.isBetween_iff.1 hx).2), Model.relationsWith, Model.link,
          lookup_noteLink_of_ne (Ne.symm hp)]
        rfl
    · rw [hname, partners_concat, ← h.relatedTo, hm, Model.link]
      simp only [ht, true_and, ite_not]
    · rw [hm, Model.link, keys_noteLink, h.keys]
  · have hm : m.attach x = m := by rw [Model.attach, if_neg ht]
    rw [hm]
    constructor
    · intro name
      rw [idsBetween_concat, if_neg (fun hx => ht (Relation.isBetween_iff.1 hx).1),
        h.relationsWith]
    · rw [partners_concat, if_neg (fun hx => ht hx.1), h.relatedTo]
    · exact h.keys

theorem Mirrors.foldl_attach (h : m.Mirrors xs) (hid : ((xs ++ ys).map (·.id)).Nodup) :
    (ys.foldl Model.attach m).Mirrors (xs ++ ys) := by
  induction ys generalizing m xs with
  | nil => rwa [List.append_nil]
  | cons y ys ih =>
    rw [List.append_cons] at hid ⊢
    apply ih _ hid
    apply h.attach
    have hn : ((xs ++ [y]).map (·.id)).Nodup := (List.sublist_append_left _ ys).map _ |>.nodup hid
    rw [List.map_append] at hn
    exact fun hm => (List.nodup_append.1 hn).2.2 _ hm _ List.mem_cons_self rfl

/-- A relation that is noted already is not noted again. -/
theorem Mirrors.attach_eq_self (h : m.Mirrors xs) {y : Relation} (hy : y ∈ xs)
    (hid : y.id = x.id) (hb : s(y.between.1, y.between.2) = s(x.between.1, x.between.2)) :
    m.attach x = m := by
  rw [Model.attach]
  split
  · next ht =>
    have hx : x.IsBetween m.name (x.partner m.name) := Relation.isBetween_iff.2 ⟨ht, rfl⟩
    have hyb : y.IsBetween m.name (x.partner m.name) := hb.trans hx
    have hrel : x.partner m.name ∈ m.relatedTo := by
      rw [h.relatedTo]
      exact mem_partners.2 ⟨y, hy, hyb⟩
    have hids : x.id ∈ m.relationsWith (x.partner m.name) := by
      rw [h.relationsWith]
      exact mem_idsBetween.2 ⟨y, hy, hyb, hid⟩
    rw [Model.link, if_pos hrel, noteLink_eq_self hids]
  · rfl

end Model

namespace Registry

variable {r s : Registry} {xs : List Relation}

/-- The registry as it is declared, without any relations. -/
def unlinked (r : Registry) : Registry := { r with models := r.models.map Model.unlinked }

theorem attach_eq (r : Registry) (x : Relation) :
    r.attach x = { r with models := r.models.map (·.attach x) } := by
  rw [attach]
  split
  · next hs =>
    have hs : x.between.1 = x.between.2 := by simpa [Relation.isSelf] using hs
    rw [link]
    congr 1
    apply List.map_congr_left
    intro m _
    rw [Model.attach, Relation.touches, Relation.partner, hs, ite_self]
    by_cases h : m.name = x.between.2
    · rw [if_pos h, if_pos (by simp [h])]
    · rw [if_neg h, if_neg (by simp [Ne.symm h])]
  · next hs =>
    have hs : x.between.1 ≠ x.between.2 := by simpa [Relation.isSelf] using hs
    rw [link, link]
    simp only [List.map_map]
    congr 1
    apply List.map_congr_left
    intro m _
    rw [Function.comp_apply, Model.attach, Relation.touches, Relation.partner]
    by_cases h₁ : m.name = x.between.1
    · have h₂ : (m.link x.between.2 x.id).name ≠ x.between.2 := fun he => hs (h₁.symm.trans he)
      rw [if_pos h₁, if_neg h₂, if_pos (by simp [h₁]), if_pos h₁.symm]
    · have h₁' : x.between.1 ≠ m.name := Ne.symm h₁
      rw [if_neg h₁, if_neg h₁']
      by_cases h₂ : m.name = x.between.2
      · rw [if_pos h₂, if_pos (by simp [h₂])]
      · rw [if_neg h₂, if_neg (by simp [h₁', Ne.symm h₂])]

theorem foldl_attach_eq (r : Registry) (xs : List Relation) :
    xs.foldl attach r = { r with models := r.models.map (xs.foldl Model.attach) } := by
  induction xs generalizing r with
  | nil => simp
  | cons x xs ih =>
    rw [List.foldl_cons, ih, attach_eq]
    simp [Function.comp_def]

theorem unlinked_foldl_attach (r : Registry) (xs : List Relation) :
    (xs.foldl attach r).unlinked = r.unlinked := by
  rw [foldl_attach_eq, unlinked, unlinked]
  simp [Function.comp_def, Model.unlinked_foldl_attach]

theorem infer_eq_ok_iff :
    r.infer = .ok (xs, s) ↔ r.relations = .ok xs ∧ s = xs.foldl attach r := by
  rw [infer]
  cases r.relations with
  | error e => simp [Except.map]
  | ok ys =>
    simp only [Except.map, Except.ok.injEq, Prod.mk.injEq]
    constructor
    · rintro ⟨rfl, rfl⟩
      exact ⟨rfl, rfl⟩
    · rintro ⟨rfl, rfl⟩
      exact ⟨rfl, rfl⟩

theorem unlinked_of_infer (hx : r.infer = .ok (xs, s)) : s.unlinked = r.unlinked := by
  rw [(infer_eq_ok_iff.1 hx).2, unlinked_foldl_attach]

theorem Declared.of_unlinked (h : s.unlinked.Declared) : s.Declared where
  nodup := by
    have hn := h.nodup
    rwa [unlinked, List.map_map] at hn
  models := by
    intro m hm
    have hd := h.models m.unlinked (List.mem_map_of_mem hm)
    exact ⟨hd.nodup, hd.foreignKeys⟩

theorem Declared.unlinked (h : s.Declared) : s.unlinked.Declared where
  nodup := by
    rw [Registry.unlinked, List.map_map]
    exact h.nodup
  models := by
    intro m hm
    obtain ⟨n, hn, rfl⟩ := List.mem_map.1 hm
    have hd := h.models n hn
    exact ⟨hd.nodup, hd.foreignKeys⟩

theorem Declared.of_infer (hr : r.Declared) (hu : r.unlinked = r) (hx : r.infer = .ok (xs, s)) :
    s.Declared := by
  apply Declared.of_unlinked
  rwa [unlinked_of_infer hx, hu]

theorem ids_nodup (hx : r.infer = .ok (xs, s)) : (xs.map (·.id)).Nodup := by
  rw [(relations_of_infer hx).2]
  exact firstOfEachId_nodup _ _

theorem mirrors_of_infer (hr : r.unlinked = r) (hx : r.infer = .ok (xs, s)) :
    ∀ m ∈ s.models, m.Mirrors xs := by
  intro m hm
  rw [(infer_eq_ok_iff.1 hx).2, foldl_attach_eq] at hm
  obtain ⟨n, hn, rfl⟩ := List.mem_map.1 hm
  rw [← hr] at hn
  obtain ⟨k, _, rfl⟩ := List.mem_map.1 hn
  exact (Model.unlinked_mirrors k).foldl_attach (ids_nodup hx)

theorem DeclaredBy.unlinked {ds : List ModelDecl} (h : r.DeclaredBy ds) : r.unlinked = r := by
  have hm : r.models.map Model.unlinked = r.models := by
    rw [h.models, List.map_map]
    rfl
  rw [Registry.unlinked, hm]

theorem parse_unlinked {text : String} (h : parse text = .ok r) : r.unlinked = r := by
  obtain ⟨d, _, hr⟩ := parse_eq_ok_iff.1 h
  exact (ofDocument_declaredBy hr).unlinked

theorem names_of_infer (hx : r.infer = .ok (xs, s)) :
    s.models.map (·.name) = r.models.map (·.name) := by
  rw [(infer_eq_ok_iff.1 hx).2, foldl_attach_eq, List.map_map]
  apply List.map_congr_left
  intro m _
  exact m.foldl_attach_name xs

theorem Declared.justified_of_mem (hr : r.Declared) (hx : r.infer = .ok (xs, s)) {x : Relation}
    (h : x ∈ xs) : x.Justified r := by
  rw [(relations_of_infer hx).2, mem_firstOfEachId] at h
  obtain ⟨m, hm, f, hf, hrel⟩ := mem_allRelations.1 (List.mem_of_find?_eq_some h.2)
  exact fieldRelation?_justified hr hm hf hrel

theorem Declared.names_of_mem (hr : r.Declared) (hx : r.infer = .ok (xs, s)) {x : Relation}
    (h : x ∈ xs) :
    x.source.model ∈ r.models.map (·.name) ∧ x.target.model ∈ r.models.map (·.name) := by
  obtain ⟨n, hn, t, ht, hxn, hxt, _⟩ := hr.justified_of_mem hx h
  exact ⟨List.mem_map.2 ⟨t, ht, hxt.symm⟩, List.mem_map.2 ⟨n, hn, hxn.symm⟩⟩

theorem between_of_mem (hx : r.infer = .ok (xs, s)) {x : Relation} (h : x ∈ xs) :
    x.between = (x.source.model, x.target.model) := by
  rw [(relations_of_infer hx).2, mem_firstOfEachId] at h
  exact (regular_of_mem (List.mem_of_find?_eq_some h.2)).between

theorem Declared.names_of_isBetween (hr : r.Declared) (hx : r.infer = .ok (xs, s)) {x : Relation}
    (h : x ∈ xs) {a b : String} (hab : x.IsBetween a b) : b ∈ s.models.map (·.name) := by
  obtain ⟨hs, ht⟩ := hr.names_of_mem hx h
  rw [names_of_infer hx]
  rw [Relation.IsBetween, between_of_mem hx h, Sym2.eq_iff] at hab
  rcases hab with ⟨_, rfl⟩ | ⟨rfl, _⟩
  · exact ht
  · exact hs

/--
After inference a model knows the ids of the relations it has with each model, in the order of the
relations, and the models that it has any with, each once and in the order of the first relation
with each. Nothing else in the registry of a document changes.
-/
theorem infer_annotates {d : Document} (hr : ofDocument d = .ok r)
    (hx : r.infer = .ok (xs, s)) :
    s.unlinked = r ∧
    (∀ m ∈ s.models, ∀ n ∈ s.models,
      m.relationsWith n.name = idsBetween xs m.name n.name ∧
      (m.relationsWith n.name).Nodup ∧ m.relationsWith n.name = n.relationsWith m.name) ∧
    ∀ m ∈ s.models,
      (∀ name, name ∈ m.relatedTo ↔ ∃ n ∈ s.models, n.name = name ∧ m.relationsWith name ≠ []) ∧
      m.relatedTo.Nodup ∧
      (m.relatedTo.Pairwise fun a b => firstBetween xs m.name a < firstBetween xs m.name b) ∧
      m.links.map (·.1) = m.relatedTo := by
  have hd := ofDocument_declaredBy hr
  have hmirrors := mirrors_of_infer hd.unlinked hx
  refine ⟨(unlinked_of_infer hx).trans hd.unlinked, ?_, ?_⟩
  · intro m hm n hn
    rw [(hmirrors m hm).relationsWith, (hmirrors n hn).relationsWith]
    exact ⟨rfl, idsBetween_nodup (ids_nodup hx) _ _, idsBetween_comm _ _ _⟩
  · intro m hm
    have h := hmirrors m hm
    refine ⟨?_, ?_, ?_, h.keys⟩
    · intro name
      rw [h.relatedTo, h.relationsWith, idsBetween_ne_nil_iff, mem_partners]
      constructor
      · rintro ⟨x, hxm, hb⟩
        obtain ⟨n, hn, he⟩ := List.mem_map.1 (hd.declared.names_of_isBetween hx hxm hb)
        exact ⟨n, hn, he, x, hxm, hb⟩
      · rintro ⟨_, _, _, hx⟩
        exact hx
    · rw [h.relatedTo]
      exact partners_nodup _ _
    · rw [h.relatedTo]
      exact partners_pairwise _ _

set_option maxRecDepth 10000 in
theorem infer_annotates_blog : ∃ d r s xs, ofDocument d = .ok r ∧ r.infer = .ok (xs, s) ∧
    s.unlinked = r ∧ ∃ m ∈ s.models, ∃ n ∈ s.models, m.name = "User" ∧ n.name = "Post" ∧
      m.relatedTo = ["User", "Profile", "Post"] ∧ m.links.map (·.1) = m.relatedTo ∧
      m.relationsWith n.name = n.relationsWith m.name := by
  obtain ⟨r, xs, s, hr, hx, h⟩ := exists_of_check blogText (fun r xs =>
    ∃ m ∈ (xs.foldl attach r).models, ∃ n ∈ (xs.foldl attach r).models,
      m.name = "User" ∧ n.name = "Post" ∧ m.relatedTo = ["User", "Profile", "Post"]) rfl
    (by decide +kernel)
  obtain ⟨d, _, hd⟩ := parse_eq_ok_iff.1 hr
  obtain ⟨hs, hids, hrel⟩ := infer_annotates hd hx
  have h := of_decide_eq_true h
  rw [← (infer_eq_ok_iff.1 hx).2] at h
  obtain ⟨m, hm, n, hn, hmn, hnn, hto⟩ := h
  exact ⟨d, r, s, xs, hd, hx, hs, m, hm, n, hn, hmn, hnn, hto, (hrel m hm).2.2.2,
    (hids m hm n hn).2.2⟩

end Registry

end EntityDiagram
