import Mathlib.Data.List.Nodup
import Mathlib.Data.Sym.Sym2
import EntityDiagram.Placement.Ring

namespace EntityDiagram

section Lists

variable {α : Type} [BEq α] [LawfulBEq α]

theorem eraseDups_concat (l : List α) (a : α) :
    (l ++ [a]).eraseDups = if a ∈ l then l.eraseDups else l.eraseDups ++ [a] := by
  rw [List.eraseDups_append]
  by_cases h : a ∈ l <;> simp [List.removeAll, List.eraseDups_cons, h]

theorem eraseDups_nodup (l : List α) : l.eraseDups.Nodup := by
  induction l using List.reverseRecOn with
  | nil => exact List.nodup_nil
  | append_singleton l a ih =>
    rw [eraseDups_concat]
    split
    · exact ih
    · next h =>
      rw [← List.concat_eq_append]
      exact ih.concat fun hm => h (List.mem_eraseDups.1 hm)

end Lists

namespace Relation

/-- The relation is one of the two models, whichever side each of them is on. -/
def IsBetween (x : Relation) (a b : String) : Prop := s(x.between.1, x.between.2) = s(a, b)

instance (x : Relation) (a b : String) : Decidable (x.IsBetween a b) :=
  inferInstanceAs (Decidable (_ = _))

variable {x : Relation} {a b : String}

theorem isBetween_comm : x.IsBetween a b ↔ x.IsBetween b a := by
  rw [IsBetween, IsBetween, Sym2.eq_swap (a := a)]

theorem isBetween_iff : x.IsBetween a b ↔ x.touches a = true ∧ x.partner a = b := by
  rw [IsBetween, touches, partner, Sym2.eq_iff]
  by_cases h : x.between.1 = a
  · simp only [h, decide_true, Bool.true_or, true_and, ↓reduceIte]
    constructor
    · rintro (hb | ⟨rfl, hb⟩)
      · exact hb
      · exact hb
    · exact .inl
  · simp only [h, decide_false, Bool.false_or, decide_eq_true_eq, false_and, false_or, ↓reduceIte]
    exact And.comm

end Relation

def idsBetween (xs : List Relation) (a b : String) : List String :=
  (xs.filter (·.IsBetween a b)).map (·.id)

/-- The place of the first relation between two models. -/
def firstBetween (xs : List Relation) (a b : String) : Nat := xs.findIdx (·.IsBetween a b)

variable {xs : List Relation} {x : Relation} {root name a b : String}

theorem idsBetween_comm (xs : List Relation) (a b : String) :
    idsBetween xs a b = idsBetween xs b a := by
  simp only [idsBetween, Relation.isBetween_comm (a := a)]

theorem idsBetween_nodup (h : (xs.map (·.id)).Nodup) (a b : String) :
    (idsBetween xs a b).Nodup :=
  (List.filter_sublist.map _).nodup h

theorem idsBetween_concat (xs : List Relation) (x : Relation) (a b : String) :
    idsBetween (xs ++ [x]) a b =
      if x.IsBetween a b then idsBetween xs a b ++ [x.id] else idsBetween xs a b := by
  rw [idsBetween, idsBetween, List.filter_append, List.map_append]
  by_cases h : x.IsBetween a b <;> simp [h]

theorem mem_idsBetween {id : String} :
    id ∈ idsBetween xs a b ↔ ∃ x ∈ xs, x.IsBetween a b ∧ x.id = id := by
  simp [idsBetween, and_assoc]

theorem idsBetween_ne_nil_iff : idsBetween xs a b ≠ [] ↔ ∃ x ∈ xs, x.IsBetween a b := by
  simp [idsBetween]

theorem mem_partners : name ∈ partners root xs ↔ ∃ x ∈ xs, x.IsBetween root name := by
  simp only [partners, List.mem_eraseDups, List.mem_map, List.mem_filter, Relation.isBetween_iff,
    and_assoc]

theorem partners_nodup (root : String) (xs : List Relation) : (partners root xs).Nodup :=
  eraseDups_nodup _

theorem partners_concat (root : String) (xs : List Relation) (x : Relation) :
    partners root (xs ++ [x]) =
      if x.touches root = true ∧ x.partner root ∉ partners root xs then
        partners root xs ++ [x.partner root]
      else partners root xs := by
  rw [partners, partners, List.filter_append, List.map_append]
  by_cases ht : x.touches root = true
  · have hx : [x].filter (·.touches root) = [x] := by simp [ht]
    rw [hx, List.map_singleton, eraseDups_concat]
    simp only [ht, true_and, List.mem_eraseDups, ite_not]
  · have hx : [x].filter (·.touches root) = [] := by simp [ht]
    rw [hx, List.map_nil, List.append_nil]
    simp [ht]

theorem firstBetween_lt_iff : firstBetween xs a b < xs.length ↔ b ∈ partners a xs := by
  simp [firstBetween, List.findIdx_lt_length, mem_partners]

theorem firstBetween_concat (xs : List Relation) (x : Relation) (a b : String) :
    firstBetween (xs ++ [x]) a b =
      if b ∈ partners a xs then firstBetween xs a b else firstBetween [x] a b + xs.length := by
  simp only [← firstBetween_lt_iff]
  exact List.findIdx_append

/-- Partners come in the order of their first relations. -/
theorem partners_pairwise (root : String) (xs : List Relation) :
    (partners root xs).Pairwise fun a b => firstBetween xs root a < firstBetween xs root b := by
  induction xs using List.reverseRecOn with
  | nil => exact List.Pairwise.nil
  | append_singleton xs x ih =>
    have hold : (partners root xs).Pairwise fun a b =>
        firstBetween (xs ++ [x]) root a < firstBetween (xs ++ [x]) root b := by
      apply ih.imp_of_mem
      intro a b ha hb hlt
      rwa [firstBetween_concat, firstBetween_concat, if_pos ha, if_pos hb]
    rw [partners_concat]
    split
    · next hx =>
      refine List.pairwise_append.2 ⟨hold, List.pairwise_singleton _ _, ?_⟩
      intro a ha b hb
      rw [List.mem_singleton.1 hb, firstBetween_concat, firstBetween_concat, if_pos ha,
        if_neg hx.2]
      exact Nat.lt_add_left _ (firstBetween_lt_iff.2 ha)
    · exact hold

end EntityDiagram
