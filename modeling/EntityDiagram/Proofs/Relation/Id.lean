import Mathlib.Data.String.Basic
import Mathlib.Data.Sym.Sym2
import EntityDiagram.Proofs.Registry.Declaration
import EntityDiagram.Relation.Basic

namespace EntityDiagram

theorem sortPair_comm (a b : String) : sortPair a b = sortPair b a := by
  simp only [sortPair]
  rcases lt_trichotomy a b with h | rfl | h
  · rw [if_pos h, if_neg h.asymm]
  · rfl
  · rw [if_pos h, if_neg h.asymm]

theorem sortPair_mk (a b : String) : s((sortPair a b).1, (sortPair a b).2) = s(a, b) := by
  rw [sortPair]
  split
  · exact Sym2.eq_swap
  · rfl

theorem sortPair_eq_iff {a b c d : String} : sortPair a b = sortPair c d ↔ s(a, b) = s(c, d) := by
  constructor
  · intro h
    rw [← sortPair_mk a b, h, sortPair_mk]
  · intro h
    rcases Sym2.eq_iff.1 h with ⟨rfl, rfl⟩ | ⟨rfl, rfl⟩
    · rfl
    · exact sortPair_comm _ _

theorem sortPair_notMem {a b : String} (ha : '-' ∉ a.toList) (hb : '-' ∉ b.toList) :
    '-' ∉ (sortPair a b).1.toList ∧ '-' ∉ (sortPair a b).2.toList := by
  rw [sortPair]
  split
  · exact ⟨hb, ha⟩
  · exact ⟨ha, hb⟩

theorem append_hyphen_inj {cs ds xs ys : List Char} (hc : '-' ∉ cs) (hd : '-' ∉ ds)
    (h : cs ++ '-' :: xs = ds ++ '-' :: ys) : cs = ds ∧ xs = ys := by
  induction cs generalizing ds with
  | nil =>
    cases ds with
    | nil => exact ⟨rfl, List.tail_eq_of_cons_eq h⟩
    | cons d ds =>
      obtain ⟨rfl, -⟩ := List.cons.inj h
      exact absurd List.mem_cons_self hd
  | cons c cs ih =>
    cases ds with
    | nil =>
      obtain ⟨rfl, -⟩ := List.cons.inj h
      exact absurd List.mem_cons_self hc
    | cons d ds =>
      obtain ⟨he, ht⟩ := List.cons.inj h
      have hc := fun hm => hc (List.mem_cons_of_mem c hm)
      have hd := fun hm => hd (List.mem_cons_of_mem d hm)
      obtain ⟨hs, hx⟩ := ih hc hd ht
      exact ⟨by rw [he, hs], hx⟩

theorem hyphen_inj {a b x y : String} (ha : '-' ∉ a.toList) (hb : '-' ∉ b.toList)
    (h : a ++ ("-" ++ x) = b ++ ("-" ++ y)) : a = b ∧ x = y := by
  have hl := congrArg String.toList h
  simp only [String.toList_append] at hl
  obtain ⟨hab, hxy⟩ := append_hyphen_inj ha hb hl
  exact ⟨String.toList_inj.1 hab, String.toList_inj.1 hxy⟩

theorem relationId_eq_iff {a b c d f g h k : String} (ha : '-' ∉ a.toList) (hb : '-' ∉ b.toList)
    (hc : '-' ∉ c.toList) (hd : '-' ∉ d.toList) (hf : '-' ∉ f.toList) (hg : '-' ∉ g.toList)
    (hh : '-' ∉ h.toList) (hk : '-' ∉ k.toList) :
    relationId (a, b) (f, g) = relationId (c, d) (h, k) ↔
      s(a, b) = s(c, d) ∧ s(f, g) = s(h, k) := by
  constructor
  · intro he
    simp only [relationId, String.append_assoc] at he
    obtain ⟨ham, hbm⟩ := sortPair_notMem ha hb
    obtain ⟨hcm, hdm⟩ := sortPair_notMem hc hd
    obtain ⟨hfm, hgm⟩ := sortPair_notMem hf hg
    obtain ⟨hhm, hkm⟩ := sortPair_notMem hh hk
    obtain ⟨h₁, he⟩ := hyphen_inj ham hcm he
    obtain ⟨h₂, he⟩ := hyphen_inj hbm hdm he
    obtain ⟨h₃, h₄⟩ := hyphen_inj hfm hhm he
    exact ⟨sortPair_eq_iff.1 (Prod.ext h₁ h₂), sortPair_eq_iff.1 (Prod.ext h₃ h₄)⟩
  · rintro ⟨hm, hn⟩
    simp only [relationId, sortPair_eq_iff.2 hm, sortPair_eq_iff.2 hn]

end EntityDiagram
