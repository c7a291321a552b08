import EntityDiagram.Schema.Document.Reader

namespace EntityDiagram

def Lexeme.NoEnd (ls : List Lexeme) : Prop := ∀ l ∈ ls, l.token ≠ .endOfText

namespace Lexeme.NoEnd

variable {l : Lexeme} {ls ms : List Lexeme}

instance : Decidable (NoEnd ls) := inferInstanceAs (Decidable (∀ l ∈ ls, l.token ≠ .endOfText))

theorem nil : NoEnd [] := List.forall_mem_nil _

theorem cons_iff : NoEnd (l :: ls) ↔ l.token ≠ .endOfText ∧ NoEnd ls := List.forall_mem_cons

theorem append_iff : NoEnd (ls ++ ms) ↔ NoEnd ls ∧ NoEnd ms := List.forall_mem_append

end Lexeme.NoEnd

namespace Reader

open Lexeme

variable {s s' : State} {l e : Lexeme} {ls ms : List Lexeme} {d d' : Document}

def follow : State → List Lexeme → Except SyntaxError State
  | s, [] => .ok s
  | s, l :: ls =>
    match step s l with
    | .ok s' => follow s' ls
    | .error e => .error e

/-- How many lexemes are read before the first that does not fit, or the end of the text. -/
def stop : State → List Lexeme → Nat
  | _, [] => 0
  | s, l :: ls =>
    if l.token = .endOfText then 0
    else
      match step s l with
      | .ok s' => stop s' ls + 1
      | .error _ => 0

/-- The lexemes after the state complete the document. -/
def Accepts (s : State) (ls : List Lexeme) (d : Document) : Prop :=
  ∃ s', follow s ls = .ok s' ∧ finish s' = .ok d

theorem follow_cons (h : step s l = .ok s') : follow s (l :: ls) = follow s' ls := by
  rw [follow, h]

theorem follow_append (h : follow s ls = .ok s') : follow s (ls ++ ms) = follow s' ms := by
  induction ls generalizing s with
  | nil =>
    cases h
    rfl
  | cons l ls ih =>
    rw [follow] at h
    split at h
    · next s₁ hs =>
      rw [List.cons_append, follow_cons hs]
      exact ih h
    · cases h

theorem follow_singleton : follow s [l] = step s l := by
  rw [follow]
  cases step s l <;> rfl

theorem exists_of_follow_append (h : follow s (ls ++ ms) = .ok s') :
    ∃ s₁, follow s ls = .ok s₁ ∧ follow s₁ ms = .ok s' := by
  induction ls generalizing s with
  | nil => exact ⟨s, rfl, h⟩
  | cons l ls ih =>
    rw [List.cons_append, follow] at h
    split at h
    · next s₁ hs =>
      obtain ⟨s₂, hls, hms⟩ := ih h
      exact ⟨s₂, (follow_cons hs).trans hls, hms⟩
    · cases h

theorem accepts_nil : Accepts s [] d ↔ finish s = .ok d := by
  constructor
  · intro h
    obtain ⟨s', hs, hd⟩ := h
    cases hs
    exact hd
  · intro h
    exact ⟨s, rfl, h⟩

theorem accepts_cons : Accepts s (l :: ls) d ↔ ∃ s', step s l = .ok s' ∧ Accepts s' ls d := by
  rw [Accepts, follow]
  cases hs : step s l with
  | ok s₁ =>
    constructor
    · intro h
      exact ⟨s₁, rfl, h⟩
    · intro h
      obtain ⟨s', he, h⟩ := h
      cases he
      exact h
  | error x =>
    constructor
    · intro h
      obtain ⟨s', he, _⟩ := h
      cases he
    · intro h
      obtain ⟨s', he, _⟩ := h
      cases he

theorem Accepts.read (hs : step s l = .ok s') (h : Accepts s' ls d) : Accepts s (l :: ls) d :=
  accepts_cons.2 ⟨s', hs, h⟩

theorem Accepts.unique (h : Accepts s ls d) (h' : Accepts s ls d') : d = d' := by
  obtain ⟨s₁, hs, hd⟩ := h
  obtain ⟨s₂, hs', hd'⟩ := h'
  cases hs.symm.trans hs'
  exact Except.ok.inj (hd.symm.trans hd')

theorem accepts_append (h : follow s ls = .ok s') : Accepts s (ls ++ ms) d ↔ Accepts s' ms d := by
  rw [Accepts, follow_append h, Accepts]

theorem run_append (h : follow s ls = .ok s') (hls : NoEnd ls) :
    run s (ls ++ ms) = run s' ms := by
  induction ls generalizing s with
  | nil =>
    cases h
    rfl
  | cons l ls ih =>
    obtain ⟨hl, hls⟩ := NoEnd.cons_iff.1 hls
    rw [follow] at h
    split at h
    · next s₁ hs =>
      rw [List.cons_append, run, if_neg hl, hs]
      exact ih h hls
    · cases h

theorem run_of_follow (h : follow s ls = .ok s') (hls : NoEnd ls) (he : e.token = .endOfText) :
    run s (ls ++ e :: ms) = finish s' := by
  rw [run_append h hls, run, if_pos he]

theorem stop_of_follow (h : follow s ls = .ok s') (hls : NoEnd ls) (he : e.token = .endOfText) :
    stop s (ls ++ [e]) = ls.length := by
  induction ls generalizing s with
  | nil => rw [List.nil_append, stop, if_pos he, List.length_nil]
  | cons l ls ih =>
    obtain ⟨hl, hls⟩ := NoEnd.cons_iff.1 hls
    rw [follow] at h
    split at h
    · next s₁ hs =>
      rw [List.cons_append, stop, if_neg hl, hs, List.length_cons]
      exact congrArg (· + 1) (ih h hls)
    · cases h

/-- A run that fails within the lexemes fails at one of them, where what comes before it fits. -/
theorem exists_of_follow_error {x : SyntaxError} (h : follow s ls = .error x) (hls : NoEnd ls) :
    ∃ ps s' l rest, ls = ps ++ l :: rest ∧ follow s ps = .ok s' ∧ step s' l = .error x ∧
      ∀ ms, run s (ls ++ ms) = .error x ∧ stop s (ls ++ ms) = ps.length := by
  induction ls generalizing s with
  | nil => cases h
  | cons l ls ih =>
    obtain ⟨hl, hls⟩ := NoEnd.cons_iff.1 hls
    rw [follow] at h
    split at h
    · next s₁ hs =>
      obtain ⟨ps, s', k, rest, rfl, hps, hk, hrun⟩ := ih h hls
      refine ⟨l :: ps, s', k, rest, rfl, (follow_cons hs).trans hps, hk, ?_⟩
      intro ms
      obtain ⟨hr, hp⟩ := hrun ms
      rw [List.cons_append, run, if_neg hl, stop, if_neg hl, hs]
      exact ⟨hr, congrArg (· + 1) hp⟩
    · next y hs =>
      cases h
      refine ⟨[], s, l, ls, rfl, rfl, hs, ?_⟩
      intro ms
      rw [List.cons_append, run, if_neg hl, stop, if_neg hl, hs]
      exact ⟨rfl, rfl⟩

theorem run_eq_ok_iff (hls : NoEnd ls) (he : e.token = .endOfText) :
    run s (ls ++ e :: ms) = .ok d ↔ Accepts s ls d := by
  cases hf : follow s ls with
  | ok s' =>
    rw [run_of_follow hf hls he]
    constructor
    · intro h
      exact ⟨s', hf, h⟩
    · intro h
      obtain ⟨s'', hs, hd⟩ := h
      cases hf.symm.trans hs
      exact hd
  | error x =>
    obtain ⟨_, _, _, _, _, _, _, hrun⟩ := exists_of_follow_error hf hls
    rw [(hrun _).1]
    constructor
    · intro h
      cases h
    · intro h
      obtain ⟨s'', hs, _⟩ := h
      cases hf.symm.trans hs

theorem exists_accepts_of_run (h : run s ls = .ok d) : ∃ ms, Accepts s ms d := by
  induction ls generalizing s with
  | nil => exact ⟨[], accepts_nil.2 h⟩
  | cons l ls ih =>
    rw [run] at h
    split at h
    · exact ⟨[], accepts_nil.2 h⟩
    · split at h
      · next s' hs =>
        obtain ⟨ms, hms⟩ := ih h
        exact ⟨l :: ms, hms.read hs⟩
      · cases h

end Reader

end EntityDiagram
