import EntityDiagram.Proofs.Schema.Document.Run

namespace EntityDiagram.Reader

variable {ls : List Lexeme} {d : Document} {s : Slot} {t : Token} {i : Nat} {s' : State}

theorem accepts_nil_iff {s : State} : Accepts s [] d ↔ s = .top d.blocks := by
  rw [accepts_nil]
  cases s with
  | top blocks =>
    constructor
    · intro h
      cases h
      rfl
    · intro h
      cases h
      rfl
  | _ =>
    constructor
    · intro h
      cases h
    · intro h
      cases h

/-- Whether a block has begun and not ended. -/
def State.inBlock : State → Bool
  | .top _ => false
  | _ => true

theorem Accepts.exists_step {s : State} (h : Accepts s ls d) (hs : s.inBlock = true) :
    ∃ t i ms s', ls = ⟨t, i⟩ :: ms ∧ step s ⟨t, i⟩ = .ok s' ∧ Accepts s' ms d := by
  cases ls with
  | nil =>
    rw [accepts_nil_iff.1 h] at hs
    cases hs
  | cons l ls =>
    obtain ⟨s', hl, hls⟩ := accepts_cons.1 h
    exact ⟨l.token, l.line, ls, s', rfl, hl, hls⟩

theorem endValue_list (s : Slot) (l : Lexeme) :
    endValue (.list s) l =
      if l.token = .lineBreak then .ok (.filled (.list s))
      else if l.token = .comma then .ok (.slot s)
      else
        match s.close? l.token with
        | some state => .ok state
        | none => unexpected l s.expectedEnd := by
  obtain ⟨t, i⟩ := l
  cases t <;> rfl

theorem closing_of_close? (h : s.close? t = some s') : t = .rightParen ∨ t = .rightBracket := by
  simp only [Slot.close?] at h
  split at h
  · exact .inl rfl
  · exact .inl rfl
  · exact .inr rfl
  · exact .inl rfl
  · cases h

theorem step_slot_close (h : s.close? t = some s') : step (.slot s) ⟨t, i⟩ = .ok s' := by
  rcases closing_of_close? h with rfl | rfl <;> simp only [step, h]

theorem step_filled_close (h : s.close? t = some s') :
    step (.filled (.list s)) ⟨t, i⟩ = .ok s' := by
  rcases closing_of_close? h with rfl | rfl <;> simp only [step, endValue, h]

theorem close?_item (items : List Expr) (outer : Slot) (t : Token) :
    (Slot.item items outer).close? t =
      if t = .rightBracket then some (.filled (outer.fill (.array items))) else none := by
  cases t <;> rfl

theorem ne_of_endValue {f : Filled} (h : endValue f ⟨t, i⟩ = .ok s') :
    t ≠ .leftParen ∧ t ≠ .colon := by
  cases f with
  | entry source =>
    constructor
    · rintro rfl
      cases h
    · rintro rfl
      cases h
  | list s =>
    rw [endValue_list] at h
    constructor
    · rintro rfl
      cases hc : s.close? .leftParen with
      | some s₁ => cases closing_of_close? hc <;> contradiction
      | none => simp [hc, unexpected] at h
    · rintro rfl
      cases hc : s.close? .colon with
      | some s₁ => cases closing_of_close? hc <;> contradiction
      | none => simp [hc, unexpected] at h

/-- An identifier that has no arguments and is no label is an expression by itself. -/
theorem step_ident {name : String} (hp : t ≠ .leftParen) (hc : t ≠ .colon) :
    step (.ident name s) ⟨t, i⟩ = endValue (s.fill (.ident name)) ⟨t, i⟩ := by
  cases t <;> first | rfl | contradiction

/-- Where arguments stand: the places before them, with or without a label, and what follows. -/
structure ArgPlace where
  slot : Option String → List Arg → Slot
  closed : List Arg → State
  fill_slot (label : Option String) (args : List Arg) (e : Expr) :
    (slot label args).fill e = .list (slot none (args ++ [⟨label, e⟩]))
  label?_slot (label : Option String) (args : List Arg) (name : String) :
    (slot label args).label? name = if label = none then some (slot (some name) args) else none
  close?_slot (label : Option String) (args : List Arg) (t : Token) :
    (slot label args).close? t =
      if label = none ∧ t = .rightParen then some (closed args) else none
  allowsBreak_slot (label : Option String) (args : List Arg) :
    (slot label args).allowsBreak = label.isNone

namespace ArgPlace

def ofType (f : OpenField) : ArgPlace where
  slot label _ := .typeArg f label
  closed _ := .modifier f
  fill_slot _ _ _ := rfl
  label?_slot label _ _ := by cases label <;> rfl
  close?_slot label _ t := by cases label <;> cases t <;> rfl
  allowsBreak_slot _ _ := rfl

def ofAttribute (o : Owner) (name : String) : ArgPlace where
  slot label args := .attributeArg o name args label
  closed args := .declared (o.add name (some args))
  fill_slot _ _ _ := rfl
  label?_slot label _ _ := by cases label <;> rfl
  close?_slot label _ t := by cases label <;> cases t <;> rfl
  allowsBreak_slot _ _ := rfl

def ofCall (name : String) (outer : Slot) : ArgPlace where
  slot label args := .callArg name args label outer
  closed args := .filled (outer.fill (.call name args))
  fill_slot _ _ _ := rfl
  label?_slot label _ _ := by cases label <;> rfl
  close?_slot label _ t := by cases label <;> cases t <;> rfl
  allowsBreak_slot _ _ := rfl

variable (p : ArgPlace) (args : List Arg)

theorem close?_end : (p.slot none args).close? .rightParen = some (p.closed args) := by
  rw [p.close?_slot, if_pos ⟨rfl, rfl⟩]

theorem step_label (name : String) (i : Nat) :
    step (.ident name (p.slot none args)) ⟨.colon, i⟩ = .ok (.slot (p.slot (some name) args)) := by
  simp only [step, p.label?_slot, ↓reduceIte]

end ArgPlace

/-- Whether attributes that are added to it belong to a field or to a model. -/
def Owner.scope : Owner → Scope
  | .field _ => .field
  | .model _ => .block

/-- The field with further attributes, as the last member of its model. -/
def OpenField.closeWith (f : OpenField) (attributes : List Attribute) : OpenModel :=
  f.model.add (.field { f.decl with attributes := f.decl.attributes ++ attributes })

theorem OpenField.closeWith_nil (f : OpenField) : f.closeWith [] = f.close := by
  rw [closeWith, List.append_nil]
  rfl

theorem OpenField.closeWith_add (f : OpenField) (a : Attribute) (attributes : List Attribute) :
    (f.add a).closeWith attributes = f.closeWith (a :: attributes) := by
  rw [closeWith, closeWith, List.append_cons]
  rfl

end EntityDiagram.Reader
