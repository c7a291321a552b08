import EntityDiagram.Proofs.Schema.Document.Places
import EntityDiagram.Proofs.Schema.Token.Unlined
import EntityDiagram.Registry.Basic

namespace EntityDiagram

def FieldDecl.unlined (f : FieldDecl) : FieldDecl := { f with line := 0 }

def Member.unlined : Member → Member
  | field f => .field f.unlined
  | blockAttribute a => .blockAttribute a

def ModelDecl.unlined (m : ModelDecl) : ModelDecl :=
  { m with line := 0, members := m.members.map Member.unlined }

def Block.unlined : Block → Block
  | model m => .model m.unlined
  | source s => .source s
  | other keyword name => .other keyword name

def Document.unlined (d : Document) : Document := ⟨d.blocks.map Block.unlined⟩

def SyntaxError.unlined : SyntaxError → SyntaxError
  | lex error => .lex error.unlined
  | unexpected found _ expected => .unexpected found 0 expected
  | unexpectedEnd => .unexpectedEnd
  | missingType field _ => .missingType field 0

def SchemaError.unlined : SchemaError → SchemaError
  | syntactic error => .syntactic error.unlined
  | duplicateModel name => .duplicateModel name
  | duplicateField model field => .duplicateField model field

namespace Reader

def OpenModel.unlined (m : OpenModel) : OpenModel :=
  ⟨m.before.map Block.unlined, m.decl.unlined⟩

def OpenField.unlined (f : OpenField) : OpenField := ⟨f.model.unlined, f.decl.unlined⟩

def OpenSource.unlined (s : OpenSource) : OpenSource :=
  ⟨s.before.map Block.unlined, s.decl⟩

def Owner.unlined : Owner → Owner
  | field f => .field f.unlined
  | model m => .model m.unlined

def Slot.unlined : Slot → Slot
  | entry s key => .entry s.unlined key
  | typeArg f label => .typeArg f.unlined label
  | attributeArg o name args label => .attributeArg o.unlined name args label
  | item items outer => .item items outer.unlined
  | callArg name args label outer => .callArg name args label outer.unlined

def Filled.unlined : Filled → Filled
  | entry s => .entry s.unlined
  | list s => .list s.unlined

def State.unlined : State → State
  | top blocks => .top (blocks.map Block.unlined)
  | otherName before keyword => .otherName (before.map Block.unlined) keyword
  | otherOpen before keyword name => .otherOpen (before.map Block.unlined) keyword name
  | otherBody before keyword name depth => .otherBody (before.map Block.unlined) keyword name depth
  | modelName before => .modelName (before.map Block.unlined)
  | modelOpen before name _ => .modelOpen (before.map Block.unlined) name 0
  | members m => .members m.unlined
  | fieldType m name _ => .fieldType m.unlined name 0
  | typeArgs f => .typeArgs f.unlined
  | modifier f => .modifier f.unlined
  | listEnd f => .listEnd f.unlined
  | declared o => .declared o.unlined
  | attributeName o => .attributeName o.unlined
  | attributeArgs o name => .attributeArgs o.unlined name
  | attributePath o name => .attributePath o.unlined name
  | sourceName before => .sourceName (before.map Block.unlined)
  | sourceOpen before name => .sourceOpen (before.map Block.unlined) name
  | entries s => .entries s.unlined
  | entryEquals s key => .entryEquals s.unlined key
  | slot s => .slot s.unlined
  | ident name s => .ident name s.unlined
  | filled f => .filled f.unlined

def unlinedStep : Except SyntaxError State → Except SyntaxError State :=
  mapBoth State.unlined SyntaxError.unlined

variable {m : OpenModel} {f : OpenField} {o : Owner} {s : Slot} {t : Token} {i j : Nat}

theorem OpenModel.unlined_add (m : OpenModel) (x : Member) :
    (m.add x).unlined = m.unlined.add x.unlined := by
  simp [unlined, add, ModelDecl.unlined]

theorem OpenModel.unlined_close (m : OpenModel) : m.close.unlined = m.unlined.close := by
  simp [close, State.unlined, unlined, Block.unlined]

theorem OpenField.unlined_close (f : OpenField) : f.close.unlined = f.unlined.close :=
  f.model.unlined_add (.field f.decl)

theorem OpenSource.unlined_close (s : OpenSource) : s.close.unlined = s.unlined.close := by
  simp [close, State.unlined, unlined, Block.unlined]

theorem Owner.unlined_add (o : Owner) (name : String) (args : Option (List Arg)) :
    (o.add name args).unlined = o.unlined.add name args := by
  cases o with
  | field f => rfl
  | model m => exact congrArg Owner.model (m.unlined_add _)

theorem Slot.unlined_fill (s : Slot) (e : Expr) : (s.fill e).unlined = s.unlined.fill e := by
  cases s <;> rfl

theorem Slot.unlined_close? (s : Slot) (t : Token) :
    s.unlined.close? t = (s.close? t).map State.unlined := by
  cases s with
  | entry s key => rfl
  | typeArg f label => cases label <;> cases t <;> rfl
  | attributeArg o name args label =>
    cases label <;> cases t <;> simp [unlined, close?, State.unlined, Owner.unlined_add]
  | item items outer => cases t <;> simp [unlined, close?, State.unlined, unlined_fill]
  | callArg name args label outer =>
    cases label <;> cases t <;> simp [unlined, close?, State.unlined, unlined_fill]

theorem Slot.unlined_label? (s : Slot) (name : String) :
    s.unlined.label? name = (s.label? name).map Slot.unlined := by
  cases s with
  | entry s key => rfl
  | typeArg f label => cases label <;> rfl
  | attributeArg o name args label => cases label <;> rfl
  | item items outer => rfl
  | callArg name args label outer => cases label <;> rfl

theorem Slot.unlined_allowsBreak (s : Slot) : s.unlined.allowsBreak = s.allowsBreak := by
  cases s <;> rfl

theorem Slot.unlined_expectedEnd (s : Slot) : s.unlined.expectedEnd = s.expectedEnd := by
  cases s <;> rfl

theorem endMember_unlined (m : OpenModel) (t : Token) (i : Nat) :
    endMember m.unlined ⟨t, 0⟩ = unlinedStep (endMember m ⟨t, i⟩) := by
  cases t with
  | rightBrace => exact congrArg Except.ok m.unlined_close.symm
  | _ => rfl

theorem endDeclared_unlined (o : Owner) (t : Token) (i : Nat) :
    endDeclared o.unlined ⟨t, 0⟩ = unlinedStep (endDeclared o ⟨t, i⟩) := by
  cases o with
  | model m => exact endMember_unlined m t i
  | field f =>
    simp only [Owner.unlined, endDeclared, ← OpenField.unlined_close]
    split
    · rfl
    · exact endMember_unlined f.close t i

theorem modify_unlined (f : OpenField) (t : Token) (i : Nat) :
    modify f.unlined ⟨t, 0⟩ = unlinedStep (modify f ⟨t, i⟩) := by
  cases t with
  | question => rfl
  | leftBracket => rfl
  | _ =>
    simp only [modify]
    exact endDeclared_unlined (.field f) _ i

theorem unlinedStep_close (s : Slot) (t : Token) (i : Nat) (expected : Expected) :
    (match s.unlined.close? t with
      | some state => .ok state
      | none => unexpected ⟨t, 0⟩ expected) =
    unlinedStep (match s.close? t with
      | some state => .ok state
      | none => unexpected ⟨t, i⟩ expected) := by
  rw [s.unlined_close?]
  cases s.close? t <;> rfl

theorem endValue_unlined (x : Filled) (t : Token) (i : Nat) :
    endValue x.unlined ⟨t, 0⟩ = unlinedStep (endValue x ⟨t, i⟩) := by
  cases x with
  | entry s =>
    cases t with
    | rightBrace => exact congrArg Except.ok s.unlined_close.symm
    | _ => rfl
  | list s =>
    cases t with
    | lineBreak => rfl
    | comma => rfl
    | _ =>
      simp only [Filled.unlined, endValue, s.unlined_expectedEnd]
      exact unlinedStep_close s _ i _

theorem step_unlined (s : State) (t : Token) (i : Nat) :
    step s.unlined ⟨t, 0⟩ = unlinedStep (step s ⟨t, i⟩) := by
  cases s with
  | declared o => exact endDeclared_unlined o t i
  | modifier f => exact modify_unlined f t i
  | filled x => exact endValue_unlined x t i
  | top blocks =>
    cases t with
    | word name =>
      simp only [State.unlined, step]
      split
      · rfl
      · split <;> rfl
    | _ => rfl
  | otherBody before keyword name depth =>
    cases t with
    | rightBrace =>
      cases depth with
      | zero =>
        have hblocks : (before ++ [Block.other keyword name]).map Block.unlined =
            before.map Block.unlined ++ [Block.other keyword name] := List.map_append
        exact congrArg (Except.ok <| State.top ·) hblocks.symm
      | succ depth => rfl
    | _ => cases depth <;> rfl
  | members m =>
    cases t with
    | rightBrace => exact congrArg Except.ok m.unlined_close.symm
    | _ => rfl
  | typeArgs f =>
    cases t with
    | leftParen => rfl
    | _ =>
      simp only [State.unlined, step]
      exact modify_unlined f _ i
  | attributeArgs o name =>
    cases t with
    | dot => rfl
    | leftParen => rfl
    | _ =>
      simp only [State.unlined, step, ← Owner.unlined_add]
      exact endDeclared_unlined _ _ i
  | entries s =>
    cases t with
    | rightBrace => exact congrArg Except.ok s.unlined_close.symm
    | _ => rfl
  | slot s =>
    cases t with
    | lineBreak =>
      simp only [State.unlined, step, s.unlined_allowsBreak]
      split <;> rfl
    | word name => rfl
    | text content => exact congrArg (Except.ok <| State.filled ·) (s.unlined_fill _).symm
    | number digits => exact congrArg (Except.ok <| State.filled ·) (s.unlined_fill _).symm
    | leftBracket => rfl
    | _ =>
      simp only [State.unlined, step]
      exact unlinedStep_close s _ i _
  | ident name s =>
    by_cases hparen : t = .leftParen
    · subst hparen
      rfl
    · by_cases hcolon : t = .colon
      · subst hcolon
        simp only [State.unlined, step, s.unlined_label?]
        cases s.label? name with
        | some labelled => rfl
        | none =>
          simp only [Option.map, ← s.unlined_fill]
          exact endValue_unlined _ _ i
      · rw [State.unlined, step_ident hparen hcolon, step_ident hparen hcolon, ← s.unlined_fill]
        exact endValue_unlined _ t i
  | _ => cases t <;> rfl

/-- Without their lines, lexemes are read as the same document, without its lines. -/
theorem run_unlined (s : State) (ls : List Lexeme) :
    run s.unlined (ls.map Lexeme.unlined) =
      mapBoth Document.unlined SyntaxError.unlined (run s ls) := by
  induction ls generalizing s with
  | nil => cases s <;> rfl
  | cons l ls ih =>
    obtain ⟨t, i⟩ := l
    rw [List.map_cons, run, run, Lexeme.unlined]
    split
    · cases s <;> rfl
    · rw [step_unlined s t i]
      cases step s ⟨t, i⟩ with
      | ok s' => exact ih s'
      | error e => rfl

end Reader

namespace ModelDecl

variable (d : ModelDecl)

theorem unlined_fieldDecls : d.unlined.fieldDecls = d.fieldDecls.map FieldDecl.unlined := by
  rw [fieldDecls, fieldDecls, List.map_filterMap, unlined, List.filterMap_map]
  congr 1
  funext x
  cases x <;> rfl

theorem unlined_blockAttributes : d.unlined.blockAttributes = d.blockAttributes := by
  rw [blockAttributes, blockAttributes, unlined, List.filterMap_map]
  congr 1
  funext x
  cases x <;> rfl

theorem unlined_key : d.unlined.key = d.key := by
  rw [key, key, unlined, List.foldl_map]
  congr 1
  funext key x
  cases x <;> rfl

theorem unlined_foreignKeys : d.unlined.foreignKeys = d.foreignKeys := by
  rw [foreignKeys, foreignKeys, unlined, List.foldl_map]
  congr 1
  funext names x
  cases x <;> rfl

end ModelDecl

theorem Model.ofDecl_unlined (d : ModelDecl) : ofDecl d.unlined = ofDecl d := by
  simp only [ofDecl, d.unlined_fieldDecls, d.unlined_blockAttributes, d.unlined_key,
    d.unlined_foreignKeys, List.map_map]
  rfl

theorem Registry.add_unlined (r : Registry) (b : Block) : r.add b.unlined = r.add b := by
  cases b with
  | model d =>
    simp only [Block.unlined, add, Model.ofDecl_unlined, d.unlined_fieldDecls, List.map_map]
    rfl
  | _ => rfl

theorem Registry.ofDocument_unlined (d : Document) : ofDocument d.unlined = ofDocument d := by
  rw [ofDocument, Document.unlined, List.foldlM_map]
  simp only [add_unlined]
  rfl

def Document.parseUnlined (text : String) : Except SyntaxError Document :=
  mapBoth unlined SyntaxError.unlined (parse text)

def Registry.parseUnlined (text : String) : Except SchemaError Registry :=
  (parse text).mapError SchemaError.unlined

theorem Document.parseUnlined_eq (text : String) :
    parseUnlined text =
      match Lexeme.ofTextUnlined text with
      | .ok ls => ofLexemes ls
      | .error e => .error (.lex e) := by
  rw [parseUnlined, parse, Lexeme.ofTextUnlined]
  cases Lexeme.ofText text with
  | ok ls => exact (Reader.run_unlined (.top []) ls).symm
  | error e => rfl

theorem Registry.parseUnlined_eq (text : String) :
    parseUnlined text =
      match Document.parseUnlined text with
      | .ok d => (ofDocument d).mapError SchemaError.unlined
      | .error e => .error (.syntactic e) := by
  rw [parseUnlined, parse, Document.parseUnlined]
  cases Document.parse text with
  | ok d => simp only [mapBoth, ofDocument_unlined]
  | error e => rfl

end EntityDiagram
