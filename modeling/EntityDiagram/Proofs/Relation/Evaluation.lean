import EntityDiagram.Relation.Inference

namespace EntityDiagram

theorem Lexeme.ofText_ofList (cs : List Char) :
    Lexeme.ofText (String.ofList cs) =
      return mergeBreaks true (← (Scanner.mk cs 1 false).answers.mapM id) := by
  rw [ofText, Scanner.ofText, String.toList_ofList]

namespace Registry

def ofChars (cs : List Char) : Except SchemaError Registry :=
  match (Scanner.mk cs 1 false).answers.mapM id with
  | .error e => .error (.syntactic (.lex e))
  | .ok ls =>
    match Document.ofLexemes (Lexeme.mergeBreaks true ls) with
    | .error e => .error (.syntactic e)
    | .ok d => ofDocument d

theorem parse_ofList (cs : List Char) : parse (String.ofList cs) = ofChars cs := by
  rw [parse, Document.parse, ofChars]
  rw [Lexeme.ofText_ofList]
  cases (Scanner.mk cs 1 false).answers.mapM id with
  | error e => rfl
  | ok ls =>
    dsimp only [bind, Except.bind, pure, Except.pure]
    cases Document.ofLexemes (Lexeme.mergeBreaks true ls) <;> rfl

/-- The text with these characters has relations, and they and its registry pass the test. -/
def check (cs : List Char) (test : Registry → List Relation → Bool) : Bool :=
  match ofChars cs with
  | .error _ => false
  | .ok r =>
    match r.infer with
    | .error _ => false
    | .ok (xs, _) => test r xs

theorem exists_of_check (text : String) (test : Registry → List Relation → Bool) {cs : List Char}
    (ht : text = String.ofList cs) (h : check cs test = true) :
    ∃ r xs r', parse text = .ok r ∧ r.infer = .ok (xs, r') ∧ test r xs = true := by
  subst ht
  rw [parse_ofList]
  rw [check] at h
  split at h
  · cases h
  · next r hr =>
    split at h
    · cases h
    · next xs r' hx => exact ⟨r, xs, r', hr, hx, h⟩

end Registry

end EntityDiagram
