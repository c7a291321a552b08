import EntityDiagram.Diagram.Build
import EntityDiagram.Proofs.Schema.Document.Lines
import EntityDiagram.Proofs.Schema.Token.Insertion

namespace EntityDiagram

open Trivia Lexeme

def DiagramError.unlined : DiagramError → DiagramError
  | malformed error => .malformed error.unlined
  | invalid error => .invalid error

namespace Diagram

variable {a b p c r : String} {ls : List Lexeme} {s : Scanner}

/-- The diagram of a text, or what it fails with, without the line. -/
def buildUnlined (text : String) (o : Options) : Except DiagramError Diagram :=
  (build text o).mapError DiagramError.unlined

theorem buildUnlined_eq (text : String) (o : Options) :
    buildUnlined text o =
      match Registry.parseUnlined text with
      | .error e => .error (.malformed e)
      | .ok r =>
        match r.infer with
        | .error e => .error (.invalid e)
        | .ok (relations, r) => .ok (ofRegistry r relations o) := by
  rw [buildUnlined, build, Registry.parseUnlined]
  cases Registry.parse text with
  | error e => rfl
  | ok r =>
    simp only [Except.mapError]
    cases r.infer <;> rfl

/-- Texts with the same lexemes but for their lines have the same diagram, or fail alike. -/
theorem buildUnlined_of_ofTextUnlined (h : ofTextUnlined a = ofTextUnlined b) (o : Options) :
    buildUnlined a o = buildUnlined b o := by
  rw [buildUnlined_eq, buildUnlined_eq, Registry.parseUnlined_eq, Registry.parseUnlined_eq,
    Document.parseUnlined_eq, Document.parseUnlined_eq, h]

theorem build_of_ofText (h : ofText a = ofText b) (o : Options) : build a o = build b o := by
  rw [build, build, Registry.parse, Registry.parse, Document.parse, Document.parse, h]

/--
A filler is put in behind the text `p` that calls have taken. Without line feeds it changes nothing.
With them it changes lines only, if the last call gave a line break or there was none. There is one
more condition: when `p` ends within a comment that began with `//`, the first line feed of the
filler ends that comment, and what is behind it must be a gap again.
-/
theorem build_filled (h : Scanner.Calls (.ofText (p ++ r)) ls s) (hr : s.rest = r.toList)
    (hc : IsFiller c.toList) :
    ('\n' ∉ c.toList → ofText (p ++ c ++ r) = ofText (p ++ r) ∧
      Document.parse (p ++ c ++ r) = Document.parse (p ++ r) ∧
      ∀ o, build (p ++ c ++ r) o = build (p ++ r) o) ∧
    ((∀ l ∈ ls.getLast?, l.token = .lineBreak) →
      (Scanner.EndsInComment (.ofText (p ++ r)) r.toList →
        IsGap r.toList (Scanner.behindLineFeed c.toList)) →
      ofTextUnlined (p ++ c ++ r) = ofTextUnlined (p ++ r) ∧
      ∀ o, buildUnlined (p ++ c ++ r) o = buildUnlined (p ++ r) o) := by
  have hplace (text : String) : Scanner.ofText text = .place [] text.toList false := rfl
  have htext : (p ++ r).toList = p.toList ++ r.toList := String.toList_append
  have hfilled : (p ++ c ++ r).toList = p.toList ++ (c.toList ++ r.toList) := by simp
  obtain ⟨q, hq, htakes⟩ := Scanner.takes_of_calls h (hplace _)
  rw [hr] at hq htakes
  rw [htext] at hq
  obtain rfl := List.append_cancel_right hq
  constructor
  · intro hn
    have hlexemes : ofText (p ++ c ++ r) = ofText (p ++ r) := by
      rw [ofText, ofText, hplace, hplace, hfilled, htext, Scanner.answers_insert htakes hc hn]
    refine ⟨hlexemes, ?_, build_of_ofText hlexemes⟩
    rw [Document.parse, Document.parse, hlexemes]
  · intro hlast hseam
    have hbroken : Scanner.endsBroken true ls = true := by
      rw [Scanner.endsBroken_eq]
      cases hl : ls.getLast? with
      | none => rfl
      | some l => simpa using hlast l hl
    rw [hplace, htext] at hseam
    have hlexemes : ofTextUnlined (p ++ c ++ r) = ofTextUnlined (p ++ r) := by
      rw [Scanner.ofTextUnlined_eq, Scanner.ofTextUnlined_eq, hplace, hplace, hfilled, htext,
        Scanner.unlined_insert htakes hc hbroken hseam]
    exact ⟨hlexemes, buildUnlined_of_ofTextUnlined hlexemes⟩

/-- A model up to a comment that began with `//` behind a line feed in another comment. -/
def headText : String := "model A \x7b\n  id Int /*\n  */ // key"

def tailText : String := "\n\x7d"

def headLexemes : List Lexeme :=
  [⟨.word "model", 1⟩, ⟨.word "A", 1⟩, ⟨.leftBrace, 1⟩, ⟨.lineBreak, 1⟩, ⟨.word "id", 2⟩,
    ⟨.word "Int", 2⟩, ⟨.lineBreak, 3⟩]

set_option maxRecDepth 10000 in
theorem calls_headText :
    Scanner.Calls (.ofText (headText ++ tailText)) headLexemes ⟨tailText.toList, 3, false⟩ := by
  decide +kernel

set_option maxRecDepth 10000 in
theorem endsInComment_headText :
    Scanner.EndsInComment (.ofText (headText ++ tailText)) tailText.toList := by
  have hfeed : IsBody "\n  ".toList := by decide
  have hclosed (rest : List Char) : IsTrivia rest " /*\n  */ ".toList :=
    .blank (by decide) (by decide) (.block hfeed (.blank (by decide) (by decide) .nil))
  refine ⟨headLexemes.dropLast, ⟨" /*\n  */ // key\n\x7d".toList, 2, false⟩, _, " key".toList,
    ?_, ?_, hclosed, by decide⟩
  · decide +kernel
  · decide

theorem isFiller_line : IsFiller "// key\n".toList := by
  have hbody : '\n' ∉ " key".toList := by decide
  exact .line hbody .nil

/-- Further comments on the line, or up to lines of their own, leave the model as it is. -/
theorem build_filled_head :
    Scanner.Calls (.ofText (headText ++ tailText)) headLexemes ⟨tailText.toList, 3, false⟩ ∧
    Scanner.EndsInComment (.ofText (headText ++ tailText)) tailText.toList ∧
    IsFiller " /* id */".toList ∧ IsFiller "/* of A */\n// key\n".toList ∧
    ofText (headText ++ " /* id */" ++ tailText) = ofText (headText ++ tailText) ∧
    ofTextUnlined (headText ++ "/* of A */\n// key\n" ++ tailText) =
      ofTextUnlined (headText ++ tailText) := by
  have hid : IsBody " id ".toList := by decide
  have hmodel : IsBody " of A ".toList := by decide
  have hblock : IsFiller " /* id */".toList := .blank (by decide) (.block hid .nil)
  have hlines : IsFiller "/* of A */\n// key\n".toList :=
    .block hmodel (.blank (by decide) isFiller_line)
  have hgap : IsGap tailText.toList (Scanner.behindLineFeed "/* of A */\n// key\n".toList) :=
    isFiller_line.isGap _
  have hsame := (build_filled calls_headText rfl hblock).1 (by decide)
  have hunlined := (build_filled calls_headText rfl hlines).2 (by decide) (fun _ => hgap)
  exact ⟨calls_headText, endsInComment_headText, hblock, hlines, hsame.1, hunlined.1⟩

set_option maxRecDepth 10000 in
/-- A line feed within a comment ends the comment before it, and what follows is text. -/
theorem ofTextUnlined_brokenComment :
    Scanner.Calls (.ofText (headText ++ tailText)) headLexemes ⟨tailText.toList, 3, false⟩ ∧
    (∀ l ∈ headLexemes.getLast?, l.token = .lineBreak) ∧ IsFiller "/*\n*/".toList ∧
    ofTextUnlined (headText ++ "/*\n*/" ++ tailText) = .error (.unexpectedChar '*' 0) ∧
    ofTextUnlined (headText ++ "/*\n*/" ++ tailText) ≠ ofTextUnlined (headText ++ tailText) := by
  have hbody : IsBody ['\n'] := by decide
  have herror : ofTextUnlined (headText ++ "/*\n*/" ++ tailText) =
      .error (.unexpectedChar '*' 0) := by decide +kernel
  have hok : (ofTextUnlined (headText ++ tailText)).isOk = true := by decide +kernel
  refine ⟨calls_headText, by decide, .block hbody .nil, herror, ?_⟩
  intro h
  rw [← h, herror] at hok
  cases hok

end Diagram

end EntityDiagram
