import EntityDiagram.Schema.Token
import EntityDiagram.Schema.Trivia

namespace EntityDiagram

inductive LexError
  | unexpectedChar (c : Char) (line : Nat)
  | unterminatedText (line : Nat)
  | unterminatedComment (line : Nat)
  deriving DecidableEq, Repr

namespace LexError

def message : LexError → String
  | unexpectedChar c line => s!"Unexpected character '{c}' on line {line}"
  | unterminatedText line => s!"Unterminated string starting on line {line}"
  | unterminatedComment line => s!"Unterminated block comment starting on line {line}"

end LexError

/-- The fault of a token that begins on the line. -/
def SpellingFault.onLine (line : Nat) : SpellingFault → LexError
  | .unexpectedChar c => .unexpectedChar c line
  | .unterminatedText => .unterminatedText line

/-- A place in a text: what is left of it, and the line there. -/
structure Scanner where
  rest : List Char
  line : Nat
  /-- A comment went over a line break that no lexeme stands for yet. -/
  breakPending : Bool
  deriving DecidableEq, Repr

namespace Scanner

def ofText (text : String) : Scanner := ⟨text.toList, 1, false⟩

/-- The place after `taken`, which is what stood before `rest`. -/
def advance (s : Scanner) (taken rest : List Char) : Scanner :=
  ⟨rest, s.line + taken.count '\n', s.breakPending⟩

/-- The place after comments and blanks, where a line break in them is pending. -/
def pass (s : Scanner) (taken rest : List Char) : Scanner :=
  { s.advance taken rest with breakPending := s.breakPending || taken.contains '\n' }

def skipTrivia (s : Scanner) : Scanner :=
  s.pass (Trivia.split s.rest).1 (Trivia.split s.rest).2

/-- The lexeme that begins with `c`, where `cs` follows it, and the place after the lexeme. -/
def readToken (s : Scanner) (c : Char) (cs : List Char) : Except LexError Lexeme × Scanner :=
  let (taken, rest) := Token.splitAfter c cs
  (((Token.ofSpelling c taken).map (⟨·, s.line⟩)).mapError (·.onLine s.line),
    s.advance (c :: taken) rest)

/-- The lexeme at a place that no trivia follows, and the place after it. -/
def read (s : Scanner) : Except LexError Lexeme × Scanner :=
  match s.rest with
  | '/' :: '*' :: cs => (.error (.unterminatedComment s.line), s.pass cs [])
  | rest =>
    if s.breakPending then (.ok ⟨.lineBreak, s.line⟩, { s with breakPending := false })
    else
      match rest with
      | [] => (.ok ⟨.endOfText, s.line⟩, s)
      | c :: cs => s.readToken c cs

def next (s : Scanner) : Except LexError Lexeme × Scanner := s.skipTrivia.read

def isEnd : Except LexError Lexeme → Bool
  | .ok l => l.token = .endOfText
  | .error _ => false

/-- How much is left: the characters, and the line break that is pending. -/
def size (s : Scanner) : Nat := s.rest.length + s.breakPending.toNat

theorem toNat_contains_le (cs : List Char) : (cs.contains '\n').toNat ≤ cs.length := by
  cases cs with
  | nil => exact Nat.le_refl _
  | cons c cs =>
    have := Bool.toNat_le ((c :: cs).contains '\n')
    simp only [List.length_cons]
    omega

theorem toNat_or_le (a b : Bool) : (a || b).toNat ≤ a.toNat + b.toNat := by
  cases a <;> cases b <;> decide

theorem size_skipTrivia_le (s : Scanner) : s.skipTrivia.size ≤ s.size := by
  have hs := congrArg List.length (Trivia.split_append s.rest)
  have hc := toNat_contains_le (Trivia.split s.rest).1
  have ho := toNat_or_le s.breakPending ((Trivia.split s.rest).1.contains '\n')
  rw [List.length_append] at hs
  simp only [size, skipTrivia, pass, advance]
  omega

theorem size_read_lt {s : Scanner} (h : isEnd s.read.1 = false) : s.read.2.size < s.size := by
  revert h
  unfold read
  split
  · next cs hr =>
    have hc := toNat_contains_le cs
    have ho := toNat_or_le s.breakPending (cs.contains '\n')
    have hb := Bool.toNat_le (cs.contains '\n')
    simp only [size, pass, advance, hr, List.length_cons, List.length_nil]
    omega
  · next rest hr =>
    split
    · next hp => simp [size, hp]
    · split
      · simp [isEnd]
      · next c cs hr =>
        have hs := congrArg List.length (Token.splitAfter_append c cs)
        rw [List.length_append] at hs
        simp only [size, readToken, advance, hr, List.length_cons]
        omega

/-- Each answer but the end of the text takes something off what is left. -/
theorem size_next_lt {s : Scanner} (h : isEnd s.next.1 = false) : s.next.2.size < s.size :=
  Nat.lt_of_lt_of_le (size_read_lt h) (size_skipTrivia_le s)

/-- The answers from here on, with the first end of the text as the last one. -/
def answers (s : Scanner) : List (Except LexError Lexeme) :=
  match _h : s.next with
  | (answer, s') => if _e : isEnd answer = true then [answer] else answer :: s'.answers
termination_by s.size
decreasing_by
  have := size_next_lt (s := s)
  simp_all

end Scanner

namespace Lexeme

/-- Leaves out the line breaks that follow another one, or that `afterBreak` makes redundant. -/
def mergeBreaks (afterBreak : Bool) : List Lexeme → List Lexeme
  | [] => []
  | l :: ls =>
    if l.token = .lineBreak then
      if afterBreak then mergeBreaks true ls else l :: mergeBreaks true ls
    else l :: mergeBreaks false ls

/--
The lexemes of a text up to its end, or its first error. No line break stands at the start or
after another one.
-/
def ofText (text : String) : Except LexError (List Lexeme) :=
  return mergeBreaks true (← (Scanner.ofText text).answers.mapM id)

end Lexeme

end EntityDiagram
