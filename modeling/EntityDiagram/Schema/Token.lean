import EntityDiagram.Text.Alphabetic
import EntityDiagram.Text.Quoted

namespace EntityDiagram

inductive Token
  | word (name : String)
  | text (content : String)
  | number (digits : String)
  | leftBrace
  | rightBrace
  | leftParen
  | rightParen
  | leftBracket
  | rightBracket
  | comma
  | colon
  | equals
  | atSign
  | doubleAtSign
  | dot
  | question
  | lineBreak
  | endOfText
  deriving DecidableEq, Repr

/-- A token and the line that it begins on, counted from 1. -/
structure Lexeme where
  token : Token
  line : Nat
  deriving DecidableEq, Repr

inductive SpellingFault
  | unexpectedChar (c : Char)
  | unterminatedText
  deriving DecidableEq, Repr

namespace Token

def isNumberRest (c : Char) : Bool := c.isDigit || c = '.'

/-- The mark that the character is by itself. -/
def mark? : Char → Option Token
  | '\n' => some .lineBreak
  | '{' => some .leftBrace
  | '}' => some .rightBrace
  | '(' => some .leftParen
  | ')' => some .rightParen
  | '[' => some .leftBracket
  | ']' => some .rightBracket
  | ',' => some .comma
  | ':' => some .colon
  | '=' => some .equals
  | '@' => some .atSign
  | '.' => some .dot
  | '?' => some .question
  | _ => none

/-- Splits what follows `c` after the end of the token that begins with `c`. -/
def splitAfter (c : Char) (cs : List Char) : List Char × List Char :=
  if c = '"' then Text.splitQuoted cs
  else if c = '@' ∧ cs.head? = some '@' then (['@'], cs.tail)
  else if c.isDigit ∨ (c = '-' ∧ cs.head?.any Char.isDigit) then
    (cs.takeWhile isNumberRest, cs.dropWhile isNumberRest)
  else if Text.isWordStart c then
    (cs.takeWhile Text.isWordRest, cs.dropWhile Text.isWordRest)
  else ([], cs)

/-- The spelling of the first token of a text, and the text after it. -/
def split : List Char → List Char × List Char
  | [] => ([], [])
  | c :: cs => (splitAfter c cs).map (c :: ·) id

def ofSpelling (c : Char) (cs : List Char) : Except SpellingFault Token :=
  if c = '"' then
    match Text.unquote? cs with
    | some content => .ok (.text (String.ofList content))
    | none => .error .unterminatedText
  else if c = '@' ∧ cs = ['@'] then .ok .doubleAtSign
  else if c.isDigit ∨ (c = '-' ∧ cs ≠ []) then .ok (.number (String.ofList (c :: cs)))
  else if Text.isWordStart c then .ok (.word (String.ofList (c :: cs)))
  else
    match mark? c with
    | some t => .ok t
    | none => .error (.unexpectedChar c)

/-- The name of the token in messages, with its text in quotes. -/
def describe : Token → String
  | word name => "Ident(" ++ Text.quoted name ++ ")"
  | text content => "Str(" ++ Text.quoted content ++ ")"
  | number digits => "Num(" ++ Text.quoted digits ++ ")"
  | leftBrace => "LBrace"
  | rightBrace => "RBrace"
  | leftParen => "LParen"
  | rightParen => "RParen"
  | leftBracket => "LBracket"
  | rightBracket => "RBracket"
  | comma => "Comma"
  | colon => "Colon"
  | equals => "Eq"
  | atSign => "At"
  | doubleAtSign => "AtAt"
  | dot => "Dot"
  | question => "Question"
  | lineBreak => "Newline"
  | endOfText => "Eof"

theorem splitAfter_append (c : Char) (cs : List Char) :
    (splitAfter c cs).1 ++ (splitAfter c cs).2 = cs := by
  unfold splitAfter
  split
  · exact Text.splitQuoted_append cs
  · split
    · next h =>
      obtain ⟨_, h⟩ := h
      cases cs with
      | nil => simp at h
      | cons d ds => simp_all
    · split
      · exact List.takeWhile_append_dropWhile
      · split
        · exact List.takeWhile_append_dropWhile
        · rfl

theorem split_append (cs : List Char) : (split cs).1 ++ (split cs).2 = cs := by
  cases cs with
  | nil => rfl
  | cons c cs => simp [split, splitAfter_append]

end Token

end EntityDiagram
