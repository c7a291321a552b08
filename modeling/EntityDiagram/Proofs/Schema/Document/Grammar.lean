import EntityDiagram.Schema.Document
import EntityDiagram.Schema.Token

namespace EntityDiagram

namespace Grammar

variable {α : Type}

inductive Breaks : List Lexeme → List Lexeme → Prop
  | none {rest} : Breaks rest rest
  | more {i ls rest} (h : Breaks ls rest) : Breaks (⟨.lineBreak, i⟩ :: ls) rest

/--
The rest of a list after its opening bracket: things with commas between them, perhaps one after
the last, and line breaks around each of them.
-/
inductive Listed (close : Token) (P : List Lexeme → α → List Lexeme → Prop) :
    List Lexeme → List α → List Lexeme → Prop
  | close {i ls rest} (hb : Breaks ls (⟨close, i⟩ :: rest)) : Listed close P ls [] rest
  | last {i ls ms ns rest x} (hb : Breaks ls ms) (hx : P ms x ns)
      (hc : Breaks ns (⟨close, i⟩ :: rest)) : Listed close P ls [x] rest
  | more {i ls ms ns os rest x xs} (hb : Breaks ls ms) (hx : P ms x ns)
      (hc : Breaks ns (⟨.comma, i⟩ :: os)) (h : Listed close P os xs rest) :
      Listed close P ls (x :: xs) rest

/--
The rest of a block after its opening brace: things that line breaks end, of which the last may
end at the closing brace.
-/
inductive Body (P : List Lexeme → α → List Lexeme → Prop) :
    List Lexeme → List α → List Lexeme → Prop
  | close {i ls rest} (hb : Breaks ls (⟨.rightBrace, i⟩ :: rest)) : Body P ls [] rest
  | last {i ls ms rest x} (hb : Breaks ls ms) (hx : P ms x (⟨.rightBrace, i⟩ :: rest)) :
      Body P ls [x] rest
  | more {i ls ms ns rest x xs} (hb : Breaks ls ms) (hx : P ms x (⟨.lineBreak, i⟩ :: ns))
      (h : Body P ns xs rest) : Body P ls (x :: xs) rest

inductive Many (P : List Lexeme → α → List Lexeme → Prop) :
    List Lexeme → List α → List Lexeme → Prop
  | nil {rest} : Many P rest [] rest
  | cons {ls ms rest x xs} (hx : P ls x ms) (h : Many P ms xs rest) : Many P ls (x :: xs) rest

/-- Lexemes in which each opening brace has its closing one. -/
inductive Balanced : List Lexeme → List Lexeme → Prop
  | nil {rest} : Balanced rest rest
  | other {l ls rest} (ho : l.token ≠ .leftBrace) (hc : l.token ≠ .rightBrace)
      (h : Balanced ls rest) : Balanced (l :: ls) rest
  | braces {i j ls ms rest} (hi : Balanced ls (⟨.rightBrace, j⟩ :: ms)) (h : Balanced ms rest) :
      Balanced (⟨.leftBrace, i⟩ :: ls) rest

/-- A value, or a label with a colon and a value. -/
inductive Argument (P : List Lexeme → Expr → List Lexeme → Prop) :
    List Lexeme → Arg → List Lexeme → Prop
  | plain {ls e rest} (h : P ls e rest) : Argument P ls ⟨none, e⟩ rest
  | labelled {label i j ls e rest} (h : P ls e rest) :
      Argument P (⟨.word label, i⟩ :: ⟨.colon, j⟩ :: ls) ⟨some label, e⟩ rest

end Grammar

open Grammar

/-- As in all rules, the lexemes begin with a way to write the value, and `rest` is behind it. -/
inductive Expr.Written : List Lexeme → Expr → List Lexeme → Prop
  | ident {name i rest} : Written (⟨.word name, i⟩ :: rest) (.ident name) rest
  | text {content i rest} : Written (⟨.text content, i⟩ :: rest) (.text content) rest
  | number {digits i rest} : Written (⟨.number digits, i⟩ :: rest) (.number digits) rest
  | array {i ls items rest} (h : Listed .rightBracket Written ls items rest) :
      Written (⟨.leftBracket, i⟩ :: ls) (.array items) rest
  | call {name i j ls args rest} (h : Listed .rightParen (Argument Written) ls args rest) :
      Written (⟨.word name, i⟩ :: ⟨.leftParen, j⟩ :: ls) (.call name args) rest

namespace Grammar

inductive Arguments : List Lexeme → Option (List Arg) → List Lexeme → Prop
  | none {rest} : Arguments rest none rest
  | some {i ls args rest} (h : Listed .rightParen (Argument Expr.Written) ls args rest) :
      Arguments (⟨.leftParen, i⟩ :: ls) (some args) rest

/-- The rest of a path after a part of it: words with dots before them. -/
inductive Path : String → List Lexeme → String → List Lexeme → Prop
  | last {name rest} : Path name rest name rest
  | dot {name part path i j ls rest} (h : Path (name ++ "." ++ part) ls path rest) :
      Path name (⟨.dot, i⟩ :: ⟨.word part, j⟩ :: ls) path rest

end Grammar

/-- The token before the name of an attribute. -/
def Scope.sign : Scope → Token
  | .field => .atSign
  | .block => .doubleAtSign

inductive Attribute.Written (scope : Scope) : List Lexeme → Attribute → List Lexeme → Prop
  | mk {name path args i j ls ms rest} (hp : Path name ls path ms) (ha : Arguments ms args rest) :
      Written scope (⟨scope.sign, i⟩ :: ⟨.word name, j⟩ :: ls) ⟨scope, path, args⟩ rest

inductive Modifier.Written : List Lexeme → Modifier → List Lexeme → Prop
  | required {rest} : Written rest .required rest
  | optional {i rest} : Written (⟨.question, i⟩ :: rest) .optional rest
  | list {i j rest} : Written (⟨.leftBracket, i⟩ :: ⟨.rightBracket, j⟩ :: rest) .list rest

/-- The arguments of a type are not kept. -/
inductive FieldDecl.Written : List Lexeme → FieldDecl → List Lexeme → Prop
  | mk {name line type j args modifier attributes ls ms ns rest} (ht : Arguments ls args ms)
      (hm : modifier.Written ms ns) (ha : Many (Attribute.Written .field) ns attributes rest) :
      Written (⟨.word name, line⟩ :: ⟨.word type, j⟩ :: ls)
        ⟨name, ⟨type, modifier⟩, attributes, line⟩ rest

inductive Member.Written : List Lexeme → Member → List Lexeme → Prop
  | field {ls f rest} (h : FieldDecl.Written ls f rest) : Written ls (.field f) rest
  | blockAttribute {ls a rest} (h : Attribute.Written .block ls a rest) :
      Written ls (.blockAttribute a) rest

inductive Grammar.Entry : List Lexeme → String × Expr → List Lexeme → Prop
  | mk {key e i j ls rest} (h : e.Written ls rest) :
      Entry (⟨.word key, i⟩ :: ⟨.equals, j⟩ :: ls) (key, e) rest

inductive Block.Written : List Lexeme → Block → List Lexeme → Prop
  | model {name members line i j ls rest} (h : Body Member.Written ls members rest) :
      Written (⟨.word "model", i⟩ :: ⟨.word name, line⟩ :: ⟨.leftBrace, j⟩ :: ls)
        (.model ⟨name, line, members⟩) rest
  | source {name entries i j k ls rest} (h : Body Entry ls entries rest) :
      Written (⟨.word "datasource", i⟩ :: ⟨.word name, j⟩ :: ⟨.leftBrace, k⟩ :: ls)
        (.source ⟨name, entries⟩) rest
  | other {keyword name i j k m ls rest} (hm : keyword ≠ "model") (hs : keyword ≠ "datasource")
      (h : Balanced ls (⟨.rightBrace, m⟩ :: rest)) :
      Written (⟨.word keyword, i⟩ :: ⟨.word name, j⟩ :: ⟨.leftBrace, k⟩ :: ls)
        (.other keyword name) rest

/-- Blocks up to the end, with any line breaks around them. -/
inductive Grammar.Blocks : List Lexeme → List Block → Prop
  | done {ls} (hb : Breaks ls []) : Blocks ls []
  | block {ls ms ns b bs} (hb : Breaks ls ms) (h : b.Written ms ns) (hs : Blocks ns bs) :
      Blocks ls (b :: bs)

/-- The lexemes, all of them, are a way to write the document. -/
def Document.Written (d : Document) (ls : List Lexeme) : Prop := Blocks ls d.blocks

end EntityDiagram
