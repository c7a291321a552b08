import EntityDiagram.Schema.Document
import EntityDiagram.Schema.Token.Scanner

namespace EntityDiagram

/-- What a reader asks for when a token does not fit. -/
inductive Expected
  | declaration
  | identifier
  | leftBrace
  | rightBracket
  | equals
  | fieldType
  | lineEnd
  | value
  | itemEnd
  | argEnd
  deriving DecidableEq, Repr

def Expected.describe : Expected → String
  | declaration => "model, datasource, or another block declaration"
  | identifier => "identifier"
  | leftBrace => "'\x7b'"
  | rightBracket => "']'"
  | equals => "'='"
  | fieldType => "field type"
  | lineEnd => "end of line"
  | value => "attribute argument"
  | itemEnd => "',' or ']'"
  | argEnd => "',' or ')'"

inductive SyntaxError
  | lex (error : LexError)
  | unexpected (found : Token) (line : Nat) (expected : Expected)
  | unexpectedEnd
  | missingType (field : String) (line : Nat)
  deriving DecidableEq, Repr

def SyntaxError.message : SyntaxError → String
  | lex error => "Lex error: " ++ error.message
  | unexpected found line expected =>
    s!"Unexpected token {found.describe} on line {line}, expected {expected.describe}"
  | unexpectedEnd => "Unexpected end of input"
  | missingType field line => s!"Field '{field}' on line {line} is missing its type"

namespace Reader

/-- A model whose body is being read, after the blocks before it. -/
structure OpenModel where
  before : List Block
  decl : ModelDecl

structure OpenField where
  model : OpenModel
  decl : FieldDecl

/-- A data source whose body is being read, after the blocks before it. -/
structure OpenSource where
  before : List Block
  decl : SourceDecl

/-- What attributes may be added to: a field being read, or the model itself. -/
inductive Owner
  | field (field : OpenField)
  | model (model : OpenModel)

/-- The place of an expression; as expressions nest, it keeps the places around it. -/
inductive Slot
  | entry (source : OpenSource) (key : String)
  | typeArg (field : OpenField) (label : Option String)
  | attributeArg (owner : Owner) (name : String) (args : List Arg) (label : Option String)
  | item (items : List Expr) (outer : Slot)
  | callArg (name : String) (args : List Arg) (label : Option String) (outer : Slot)

/-- What an expression has become part of. -/
inductive Filled
  | entry (source : OpenSource)
  | list (slot : Slot)

/-- What has been read, and what may come next. -/
inductive State
  /-- A declaration or the end. -/
  | top (blocks : List Block)
  | otherName (before : List Block) (keyword : String)
  | otherOpen (before : List Block) (keyword name : String)
  /-- Inside a skipped block, with `depth` more braces open than its own. -/
  | otherBody (before : List Block) (keyword name : String) (depth : Nat)
  | modelName (before : List Block)
  | modelOpen (before : List Block) (name : String) (line : Nat)
  | members (model : OpenModel)
  | fieldType (model : OpenModel) (name : String) (line : Nat)
  /-- After the name of a type, before its arguments. -/
  | typeArgs (field : OpenField)
  | modifier (field : OpenField)
  /-- After the `[` of a list type. -/
  | listEnd (field : OpenField)
  /-- Where another attribute or the end of the member may come. -/
  | declared (owner : Owner)
  | attributeName (owner : Owner)
  /-- After a name of an attribute's path. -/
  | attributeArgs (owner : Owner) (name : String)
  /-- After a dot of an attribute's path. -/
  | attributePath (owner : Owner) (name : String)
  | sourceName (before : List Block)
  | sourceOpen (before : List Block) (name : String)
  | entries (source : OpenSource)
  | entryEquals (source : OpenSource) (key : String)
  /-- At the place of an expression, or behind the last one of a list. -/
  | slot (slot : Slot)
  /-- After an identifier at the place of an expression. -/
  | ident (name : String) (slot : Slot)
  /-- After an expression. -/
  | filled (filled : Filled)

namespace OpenModel

def close (m : OpenModel) : State := .top (m.before ++ [.model m.decl])

def add (m : OpenModel) (x : Member) : OpenModel :=
  { m with decl := { m.decl with members := m.decl.members ++ [x] } }

end OpenModel

namespace OpenField

/-- The model with the field as its last member. -/
def close (f : OpenField) : OpenModel := f.model.add (.field f.decl)

def setModifier (f : OpenField) (modifier : Modifier) : OpenField :=
  { f with decl := { f.decl with type := { f.decl.type with modifier } } }

def add (f : OpenField) (a : Attribute) : OpenField :=
  { f with decl := { f.decl with attributes := f.decl.attributes ++ [a] } }

end OpenField

namespace OpenSource

def close (s : OpenSource) : State := .top (s.before ++ [.source s.decl])

def add (s : OpenSource) (key : String) (value : Expr) : OpenSource :=
  { s with decl := { s.decl with entries := s.decl.entries ++ [(key, value)] } }

end OpenSource

namespace Owner

def add (o : Owner) (name : String) (args : Option (List Arg)) : Owner :=
  match o with
  | field f => .field (f.add ⟨.field, name, args⟩)
  | model m => .model (m.add (.blockAttribute ⟨.block, name, args⟩))

end Owner

namespace Slot

def fill : Slot → Expr → Filled
  | entry s key, e => .entry (s.add key e)
  | typeArg f _, _ => .list (.typeArg f none)
  | attributeArg o name args label, e => .list (.attributeArg o name (args ++ [⟨label, e⟩]) none)
  | item items outer, e => .list (.item (items ++ [e]) outer)
  | callArg name args label outer, e => .list (.callArg name (args ++ [⟨label, e⟩]) none outer)

/-- The state after the token that closes the list of the place; no label may be waiting. -/
def close? : Slot → Token → Option State
  | typeArg f none, .rightParen => some (.modifier f)
  | attributeArg o name args none, .rightParen => some (.declared (o.add name (some args)))
  | item items outer, .rightBracket => some (.filled (outer.fill (.array items)))
  | callArg name args none outer, .rightParen => some (.filled (outer.fill (.call name args)))
  | _, _ => none

/-- The place behind a label, which only an argument can have, and only once. -/
def label? : Slot → String → Option Slot
  | typeArg f none, l => some (.typeArg f (some l))
  | attributeArg o name args none, l => some (.attributeArg o name args (some l))
  | callArg name args none outer, l => some (.callArg name args (some l) outer)
  | _, _ => none

def allowsBreak : Slot → Bool
  | entry _ _ => false
  | item _ _ => true
  | typeArg _ label | attributeArg _ _ _ label | callArg _ _ label _ => label.isNone

def expectedEnd : Slot → Expected
  | item _ _ => .itemEnd
  | _ => .argEnd

end Slot

def unexpected (l : Lexeme) (expected : Expected) : Except SyntaxError State :=
  .error (.unexpected l.token l.line expected)

/-- After a member: the end of its line, or of the model. -/
def endMember (m : OpenModel) (l : Lexeme) : Except SyntaxError State :=
  match l.token with
  | .lineBreak => .ok (.members m)
  | .rightBrace => .ok m.close
  | _ => unexpected l .lineEnd

/-- After a type or an attribute: an attribute of the field, or the end of the member. -/
def endDeclared (o : Owner) (l : Lexeme) : Except SyntaxError State :=
  match o with
  | .model m => endMember m l
  | .field f => if l.token = .atSign then .ok (.attributeName (.field f)) else endMember f.close l

/-- After a type's name and arguments: its modifier, or what may follow a type. -/
def modify (f : OpenField) (l : Lexeme) : Except SyntaxError State :=
  match l.token with
  | .question => .ok (.declared (.field (f.setModifier .optional)))
  | .leftBracket => .ok (.listEnd f)
  | _ => endDeclared (.field f) l

/-- After an expression: the end of the setting, the next place of the list, or the list's end. -/
def endValue (filled : Filled) (l : Lexeme) : Except SyntaxError State :=
  match filled, l.token with
  | .entry s, .lineBreak => .ok (.entries s)
  | .entry s, .rightBrace => .ok s.close
  | .entry _, _ => unexpected l .lineEnd
  | .list s, .lineBreak => .ok (.filled (.list s))
  | .list s, .comma => .ok (.slot s)
  | .list s, t =>
    match s.close? t with
    | some state => .ok state
    | none => unexpected l s.expectedEnd

/-- The state after the lexeme, which is not the end of the text. -/
def step : State → Lexeme → Except SyntaxError State
  | .top blocks, l =>
    match l.token with
    | .lineBreak => .ok (.top blocks)
    | .word name =>
      if name = "model" then .ok (.modelName blocks)
      else if name = "datasource" then .ok (.sourceName blocks)
      else .ok (.otherName blocks name)
    | _ => unexpected l .declaration
  | .otherName before keyword, l =>
    match l.token with
    | .word name => .ok (.otherOpen before keyword name)
    | _ => unexpected l .identifier
  | .otherOpen before keyword name, l =>
    match l.token with
    | .leftBrace => .ok (.otherBody before keyword name 0)
    | _ => unexpected l .leftBrace
  | .otherBody before keyword name depth, l =>
    match l.token, depth with
    | .leftBrace, _ => .ok (.otherBody before keyword name (depth + 1))
    | .rightBrace, 0 => .ok (.top (before ++ [.other keyword name]))
    | .rightBrace, depth + 1 => .ok (.otherBody before keyword name depth)
    | _, _ => .ok (.otherBody before keyword name depth)
  | .modelName before, l =>
    match l.token with
    | .word name => .ok (.modelOpen before name l.line)
    | _ => unexpected l .identifier
  | .modelOpen before name line, l =>
    match l.token with
    | .leftBrace => .ok (.members ⟨before, ⟨name, line, []⟩⟩)
    | _ => unexpected l .leftBrace
  | .members m, l =>
    match l.token with
    | .lineBreak => .ok (.members m)
    | .rightBrace => .ok m.close
    | .doubleAtSign => .ok (.attributeName (.model m))
    | .word name => .ok (.fieldType m name l.line)
    | _ => unexpected l .identifier
  | .fieldType m name line, l =>
    match l.token with
    | .word type => .ok (.typeArgs ⟨m, ⟨name, ⟨type, .required⟩, [], line⟩⟩)
    | .lineBreak | .rightBrace | .atSign => .error (.missingType name line)
    | _ => unexpected l .fieldType
  | .typeArgs f, l =>
    match l.token with
    | .leftParen => .ok (.slot (.typeArg f none))
    | _ => modify f l
  | .modifier f, l => modify f l
  | .listEnd f, l =>
    match l.token with
    | .rightBracket => .ok (.declared (.field (f.setModifier .list)))
    | _ => unexpected l .rightBracket
  | .declared o, l => endDeclared o l
  | .attributeName o, l =>
    match l.token with
    | .word name => .ok (.attributeArgs o name)
    | _ => unexpected l .identifier
  | .attributeArgs o name, l =>
    match l.token with
    | .dot => .ok (.attributePath o name)
    | .leftParen => .ok (.slot (.attributeArg o name [] none))
    | _ => endDeclared (o.add name none) l
  | .attributePath o name, l =>
    match l.token with
    | .word part => .ok (.attributeArgs o (name ++ "." ++ part))
    | _ => unexpected l .identifier
  | .sourceName before, l =>
    match l.token with
    | .word name => .ok (.sourceOpen before name)
    | _ => unexpected l .identifier
  | .sourceOpen before name, l =>
    match l.token with
    | .leftBrace => .ok (.entries ⟨before, ⟨name, []⟩⟩)
    | _ => unexpected l .leftBrace
  | .entries s, l =>
    match l.token with
    | .lineBreak => .ok (.entries s)
    | .rightBrace => .ok s.close
    | .word key => .ok (.entryEquals s key)
    | _ => unexpected l .identifier
  | .entryEquals s key, l =>
    match l.token with
    | .equals => .ok (.slot (.entry s key))
    | _ => unexpected l .equals
  | .slot s, l =>
    match l.token with
    | .lineBreak => if s.allowsBreak then .ok (.slot s) else unexpected l .value
    | .word name => .ok (.ident name s)
    | .text content => .ok (.filled (s.fill (.text content)))
    | .number digits => .ok (.filled (s.fill (.number digits)))
    | .leftBracket => .ok (.slot (.item [] s))
    | t =>
      match s.close? t with
      | some state => .ok state
      | none => unexpected l .value
  | .ident name s, l =>
    match l.token, s.label? name with
    | .leftParen, _ => .ok (.slot (.callArg name [] none s))
    | .colon, some labelled => .ok (.slot labelled)
    | _, _ => endValue (s.fill (.ident name)) l
  | .filled filled, l => endValue filled l

/-- What the end of the text means: a document where a declaration may begin, else an error. -/
def finish : State → Except SyntaxError Document
  | .top blocks => .ok ⟨blocks⟩
  | .fieldType _ name line => .error (.missingType name line)
  | _ => .error .unexpectedEnd

/-- The document whose lexemes, up to the first end of the text, follow the state. -/
def run : State → List Lexeme → Except SyntaxError Document
  | state, [] => finish state
  | state, l :: ls =>
    if l.token = .endOfText then finish state
    else
      match step state l with
      | .ok state => run state ls
      | .error e => .error e

end Reader

namespace Document

def ofLexemes (ls : List Lexeme) : Except SyntaxError Document := Reader.run (.top []) ls

def parse (text : String) : Except SyntaxError Document :=
  match Lexeme.ofText text with
  | .ok ls => ofLexemes ls
  | .error e => .error (.lex e)

end Document

end EntityDiagram
