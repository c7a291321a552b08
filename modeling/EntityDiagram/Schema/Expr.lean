import EntityDiagram.Text.Quoted

namespace EntityDiagram

/-- A value that may stand behind a label. -/
structure Labelled (α : Type) where
  label : Option String
  value : α
  deriving DecidableEq, Repr, Inhabited

inductive Expr
  | ident (name : String)
  | text (content : String)
  | number (digits : String)
  | array (items : List Expr)
  | call (name : String) (args : List (Labelled Expr))
  deriving Repr, Inhabited

/-- An argument of a call or of an attribute. -/
abbrev Arg := Labelled Expr

namespace Expr

mutual

def decEq : (a b : Expr) → Decidable (a = b)
  | ident x, ident y => if h : x = y then isTrue (by rw [h]) else isFalse (by simp [h])
  | text x, text y => if h : x = y then isTrue (by rw [h]) else isFalse (by simp [h])
  | number x, number y => if h : x = y then isTrue (by rw [h]) else isFalse (by simp [h])
  | array xs, array ys =>
    match decEqItems xs ys with
    | isTrue h => isTrue (by rw [h])
    | isFalse h => isFalse (by simp [h])
  | call f xs, call g ys =>
    match decEqArgs xs ys with
    | isTrue h => if hf : f = g then isTrue (by rw [hf, h]) else isFalse (by simp [hf])
    | isFalse h => isFalse (by simp [h])
  | ident _, text _ | ident _, number _ | ident _, array _ | ident _, call _ _ => isFalse nofun
  | text _, ident _ | text _, number _ | text _, array _ | text _, call _ _ => isFalse nofun
  | number _, ident _ | number _, text _ | number _, array _ | number _, call _ _ => isFalse nofun
  | array _, ident _ | array _, text _ | array _, number _ | array _, call _ _ => isFalse nofun
  | call _ _, ident _ | call _ _, text _ | call _ _, number _ | call _ _, array _ => isFalse nofun

def decEqItems : (xs ys : List Expr) → Decidable (xs = ys)
  | [], [] => isTrue rfl
  | [], _ :: _ | _ :: _, [] => isFalse nofun
  | x :: xs, y :: ys =>
    match decEq x y, decEqItems xs ys with
    | isTrue hx, isTrue hs => isTrue (by rw [hx, hs])
    | isFalse hx, _ => isFalse (by simp [hx])
    | _, isFalse hs => isFalse (by simp [hs])

def decEqArgs : (xs ys : List (Labelled Expr)) → Decidable (xs = ys)
  | [], [] => isTrue rfl
  | [], _ :: _ | _ :: _, [] => isFalse nofun
  | ⟨l, x⟩ :: xs, ⟨m, y⟩ :: ys =>
    match decEq x y, decEqArgs xs ys with
    | isTrue hx, isTrue hs =>
      if h : l = m then isTrue (by rw [h, hx, hs]) else isFalse (by simp [h])
    | isFalse hx, _ => isFalse (by simp [hx])
    | _, isFalse hs => isFalse (by simp [hs])

end

instance : DecidableEq Expr := decEq

def asText? : Expr → Option String
  | text content => some content
  | _ => none

def asIdent? : Expr → Option String
  | ident name => some name
  | _ => none

/-- The identifiers of an array; an identifier by itself is a list of one. -/
def idents : Expr → List String
  | array items => items.filterMap asIdent?
  | ident name => [name]
  | _ => []

mutual

/-- The text of an expression, with one space after each comma and colon. -/
def render : Expr → String
  | ident name => name
  | text content => Text.quoted content
  | number digits => digits
  | array items => "[" ++ renderItems items ++ "]"
  | call name args => name ++ "(" ++ renderArgs args ++ ")"

def renderItems : List Expr → String
  | [] => ""
  | [e] => e.render
  | e :: es => e.render ++ ", " ++ renderItems es

def renderArgs : List (Labelled Expr) → String
  | [] => ""
  | [⟨label, value⟩] => (label.elim "" (· ++ ": ")) ++ value.render
  | ⟨label, value⟩ :: as => (label.elim "" (· ++ ": ")) ++ value.render ++ ", " ++ renderArgs as

end

end Expr

/-- Whether an attribute belongs to a field or to the whole block. -/
inductive Scope
  | field
  | block
  deriving DecidableEq, Repr

structure Attribute where
  scope : Scope
  /-- A name, or several with dots between them. -/
  name : String
  /-- The arguments, when there are parentheses. -/
  args : Option (List Arg)
  deriving DecidableEq, Repr

namespace Attribute

/-- The argument at a place among those without a label. -/
def positional? (a : Attribute) (index : Nat) : Option Expr :=
  ((a.args.getD []).filter (·.label.isNone))[index]?.map (·.value)

/-- The first argument behind the label. -/
def named? (a : Attribute) (label : String) : Option Expr :=
  ((a.args.getD []).find? (·.label = some label)).map (·.value)

/-- The argument behind the label, or the first one without any. -/
def namedOrFirst? (a : Attribute) (label : String) : Option Expr :=
  (a.named? label).or (a.positional? 0)

def render (a : Attribute) : String :=
  let sign := match a.scope with
    | .field => "@"
    | .block => "@@"
  sign ++ a.name ++ (a.args.elim "" fun args => "(" ++ Expr.renderArgs args ++ ")")

end Attribute

end EntityDiagram
