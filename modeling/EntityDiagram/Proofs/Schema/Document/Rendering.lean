import EntityDiagram.Proofs.Schema.Document.Derivation
import EntityDiagram.Proofs.Schema.Document.Spelling
import EntityDiagram.Proofs.Schema.Texts
import EntityDiagram.Proofs.Schema.Token.Line

namespace EntityDiagram

open Lexeme Grammar

/-- The characters, on the line `n` and with `P` behind them, are lexemes that begin as `W` says. -/
def Reads (n : Nat) (P : List Char → Prop) (cs : List Char)
    (W : List Lexeme → List Lexeme → Prop) : Prop :=
  ∃ ts, Inline P cs ts ∧ ∀ rest, W (onLine n ts ++ rest) rest

namespace Reads

variable {n : Nat} {P Q : List Char → Prop} {cs ds : List Char}
  {V W U : List Lexeme → List Lexeme → Prop} {t : Token}

theorem append (h : Reads n P cs V) (h' : Reads n Q ds W) (hP : ∀ rest, Q rest → P (ds ++ rest))
    (hU : ∀ {ls ms rest}, V ls ms → W ms rest → U ls rest) : Reads n Q (cs ++ ds) U := by
  obtain ⟨ts, hts, hV⟩ := h
  obtain ⟨us, hus, hW⟩ := h'
  refine ⟨ts ++ us, hts.append hus hP, ?_⟩
  intro rest
  rw [onLine_append, List.append_assoc]
  exact hU (hV _) (hW rest)

theorem imp (h : Reads n P cs V) (hW : ∀ {ls rest}, V ls rest → W ls rest) : Reads n P cs W := by
  obtain ⟨ts, hts, hV⟩ := h
  exact ⟨ts, hts, fun rest => hW (hV rest)⟩

theorem closed (h : Reads n Anything cs W) : Reads n P cs W := by
  obtain ⟨ts, hts, hW⟩ := h
  exact ⟨ts, hts.mono (fun _ _ => trivial), hW⟩

end Reads

/-- The token on the line, and behind it what `W` says. -/
def Then (t : Token) (n : Nat) (W : List Lexeme → List Lexeme → Prop)
    (ls rest : List Lexeme) : Prop :=
  ∃ ms, ls = ⟨t, n⟩ :: ms ∧ W ms rest

section

variable {n : Nat} {P Q : List Char → Prop} {c : Char} {cs : List Char} {t : Token}
  {W : List Lexeme → List Lexeme → Prop}

theorem reads_mark (h : Token.mark? c = some t) (hb : t ≠ .lineBreak) (ha : t ≠ .atSign) :
    Reads n P [c] (fun ls rest => ls = ⟨t, n⟩ :: rest) :=
  ⟨[t], (Inline.mark h hb ha).mono (fun _ _ => trivial), fun _ => rfl⟩

theorem reads_word {name : String} (h : Text.IsWord name) :
    Reads n Stops name.toList (fun ls rest => ls = ⟨.word name, n⟩ :: rest) :=
  ⟨[.word name], (Inline.word h).mono (fun _ => wordStops_of_stops), fun _ => rfl⟩

theorem Reads.after_mark (hr : Reads n P cs W) (h : Token.mark? c = some t) (hb : t ≠ .lineBreak)
    (ha : t ≠ .atSign) : Reads n P (c :: cs) (Then t n W) :=
  (reads_mark h hb ha).append hr (P := Anything) (fun _ _ => trivial) (fun hls hms => ⟨_, hls, hms⟩)

theorem Reads.after_space (hr : Reads n P cs W) : Reads n P (' ' :: cs) W := by
  obtain ⟨ts, hts, hW⟩ := hr
  exact ⟨ts, Inline.space.append hts (fun _ _ => trivial), hW⟩

theorem Reads.after_word {name : String} (hr : Reads n P cs W) (h : Text.IsWord name)
    (hP : ∀ rest, P rest → Stops (cs ++ rest)) :
    Reads n P (name.toList ++ cs) (Then (.word name) n W) :=
  (reads_word h).append hr hP (fun hls hms => ⟨_, hls, hms⟩)

end

variable {n : Nat}

namespace Expr

theorem mapItems_eq_map (f : String → String) (es : List Expr) :
    mapItems f es = es.map (mapTexts f) := by
  induction es with
  | nil => rfl
  | cons e es ih => rw [mapItems, ih, List.map_cons]

theorem mapArgs_eq_map (f : String → String) (as : List Arg) :
    mapArgs f as = as.map (fun a => ⟨a.label, a.value.mapTexts f⟩) := by
  induction as with
  | nil => rfl
  | cons a as ih =>
    obtain ⟨label, e⟩ := a
    rw [mapArgs, ih, List.map_cons]

def renderArg (a : Arg) : String := a.label.elim "" (· ++ ": ") ++ a.value.render

theorem toList_renderItems : ∀ es : List Expr,
    (renderItems es).toList = [',', ' '].intercalate (es.map (·.render.toList))
  | [] => rfl
  | [e] => by rw [renderItems, List.map_singleton, List.intercalate_singleton]
  | e :: d :: es => by
    rw [renderItems, String.toList_append, String.toList_append, toList_renderItems (d :: es)]
    · exact List.intercalate_cons_cons.symm
    · exact List.cons_ne_nil _ _

theorem toList_renderArgs : ∀ as : List Arg,
    (renderArgs as).toList = [',', ' '].intercalate (as.map (fun a => (renderArg a).toList))
  | [] => rfl
  | [a] => by
    rw [renderArgs, List.map_singleton, List.intercalate_singleton]
    rfl
  | a :: b :: as => by
    rw [renderArgs, String.toList_append, String.toList_append, toList_renderArgs (b :: as)]
    · exact List.intercalate_cons_cons.symm
    · exact List.cons_ne_nil _ _

end Expr

/-- Things with commas between them, and the mark that closes their list. -/
theorem reads_listed {α β : Type} {text : α → List Char} {g : α → β} {c : Char} {close : Token}
    {W : List Lexeme → β → List Lexeme → Prop} {xs : List α} (hc : Token.mark? c = some close)
    (hb : close ≠ .lineBreak) (ha : close ≠ .atSign)
    (hs : Text.isWordRest c = false ∧ Token.isNumberRest c = false)
    (h : ∀ x ∈ xs, Reads n Stops (text x) (W · (g x) ·)) :
    Reads n Anything ([',', ' '].intercalate (xs.map text) ++ [c])
      (Listed close W · (xs.map g) ·) := by
  induction xs with
  | nil =>
    apply (reads_mark hc hb ha).imp
    rintro ls rest rfl
    exact .close .none
  | cons x xs ih =>
    obtain ⟨hx, hxs⟩ := List.forall_mem_cons.1 h
    cases xs with
    | nil =>
      rw [List.map_singleton, List.intercalate_singleton]
      apply hx.append (reads_mark hc hb ha) (fun _ _ => stops_cons hs)
      rintro ls _ rest hx rfl
      exact .last .none hx .none
    | cons y ys =>
      have hrest := (ih hxs).after_space.after_mark (c := ',') rfl nofun nofun
      rw [List.map_cons, List.map_cons, List.intercalate_cons_cons, List.append_assoc,
        List.append_assoc]
      apply hx.append hrest (fun _ _ => stops_cons (by decide))
      rintro ls _ rest hx ⟨ms, rfl, hys⟩
      exact .more .none hx .none hys

theorem reads_argument {as : List Arg} (hl : ∀ a ∈ as, ∀ label ∈ a.label, Text.IsWord label)
    {f : String → String}
    (h : ∀ a ∈ as, Reads n Stops a.value.render.toList (Expr.Written · (a.value.mapTexts f) ·)) :
    ∀ a ∈ as, Reads n Stops (Expr.renderArg a).toList
      (Argument Expr.Written · ⟨a.label, a.value.mapTexts f⟩ ·) := by
  rintro ⟨label, e⟩ ha
  have he := h _ ha
  rw [Expr.renderArg, String.toList_append]
  cases label with
  | none => exact he.imp (fun h => .plain h)
  | some label =>
    have hcolon := he.after_space.after_mark (c := ':') rfl nofun nofun
    have hword := hcolon.after_word (hl _ ha label rfl) (fun _ _ => stops_cons (by decide))
    rw [Option.elim_some, String.toList_append, List.append_assoc]
    apply hword.imp
    rintro ls rest ⟨_, rfl, _, rfl, he⟩
    exact .labelled he

mutual

theorem reads_expression : ∀ {e : Expr}, e.Spelled →
    Reads n Stops e.render.toList (Expr.Written · (e.mapTexts Text.rereadText) ·)
  | .ident name, .ident h => by
    apply (reads_word h).imp
    rintro ls rest rfl
    exact .ident
  | .text content, _ =>
    ⟨_, (Inline.text content).mono (fun _ _ => trivial), fun _ => .text⟩
  | .number digits, .number h => ⟨_, .number h, fun _ => .number⟩
  | .array items, .array h => by
    have hitems := reads_listed (c := ']') rfl nofun nofun (by decide) (reads_items h)
    rw [← Expr.toList_renderItems, ← Expr.mapItems_eq_map] at hitems
    rw [Expr.render, String.toList_append, String.toList_append, Expr.mapTexts]
    apply (hitems.after_mark (c := '[') rfl nofun nofun).closed.imp
    rintro ls rest ⟨_, rfl, h⟩
    exact .array h
  | .call name args, .call hn hl ha => by
    have hargs := reads_listed (c := ')') rfl nofun nofun (by decide)
      (reads_argument hl (reads_args ha))
    rw [← Expr.toList_renderArgs, ← Expr.mapArgs_eq_map] at hargs
    rw [Expr.render, String.toList_append, String.toList_append, String.toList_append,
      List.append_assoc, List.append_assoc, Expr.mapTexts]
    have hparen := hargs.after_mark (c := '(') rfl nofun nofun
    apply (hparen.after_word hn (fun _ _ => stops_cons (by decide))).closed.imp
    rintro ls rest ⟨_, rfl, _, rfl, h⟩
    exact .call h

theorem reads_items : ∀ {es : List Expr}, (∀ e ∈ es, e.Spelled) → ∀ e ∈ es,
    Reads n Stops e.render.toList (Expr.Written · (e.mapTexts Text.rereadText) ·)
  | _ :: _, h, _, .head _ => reads_expression (h _ List.mem_cons_self)
  | _ :: _, h, _, .tail _ hd => reads_items (fun e he => h e (List.mem_cons_of_mem _ he)) _ hd

theorem reads_args : ∀ {as : List Arg}, (∀ a ∈ as, a.value.Spelled) → ∀ a ∈ as,
    Reads n Stops a.value.render.toList (Expr.Written · (a.value.mapTexts Text.rereadText) ·)
  | ⟨_, _⟩ :: _, h, _, .head _ => reads_expression (h _ List.mem_cons_self)
  | ⟨_, _⟩ :: _, h, _, .tail _ hd => reads_args (fun a ha => h a (List.mem_cons_of_mem _ ha)) _ hd

end

/-- The text of arguments with their parentheses, or nothing. -/
def Expr.renderArguments (args : Option (List Arg)) : String :=
  args.elim "" (fun as => "(" ++ renderArgs as ++ ")")

theorem reads_arguments {args : Option (List Arg)} (h : ∀ as ∈ args, ArgsSpelled as) :
    Reads n Stops (Expr.renderArguments args).toList
      (Arguments · (args.map (Expr.mapArgs Text.rereadText)) ·) := by
  cases args with
  | none => exact ⟨[], .nil, fun _ => .none⟩
  | some args =>
    have hvalues := reads_args (n := n) (fun a ha => (h args rfl a ha).2)
    have hargs := reads_listed (c := ')') rfl nofun nofun (by decide)
      (reads_argument (fun a ha => (h args rfl a ha).1) hvalues)
    rw [← Expr.toList_renderArgs, ← Expr.mapArgs_eq_map] at hargs
    rw [Expr.renderArguments, Option.elim_some, String.toList_append, String.toList_append,
      List.append_assoc]
    apply (hargs.after_mark (c := '(') rfl nofun nofun).closed.imp
    rintro ls rest ⟨_, rfl, h⟩
    exact .some h

theorem Grammar.Path.snoc {name path part : String} {i j : Nat} {ls rest : List Lexeme}
    (h : Path name ls path (⟨.dot, i⟩ :: ⟨.word part, j⟩ :: rest)) :
    Path name ls (path ++ "." ++ part) rest := by
  generalize hms : (⟨.dot, i⟩ :: ⟨.word part, j⟩ :: rest : List Lexeme) = ms at h
  induction h with
  | last =>
    subst hms
    exact .dot .last
  | dot _ ih => exact .dot (ih hms)

theorem reads_path {path : String} (h : Text.IsPath path) :
    Reads n WordStops path.toList
      (fun ls rest => ∃ name, Then (.word name) n (Path name · path ·) ls rest) := by
  induction h with
  | word h => exact ⟨_, .word h, fun rest => ⟨_, _, rfl, .last⟩⟩
  | @dot s t _ ht ih =>
    have hword : Reads n WordStops t.toList (fun ls rest => ls = ⟨.word t, n⟩ :: rest) :=
      ⟨_, .word ht, fun _ => rfl⟩
    rw [String.toList_append, String.toList_append, List.append_assoc]
    apply ih.append (hword.after_mark (c := '.') rfl nofun nofun)
    · intro rest _
      exact wordStops_cons (by decide)
    · rintro ls _ rest ⟨name, ms, rfl, hs⟩ ⟨_, rfl, rfl⟩
      exact ⟨name, ms, rfl, hs.snoc⟩

theorem Text.IsPath.head?_ne {path : String} (h : IsPath path) (rest : List Char) :
    (path.toList ++ rest).head? ≠ some '@' := by
  induction h generalizing rest with
  | word h =>
    obtain ⟨c, cs, hs, hc, -⟩ := h
    rw [hs]
    intro he
    cases he
    revert hc
    decide
  | dot _ _ ih =>
    rw [String.toList_append, String.toList_append, List.append_assoc, List.append_assoc]
    exact ih _

theorem wordStops_arguments (args : Option (List Arg)) {rest : List Char} (h : Stops rest) :
    WordStops ((Expr.renderArguments args).toList ++ rest) := by
  cases args with
  | none => exact wordStops_of_stops h
  | some as =>
    rw [Expr.renderArguments, Option.elim_some, String.toList_append, String.toList_append,
      List.append_assoc, List.append_assoc]
    exact wordStops_cons (by decide)

theorem Attribute.toList_render (a : Attribute) :
    a.render.toList = (match a.scope with | .field => ['@'] | .block => ['@', '@']) ++
      (a.name.toList ++ (Expr.renderArguments a.args).toList) := by
  rw [render, String.toList_append, String.toList_append, List.append_assoc]
  cases a.scope with
  | field => rfl
  | block => rfl

theorem reads_attribute {a : Attribute} (h : a.Spelled) :
    Reads n Stops a.render.toList
      (Attribute.Written a.scope · (a.mapTexts Text.rereadText) ·) := by
  obtain ⟨scope, name, args⟩ := a
  have hname : Reads n Stops (name.toList ++ (Expr.renderArguments args).toList)
      (fun ls rest => ∃ first ms ks, ls = ⟨.word first, n⟩ :: ms ∧ Path first ms name ks ∧
        Arguments ks (args.map (Expr.mapArgs Text.rereadText)) rest) := by
    apply (reads_path h.name).append (reads_arguments h.args)
    · intro rest hrest
      exact wordStops_arguments args hrest
    · rintro ls ks rest ⟨first, ms, rfl, hp⟩ ha
      exact ⟨first, ms, ks, rfl, hp, ha⟩
  rw [Attribute.toList_render]
  cases scope with
  | field =>
    have hsign : Reads n (fun rest => rest.head? ≠ some '@') ['@']
        (fun ls rest => ls = ⟨.atSign, n⟩ :: rest) := ⟨_, .atSign, fun _ => rfl⟩
    apply hsign.append hname
    · intro rest _
      rw [List.append_assoc]
      exact h.name.head?_ne _
    · rintro ls _ rest rfl ⟨first, ms, ks, rfl, hp, ha⟩
      exact .mk hp ha
  | block =>
    have hsign : Reads n Anything ['@', '@'] (fun ls rest => ls = ⟨.doubleAtSign, n⟩ :: rest) :=
      ⟨_, .doubleAtSign, fun _ => rfl⟩
    apply hsign.append hname (fun _ _ => trivial)
    rintro ls _ rest rfl ⟨first, ms, ks, rfl, hp, ha⟩
    exact .mk hp ha

theorem stops_attributes (attributes : List Attribute) {rest : List Char} (h : Stops rest) :
    Stops (attributes.flatMap (fun a => ' ' :: a.render.toList) ++ rest) := by
  cases attributes with
  | nil => exact h
  | cons a attributes => exact stops_cons (by decide)

theorem reads_attributes {attributes : List Attribute} (h : ∀ a ∈ attributes, a.Spelled)
    (hs : ∀ a ∈ attributes, a.scope = .field) :
    Reads n Stops (attributes.flatMap (fun a => ' ' :: a.render.toList))
      (Many (Attribute.Written .field) · (attributes.map (.mapTexts Text.rereadText)) ·) := by
  induction attributes with
  | nil => exact ⟨[], .nil, fun _ => .nil⟩
  | cons a attributes ih =>
    obtain ⟨ha, hattributes⟩ := List.forall_mem_cons.1 h
    obtain ⟨hscope, hscopes⟩ := List.forall_mem_cons.1 hs
    rw [List.flatMap_cons, List.map_cons]
    have hfirst := (reads_attribute (n := n) ha).after_space
    rw [hscope] at hfirst
    apply hfirst.append (ih hattributes hscopes)
    · intro rest hrest
      exact stops_attributes attributes hrest
    · intro ls ms rest ha hrest
      exact .cons ha hrest

theorem reads_type {type : TypeRef} (h : Text.IsWord type.name) :
    Reads n Stops type.render.toList (Then (.word type.name) n (type.modifier.Written · ·)) := by
  obtain ⟨name, modifier⟩ := type
  cases modifier with
  | required =>
    apply (reads_word h).imp
    rintro ls rest rfl
    exact ⟨_, rfl, .required⟩
  | optional =>
    have hmark : Reads n Stops ['?'] (fun ls rest => ls = ⟨.question, n⟩ :: rest) :=
      reads_mark rfl nofun nofun
    rw [TypeRef.render, String.toList_append]
    apply (hmark.after_word h (fun _ _ => stops_cons (by decide))).imp
    rintro ls rest ⟨_, rfl, rfl⟩
    exact ⟨_, rfl, .optional⟩
  | list =>
    have hmark : Reads n Stops [']'] (fun ls rest => ls = ⟨.rightBracket, n⟩ :: rest) :=
      reads_mark rfl nofun nofun
    have hmarks := hmark.after_mark (c := '[') rfl nofun nofun
    rw [TypeRef.render, String.toList_append]
    apply (hmarks.after_word h (fun _ _ => stops_cons (by decide))).imp
    rintro ls rest ⟨_, rfl, _, rfl, rfl⟩
    exact ⟨_, rfl, .list⟩

namespace FieldDecl

def render (d : FieldDecl) : String :=
  " ".intercalate (d.name :: d.type.render :: d.attributes.map Attribute.render)

theorem toList_render (d : FieldDecl) :
    d.render.toList = d.name.toList ++ ' ' :: (d.type.render.toList ++
      d.attributes.flatMap (fun a => ' ' :: a.render.toList)) := by
  have hattributes (text : List Char) (attributes : List Attribute) :
      [' '].intercalate (text :: attributes.map (fun a => a.render.toList)) =
        text ++ attributes.flatMap (fun a => ' ' :: a.render.toList) := by
    induction attributes generalizing text with
    | nil => simp
    | cons a attributes ih =>
      rw [List.map_cons, List.intercalate_cons_cons, ih, List.flatMap_cons, List.append_assoc]
      rfl
  rw [render, String.toList_intercalate, List.map_cons, List.map_cons, List.map_map,
    List.intercalate_cons_cons]
  have h := hattributes d.type.render.toList d.attributes
  rw [List.append_assoc]
  exact congrArg (d.name.toList ++ ' ' :: ·) h

end FieldDecl

theorem reads_field {d : FieldDecl} (h : d.Spelled) (hs : ∀ a ∈ d.attributes, a.scope = .field) :
    Reads n Stops d.render.toList
      (FieldDecl.Written · { d.mapTexts Text.rereadText with line := n } ·) := by
  have htype := (reads_type (n := n) h.type).append (reads_attributes h.attributes hs)
    (U := Then (.word d.type.name) n (fun ls rest => ∃ ms, d.type.modifier.Written ls ms ∧
      Many (Attribute.Written .field) ms (d.mapTexts Text.rereadText).attributes rest))
    (fun _ hrest => stops_attributes d.attributes hrest)
    (fun ⟨ks, hks, hm⟩ ha => ⟨ks, hks, _, hm, ha⟩)
  rw [FieldDecl.toList_render]
  apply (htype.after_space.after_word h.name (fun _ _ => stops_cons (by decide))).imp
  rintro ls rest ⟨_, rfl, ms, rfl, ks, hm, ha⟩
  exact .mk .none hm ha

end EntityDiagram
