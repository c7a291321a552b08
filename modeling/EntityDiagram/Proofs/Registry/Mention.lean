import Mathlib.Data.List.Nodup
import EntityDiagram.Registry.Basic

namespace EntityDiagram

/-- The names are those of the mentions, each once, in the order of their first mention. -/
structure FirstMentions (names mentions : List String) : Prop where
  nodup : names.Nodup
  mem_iff : ∀ name, name ∈ names ↔ name ∈ mentions
  order : names.Pairwise fun a b => mentions.idxOf a < mentions.idxOf b

/-- The identifiers in the argument `fields` of the first attribute `relation`. -/
def FieldDecl.mentions (f : FieldDecl) : List String :=
  ((f.attributes.find? (·.name = "relation")).bind (·.named? "fields")).elim [] Expr.idents

def Member.mentions : Member → List String
  | .field f => f.mentions
  | .blockAttribute _ => []

theorem FieldDecl.mentions_eq (f : FieldDecl) :
    f.mentions = (annotationOf f.attributes).elim [] (·.fields) := by
  rw [mentions, annotationOf]
  cases f.attributes.find? (·.name = "relation") <;> rfl

namespace FirstMentions

variable {names mentions more : List String}

theorem nil : FirstMentions [] [] := ⟨List.nodup_nil, fun _ => Iff.rfl, .nil⟩

/-- A name that is mentioned again stays where it is, a new one comes behind the others. -/
theorem note (h : FirstMentions names mentions) (name : String) :
    FirstMentions (ModelDecl.noteName names name) (mentions ++ [name]) := by
  have horder : names.Pairwise fun a b =>
      (mentions ++ [name]).idxOf a < (mentions ++ [name]).idxOf b := by
    apply h.order.imp_of_mem
    intro a b ha hb hlt
    rwa [List.idxOf_append_of_mem ((h.mem_iff a).1 ha),
      List.idxOf_append_of_mem ((h.mem_iff b).1 hb)]
  rw [ModelDecl.noteName]
  split
  · next hn =>
    refine ⟨h.nodup, ?_, horder⟩
    intro other
    rw [List.mem_append, List.mem_singleton, ← h.mem_iff]
    constructor
    · exact .inl
    · rintro (ho | rfl)
      · exact ho
      · exact hn
  · next hn =>
    have hm : name ∉ mentions := fun hm => hn ((h.mem_iff name).2 hm)
    refine ⟨?_, ?_, ?_⟩
    · rw [← List.concat_eq_append]
      exact h.nodup.concat hn
    · intro other
      rw [List.mem_append, List.mem_append, h.mem_iff]
    · rw [List.pairwise_append]
      refine ⟨horder, List.pairwise_singleton _ _, ?_⟩
      intro a ha b hb
      rw [List.mem_singleton.1 hb, List.idxOf_append_of_mem ((h.mem_iff a).1 ha),
        List.idxOf_append_of_notMem hm]
      have hlt := List.idxOf_lt_length_of_mem ((h.mem_iff a).1 ha)
      omega

theorem foldl_noteName (h : FirstMentions names mentions) (more : List String) :
    FirstMentions (more.foldl ModelDecl.noteName names) (mentions ++ more) := by
  induction more generalizing names mentions with
  | nil => rwa [List.append_nil]
  | cons name more ih =>
    rw [List.append_cons]
    exact ih (h.note name)

theorem foreignKeysAfter (h : FirstMentions names mentions) (x : Member) :
    FirstMentions (ModelDecl.foreignKeysAfter names x) (mentions ++ x.mentions) := by
  cases x with
  | field f =>
    rw [ModelDecl.foreignKeysAfter, Member.mentions, ← f.mentions_eq]
    exact h.foldl_noteName _
  | blockAttribute a => rwa [ModelDecl.foreignKeysAfter, Member.mentions, List.append_nil]

theorem foldl_foreignKeysAfter (h : FirstMentions names mentions) (ms : List Member) :
    FirstMentions (ms.foldl ModelDecl.foreignKeysAfter names)
      (mentions ++ ms.flatMap Member.mentions) := by
  induction ms generalizing names mentions with
  | nil => rwa [List.flatMap_nil, List.append_nil]
  | cons x ms ih =>
    rw [List.flatMap_cons, ← List.append_assoc]
    exact ih (h.foreignKeysAfter x)

end FirstMentions

namespace ModelDecl

theorem flatMap_mentions (d : ModelDecl) :
    d.fieldDecls.flatMap FieldDecl.mentions = d.members.flatMap Member.mentions := by
  rw [fieldDecls]
  induction d.members with
  | nil => rfl
  | cons x ms ih =>
    cases x with
    | field f => exact congrArg (f.mentions ++ ·) ih
    | blockAttribute a => exact ih

theorem foreignKeys_firstMentions (d : ModelDecl) :
    FirstMentions d.foreignKeys (d.fieldDecls.flatMap FieldDecl.mentions) := by
  rw [flatMap_mentions]
  exact FirstMentions.nil.foldl_foreignKeysAfter d.members

end ModelDecl

/-- The field as it is declared, marked as a part of no key. -/
def Field.unmarked (f : Field) : Field := { f with isForeignKey := false, isPrimaryKey := false }

section Marks

variable {fs : List Field} {names : List String}

theorem markForeignKey_unmarked (fs : List Field) (name : String) :
    (markForeignKey fs name).map Field.unmarked = fs.map Field.unmarked := by
  induction fs with
  | nil => rfl
  | cons f fs ih =>
    rw [markForeignKey]
    split
    · rfl
    · rw [List.map_cons, ih, List.map_cons]

theorem foldl_markForeignKey_unmarked (names : List String) (fs : List Field) :
    (names.foldl markForeignKey fs).map Field.unmarked = fs.map Field.unmarked := by
  induction names generalizing fs with
  | nil => rfl
  | cons name names ih => rw [List.foldl_cons, ih, markForeignKey_unmarked]

def Field.markedBy (names : List String) (f : Field) : Field :=
  { f with isForeignKey := f.isForeignKey || names.contains f.name }

theorem Field.markedBy_eq_self {f : Field} (h : f.name ∉ names) : f.markedBy names = f := by
  have hc : names.contains f.name = false := by simpa using h
  rw [markedBy, hc, Bool.or_false]

theorem markForeignKey_eq_map (hn : (fs.map (·.name)).Nodup) (name : String) :
    markForeignKey fs name = fs.map (Field.markedBy [name]) := by
  induction fs with
  | nil => rfl
  | cons f fs ih =>
    obtain ⟨hf, hfs⟩ := List.nodup_cons.1 hn
    rw [markForeignKey, List.map_cons]
    split
    · next he =>
      subst he
      have hrest : fs.map (Field.markedBy [f.name]) = fs := by
        apply (List.map_congr_left ?_).trans (List.map_id fs)
        intro g hg
        apply Field.markedBy_eq_self
        rw [List.mem_singleton]
        exact fun he => hf (List.mem_map.2 ⟨g, hg, he⟩)
      rw [hrest, Field.markedBy]
      simp
    · next he => rw [ih hfs, Field.markedBy_eq_self (by simpa using he)]

theorem foldl_markForeignKey (hn : (fs.map (·.name)).Nodup) (names : List String) :
    names.foldl markForeignKey fs = fs.map (Field.markedBy names) := by
  induction names generalizing fs with
  | nil =>
    apply ((List.map_congr_left ?_).trans (List.map_id fs)).symm
    intro f _
    exact Field.markedBy_eq_self List.not_mem_nil
  | cons name names ih =>
    have hnames : ((fs.map (Field.markedBy [name])).map (·.name)).Nodup := by
      rwa [List.map_map]
    rw [List.foldl_cons, markForeignKey_eq_map hn, ih hnames, List.map_map]
    apply List.map_congr_left
    intro f _
    simp [Field.markedBy, Bool.or_assoc]

end Marks

namespace Model

/-- Marks aside, the fields are the declared ones. -/
theorem ofDecl_unmarked (d : ModelDecl) :
    (ofDecl d).fields.map Field.unmarked = d.fieldDecls.map .ofDecl := by
  have h := foldl_markForeignKey_unmarked d.foreignKeys (d.fieldDecls.map .ofDecl)
  rw [List.map_map] at h
  rw [ofDecl, List.map_map]
  exact h

theorem exists_decl_of_mem {d : ModelDecl} {f : Field} (hf : f ∈ (ofDecl d).fields) :
    ∃ g ∈ d.fieldDecls, f.unmarked = .ofDecl g := by
  have hm := List.mem_map_of_mem (f := Field.unmarked) hf
  rw [ofDecl_unmarked] at hm
  obtain ⟨g, hg, he⟩ := List.mem_map.1 hm
  exact ⟨g, hg, he.symm⟩

theorem ofDecl_fields_name (d : ModelDecl) :
    (ofDecl d).fields.map (·.name) = d.fieldDecls.map (·.name) := by
  have h := congrArg (List.map Field.name) (ofDecl_unmarked d)
  rwa [List.map_map, List.map_map] at h

end Model

end EntityDiagram
