import EntityDiagram.Proofs.Registry.Document

namespace EntityDiagram

/-- The field is the declared one, and is marked exactly if its name is one of the keys. -/
structure Field.Marked (keys : List String) (f : Field) (d : FieldDecl) : Prop where
  name : f.name = d.name
  isForeignKey : f.isForeignKey = true ↔ f.name ∈ keys

/-- The foreign keys are what the declared relations mention, and the fields are marked by them. -/
structure Model.Keyed (m : Model) (d : ModelDecl) : Prop where
  name : m.name = d.name
  foreignKeys : FirstMentions m.foreignKeys (d.fieldDecls.flatMap FieldDecl.mentions)
  fields : List.Forall₂ (Field.Marked m.foreignKeys) m.fields d.fieldDecls

theorem Model.ofDecl_fields {d : ModelDecl} (hn : (d.fieldDecls.map (·.name)).Nodup) :
    (ofDecl d).fields = d.fieldDecls.map fun f =>
      { (Field.ofDecl f).markedBy d.foreignKeys with isPrimaryKey := d.key.contains f.name } := by
  have hnames : ((d.fieldDecls.map Field.ofDecl).map (·.name)).Nodup := by rwa [List.map_map]
  rw [ofDecl, foldl_markForeignKey hnames, List.map_map, List.map_map]
  rfl

theorem Model.ofDecl_keyed {d : ModelDecl} (hn : (d.fieldDecls.map (·.name)).Nodup) :
    (ofDecl d).Keyed d where
  name := rfl
  foreignKeys := d.foreignKeys_firstMentions
  fields := by
    rw [ofDecl_fields hn, List.forall₂_map_left_iff, List.forall₂_same]
    intro f _
    exact ⟨rfl, List.contains_iff_mem⟩

namespace Registry

/--
In the registry of a document the foreign keys of a model are the identifiers that its fields list
under `fields` in their first attribute `relation`, each once, in the order of their first mention.
A field is marked as a foreign key exactly if its name is one of them, wherever it stands.
-/
theorem ofDocument_keyed {d : Document} {r : Registry} (h : ofDocument d = .ok r) :
    List.Forall₂ Model.Keyed r.models d.modelDecls := by
  have hd := ofDocument_declaredBy h
  rw [hd.models, List.forall₂_map_left_iff, List.forall₂_same]
  intro m hm
  exact Model.ofDecl_keyed (hd.fields_nodup m hm)

/-- A key field before its relations and one behind, which both use it, and a key of no field. -/
def bookings : Document :=
  let relation (name type : String) (keys : List Expr) : Member :=
    .field ⟨name, ⟨type, .required⟩, [⟨.field, "relation", some [⟨some "fields", .array keys⟩]⟩], 1⟩
  ⟨[.model ⟨"Booking", 1, [
    .field ⟨"roomId", ⟨"Int", .required⟩, [], 1⟩,
    relation "room" "Room" [.ident "roomId", .ident "floor", .ident "hotelId"],
    .field ⟨"guests", ⟨"Int", .required⟩, [], 1⟩,
    relation "hotel" "Hotel" [.ident "hotelId"],
    .field ⟨"hotelId", ⟨"Int", .required⟩, [], 1⟩]⟩]⟩

theorem ofDocument_keyed_bookings : ∃ r m, ofDocument bookings = .ok r ∧ m ∈ r.models ∧
    m.foreignKeys = ["roomId", "floor", "hotelId"] ∧
    FirstMentions m.foreignKeys ["roomId", "floor", "hotelId", "hotelId"] ∧
    (m.fields.filter (·.isForeignKey)).map (·.name) = ["roomId", "hotelId"] := by
  obtain ⟨r, hr⟩ : ∃ r, ofDocument bookings = .ok r := ⟨_, rfl⟩
  have h := ofDocument_keyed hr
  cases hr
  rcases h with _ | ⟨hm, _⟩
  exact ⟨_, _, rfl, List.mem_cons_self, rfl, hm.foreignKeys, rfl⟩

end Registry

end EntityDiagram
