import EntityDiagram.Proofs.Registry.Document

namespace EntityDiagram

def FieldDecl.HasAttribute (f : FieldDecl) (name : String) : Prop :=
  ∃ a ∈ f.attributes, a.name = name

namespace Member

/-- The member declares an id, with the text of the key and the names of its fields. -/
inductive DeclaresId : Member → String → List String → Prop
  | field {f : FieldDecl} (h : f.HasAttribute "id") : DeclaresId (.field f) f.name [f.name]
  | block {a : Attribute} {x : Expr} (hn : a.name = "id")
      (hx : a.NamedOrFirst "fields" x) (hne : x.idents ≠ []) :
      DeclaresId (.blockAttribute a) ("_".intercalate x.idents) x.idents

def IsId (x : Member) : Prop := ∃ text names, x.DeclaresId text names

inductive IsUnique : Member → String → Prop
  | field {f : FieldDecl} (h : f.HasAttribute "unique") : IsUnique (.field f) f.name

/-- No name of a field, or of a field of an id, is empty. -/
structure Named (x : Member) : Prop where
  field : ∀ f, x = .field f → f.name ≠ ""
  id : ∀ text names, x.DeclaresId text names → "" ∉ names

theorem DeclaresId.names_ne_nil {x : Member} {text : String} {names : List String}
    (h : x.DeclaresId text names) : names ≠ [] := by
  cases h with
  | field => exact List.cons_ne_nil _ _
  | block _ _ hne => exact hne

theorem Named.unique_ne {x : Member} {name : String} (h : x.Named) (hx : x.IsUnique name) :
    name ≠ "" := by
  cases hx with
  | field => exact h.field _ rfl

end Member

/--
The key that members declare, as a text and by the names of its fields: that of the last id, or of
the first unique field where there is no id, or none.
-/
inductive KeyRule (ms : List Member) : String → List String → Prop
  | id {before after : List Member} {x : Member} {text : String} {names : List String}
      (h : ms = before ++ x :: after) (hx : x.DeclaresId text names) (ha : ∀ y ∈ after, ¬y.IsId) :
      KeyRule ms text names
  | unique {before after : List Member} {x : Member} {name : String} (hid : ∀ y ∈ ms, ¬y.IsId)
      (h : ms = before ++ x :: after) (hx : x.IsUnique name)
      (hb : ∀ y ∈ before, ∀ n, ¬y.IsUnique n) : KeyRule ms name [name]
  | none (hid : ∀ y ∈ ms, ¬y.IsId) (hu : ∀ y ∈ ms, ∀ n, ¬y.IsUnique n) : KeyRule ms "" []

namespace ModelDecl

variable {a : Attribute} {f : FieldDecl} {x : Member} {ms : List Member} {key names : List String}
  {text name : String}

theorem declaresId_of_keyListOf (h : keyListOf a ≠ []) :
    Member.DeclaresId (.blockAttribute a) (joinKey (keyListOf a)) (keyListOf a) := by
  rw [keyListOf] at h ⊢
  split at h
  · next hn =>
    rw [if_pos hn]
    cases hx : a.namedOrFirst? "fields" with
    | none =>
      rw [hx] at h
      exact (h rfl).elim
    | some x =>
      rw [hx] at h
      exact .block hn (Attribute.namedOrFirst?_eq_some_iff.1 hx) h
  · exact (h rfl).elim

theorem hasAttribute_iff {name : String} :
    hasAttribute f.attributes name = true ↔ f.HasAttribute name := by
  simp [hasAttribute, FieldDecl.HasAttribute]

theorem keyListOf_of_declaresId (h : Member.DeclaresId (.blockAttribute a) text names) :
    keyListOf a = names ∧ joinKey names = text := by
  cases h with
  | block hn hx _ =>
    rw [keyListOf, if_pos hn, Attribute.namedOrFirst?_eq_some_iff.2 hx]
    exact ⟨rfl, rfl⟩

theorem keyAfter_of_declaresId (h : x.DeclaresId text names) (key : List String) :
    keyAfter key x = names ∧ joinKey names = text := by
  cases x with
  | field f =>
    cases h with
    | field h =>
      rw [keyAfter, if_pos (.inl (hasAttribute_iff.2 h)), joinKey, String.intercalate_singleton]
      exact ⟨rfl, rfl⟩
  | blockAttribute a =>
    obtain ⟨hlist, htext⟩ := keyListOf_of_declaresId h
    rw [keyAfter, hlist, if_neg h.names_ne_nil]
    exact ⟨rfl, htext⟩

theorem keyAfter_field (hx : ¬(Member.field f).IsId) (key : List String) :
    keyAfter key (.field f) =
      if hasAttribute f.attributes "unique" = true ∧ joinKey key = "" then [f.name] else key := by
  have hid : ¬hasAttribute f.attributes "id" = true := fun h =>
    hx ⟨_, _, .field (hasAttribute_iff.1 h)⟩
  simp only [keyAfter, hid, Bool.false_eq_true, false_or]

theorem keyAfter_block (hx : ¬(Member.blockAttribute a).IsId) (key : List String) :
    keyAfter key (.blockAttribute a) = key := by
  have hnil : keyListOf a = [] := by
    by_contra hne
    exact hx ⟨_, _, declaresId_of_keyListOf hne⟩
  rw [keyAfter, if_pos hnil]

theorem keyAfter_of_kept (hx : ¬x.IsId) (hk : joinKey key ≠ "") : keyAfter key x = key := by
  cases x with
  | field f => rw [keyAfter_field hx, if_neg fun h => hk h.2]
  | blockAttribute a => exact keyAfter_block hx key

theorem keyAfter_of_isUnique (hx : ¬x.IsId) (h : x.IsUnique name) : keyAfter [] x = [name] := by
  cases h with
  | field h => rw [keyAfter_field hx, if_pos ⟨hasAttribute_iff.2 h, rfl⟩]

theorem keyAfter_of_not_isUnique (hx : ¬x.IsId) (h : ∀ n, ¬x.IsUnique n) : keyAfter [] x = [] := by
  cases x with
  | field f => rw [keyAfter_field hx, if_neg fun hu => h _ (.field (hasAttribute_iff.1 hu.1))]
  | blockAttribute a => exact keyAfter_block hx []

theorem joinKey_ne_empty (h : names ≠ []) (hn : "" ∉ names) : joinKey names ≠ "" := by
  rw [joinKey]
  cases names with
  | nil => exact (h rfl).elim
  | cons a names =>
    have ha : a ≠ "" := fun he => hn (he ▸ List.mem_cons_self)
    cases names with
    | nil => rwa [String.intercalate_singleton]
    | cons b names =>
      rw [String.intercalate_cons_cons]
      simp [ha]

theorem foldl_keyAfter_of_forall (h : ∀ y ∈ ms, keyAfter key y = key) :
    ms.foldl keyAfter key = key := by
  induction ms with
  | nil => rfl
  | cons y ms ih =>
    rw [List.foldl_cons, h y List.mem_cons_self]
    exact ih fun z hz => h z (List.mem_cons_of_mem y hz)

theorem foldl_keyAfter_of_kept (hms : ∀ y ∈ ms, ¬y.IsId) (hk : joinKey key ≠ "") :
    ms.foldl keyAfter key = key :=
  foldl_keyAfter_of_forall fun y hy => keyAfter_of_kept (hms y hy) hk

theorem foldl_keyAfter_of_none (hms : ∀ y ∈ ms, ¬y.IsId) (hu : ∀ y ∈ ms, ∀ n, ¬y.IsUnique n) :
    ms.foldl keyAfter [] = [] :=
  foldl_keyAfter_of_forall fun y hy => keyAfter_of_not_isUnique (hms y hy) (hu y hy)

/-- Members after an id without ids of their own do not change the key. -/
theorem foldl_keyAfter_of_id (hx : x.DeclaresId text names) (hn : x.Named) (before : List Member)
    {after : List Member} (ha : ∀ y ∈ after, ¬y.IsId) :
    (before ++ x :: after).foldl keyAfter [] = names ∧ joinKey names = text := by
  obtain ⟨hkey, htext⟩ := keyAfter_of_declaresId hx (before.foldl keyAfter [])
  refine ⟨?_, htext⟩
  rw [List.foldl_append, List.foldl_cons, hkey]
  exact foldl_keyAfter_of_kept ha (joinKey_ne_empty hx.names_ne_nil (hn.id _ _ hx))

theorem foldl_keyAfter_of_keyRule (h : KeyRule ms text names) (hn : ∀ x ∈ ms, x.Named) :
    ms.foldl keyAfter [] = names ∧ joinKey names = text := by
  cases h with
  | @id before after x _ _ hms hx ha =>
    subst hms
    exact foldl_keyAfter_of_id hx (hn x (by simp)) before ha
  | @unique before after x _ hid hms hx hb =>
    subst hms
    have htext : joinKey [text] = text := by rw [joinKey, String.intercalate_singleton]
    refine ⟨?_, htext⟩
    rw [List.foldl_append, List.foldl_cons,
      foldl_keyAfter_of_none (fun y hy => hid y (List.mem_append_left _ hy)) hb,
      keyAfter_of_isUnique (hid x (by simp)) hx]
    apply foldl_keyAfter_of_kept
    · intro y hy
      exact hid y (List.mem_append_right _ (List.mem_cons_of_mem x hy))
    · rw [htext]
      exact (hn x (by simp)).unique_ne hx
  | none hid hu => exact ⟨foldl_keyAfter_of_none hid hu, rfl⟩

end ModelDecl

theorem Member.named_field {f : FieldDecl} (h : f.name ≠ "") : (Member.field f).Named where
  field := by
    intro g hg
    cases hg
    exact h
  id := by
    intro text names hx
    cases hx with
    | field => exact fun he => h (List.mem_singleton.1 he).symm

theorem Member.named_blockAttribute {a : Attribute} (h : "" ∉ ModelDecl.keyListOf a) :
    (Member.blockAttribute a).Named where
  field := nofun
  id := by
    intro text names hx
    rwa [← (ModelDecl.keyListOf_of_declaresId hx).1]

theorem exists_last {α : Type} {P : α → Prop} {xs : List α} (h : ∃ x ∈ xs, P x) :
    ∃ before x after, xs = before ++ x :: after ∧ P x ∧ ∀ y ∈ after, ¬P y := by
  have hrev : ∃ x ∈ xs.reverse, P x := by simpa using h
  obtain ⟨x, before, after, he, hx, hb⟩ := exists_isFirst hrev
  refine ⟨after.reverse, x, before.reverse, ?_, hx, by simpa using hb⟩
  rw [← xs.reverse_reverse, he]
  simp

theorem exists_keyRule (ms : List Member) : ∃ text names, KeyRule ms text names := by
  by_cases hid : ∃ x ∈ ms, x.IsId
  · obtain ⟨_, x, _, h, ⟨text, names, hx⟩, ha⟩ := exists_last hid
    exact ⟨text, names, .id h hx ha⟩
  · have hid : ∀ x ∈ ms, ¬x.IsId := fun x hx h => hid ⟨x, hx, h⟩
    by_cases hu : ∃ x ∈ ms, ∃ name, x.IsUnique name
    · obtain ⟨x, _, _, h, ⟨name, hx⟩, hb⟩ := exists_isFirst hu
      exact ⟨name, [name], .unique hid h hx fun y hy n hn => hb y hy ⟨n, hn⟩⟩
    · exact ⟨"", [], .none hid fun x hx n hn => hu ⟨x, hx, n, hn⟩⟩

theorem Registry.add_of_nodup {d : ModelDecl} (hf : (d.fieldDecls.map (·.name)).Nodup)
    {r : Registry} (hr : r.contains d.name = false) :
    r.add (.model d) = .ok { r with models := r.models ++ [.ofDecl d] } := by
  rw [add]
  cases h : firstRepeat? [] (d.fieldDecls.map (·.name)) with
  | some name => exact ((firstRepeat_of_eq_some h).not_nodup hf).elim
  | none =>
    dsimp only
    rw [hr, if_neg Bool.noConfusion]

namespace Model

variable {d : ModelDecl}

theorem primaryKey_of_keyRule (hn : ∀ x ∈ d.members, x.Named) {text : String}
    {names : List String} (h : KeyRule d.members text names) :
    (ofDecl d).primaryKey = text ∧
      ∀ f ∈ (ofDecl d).fields, f.isPrimaryKey = true ↔ f.name ∈ names := by
  obtain ⟨hkey, htext⟩ := ModelDecl.foldl_keyAfter_of_keyRule h hn
  have hdecl : d.key = names := hkey
  refine ⟨?_, ?_⟩
  · rw [primaryKey, ofDecl, hdecl, htext]
  · intro f hf
    obtain ⟨g, _, rfl⟩ := List.mem_map.1 hf
    rw [hdecl]
    exact List.contains_iff_mem

/-- Where only one member declares an id, the key does not depend on its place. -/
theorem primaryKey_of_only_id {x : Member} {before after before' after' : List Member}
    (hx : x.IsId) (hn : x.Named) (hms : d.members = before ++ x :: after)
    (hid : ∀ y ∈ before ++ after, ¬y.IsId) (he : before ++ after = before' ++ after') :
    (ofDecl { d with members := before' ++ x :: after' }).primaryKey = (ofDecl d).primaryKey := by
  obtain ⟨text, names, hx⟩ := hx
  have hafter : ∀ y ∈ after, ¬y.IsId := fun y hy => hid y (List.mem_append_right _ hy)
  have hafter' : ∀ y ∈ after', ¬y.IsId := fun y hy => hid y (he ▸ List.mem_append_right _ hy)
  have hkey := (ModelDecl.foldl_keyAfter_of_id hx hn before hafter).1
  have hkey' := (ModelDecl.foldl_keyAfter_of_id hx hn before' hafter').1
  rw [primaryKey, primaryKey, ofDecl, ofDecl, ModelDecl.key, ModelDecl.key, hms, hkey]
  exact congrArg joinKey hkey'

/--
A model block without repeated fields defines a model. Its key is that of the last id, or the first
unique field where there is no id, and exactly the fields of the key are marked. The place of an
only id among the members does not matter.
-/
theorem ofDecl_key (hf : (d.fieldDecls.map (·.name)).Nodup) (hn : ∀ x ∈ d.members, x.Named) :
    (∀ r : Registry, r.contains d.name = false →
      r.add (.model d) = .ok { r with models := r.models ++ [.ofDecl d] }) ∧
    (∃ text names, KeyRule d.members text names) ∧
    (∀ text names, KeyRule d.members text names → (ofDecl d).primaryKey = text ∧
      ∀ f ∈ (ofDecl d).fields, f.isPrimaryKey = true ↔ f.name ∈ names) ∧
    ∀ before x after before' after', d.members = before ++ x :: after → x.IsId →
      (∀ y ∈ before ++ after, ¬y.IsId) → before ++ after = before' ++ after' →
      (ofDecl { d with members := before' ++ x :: after' }).primaryKey =
        (ofDecl d).primaryKey := by
  refine ⟨fun r hr => Registry.add_of_nodup hf hr, exists_keyRule _, ?_, ?_⟩
  · intro text names h
    exact primaryKey_of_keyRule hn h
  · intro before x after before' after' hms hx hid he
    exact primaryKey_of_only_id hx (hn x (hms ▸ by simp)) hms hid he

def accountId : Attribute := ⟨.block, "id", some [⟨none, .array [.ident "bank", .ident "number"]⟩]⟩

/-- A model with a unique field before its id and one behind it. -/
def account : ModelDecl :=
  ⟨"Account", 1, [
    .field ⟨"email", ⟨"String", .required⟩, [⟨.field, "unique", none⟩], 2⟩,
    .field ⟨"number", ⟨"Int", .required⟩, [], 3⟩,
    .blockAttribute accountId,
    .field ⟨"bank", ⟨"Int", .required⟩, [⟨.field, "unique", none⟩], 5⟩]⟩

theorem ofDecl_key_account : (account.fieldDecls.map (·.name)).Nodup ∧
    (∀ x ∈ account.members, x.Named) ∧ (ofDecl account).primaryKey = "bank_number" ∧
    ∀ f ∈ (ofDecl account).fields, f.isPrimaryKey = true ↔ f.name ∈ ["bank", "number"] := by
  have hf : (account.fieldDecls.map (·.name)).Nodup := by decide
  have hn : ∀ x ∈ account.members, x.Named := by
    simp only [account, List.forall_mem_cons]
    exact ⟨Member.named_field (by decide), Member.named_field (by decide),
      Member.named_blockAttribute (by decide), Member.named_field (by decide),
      List.forall_mem_nil _⟩
  have hms : account.members =
      account.members.take 2 ++ .blockAttribute accountId :: account.members.drop 3 := rfl
  have hid : Member.DeclaresId (.blockAttribute accountId) "bank_number" ["bank", "number"] :=
    ModelDecl.declaresId_of_keyListOf (by decide)
  have hrule : KeyRule account.members "bank_number" ["bank", "number"] := by
    apply KeyRule.id hms hid
    intro y hy hx
    obtain ⟨_, _, hx⟩ := hx
    cases List.mem_singleton.1 hy
    cases hx with
    | field h => exact absurd (ModelDecl.hasAttribute_iff.2 h) (by decide)
  obtain ⟨_, _, hkey, _⟩ := ofDecl_key hf hn
  exact ⟨hf, hn, hkey _ _ hrule⟩

end Model

end EntityDiagram
