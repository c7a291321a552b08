import EntityDiagram.Placement.Forces
import EntityDiagram.Proofs.Placement.Springs
import EntityDiagram.Proofs.Registry.Index

namespace EntityDiagram

/-- Changes what is in a place; a place behind the end is refused. -/
def changeAt? {α : Type} {n : Nat} (v : Vector α n) (i : Nat) (f : α → α) : Option (Vector α n) :=
  if h : i < n then some (v.set i (f v[i])) else none

namespace Spring

/-- A spring by the numbers of its places, which nothing keeps in range. -/
structure Loose where
  source : Nat
  target : Nat
  strength : Float
  bias : Float

namespace Loose

/-- The places that the index has for a relation's models, when it has both. -/
def ends? (index : NameIndex) (x : Relation) : Option (Nat × Nat) :=
  match index.lookup x.source.model, index.lookup x.target.model with
  | some s, some t => some (s, t)
  | _, _ => none

def allEnds (names : List String) (xs : List Relation) : List (Nat × Nat) :=
  xs.filterMap (ends? (.ofNames names))

/-- The table with one more end at each of the two places. -/
def countEnds? {n : Nat} (degrees : Vector Nat n) (e : Nat × Nat) : Option (Vector Nat n) := do
  let degrees ← changeAt? degrees e.1 (· + 1)
  changeAt? degrees e.2 (· + 1)

def degrees? (names : List String) (xs : List Relation) : Option (Vector Nat names.length) :=
  (allEnds names xs).foldlM countEnds? (Vector.replicate names.length 0)

/-- The spring between two places, with the numbers that the table has for them. -/
def ofEnds? {n : Nat} (degrees : Vector Nat n) (e : Nat × Nat) : Option Loose :=
  match degrees[e.1]?, degrees[e.2]? with
  | some s, some t => some {
      source := e.1
      target := e.2
      strength := 1 / min s.toFloat t.toFloat
      bias := s.toFloat / (s.toFloat + t.toFloat) }
  | _, _ => none

def ofRelations? (names : List String) (xs : List Relation) : Option (List Loose) := do
  let degrees ← degrees? names xs
  ((allEnds names xs).filter fun e => e.1 ≠ e.2).mapM (ofEnds? degrees)

end Loose

variable {n : Nat}

def loose (s : Spring n) : Loose := ⟨s.source, s.target, s.strength, s.bias⟩

def numbers (e : Fin n × Fin n) : Nat × Nat := (e.1, e.2)

end Spring

namespace ForceOptions

variable {n : Nat} (o : ForceOptions) (key : Random.Key)

/-- A spring draws the bodies in its two places, unless one of them is refused. -/
def pull? (alpha : Float) (m : Motion n) (l : Spring.Loose) : Option (Motion n) := do
  let s ← m.bodies[l.source]?
  let t ← m.bodies[l.target]?
  let (dx, drawn) := apart key (t.x + t.vx - s.x - s.vx) m.drawn
  let (dy, drawn) := apart key (t.y + t.vy - s.y - s.vy) drawn
  let length := (dx * dx + dy * dy).sqrt
  let k := (length - o.linkDistance) / length * alpha * l.strength
  let dx := dx * k
  let dy := dy * k
  let bodies ← changeAt? m.bodies l.target (·.accelerate (-(dx * l.bias)) (-(dy * l.bias)))
  let bodies ← changeAt? bodies l.source (·.accelerate (dx * (1 - l.bias)) (dy * (1 - l.bias)))
  some { bodies, drawn }

/-- One step: all springs, and then what a step does without springs. -/
def step? (springs : List Spring.Loose) (alpha : Float) (m : Motion n) : Option (Motion n) :=
  (springs.foldlM (o.pull? key alpha) m).map (o.step key [] alpha)

def run? (springs : List Spring.Loose) (decay : Float) :
    Nat → Float → Motion n → Option (Motion n)
  | 0, _, m => some m
  | steps + 1, alpha, m => do
    let alpha := alpha - alpha * decay
    let m ← o.step? key springs alpha m
    run? springs decay steps alpha m

def layout? (names : List String) (xs : List Relation) : Option Placement := do
  let key := Random.Key.ofSeed o.seed
  let decay := 1 - o.alphaMin.pow (1 / (max o.iterations 1).toFloat)
  let springs ← Spring.Loose.ofRelations? names xs
  let m ← o.run? key springs decay o.iterations 1 (o.start key names.length)
  some (.ofList (names.zip (m.bodies.toList.map fun b => ⟨b.x, b.y⟩)))

end ForceOptions

variable {n : Nat} {names : List String}

theorem changeAt?_eq {α : Type} (v : Vector α n) (i : Fin n) (f : α → α) :
    changeAt? v i f = some (v.set i (f (v.get i)) i.isLt) :=
  dif_pos i.isLt

theorem getElem?_fin {α : Type} (v : Vector α n) (i : Fin n) : v[(i : Nat)]? = some (v.get i) :=
  Vector.getElem?_eq_getElem i.isLt

theorem lookup_ofNames (h : names.Nodup) (name : String) :
    (NameIndex.ofNames names).lookup name = (names.finIdxOf? name).map Fin.val := by
  apply Option.ext
  intro i
  rw [NameIndex.places_ofNames h, Option.map_eq_some_iff]
  simp only [Spring.finIdxOf?_eq_some_iff h]
  constructor
  · intro hi
    obtain ⟨hlt, hname⟩ := List.getElem?_eq_some_iff.1 hi
    exact ⟨⟨i, hlt⟩, hname, rfl⟩
  · rintro ⟨j, hname, rfl⟩
    exact List.getElem?_eq_some_iff.2 ⟨j.isLt, hname⟩

namespace Spring

namespace Loose

theorem ends?_ofNames (h : names.Nodup) (x : Relation) :
    ends? (.ofNames names) x = (Spring.ends? names x).map numbers := by
  rw [ends?, lookup_ofNames h, lookup_ofNames h, Spring.ends?]
  cases names.finIdxOf? x.source.model <;> cases names.finIdxOf? x.target.model <;> rfl

theorem allEnds_eq (h : names.Nodup) (xs : List Relation) :
    allEnds names xs = (xs.filterMap (Spring.ends? names)).map numbers := by
  rw [allEnds, List.map_filterMap]
  exact List.filterMap_congr fun x _ => ends?_ofNames h x

theorem exists_countEnd (v : Vector Nat n) (i : Fin n) :
    ∃ w, changeAt? v i (· + 1) = some w ∧
      ∀ j : Fin n, w.get j = v.get j + if i = j then 1 else 0 := by
  refine ⟨_, changeAt?_eq v i (· + 1), ?_⟩
  intro j
  simp only [Vector.get_eq_getElem, Vector.getElem_set, Fin.val_inj]
  split
  · next h => rw [h]
  · rfl

theorem exists_countEnds (v : Vector Nat n) (e : Fin n × Fin n) :
    ∃ w, countEnds? v (numbers e) = some w ∧ ∀ i : Fin n, w.get i = v.get i + degree [e] i := by
  obtain ⟨u, hu, hsource⟩ := exists_countEnd v e.1
  obtain ⟨w, hw, htarget⟩ := exists_countEnd u e.2
  refine ⟨w, ?_, ?_⟩
  · rw [countEnds?, numbers, hu]
    exact hw
  · intro i
    rw [htarget, hsource, degree_cons, degree_nil]
    omega

/-- Counting refuses no place, and adds the number of ends at each. -/
theorem exists_foldlM_countEnds (v : Vector Nat n) (es : List (Fin n × Fin n)) :
    ∃ w, (es.map numbers).foldlM countEnds? v = some w ∧
      ∀ i : Fin n, w.get i = v.get i + degree es i := by
  induction es generalizing v with
  | nil => exact ⟨v, rfl, fun i => rfl⟩
  | cons e es ih =>
    obtain ⟨u, hu, hdegree⟩ := exists_countEnds v e
    obtain ⟨w, hw, hdegrees⟩ := ih u
    refine ⟨w, ?_, ?_⟩
    · rw [List.map_cons, List.foldlM_cons, hu]
      exact hw
    · intro i
      rw [hdegrees, hdegree, degree_cons, degree_cons e es, degree_nil]
      omega

theorem degrees?_eq (h : names.Nodup) (xs : List Relation) :
    degrees? names xs = some (Vector.ofFn (degree (xs.filterMap (Spring.ends? names)))) := by
  obtain ⟨w, hw, hdegree⟩ := exists_foldlM_countEnds (Vector.replicate names.length 0)
    (xs.filterMap (Spring.ends? names))
  rw [degrees?, allEnds_eq h, hw, Option.some.injEq]
  apply Vector.ext
  intro i hi
  have hd := hdegree ⟨i, hi⟩
  rw [Vector.get_eq_getElem, Vector.get_eq_getElem, Vector.getElem_replicate, Nat.zero_add] at hd
  rw [hd, Vector.getElem_ofFn]

theorem toList_degrees? (h : names.Nodup) (xs : List Relation) :
    (degrees? names xs).map Vector.toList = some (names.map (knownEnds names xs).count) := by
  have hdegree : degree (xs.filterMap (Spring.ends? names)) =
      fun i => (knownEnds names xs).count names[i] :=
    funext fun i => degree_eq_count h (forall₂_ends h xs) i
  rw [degrees?_eq h, Option.map_some, Vector.toList_ofFn, hdegree]
  exact congrArg some (List.ofFn_getElem_eq_map names (knownEnds names xs).count)

theorem ofEnds?_numbers (f : Fin n → Nat) (e : Fin n × Fin n) :
    ofEnds? (Vector.ofFn f) (numbers e) = some (Spring.mk e.1 e.2 (f e.1) (f e.2)).loose := by
  have hget (i : Fin n) : (Vector.ofFn f)[(i : Nat)]? = some (f i) := by
    rw [getElem?_fin, Vector.get_eq_getElem, Vector.getElem_ofFn]
  rw [ofEnds?, numbers, hget, hget]
  rfl

theorem ofRelations?_eq (h : names.Nodup) (xs : List Relation) :
    ofRelations? names xs = some ((ofRelations names xs).map loose) := by
  have hne : ((fun e : Nat × Nat => decide (e.1 ≠ e.2)) ∘ numbers) =
      fun e : Fin names.length × Fin names.length => decide (e.1 ≠ e.2) := by
    funext e
    simp [numbers, Fin.val_inj]
  have hof : ofEnds? (Vector.ofFn (degree (xs.filterMap (Spring.ends? names)))) ∘ numbers =
      fun e => pure (Spring.mk e.1 e.2 _ _).loose := funext (ofEnds?_numbers _)
  rw [ofRelations?, degrees?_eq h, allEnds_eq h, ofRelations, List.map_map]
  change (((xs.filterMap (Spring.ends? names)).map numbers).filter _).mapM _ = _
  rw [List.filter_map, hne, List.mapM_map, hof, List.mapM_pure]
  rfl

end Loose

end Spring

namespace ForceOptions

variable (o : ForceOptions) (key : Random.Key) (alpha decay : Float)

theorem pull?_loose (m : Motion n) (l : Spring n) :
    o.pull? key alpha m l.loose = some (o.pull key alpha m l) := by
  simp only [pull?, Spring.loose, getElem?_fin, Option.bind_eq_bind, Option.bind_some,
    changeAt?_eq]
  rfl

theorem foldlM_pull?_loose (m : Motion n) (ls : List (Spring n)) :
    (ls.map Spring.loose).foldlM (o.pull? key alpha) m = some (ls.foldl (o.pull key alpha) m) := by
  induction ls generalizing m with
  | nil => rfl
  | cons l ls ih =>
    rw [List.map_cons, List.foldlM_cons, pull?_loose]
    exact ih _

theorem step?_loose (ls : List (Spring n)) (m : Motion n) :
    o.step? key (ls.map Spring.loose) alpha m = some (o.step key ls alpha m) := by
  rw [step?, foldlM_pull?_loose]
  rfl

theorem run?_loose (ls : List (Spring n)) (steps : Nat) (m : Motion n) :
    o.run? key (ls.map Spring.loose) decay steps alpha m =
      some (o.run key ls decay steps alpha m) := by
  induction steps generalizing alpha m with
  | zero => rfl
  | succ steps ih =>
    rw [run?, step?_loose]
    exact ih _ _

/-- In no step of a layout is a body or a number of ends looked up where there is none. -/
theorem layout?_eq (h : names.Nodup) (xs : List Relation) :
    o.layout? names xs = some (o.layout names xs) := by
  simp only [layout?, Spring.Loose.ofRelations?_eq h, Option.bind_eq_bind, Option.bind_some,
    run?_loose]
  rfl

end ForceOptions

namespace Spring

/--
The springs are those of the relations between two different models of the list, one for each and
in their order. A spring joins the places of its relation's models, and the degree it has for each
of them is the number of ends there, over all relations whose models are both in the list; it is
not zero, and neither is a divisor of the spring. All degrees together are twice the number of
these relations. Counting the ends in a table of as many places as there are models, and moving as
many bodies by springs that have plain numbers for their places, comes to the same: no place is
out of range.
-/
theorem ofRelations_joins (h : names.Nodup) (xs : List Relation) :
    List.Forall₂ (Joins (knownEnds names xs)) (xs.filter (·.Pulls names))
      (ofRelations names xs) ∧
    (Loose.degrees? names xs).map Vector.toList = some (names.map (knownEnds names xs).count) ∧
    (names.map (knownEnds names xs).count).sum = 2 * (xs.filter (·.Known names)).length ∧
    Loose.ofRelations? names xs = some ((ofRelations names xs).map loose) ∧
    ∀ o : ForceOptions, o.layout? names xs = some (o.layout names xs) :=
  ⟨forall₂_ofRelations h xs, Loose.toList_degrees? h xs, sum_count_knownEnds h xs,
    Loose.ofRelations?_eq h xs, fun o => o.layout?_eq h xs⟩

def office : List String := ["Employee", "Desk"]

/-- Who reports to whom, whose desks there are, and in which building, which is not in the list. -/
def officeRelations : List Relation :=
  [.ofEnds .selfOneMany (some "Reports") ⟨"Employee", "id"⟩ ⟨"Employee", "managerId"⟩,
    .ofEnds .oneMany none ⟨"Employee", "id"⟩ ⟨"Desk", "ownerId"⟩,
    .ofEnds .oneMany none ⟨"Building", "id"⟩ ⟨"Desk", "buildingId"⟩]

theorem ofRelations_joins_office : office.Nodup ∧
    (∃ s : Spring office.length, ofRelations office officeRelations = [s] ∧
      s.source = ⟨0, by decide⟩ ∧ s.target = ⟨1, by decide⟩ ∧
      s.sourceDegree = 3 ∧ s.targetDegree = 1 ∧
      0 < min s.sourceDegree.toFloat s.targetDegree.toFloat ∧
      0 < s.sourceDegree.toFloat + s.targetDegree.toFloat ∧
      Loose.ofRelations? office officeRelations = some [s.loose]) ∧
    (Loose.degrees? office officeRelations).map Vector.toList = some [3, 1] ∧
    ∃ p, ForceOptions.layout? {} office officeRelations = some p := by
  have hnodup : office.Nodup := by decide
  obtain ⟨hsprings, hdegrees, _, hloose, hlayout⟩ := ofRelations_joins hnodup officeRelations
  have hpulls : officeRelations.filter (·.Pulls office) = [officeRelations[1]] := rfl
  rw [hpulls] at hsprings
  obtain ⟨s, ss, hs, hss, hcons⟩ := List.forall₂_cons_left_iff.1 hsprings
  cases List.forall₂_nil_left_iff.1 hss
  rw [hcons] at hloose
  exact ⟨hnodup, ⟨s, hcons, (getElem_inj hnodup).1 hs.source, (getElem_inj hnodup).1 hs.target,
    hs.sourceDegree, hs.targetDegree, hs.zero_lt_min, hs.zero_lt_add, hloose⟩, hdegrees, _,
    hlayout {}⟩

end Spring

end EntityDiagram
