import DeepCopy.Proofs.Accessor.Retarget
import DeepCopy.Proofs.Shape.Resolution

/-!
# The normal form of accessors

What is made of a shape relies on the accessor being in normal form: a guard stands only where there
is something to rebuild behind it, and nothing that is passed on is taken apart first. The accessors
of shapes are exactly the normal ones whose calls name the fast operation. A call is made of every
cloneable leaf of the shape but for those in containers that are passed on.

A shape may have one nullable level right inside another, and the guards of both become one. Types
have no such shapes.

## Main definitions

* `Accessor.isNormal`: guards stand before work that rebuilds, and containers are rebuilt
* `Shape.cloneLeaves`: the cloneable leaves of a shape, by the strategies of the containers around
* `Shape.isCanonical`: no nullable level is right inside another, no sequence is rebuilt from pairs
* `synthesizeAt`: the accessor of a shape with a record of the levels that it was made of

## Main results

* `exists_synthesize_iff`: the accessors of shapes are the normal ones with fast calls
* `callSites_synthesize`: which leaves become calls
* `synthesizeAt_fst`, `synthesizeAt_snd`: the path shows in the record and nowhere else
* `isCanonical_resolve`: types have canonical shapes
* `synthesize_normal`: all this in one statement
-/

namespace DeepCopy

/-! ## Normal accessors -/

namespace Accessor

/-- Whether an accessor makes a new container of the items of another. -/
def rebuilds : Accessor → Bool
  | .array _ | .sequence _ _ _ | .map _ _ _ _ _ _ | .project _ => true
  | _ => false

/-- Guards stand before work that rebuilds, and a container that is passed on is not taken apart. -/
def isNormal : Accessor → Bool
  | .copy | .passOn | .call _ _ => true
  | .guarded inner => inner.rebuilds && inner.isNormal
  | .array element | .project element => element.isNormal
  | .sequence _ element strategy => strategy != .passOn && element.isNormal
  | .map _ _ _ key value strategy => strategy != .passOn && key.isNormal && value.isNormal

theorem guardNull_of_rebuilds {work : Accessor} (hw : work.rebuilds = true) :
    guardNull work = .guarded work := by
  cases work with
  | array | sequence | map | project => rfl
  | copy | passOn | call | guarded => cases hw

theorem isNormal_guardNull {work : Accessor} (hw : work.isNormal = true) :
    (guardNull work).isNormal = true := by
  cases work with
  | copy | passOn | call => rfl
  | guarded inner => exact hw
  | array | sequence | map | project =>
    rw [guardNull_of_rebuilds rfl, isNormal, Bool.and_eq_true]
    exact ⟨rfl, hw⟩

theorem callSites_guardNull (work : Accessor) : (guardNull work).callSites = work.callSites := by
  cases work <;> rfl

end Accessor

/-- The accessor of a shape is normal. -/
theorem isNormal_synthesize (shape : Shape) : (synthesize shape).isNormal = true := by
  induction shape with
  | scalar | unknown | cloneable => rfl
  | nullable inner ih => exact Accessor.isNormal_guardNull ih
  | array element ih => exact ih
  | sequence container element strategy ih =>
    rw [synthesize]
    split_ifs with hs
    · rfl
    · simp [Accessor.isNormal, hs, ih]
  | map container keyType valueType key value strategy ihk ihv =>
    rw [synthesize]
    split_ifs with hs
    · rfl
    · simp [Accessor.isNormal, hs, ihk, ihv]
  | enumerable element ih => exact ih

theorem targets_synthesize (shape : Shape) : (synthesize shape).targets .fast = true :=
  Accessor.retarget_eq_self_iff.mp (retarget_synthesize shape)

/-- **The accessors of shapes are the normal ones with fast calls.** -/
theorem exists_synthesize_iff (work : Accessor) :
    (∃ shape, synthesize shape = work) ↔ work.isNormal = true ∧ work.targets .fast = true := by
  constructor
  · rintro ⟨shape, rfl⟩
    exact ⟨isNormal_synthesize shape, targets_synthesize shape⟩
  -- A normal accessor is read back as a shape level by level; only what a shape names and an
  -- accessor does not, the types of leaves, is made up.
  rintro ⟨hnormal, hfast⟩
  induction work with
  | copy => exact ⟨.scalar, rfl⟩
  -- Passing on comes of a container that cannot be rebuilt.
  | passOn => exact ⟨.sequence "" .scalar .passOn, rfl⟩
  | call nullable op =>
    obtain rfl : op = .fast := by simpa [Accessor.targets] using hfast
    cases nullable
    · exact ⟨.cloneable "", rfl⟩
    · exact ⟨.nullable (.cloneable ""), rfl⟩
  | guarded inner ih =>
    obtain ⟨hrebuilds, hinner⟩ := Bool.and_eq_true_iff.mp hnormal
    obtain ⟨shape, rfl⟩ := ih hinner hfast
    exact ⟨.nullable shape, Accessor.guardNull_of_rebuilds hrebuilds⟩
  | array element ih =>
    obtain ⟨shape, rfl⟩ := ih hnormal hfast
    exact ⟨.array shape, rfl⟩
  | project element ih =>
    obtain ⟨shape, rfl⟩ := ih hnormal hfast
    exact ⟨.enumerable shape, rfl⟩
  | sequence container element strategy ih =>
    obtain ⟨hs, helement⟩ := Bool.and_eq_true_iff.mp hnormal
    obtain ⟨shape, rfl⟩ := ih helement hfast
    exact ⟨.sequence container shape strategy, by simp [synthesize, bne_iff_ne.mp hs]⟩
  | map container keyType valueType key value strategy ihk ihv =>
    obtain ⟨hsk, hv⟩ := Bool.and_eq_true_iff.mp hnormal
    obtain ⟨hs, hk⟩ := Bool.and_eq_true_iff.mp hsk
    obtain ⟨hfk, hfv⟩ := Bool.and_eq_true_iff.mp hfast
    obtain ⟨key, rfl⟩ := ihk hk hfk
    obtain ⟨value, rfl⟩ := ihv hv hfv
    exact ⟨.map container keyType valueType key value strategy,
      by simp [synthesize, bne_iff_ne.mp hs]⟩

/-! ## Calls -/

/-- The cloneable leaves of a shape from left to right, each by the strategies of the containers
that it lies in. -/
def Shape.cloneLeaves : Shape → List (List Strategy)
  | .scalar | .unknown _ => []
  | .cloneable _ => [[]]
  | .nullable inner => inner.cloneLeaves
  | .array element | .enumerable element => element.cloneLeaves
  | .sequence _ element strategy => element.cloneLeaves.map (strategy :: ·)
  | .map _ _ _ key value strategy => (key.cloneLeaves ++ value.cloneLeaves).map (strategy :: ·)

/-- The leaves in a container that is passed on are cut off, and the others stay. -/
theorem countP_map_cons (leaves : List (List Strategy)) (s : Strategy) :
    (leaves.map (s :: ·)).countP (.passOn ∉ ·) =
      if s = .passOn then 0 else leaves.countP (.passOn ∉ ·) := by
  rw [List.countP_map]
  split_ifs with hs
  · simp [hs, List.countP_eq_zero]
  · exact List.countP_congr fun leaf _ => by simp [eq_comm (a := Strategy.passOn), hs]

/-- **A call is made of every cloneable leaf that is not in a container that is passed on.** -/
theorem callSites_synthesize (shape : Shape) :
    (synthesize shape).callSites = shape.cloneLeaves.countP (.passOn ∉ ·) := by
  induction shape with
  | scalar | unknown | cloneable => rfl
  | nullable inner ih =>
    rw [synthesize, Accessor.callSites_guardNull]
    exact ih
  | array element ih | enumerable element ih => exact ih
  | sequence container element strategy ih =>
    rw [synthesize, Shape.cloneLeaves, countP_map_cons]
    split_ifs
    · rfl
    · exact ih
  | map container keyType valueType key value strategy ihk ihv =>
    rw [synthesize, Shape.cloneLeaves, countP_map_cons, List.countP_append, ← ihk, ← ihv]
    split_ifs
    · rfl
    · rfl

/-! ## Paths -/

/-- The accessor of the shape that is found at a path, and a record of the accessors of all levels
with their paths, in the order in which they are made. -/
def synthesizeAt (path : String) (shape : Shape) : Accessor × List (String × Accessor) :=
  let made : Accessor × List (String × Accessor) :=
    match shape with
    | .scalar | .unknown _ => (.copy, [])
    | .nullable inner =>
      let made := synthesizeAt path inner
      (guardNull made.1, made.2)
    | .cloneable _ => (.call false .fast, [])
    | .array element =>
      let made := synthesizeAt (path ++ "[]") element
      (.array made.1, made.2)
    | .sequence container element strategy =>
      if strategy = .passOn then (.passOn, [])
      else
        let made := synthesizeAt (path ++ "[]") element
        (.sequence container made.1 strategy, made.2)
    | .map container keyType valueType key value strategy =>
      if strategy = .passOn then (.passOn, [])
      else
        let k := synthesizeAt (path ++ ".Key") key
        let v := synthesizeAt (path ++ ".Value") value
        (.map container keyType valueType k.1 v.1 strategy, k.2 ++ v.2)
    | .enumerable element =>
      let made := synthesizeAt (path ++ "[]") element
      (.project made.1, made.2)
  (made.1, made.2 ++ [(path, made.1)])

/-- A record with something in front of its paths. -/
def under (path : String) (record : List (String × Accessor)) : List (String × Accessor) :=
  record.map fun e => (path ++ e.1, e.2)

@[simp] theorem under_append (path : String) (record record' : List (String × Accessor)) :
    under path (record ++ record') = under path record ++ under path record' :=
  List.map_append

@[simp] theorem under_under (path path' : String) (record : List (String × Accessor)) :
    under path (under path' record) = under (path ++ path') record := by
  simp [under, String.append_assoc]

@[simp] theorem under_singleton (path path' : String) (work : Accessor) :
    under path [(path', work)] = [(path ++ path', work)] := rfl

theorem synthesizeAt_fst (path : String) (shape : Shape) :
    (synthesizeAt path shape).1 = synthesize shape := by
  induction shape generalizing path with
  | scalar | unknown | cloneable => rfl
  | nullable inner ih | array inner ih | enumerable inner ih =>
    simp only [synthesizeAt, synthesize, ih]
  | sequence container element strategy ih =>
    simp only [synthesizeAt, synthesize, ih]
    split_ifs <;> rfl
  | map container keyType valueType key value strategy ihk ihv =>
    simp only [synthesizeAt, synthesize, ihk, ihv]
    split_ifs <;> rfl

/-- **The path shows in the record and nowhere else.** -/
theorem synthesizeAt_snd (path : String) (shape : Shape) :
    (synthesizeAt path shape).2 = under path (synthesizeAt "" shape).2 := by
  induction shape generalizing path with
  | scalar | unknown | cloneable => simp [synthesizeAt, under]
  | nullable inner ih =>
    simp only [synthesizeAt, synthesizeAt_fst]
    rw [ih path]
    simp
  | array element ih | enumerable element ih =>
    simp only [synthesizeAt, synthesizeAt_fst]
    rw [ih (path ++ "[]"), ih ("" ++ "[]")]
    simp
  | sequence container element strategy ih =>
    simp only [synthesizeAt, synthesizeAt_fst]
    split_ifs
    · simp
    · rw [ih (path ++ "[]"), ih ("" ++ "[]")]
      simp
  | map container keyType valueType key value strategy ihk ihv =>
    simp only [synthesizeAt, synthesizeAt_fst]
    split_ifs
    · simp [under]
    · rw [ihk (path ++ ".Key"), ihk ("" ++ ".Key"), ihv (path ++ ".Value"), ihv ("" ++ ".Value")]
      simp

/-! ## Shapes of types -/

namespace Shape

/-- Whether a shape is nullable. -/
def isNullable : Shape → Bool
  | .nullable _ => true
  | _ => false

/-- Whether no nullable level is right inside another and no sequence is rebuilt from pairs. -/
def isCanonical : Shape → Bool
  | .scalar | .unknown _ | .cloneable _ => true
  | .nullable inner => !inner.isNullable && inner.isCanonical
  | .array element | .enumerable element => element.isCanonical
  | .sequence _ element strategy => strategy != .pairs && element.isCanonical
  | .map _ _ _ key value _ => key.isCanonical && value.isCanonical

end Shape

/-- A sequence has no pairs to be rebuilt from. -/
theorem strategyOf_sequence_ne_pairs (element : String) (ps : List Parameter) :
    strategyOf (.sequence element) ps ≠ .pairs := by
  intro hs
  have happlies := applies_strategyOf (.sequence element) ps
  rw [hs, Strategy.applies, Bool.or_eq_true, List.any_eq_true] at happlies
  rcases happlies with hpairs | ⟨p, -, hp⟩
  · cases hpairs
  · cases p <;> cases hp

theorem sequenceShape_canonical (t : TypeUse) (elementName : String) {element : Shape}
    (helement : element.isCanonical = true) :
    (sequenceShape t elementName element).isNullable = false ∧
      (sequenceShape t elementName element).isCanonical = true := by
  rw [sequenceShape]
  split_ifs
  · exact ⟨rfl, helement⟩
  · exact ⟨rfl, by simp [Shape.isCanonical, strategyOf_sequence_ne_pairs, helement]⟩

/-- Canonical parts make a canonical shape, which is not nullable. -/
theorem shapeOf_canonical (t : TypeUse) {element : Option Shape}
    {mapping : Option (String × String × Shape × Shape)} {sequence : Option (String × Shape)}
    (helement : ∀ e ∈ element, e.isCanonical = true)
    (hmapping : ∀ p ∈ mapping, p.2.2.1.isCanonical = true ∧ p.2.2.2.isCanonical = true)
    (hsequence : ∀ p ∈ sequence, p.2.isCanonical = true) :
    (shapeOf t element mapping sequence).isNullable = false ∧
      (shapeOf t element mapping sequence).isCanonical = true := by
  unfold shapeOf
  split
  · exact ⟨rfl, rfl⟩
  · cases t.category with
    | text | value | parameter => exact ⟨rfl, rfl⟩
    | array =>
      cases element with
      | none => exact ⟨rfl, rfl⟩
      | some e => exact ⟨rfl, helement e rfl⟩
    | reference =>
      rcases mapping with - | ⟨keyName, valueName, key, value⟩
      · rcases sequence with - | ⟨elementName, e⟩
        · exact ⟨rfl, rfl⟩
        · exact sequenceShape_canonical t elementName (hsequence _ rfl)
      · obtain ⟨hkey, hvalue⟩ := hmapping _ rfl
        exact ⟨rfl, Bool.and_eq_true_iff.mpr ⟨hkey, hvalue⟩⟩

/-- **Types have canonical shapes**, by induction on the type. -/
theorem isCanonical_resolve (t : TypeUse) : (resolve t).isCanonical = true := by
  induction t using TypeUse.induction with
  | step t ihelement ihinterfaces =>
    have helement : ∀ e ∈ t.element.map resolve, e.isCanonical = true := by
      intro e he
      obtain ⟨u, hu, rfl⟩ := Option.map_eq_some_iff.mp he
      exact ihelement u hu
    have hmapping : ∀ p ∈ t.mapping?.map fun p => (p.1.name, p.2.name, resolve p.1, resolve p.2),
        p.2.2.1.isCanonical = true ∧ p.2.2.2.isCanonical = true := by
      intro p hp
      obtain ⟨⟨key, value⟩, hkv, rfl⟩ := Option.map_eq_some_iff.mp hp
      have hmem := TypeUse.mapping_mem_of_mapping? hkv
      exact ⟨ihinterfaces _ hmem key (by simp [Interface.types]),
        ihinterfaces _ hmem value (by simp [Interface.types])⟩
    have hsequence : ∀ p ∈ t.element?.map fun e => (e.name, resolve e),
        p.2.isCanonical = true := by
      intro p hp
      obtain ⟨e, he, rfl⟩ := Option.map_eq_some_iff.mp hp
      exact ihinterfaces _ (TypeUse.sequence_mem_of_element? he) e (by simp [Interface.types])
    obtain ⟨hflat, hshape⟩ := shapeOf_canonical t helement hmapping hsequence
    rw [resolve_eq]
    split_ifs
    · rfl
    · exact Bool.and_eq_true_iff.mpr ⟨by rw [hflat]; rfl, hshape⟩
    · exact hshape

/-- **Accessors are normal and lose no call.** The accessors of shapes are those with guards only
before work that rebuilds, where nothing is taken apart that is passed on and calls name the fast
operation. There is a call for every cloneable leaf but for those in containers that are passed on,
and the path at which a shape is found shows in the record of its levels alone. In the shapes of
types, no nullable level is right inside another and no sequence is rebuilt from pairs. -/
theorem synthesize_normal :
    (∀ work : Accessor, (∃ shape, synthesize shape = work) ↔
      work.isNormal = true ∧ work.targets .fast = true) ∧
    (∀ shape : Shape, (synthesize shape).callSites = shape.cloneLeaves.countP (.passOn ∉ ·) ∧
      ∀ path, (synthesizeAt path shape).1 = synthesize shape ∧
        (synthesizeAt path shape).2 = under path (synthesizeAt "" shape).2) ∧
    ∀ t : TypeUse, (resolve t).isCanonical = true :=
  ⟨exists_synthesize_iff, fun shape => ⟨callSites_synthesize shape,
    fun path => ⟨synthesizeAt_fst path shape, synthesizeAt_snd path shape⟩⟩, isCanonical_resolve⟩

end DeepCopy
