import DeepCopy.Proofs.Accessor.NormalForm
import Mathlib.Data.List.Forall2
import Mathlib.Data.Option.Basic

/-!
# Shapes of types with more constructors

Constructors decide how containers are rebuilt and nothing else. Of their parameters only the set
counts, and a type with more of them has a better shape: the same shape but for the strategies of
its containers, each of which is the same or one that is tried earlier. So no container that was
taken apart is passed on, and no call is lost.

## Main definitions

* `TypeUse.Alike R t u`: `t` and `u` are the same but for their constructors, the parameters of
  which are in the relation `R` at every level
* `Shape.Alike S a b`: `a` and `b` are the same but for the strategies of their containers, which
  are in the relation `S`
* `Shape.ImprovedBy a b`: the strategies of `b` are those of `a` or come earlier

## Main results

* `resolve_alike`: related parameters make related shapes if they make related strategies
* `Shape.ImprovedBy.callSites_le`: a better shape has no fewer calls
* `constructors_improve_shape`: what the constructors of a type do to its shape
-/

namespace DeepCopy

/-! ## Types that are the same but for their constructors -/

mutual

/-- Two types are the same but for their constructors, the parameters of which are related, and so
are the types in them at every level. -/
inductive TypeUse.Alike (R : List Parameter → List Parameter → Prop) : TypeUse → TypeUse → Prop
  | intro {t u : TypeUse} (name : t.name = u.name) (category : t.category = u.category)
      (nullable : t.nullable = u.nullable) (cloneable : t.cloneable = u.cloneable)
      (isSequence : t.isSequence = u.isSequence)
      (element : Option.Rel (TypeUse.Alike R) t.element u.element)
      (interfaces : List.Forall₂ (Interface.Alike R) t.interfaces u.interfaces)
      (parameters : R t.parameters u.parameters) : TypeUse.Alike R t u

/-- Two interfaces are the same but for the constructors of the types in them. -/
inductive Interface.Alike (R : List Parameter → List Parameter → Prop) :
    Interface → Interface → Prop
  | sequence {e f : TypeUse} (element : e.Alike R f) : Interface.Alike R (.sequence e) (.sequence f)
  | mapping {k l v w : TypeUse} (key : k.Alike R l) (value : v.Alike R w) :
      Interface.Alike R (.mapping k v) (.mapping l w)

end

section

variable {R : List Parameter → List Parameter → Prop} {t u : TypeUse}

theorem TypeUse.Alike.name_eq (h : t.Alike R u) : t.name = u.name := by
  cases h with
  | intro name => exact name

theorem TypeUse.Alike.element (h : t.Alike R u) :
    Option.Rel (TypeUse.Alike R) t.element u.element := by
  cases h with
  | intro _ _ _ _ _ element => exact element

/-- The first mappings of two lists of interfaces, if there are any. -/
theorem TypeUse.Alike.mapping? (h : t.Alike R u) :
    Option.Rel (fun p q => p.1.Alike R q.1 ∧ p.2.Alike R q.2) t.mapping? u.mapping? := by
  cases h with
  | intro _ _ _ _ _ _ interfaces =>
    rw [TypeUse.mapping?, TypeUse.mapping?]
    generalize t.interfaces = is, u.interfaces = js at interfaces
    induction interfaces with
    | nil => exact .none
    | cons i _ ih =>
      cases i with
      | sequence element => exact ih
      | mapping key value => exact .some ⟨key, value⟩

/-- The elements of the first sequences of two lists of interfaces, if there are any. -/
theorem TypeUse.Alike.element? (h : t.Alike R u) :
    Option.Rel (TypeUse.Alike R) t.element? u.element? := by
  cases h with
  | intro _ _ _ _ _ _ interfaces =>
    rw [TypeUse.element?, TypeUse.element?]
    generalize t.interfaces = is, u.interfaces = js at interfaces
    induction interfaces with
    | nil => exact .none
    | cons i _ ih =>
      cases i with
      | sequence element => exact .some element
      | mapping key value => exact ih

end

/-- Functions that take related values to related ones do so with values that may be missing. -/
theorem rel_map_of_mem {α β : Type} {P : α → α → Prop} {Q : β → β → Prop} {f : α → β}
    {o o' : Option α} (h : Option.Rel P o o')
    (hf : ∀ a, o = some a → ∀ {a'}, P a a' → Q (f a) (f a')) :
    Option.Rel Q (o.map f) (o'.map f) := by
  cases h with
  | none => exact .none
  | some h => exact .some (hf _ rfl h)

/-! ## Shapes that are the same but for their strategies -/

namespace Shape

/-- Two shapes are the same but for the strategies of their containers, which are related. The
interface of sequences counts as passed on, and where the other shape has a sequence container
instead, that one is rebuilt. -/
inductive Alike (S : Strategy → Strategy → Prop) : Shape → Shape → Prop
  | scalar : Alike S .scalar .scalar
  | unknown (typeName : String) : Alike S (.unknown typeName) (.unknown typeName)
  | cloneable (typeName : String) : Alike S (.cloneable typeName) (.cloneable typeName)
  | nullable {a b : Shape} (inner : Alike S a b) : Alike S (.nullable a) (.nullable b)
  | array {a b : Shape} (element : Alike S a b) : Alike S (.array a) (.array b)
  | sequence {a b : Shape} {s s' : Strategy} (container : String) (element : Alike S a b)
      (strategy : S s s') : Alike S (.sequence container a s) (.sequence container b s')
  | map {k l v w : Shape} {s s' : Strategy} (container keyType valueType : String)
      (key : Alike S k l) (value : Alike S v w) (strategy : S s s') :
      Alike S (.map container keyType valueType k v s) (.map container keyType valueType l w s')
  | enumerable {a b : Shape} (element : Alike S a b) : Alike S (.enumerable a) (.enumerable b)
  | rebuilt {a b : Shape} {s : Strategy} (container : String) (element : Alike S a b)
      (strategy : S .passOn s) (ne : s ≠ .passOn) :
      Alike S (.enumerable a) (.sequence container b s)

/-- The strategies of a better shape are those of the shape or come earlier. -/
def ImprovedBy : Shape → Shape → Prop := Alike fun s s' => s'.rank ≤ s.rank

theorem Alike.eq {a b : Shape} (h : a.Alike (· = ·) b) : a = b := by
  induction h with
  | scalar | unknown | cloneable => rfl
  | nullable _ ih | array _ ih | enumerable _ ih => rw [ih]
  | sequence _ _ strategy ih => rw [ih, strategy]
  | map _ _ _ _ _ strategy ihk ihv => rw [ihk, ihv, strategy]
  | rebuilt _ _ strategy ne => exact absurd strategy.symm ne

end Shape

/-! ## The shapes of types that are the same but for their constructors -/

section

variable {R : List Parameter → List Parameter → Prop} {S : Strategy → Strategy → Prop}
  (hR : ∀ c ps qs, R ps qs → S (strategyOf c ps) (strategyOf c qs))
  (hS : ∀ s, S s .passOn → s = .passOn)

include hR

theorem mapShape_alike {t u : TypeUse} (h : t.Alike R u) (keyName valueName : String)
    {k l v w : Shape} (hkey : k.Alike S l) (hvalue : v.Alike S w) :
    (mapShape t keyName valueName k v).Alike S (mapShape u keyName valueName l w) := by
  have hentry : t.element?.map (·.name) = u.element?.map (·.name) := by
    generalize t.element? = e, u.element? = e', h.element? = he
    cases he with
    | none => rfl
    | some he => rw [Option.map_some, Option.map_some, he.name_eq]
  cases h with
  | intro name _ _ _ _ _ _ parameters =>
    rw [mapShape, mapShape, hentry, name]
    exact .map _ _ _ hkey hvalue (hR _ _ _ parameters)

include hS

/-- A sequence is rebuilt if it was rebuilt before. -/
theorem sequenceShape_alike {t u : TypeUse} (h : t.Alike R u) (elementName : String)
    {a b : Shape} (helement : a.Alike S b) :
    (sequenceShape t elementName a).Alike S (sequenceShape u elementName b) := by
  cases h with
  | intro name _ _ _ isSequence _ _ parameters =>
    have hstrategy := hR (.sequence elementName) _ _ parameters
    rw [sequenceShape, sequenceShape, isSequence, name]
    generalize strategyOf (.sequence elementName) t.parameters = s,
      strategyOf (.sequence elementName) u.parameters = s' at hstrategy
    cases u.isSequence with
    | false => exact .sequence _ helement hstrategy
    | true =>
      -- A sequence interface is projected where there is no way to rebuild it.
      by_cases hs' : s' = .passOn
      · subst hs'
        rw [hS s hstrategy]
        exact .enumerable helement
      · by_cases hs : s = .passOn
        · subst hs
          simpa [hs'] using .rebuilt _ helement hstrategy hs'
        · simpa [hs, hs'] using .sequence _ helement hstrategy

/-- Related parts make a related shape. -/
theorem shapeOf_alike {t u : TypeUse} (h : t.Alike R u) {e e' : Option Shape}
    {m m' : Option (String × String × Shape × Shape)} {s s' : Option (String × Shape)}
    (helement : Option.Rel (Shape.Alike S) e e')
    (hmapping : Option.Rel (fun p q => p.1 = q.1 ∧ p.2.1 = q.2.1 ∧ p.2.2.1.Alike S q.2.2.1 ∧
      p.2.2.2.Alike S q.2.2.2) m m')
    (hsequence : Option.Rel (fun p q => p.1 = q.1 ∧ p.2.Alike S q.2) s s') :
    (shapeOf t e m s).Alike S (shapeOf u e' m' s') := by
  have ⟨name, category, _, cloneable, _, _, _, _⟩ := h
  unfold shapeOf
  rw [name, category, cloneable]
  split_ifs
  · exact .cloneable _
  · cases u.category with
    | text | value => exact .scalar
    | parameter => exact .unknown _
    | array =>
      cases helement with
      | none => exact .unknown _
      | some helement => exact .array helement
    | reference =>
      -- A mapping comes before a sequence: what is both is cloned as a mapping.
      cases hmapping with
      | some hp =>
        obtain ⟨hkeyName, hvalueName, hkey, hvalue⟩ := hp
        dsimp only
        rw [hkeyName, hvalueName]
        exact mapShape_alike hR h _ _ hkey hvalue
      | none =>
        cases hsequence with
        | none => exact .unknown _
        | some hp =>
          obtain ⟨helementName, helement⟩ := hp
          dsimp only
          rw [helementName]
          exact sequenceShape_alike hR hS h _ helement

/-- **Related parameters make related shapes** if they make related strategies, by induction on the
type. -/
theorem resolve_alike {t u : TypeUse} (h : t.Alike R u) : (resolve t).Alike S (resolve u) := by
  induction t using TypeUse.induction generalizing u with
  | step t ihelement ihinterfaces =>
    have hshape : (shapeOf t (t.element.map resolve)
          (t.mapping?.map fun p => (p.1.name, p.2.name, resolve p.1, resolve p.2))
          (t.element?.map fun e => (e.name, resolve e))).Alike S
        (shapeOf u (u.element.map resolve)
          (u.mapping?.map fun p => (p.1.name, p.2.name, resolve p.1, resolve p.2))
          (u.element?.map fun e => (e.name, resolve e))) := by
      refine shapeOf_alike hR hS h (rel_map_of_mem h.element ihelement)
        (rel_map_of_mem h.mapping? ?_) (rel_map_of_mem h.element? ?_)
      · rintro p hp q ⟨hkey, hvalue⟩
        have hmem := TypeUse.mapping_mem_of_mapping? hp
        exact ⟨hkey.name_eq, hvalue.name_eq, ihinterfaces _ hmem _ (by simp [Interface.types]) hkey,
          ihinterfaces _ hmem _ (by simp [Interface.types]) hvalue⟩
      · intro e he f hef
        have hmem := TypeUse.sequence_mem_of_element? he
        exact ⟨hef.name_eq, ihinterfaces _ hmem _ (by simp [Interface.types]) hef⟩
    obtain ⟨name, category, nullable, -, -, -, -, -⟩ := h
    rw [resolve_eq, resolve_eq, category, name, nullable]
    split_ifs
    · exact .unknown _
    · exact .nullable hshape
    · exact hshape

end

/-! ## What constructors are good for -/

/-- **A better shape has no fewer calls**: what is taken apart stays so, and what was passed on had
none. -/
theorem Shape.ImprovedBy.callSites_le {a b : Shape} (h : a.ImprovedBy b) :
    (synthesize a).callSites ≤ (synthesize b).callSites := by
  induction h with
  | scalar | unknown | cloneable => exact Nat.le_refl _
  | nullable _ ih =>
    rw [synthesize, synthesize, Accessor.callSites_guardNull, Accessor.callSites_guardNull]
    exact ih
  | array _ ih | enumerable _ ih => exact ih
  | @sequence a b s s' container _ strategy ih =>
    rw [synthesize, synthesize]
    by_cases hs : s = .passOn
    · rw [if_pos hs]
      exact Nat.zero_le _
    · rw [if_neg hs, if_neg (Strategy.ne_passOn_of_rank_le strategy hs)]
      exact ih
  | @map k l v w s s' container keyType valueType _ _ strategy ihk ihv =>
    rw [synthesize, synthesize]
    by_cases hs : s = .passOn
    · rw [if_pos hs]
      exact Nat.zero_le _
    · rw [if_neg hs, if_neg (Strategy.ne_passOn_of_rank_le strategy hs)]
      exact Nat.add_le_add ihk ihv
  | rebuilt container _ _ ne ih =>
    rw [synthesize, synthesize, if_neg ne]
    exact ih

theorem resolve_improvedBy {t u : TypeUse} (h : t.Alike (· ⊆ ·) u) :
    (resolve t).ImprovedBy (resolve u) := by
  refine resolve_alike (fun c ps qs hpq => rank_strategyOf_mono hpq) (fun s hs => ?_) h
  by_contra hne
  exact absurd (Strategy.rank_lt_of_ne hne) (Nat.not_lt.mpr hs)

/-- Of the parameters only the set counts. -/
theorem strategyOf_congr {c : Container} {ps qs : List Parameter} (hpq : ∀ p, p ∈ ps ↔ p ∈ qs) :
    strategyOf c ps = strategyOf c qs :=
  Strategy.rank_injective (Nat.le_antisymm (rank_strategyOf_mono fun p => (hpq p).mpr)
    (rank_strategyOf_mono fun p => (hpq p).mp))

/-- **Constructors improve shapes, and only the set of their parameters counts.** Two types that are
the same but for their constructors have the same shape if at every level they have the same
parameters, in whatever order and grouping. If at every level the one has the parameters of the
other among its own, the strategies in its shape are the same or earlier ones, so that a projection
may become a container that is rebuilt and nothing else changes, and no call is lost. -/
theorem constructors_improve_shape (t u : TypeUse) :
    (t.Alike (fun ps qs => ∀ p, p ∈ ps ↔ p ∈ qs) u → resolve t = resolve u) ∧
      (t.Alike (· ⊆ ·) u → (resolve t).ImprovedBy (resolve u) ∧
        (synthesize (resolve t)).callSites ≤ (synthesize (resolve u)).callSites) := by
  refine ⟨fun h => ?_, fun h => ⟨resolve_improvedBy h, (resolve_improvedBy h).callSites_le⟩⟩
  exact (resolve_alike (fun _ _ _ => strategyOf_congr) (fun _ hs => hs) h).eq

/-- The interface of sequences of dictionaries from texts to nodes, with constructors of sequences
and of dictionaries. -/
def pagesType (sequences dictionaries : List Constructor) : TypeUse where
  name := "Pages"
  isSequence := true
  constructors := sequences
  interfaces := [
    .sequence {
      name := "Index"
      interfaces := [.mapping .string (.marked "Node")]
      constructors := dictionaries }]

theorem pagesType_alike {R : List Parameter → List Parameter → Prop} (hnil : R [] [])
    {cs ds cs' ds' : List Constructor}
    (hsequences : R (cs.flatMap (·.parameters)) (cs'.flatMap (·.parameters)))
    (hdictionaries : R (ds.flatMap (·.parameters)) (ds'.flatMap (·.parameters))) :
    (pagesType cs ds).Alike R (pagesType cs' ds') :=
  have hstring : TypeUse.string.Alike R .string := ⟨rfl, rfl, rfl, rfl, rfl, .none, .nil, hnil⟩
  have hnode : (TypeUse.marked "Node").Alike R (.marked "Node") :=
    ⟨rfl, rfl, rfl, rfl, rfl, .none, .nil, hnil⟩
  ⟨rfl, rfl, rfl, rfl, rfl, .none, .cons (.sequence ⟨rfl, rfl, rfl, rfl, rfl, .none,
    .cons (.mapping hstring hnode) .nil, hdictionaries⟩) .nil, hsequences⟩

/-- Pages that are projected, with dictionaries that are passed on, become pages that are rebuilt
from dictionaries that are rebuilt from pairs; and it does not matter which constructors the
parameters belong to. -/
theorem constructors_improve_shape_pagesType :
    let bare := pagesType [] [⟨[.other "int"]⟩]
    let rich := pagesType [⟨[.sequence "Index"]⟩] [⟨[.pairs "string" "Node"]⟩, ⟨[.other "int"]⟩]
    let same := pagesType [⟨[.sequence "Index"]⟩] [⟨[.other "int", .pairs "string" "Node"]⟩]
    bare.Alike (· ⊆ ·) rich ∧ (resolve bare).ImprovedBy (resolve rich) ∧
      resolve bare =
        .enumerable (.map "Index" "string" "Node" .scalar (.cloneable "Node") .passOn) ∧
      (synthesize (resolve bare)).callSites = 0 ∧
      resolve rich = .sequence "Pages"
        (.map "Index" "string" "Node" .scalar (.cloneable "Node") .pairs) .elements ∧
      (synthesize (resolve rich)).callSites = 1 ∧
      rich.Alike (fun ps qs => ∀ p, p ∈ ps ↔ p ∈ qs) same ∧ resolve rich = resolve same := by
  intro bare rich same
  have hbare : bare.Alike (· ⊆ ·) rich :=
    pagesType_alike (List.Subset.refl _) (List.nil_subset _) (by simp)
  have hsame : rich.Alike (fun ps qs => ∀ p, p ∈ ps ↔ p ∈ qs) same :=
    pagesType_alike (fun _ => Iff.rfl) (fun _ => Iff.rfl) (by simp [or_comm])
  exact ⟨hbare, ((constructors_improve_shape bare rich).2 hbare).1, by decide +kernel,
    by decide +kernel, by decide +kernel, by decide +kernel, hsame,
    (constructors_improve_shape rich same).1 hsame⟩

end DeepCopy
