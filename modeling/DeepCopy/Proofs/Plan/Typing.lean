import DeepCopy.Proofs.Heap.Growth
import DeepCopy.Proofs.Plan.Selection

/-!
# Well-typed heaps

A shape says which values it admits, and an accessor which values it takes. The accessor of a shape
takes what the shape admits: guards that are joined with the work below them let null through just
where the shape does. So whether the fields of an object are those that a descriptor declares can be
read off the plan of the descriptor alone, and it is the same for all descriptors of one plan.

## Main definitions

* `Shape.Admits h shape v`: `v` is a value of `shape` in `h`
* `Accessor.Takes h work v`: `work` takes `v` as its source
* `Plan.Admits p h f`: the fields `f` are values of the shapes of the members that `p` clones
* `Heap.WellTyped h plans`: every object of `h` has a plan that admits its fields

## Main results

* `takes_synthesize`: the accessor of a shape takes what the shape admits
* `Plan.IsCompiled.admits_iff_takes`: a plan admits what its accessors take
* `Heap.WellTyped.alloc`: a heap stays well typed with a new cell of the right type
-/

namespace DeepCopy

/-! ## Values of containers -/

namespace Heap

variable {h g : Heap} {P P' Q Q' : Value → Prop} {v : Value}

/-- The value refers to an object. -/
def IsObject (h : Heap) (v : Value) : Prop := ∃ n f, h.content v = .cell (.object n f)

/-- The value refers to an array of values of some kind. -/
def IsArrayOf (h : Heap) (P : Value → Prop) (v : Value) : Prop :=
  ∃ vs, h.content v = .cell (.array vs) ∧ ∀ x ∈ vs, P x

/-- The value refers to a sequence of values of some kind. -/
def IsSequenceOf (h : Heap) (P : Value → Prop) (v : Value) : Prop :=
  ∃ n vs, h.content v = .cell (.sequence n vs) ∧ ∀ x ∈ vs, P x

/-- The value refers to a mapping from keys of some kind to values of some kind. -/
def IsMappingOf (h : Heap) (P Q : Value → Prop) (v : Value) : Prop :=
  ∃ n es, h.content v = .cell (.mapping n es) ∧ ∀ e ∈ es, P e.1 ∧ Q e.2

theorem IsObject.holds (hv : h.IsObject v) : h.Holds v := by
  obtain ⟨n, f, hc⟩ := hv
  exact holds_of_content hc

theorem IsObject.mono (hg : h ≤ g) (hv : h.IsObject v) : g.IsObject v := by
  obtain ⟨n, f, hc⟩ := hv
  exact ⟨n, f, content_cell_of_le hg hc⟩

theorem IsArrayOf.mono (hg : h ≤ g) (hP : ∀ x, P x → P' x) (hv : h.IsArrayOf P v) :
    g.IsArrayOf P' v := by
  obtain ⟨vs, hc, hvs⟩ := hv
  exact ⟨vs, content_cell_of_le hg hc, fun x hx => hP x (hvs x hx)⟩

theorem IsSequenceOf.mono (hg : h ≤ g) (hP : ∀ x, P x → P' x) (hv : h.IsSequenceOf P v) :
    g.IsSequenceOf P' v := by
  obtain ⟨n, vs, hc, hvs⟩ := hv
  exact ⟨n, vs, content_cell_of_le hg hc, fun x hx => hP x (hvs x hx)⟩

theorem IsMappingOf.mono (hg : h ≤ g) (hP : ∀ x, P x → P' x) (hQ : ∀ x, Q x → Q' x)
    (hv : h.IsMappingOf P Q v) : g.IsMappingOf P' Q' v := by
  obtain ⟨n, es, hc, hes⟩ := hv
  exact ⟨n, es, content_cell_of_le hg hc, fun e he => (hes e he).imp (hP e.1) (hQ e.2)⟩

end Heap

/-! ## Values of shapes -/

/-- The values of a shape. Null is a value of the nullable shapes, and of those for which every
value will do because it is passed on as it is. -/
def Shape.Admits (h : Heap) : Shape → Value → Prop
  | .scalar, _ | .unknown _, _ => True
  | .nullable inner, v => v = .null ∨ inner.Admits h v
  | .cloneable _, v => h.IsObject v
  | .array element, v => h.IsArrayOf (element.Admits h) v
  | .sequence _ element strategy, v => strategy = .passOn ∨ h.IsSequenceOf (element.Admits h) v
  | .map _ _ _ key value strategy, v =>
    strategy = .passOn ∨ h.IsMappingOf (key.Admits h) (value.Admits h) v
  | .enumerable element, v =>
    h.IsSequenceOf (element.Admits h) v ∨ h.IsArrayOf (element.Admits h) v

/-- The values that an accessor makes other values of. -/
def Accessor.Takes (h : Heap) : Accessor → Value → Prop
  | .copy, _ | .passOn, _ => True
  | .call nullable _, v => nullable = true ∧ v = .null ∨ h.IsObject v
  | .guarded inner, v => v = .null ∨ inner.Takes h v
  | .array element, v => h.IsArrayOf (element.Takes h) v
  | .sequence _ element _, v => h.IsSequenceOf (element.Takes h) v
  | .project element, v => h.IsSequenceOf (element.Takes h) v ∨ h.IsArrayOf (element.Takes h) v
  | .map _ _ _ key value _, v => h.IsMappingOf (key.Takes h) (value.Takes h) v

/-- What an accessor takes it still takes once the heap has grown. -/
theorem Accessor.Takes.mono {h g : Heap} (hg : h ≤ g) {work : Accessor} {v : Value}
    (hv : work.Takes h v) : work.Takes g v := by
  induction work generalizing v with
  | copy | passOn => trivial
  | call nullable op => exact hv.imp_right (.mono hg)
  | guarded inner ih => exact hv.imp_right ih
  | array element ih => exact Heap.IsArrayOf.mono hg (fun _ => ih) hv
  | sequence container element strategy ih => exact Heap.IsSequenceOf.mono hg (fun _ => ih) hv
  | project element ih => exact hv.imp (.mono hg fun _ => ih) (.mono hg fun _ => ih)
  | map container keyType valueType key value strategy ihk ihv =>
    exact Heap.IsMappingOf.mono hg (fun _ => ihk) (fun _ => ihv) hv

/-- Which operation the calls name does not matter. -/
@[simp] theorem Accessor.takes_retarget (h : Heap) (op : Operation) (work : Accessor) :
    (work.retarget op).Takes h = work.Takes h := by
  induction work with
  | copy | passOn | call => rfl
  | guarded inner ih | array inner ih | sequence _ inner _ ih | project inner ih =>
    funext v
    simp only [retarget, Takes, ih]
  | map container keyType valueType key value strategy ihk ihv =>
    funext v
    simp only [retarget, Takes, ihk, ihv]

/-- **Work that is guarded takes null besides**, joined with its guard or not. -/
theorem takes_guardNull (h : Heap) (work : Accessor) (v : Value) :
    (guardNull work).Takes h v ↔ v = .null ∨ work.Takes h v := by
  cases work with
  | copy | passOn => simp [guardNull, Accessor.Takes]
  | call nullable op =>
    -- The guard of a call is left out, and the call takes null by itself.
    simp only [guardNull, Accessor.Takes, true_and]
    rw [← or_assoc, or_iff_left_of_imp (a := v = .null) And.right]
  | guarded inner => simp only [guardNull, Accessor.Takes, or_self_left]
  | _ => rfl

/-- **The accessor of a shape takes what the shape admits.** -/
theorem takes_synthesize (h : Heap) (shape : Shape) :
    (synthesize shape).Takes h = shape.Admits h := by
  induction shape with
  | scalar | unknown => rfl
  | nullable inner ih =>
    funext v
    rw [synthesize, takes_guardNull, ih, Shape.Admits]
  | cloneable typeName =>
    funext v
    simp [synthesize, Accessor.Takes, Shape.Admits]
  | array element ih | enumerable element ih =>
    funext v
    simp only [synthesize, Accessor.Takes, Shape.Admits, ih]
  | sequence container element strategy ih =>
    funext v
    rw [synthesize, Shape.Admits]
    -- What is passed on is not looked into, so any value will do.
    split_ifs with hs
    · simp only [Accessor.Takes, hs, true_or]
    · simp only [Accessor.Takes, ih, hs, false_or]
  | map container keyType valueType key value strategy ihk ihv =>
    funext v
    rw [synthesize, Shape.Admits]
    split_ifs with hs
    · simp only [Accessor.Takes, hs, true_or]
    · simp only [Accessor.Takes, ihk, ihv, hs, false_or]

/-! ## Objects of plans -/

/-- Fields of an object of a type: where a member is cloned, its field is a value of its shape; a
field that is missing counts as null. -/
def Descriptor.Admits (settings : CompileSettings) (d : Descriptor) (h : Heap) (f : Fields) :
    Prop :=
  ∀ m ∈ d.members, m.role settings d.mark = .cloned → m.shape.Admits h (f.get m.name)

/-- Fields of an object of a plan: those that the descriptor of the plan admits. -/
def Plan.Admits (p : Plan) (h : Heap) (f : Fields) : Prop :=
  ∃ settings d, compile settings d = .ok p ∧ d.Admits settings h f

namespace Plan

variable {p : Plan} {h g : Heap} {f : Fields} {settings : CompileSettings} {d : Descriptor}

/-- The accessors that a plan applies are those of the members that are cloned. -/
theorem cloned_mem_assignments_iff (hc : compile settings d = .ok p) {op : Operation}
    {c : ClonedMember} :
    .cloned c ∈ p.assignments op ↔ ∃ m ∈ d.members, m.role settings d.mark = .cloned ∧
      c = ⟨m.name, m.accessor.retarget op⟩ := by
  rw [assignments_of_compile hc, List.mem_map]
  constructor
  · rintro ⟨a, ha, hac⟩
    obtain ⟨m, hm, hma⟩ := List.mem_filterMap.mp ha
    refine ⟨m, hm, ?_⟩
    cases hr : m.role settings d.mark <;> simp only [Member.assignment, hr] at hma <;> cases hma
    · cases hac
      exact ⟨rfl, rfl⟩
    · cases hac
  · rintro ⟨m, hm, hr, rfl⟩
    refine ⟨.cloned ⟨m.name, m.accessor⟩, List.mem_filterMap.mpr ⟨m, hm, ?_⟩, rfl⟩
    simp only [Member.assignment, hr]

/-- A descriptor admits what the accessors of its plan take. -/
theorem descriptor_admits_iff_takes (hc : compile settings d = .ok p) (op : Operation) :
    d.Admits settings h f ↔
      ∀ c, .cloned c ∈ p.assignments op → c.accessor.Takes h (f.get c.name) := by
  have hshape : ∀ m : Member, (m.accessor.retarget op).Takes h = m.shape.Admits h := fun m => by
    rw [Accessor.takes_retarget, Member.accessor, takes_synthesize]
  constructor
  · intro hf c hmem
    obtain ⟨m, hm, hr, rfl⟩ := (cloned_mem_assignments_iff hc).mp hmem
    rw [hshape]
    exact hf m hm hr
  · intro hf m hm hr
    rw [← hshape]
    exact hf _ ((cloned_mem_assignments_iff hc).mpr ⟨m, hm, hr, rfl⟩)

/-- **A plan admits what its accessors take**, whichever operation they are for. -/
theorem IsCompiled.admits_iff_takes (hp : p.IsCompiled) (op : Operation) :
    p.Admits h f ↔ ∀ c, .cloned c ∈ p.assignments op → c.accessor.Takes h (f.get c.name) := by
  constructor
  · rintro ⟨settings, d, hc, hf⟩
    exact (descriptor_admits_iff_takes hc op).mp hf
  · intro hf
    obtain ⟨settings, d, hc⟩ := hp
    exact ⟨settings, d, hc, (descriptor_admits_iff_takes hc op).mpr hf⟩

theorem Admits.isCompiled (hf : p.Admits h f) : p.IsCompiled := by
  obtain ⟨settings, d, hc, -⟩ := hf
  exact ⟨settings, d, hc⟩

theorem Admits.mono (hg : h ≤ g) (hf : p.Admits h f) : p.Admits g f := by
  have hp := hf.isCompiled
  rw [hp.admits_iff_takes .fast] at hf ⊢
  exact fun c hc => (hf c hc).mono hg

end Plan

/-! ## Well-typed heaps -/

/-- References refer to cells, and every object is of a type whose plan admits its fields. -/
structure Heap.WellTyped (h : Heap) (plans : Catalog) : Prop where
  closed : h.Closed
  admits : ∀ a n f, h.cell? a = some (.object n f) → ∃ p, plans.get? n = some p ∧ p.Admits h f

namespace Heap.WellTyped

variable {h : Heap} {plans : Catalog}

/-- **A heap stays well typed** with a new cell that refers to cells and, if it is an object, is of
a type whose plan admits its fields. -/
theorem alloc (hh : h.WellTyped plans) {c : Cell} (hc : ∀ v ∈ c.values, h.Holds v)
    (hobject : ∀ n f, c = .object n f → ∃ p, plans.get? n = some p ∧ p.Admits h f) :
    (h.alloc c).WellTyped plans := by
  refine ⟨hh.closed.alloc hc, fun a n f ha => ?_⟩
  -- Whichever object it is, its plan admits its fields in `h` already.
  have hp : ∃ p, plans.get? n = some p ∧ p.Admits h f := by
    rcases cell?_alloc_eq_some.mp ha with ha | ⟨-, rfl⟩
    · exact hh.admits a n f ha
    · exact hobject n f rfl
  exact hp.imp fun p hp => hp.imp_right (.mono (h.le_alloc c))

end Heap.WellTyped

end DeepCopy
