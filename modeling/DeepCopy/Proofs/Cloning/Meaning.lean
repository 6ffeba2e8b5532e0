import DeepCopy.Proofs.Cloning.Steady

/-!
# What shapes mean

A shape can be read as a way of copying values without an accessor: level by level, with null
accepted at the nullable levels and nowhere else. The accessor of a shape has fewer levels, since
guards are left out or joined with what they guard and containers that are passed on have nothing
below them, and yet it does the same.

## Main definitions

* `Shape.meaning clone member`: how a value of a shape is copied, where `clone` clones objects
* `Cloning.Same h x y`: on heaps grown from `h` both computations have one outcome

## Main results

* `outcome_evaluate_guardNull`: joining a guard with the work below it changes nothing
* `Same.synthesize`: neither does anything else that makes an accessor of a shape
* `outcome_evaluate_synthesize`: an accessor does what its shape means
-/

namespace DeepCopy

open Cloning

/-! ## The meaning of a shape -/

/-- The failure of finding something else than a kind in a member, null apart. -/
def Cloning.refuse (member : String) (expected : Kind) (found : Content) : Cloning Value :=
  if found = .scalar .null then fail (.nullReference member)
  else fail (.wrongKind member expected found.kind)

/-- How a value of a shape is copied: containers of the same type are made of the copies of what is
in them, and objects are cloned. -/
def Shape.meaning (clone : Value → Cloning Value) (member : String) :
    Shape → Value → Cloning Value
  | .scalar, v | .unknown _, v => return v
  | .nullable inner, v => do
    if (← look v) = .scalar .null then return .null else inner.meaning clone member v
  | .cloneable _, v => do
    if (← look v) = .scalar .null then fail (.nullReference member) else clone v
  | .array element, v => do
    match ← look v with
    | .cell (.array items) => alloc (.array (← each (element.meaning clone member) items))
    | found => refuse member .array found
  | .sequence _ element strategy, v =>
    if strategy = .passOn then return v else do
      match ← look v with
      | .cell (.sequence typeName items) =>
        alloc (.sequence typeName (← each (element.meaning clone member) items))
      | found => refuse member .sequence found
  | .map _ _ _ key value strategy, v =>
    if strategy = .passOn then return v else do
      match ← look v with
      | .cell (.mapping typeName entries) =>
        alloc (.mapping typeName
          (← eachEntry (key.meaning clone member) (value.meaning clone member) entries))
      | found => refuse member .mapping found
  | .enumerable element, v => do
    match ← look v with
    | .cell (.sequence typeName items) =>
      alloc (.sequence typeName (← each (element.meaning clone member) items))
    | .cell (.array items) => alloc (.array (← each (element.meaning clone member) items))
    | found => refuse member .sequence found

theorem fail_mismatch (member : String) (expected : Kind) (c : Content) :
    (fail (mismatch member expected c) : Cloning Value) = refuse member expected c := by
  unfold mismatch refuse
  split
  · rw [if_pos rfl]
  · next hc => rw [if_neg (by simpa using hc)]

/-! ## Computations with one outcome -/

namespace Cloning

variable {h : Heap} {α β : Type}

/-- From every heap grown from `h` both computations have one outcome, with a heap grown from
`h`. -/
def Same (h : Heap) (x y : Cloning α) : Prop :=
  ∀ s : CloneState, h ≤ s.heap → outcome x s = outcome y s ∧ h ≤ (outcome x s).2.heap

theorem Same.bind {x y : Cloning α} {k l : α → Cloning β} (hxy : Same h x y)
    (hkl : ∀ a, Same h (k a) (l a)) : Same h (x >>= k) (y >>= l) := by
  intro s hs
  obtain ⟨heq, hs'⟩ := hxy s hs
  rw [outcome_bind, outcome_bind, ← heq]
  rcases hr : outcome x s with ⟨e | a, s'⟩ <;> rw [hr] at hs'
  · exact ⟨rfl, hs'⟩
  · exact hkl a s' hs'

theorem Same.compositional : Compositional h.Shows fun _ => Same h where
  pure _ _ hs := ⟨rfl, hs⟩
  fail _ _ hs := ⟨rfl, hs⟩
  alloc c s hs := ⟨rfl, hs.trans (s.heap.le_alloc c)⟩
  look {_ v _ _} hkl s hs := by
    rw [outcome_bind, outcome_look, outcome_bind, outcome_look]
    exact hkl _ (Heap.shows_of_le hs v) s hs
  bind := .bind

theorem Steady.same {x : Cloning α} (hx : Steady x) : Same h x x :=
  fun s hs => ⟨rfl, hs.trans (hx s).le_heap⟩

/-! ## Accessors of shapes -/

variable {call : Operation → Value → Cloning Value} {member : String} {v : Value}

/-- **A guard that is joined with the work below it** still takes null as it is, and leaves
everything else to the work. -/
theorem outcome_evaluate_guardNull {s : CloneState} (hv : s.heap.Holds v) (work : Accessor) :
    outcome (evaluate call member (guardNull work) v) s =
      if s.heap.content v = .scalar .null then (.ok .null, s)
      else outcome (evaluate call member work v) s := by
  rw [outcome_evaluate, outcome_evaluate]
  split_ifs with hn
  · -- Work that takes null by itself has no guard: it is a copy, or a call that says so.
    obtain rfl := hv.content_eq_null.mp hn
    cases work <;> simp [guardNull, Accessor.action, perform, hn]
  · cases work <;> simp [guardNull, Accessor.action, perform, hn, outcome_evaluate]

theorem Same.refuse (expected : Kind) (c : Content) :
    Same h (fail (mismatch member expected c)) (Cloning.refuse member expected c) :=
  fail_mismatch member expected c ▸ (Steady.fail _).same

/-- **The accessor of a shape does what the shape means** if clones only add to the heap. -/
theorem Same.synthesize (hh : h.Closed) {clone : Value → Cloning Value}
    (hclone : ∀ w, Steady (clone w)) (shape : Shape) (hv : h.Holds v) :
    Same h (evaluate (fun _ => clone) member (synthesize shape) v)
      (shape.meaning clone member v) := by
  induction shape generalizing v with
  | scalar | unknown => exact Same.compositional.pure v
  | nullable inner ih =>
    -- Whether there is a guard or the work takes null by itself, null is its own clone.
    intro s hs
    rw [DeepCopy.synthesize, outcome_evaluate_guardNull (hv.of_le hs), Shape.meaning, outcome_bind,
      outcome_look]
    by_cases hn : s.heap.content v = .scalar .null
    · simp [hn, hs]
    · simpa [hn] using ih hv s hs
  | cloneable typeName =>
    refine Same.compositional.look fun c _ => ?_
    by_cases hn : c = .scalar .null
    · simpa [hn] using Same.compositional.fail _
    · simpa [hn] using (hclone v).same
  | array element ih =>
    -- Of all that a value may be, each kind of container is mapped by one shape and refused by others.
    refine Same.compositional.look fun c hc => ?_
    rcases c with x | ⟨n, f⟩ | vs | ⟨n, vs⟩ | ⟨n, es⟩
    case cell.array =>
      refine .bind (Same.compositional.each fun w hw => ?_) fun made => Same.compositional.alloc _
      exact ih (hh.holds_of_shows hv hc hw)
    all_goals exact Same.refuse .array _
  | sequence container element strategy ih =>
    rw [DeepCopy.synthesize, Shape.meaning]
    split_ifs with hs
    · -- a container that cannot be rebuilt
      exact Same.compositional.pure v
    refine Same.compositional.look fun c hc => ?_
    rcases c with x | ⟨n, f⟩ | vs | ⟨n, vs⟩ | ⟨n, es⟩
    case cell.sequence =>
      refine .bind (Same.compositional.each fun w hw => ?_) fun made => Same.compositional.alloc _
      exact ih (hh.holds_of_shows hv hc hw)
    all_goals exact Same.refuse .sequence _
  | map container keyType valueType key value strategy ihk ihv =>
    rw [DeepCopy.synthesize, Shape.meaning]
    split_ifs with hs
    · exact Same.compositional.pure v
    refine Same.compositional.look fun c hc => ?_
    rcases c with x | ⟨n, f⟩ | vs | ⟨n, vs⟩ | ⟨n, es⟩
    case cell.mapping =>
      refine .bind (Same.compositional.eachEntry (fun e he => ?_) fun e he => ?_) fun made =>
        Same.compositional.alloc _
      · exact ihk (hh.holds_of_shows hv hc (Cell.mem_values_mapping.mpr ⟨e, he, .inl rfl⟩))
      · exact ihv (hh.holds_of_shows hv hc (Cell.mem_values_mapping.mpr ⟨e, he, .inr rfl⟩))
    all_goals exact Same.refuse .mapping _
  | enumerable element ih =>
    refine Same.compositional.look fun c hc => ?_
    rcases c with x | ⟨n, f⟩ | vs | ⟨n, vs⟩ | ⟨n, es⟩
    case cell.array | cell.sequence =>
      refine .bind (Same.compositional.each fun w hw => ?_) fun made => Same.compositional.alloc _
      exact ih (hh.holds_of_shows hv hc hw)
    all_goals exact Same.refuse .sequence _

end Cloning

/-- **An accessor does what its shape means**: from every state, evaluating the accessor that is
made of a shape, with its calls naming an operation, ends with the result or the failure, the heap,
the trail and the count that the shape means with that operation. -/
theorem outcome_evaluate_synthesize (plans : Catalog) (depth : Nat) (op : Operation)
    (shape : Shape) (member : String) (v : Value) (s : CloneState) (hs : s.heap.Closed)
    (hv : s.heap.Holds v) :
    outcome (evaluate (cloneObject plans depth) member ((synthesize shape).retarget op) v) s =
      outcome (shape.meaning (cloneObject plans depth op) member v) s := by
  rw [evaluate_retarget]
  exact (Same.synthesize hs (Steady.cloneObject plans depth op) shape hv s le_rfl).1

/-- The nodes of the ring in groups, one of which is missing and one empty. -/
def nodeGroups : Heap := nodeRing.alloc (.sequence "Groups" [.ref 2, .null, .ref 3])

/-- Groups of nodes, each of which and all of which may be missing. -/
def groupsShape : Shape :=
  .nullable (.nullable (.sequence "Groups" (.nullable (.array (.cloneable "Node"))) .elements))

/-- With the second node on the trail, the first one is cloned as part of its group and the second
one is passed on. -/
theorem outcome_evaluate_synthesize_nodeGroups :
    nodeGroups.Closed ∧ nodeGroups.Holds (.ref 4) ∧
      outcome (evaluate (cloneObject (.ofList [nodePlan]) 2) "Groups"
          ((synthesize groupsShape).retarget .safe) (.ref 4))
          { heap := nodeGroups, trail := ⟨[1]⟩ } =
        outcome (groupsShape.meaning (cloneObject (.ofList [nodePlan]) 2 .safe) "Groups" (.ref 4))
          { heap := nodeGroups, trail := ⟨[1]⟩ } ∧
      (outcome (groupsShape.meaning (cloneObject (.ofList [nodePlan]) 2 .safe) "Groups" (.ref 4))
          { heap := nodeGroups, trail := ⟨[1]⟩ }).1 = .ok (.ref 9) := by
  have hclosed : nodeGroups.Closed := by decide +kernel
  have hholds : nodeGroups.Holds (.ref 4) := Heap.holds_ref.mpr (by decide)
  refine ⟨hclosed, hholds, ?_, by decide +kernel⟩
  exact outcome_evaluate_synthesize (.ofList [nodePlan]) 2 .safe groupsShape "Groups" (.ref 4)
    { heap := nodeGroups, trail := ⟨[1]⟩ } hclosed hholds

end DeepCopy
