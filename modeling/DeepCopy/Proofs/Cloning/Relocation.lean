import DeepCopy.Proofs.Cloning.Steady
import DeepCopy.Proofs.Heap.Rename

/-!
# Cloning elsewhere

What a clone operation does depends on what its value reaches and on nothing else that is in the
heap. With other cells added before, it does the same with every new cell further on by as many
addresses, and fails with the same failure.

## Main definitions

* `Heap.Moves h m k ρ`: a renaming that leaves `h` in place and moves what is added to it
* `CloneState.Relocated h k i j ρ s s'`: what `s` has added to `h` is in `s'` as well, moved
* `Cloning.Relocates h m k ρ f x y`: from such states `x` and `y` come to such states

## Main results

* `Relocates.bind`: computations that do the same elsewhere may follow each other
* `Relocates.evaluate`, `Relocates.assign`: so do accessors and assignments if their calls do
* `Relocates.cloneObject`: clone operations do the same elsewhere
-/

namespace DeepCopy

open Cloning

/-- The renaming leaves the cells of a heap in place, and moves the addresses that come after them
and before `m` by `k`. -/
structure Heap.Moves (h : Heap) (m k : Nat) (ρ : Address → Address) : Prop where
  fixed : ∀ a < h.size, ρ a = a
  moved : ∀ a, h.size ≤ a → a < m → ρ a = a + k

/-- What one state has added to a heap, another has as well, `k` addresses further on; the trails are
the same, and the counts differ as `i` and `j` do. -/
structure CloneState.Relocated (h : Heap) (k i j : Nat) (ρ : Address → Address)
    (s s' : CloneState) : Prop where
  le_heap : h ≤ s.heap
  le_heap' : h ≤ s'.heap
  size_eq : s'.heap.size = s.heap.size + k
  cell?_eq : ∀ a, h.size ≤ a → s'.heap.cell? (a + k) = (s.heap.cell? a).map (Cell.rename ρ)
  trail_eq : s'.trail = s.trail
  calls_eq : s'.calls + i = s.calls + j

/-- What a state has added to its own heap, which is nothing, is in every state that extends it. -/
theorem CloneState.Extends.relocated {s s' : CloneState} (hs : s'.Extends s.heap s.trail) {k : Nat}
    (hk : s'.heap.size = s.heap.size + k) (ρ : Address → Address) :
    s.Relocated s.heap k s.calls s'.calls ρ s' := by
  refine ⟨le_rfl, hs.le_heap, hk, fun a ha => ?_, hs.trail_eq, Nat.add_comm _ _⟩
  have ha' : s'.heap.size ≤ a + k := by omega
  rw [Heap.cell?_eq_none.mpr ha, Heap.cell?_eq_none.mpr ha']
  rfl

namespace Cloning

variable {α β : Type} {h : Heap} {m k : Nat} {ρ : Address → Address} {f : α → α} {g : β → β}

/-- From a state, and from one that has the same `k` addresses further on, two computations end
alike, up to `f` on the results, in such states again, as long as the first one needs no addresses
from `m` on. -/
def Relocates (h : Heap) (m k : Nat) (ρ : Address → Address) (f : α → α) (x y : Cloning α) : Prop :=
  ∀ i j s s', s.Relocated h k i j ρ s' → (outcome x s).2.heap.size ≤ m →
    (outcome y s').1 = (outcome x s).1.map f ∧
      (outcome x s).2.Relocated h k i j ρ (outcome y s').2

/-! ## Steps and sequences -/

theorem Relocates.pure {a b : α} (hab : f a = b) :
    Relocates h m k ρ f (pure a) (pure b) :=
  fun _ _ _ _ hs _ => ⟨hab ▸ rfl, hs⟩

theorem Relocates.throw (e : Halt) : Relocates h m k ρ f (throw e) (throw e) :=
  fun _ _ _ _ hs _ => ⟨rfl, hs⟩

theorem Relocates.fail (failure : CloneFailure) :
    Relocates h m k ρ f (fail failure) (fail failure) :=
  .throw _

theorem Relocates.count : Relocates h m k ρ id count count := fun i j s s' hs _ =>
  ⟨rfl, hs.le_heap, hs.le_heap', hs.size_eq, hs.cell?_eq, hs.trail_eq,
    by rw [outcome_count, outcome_count, Nat.succ_add, hs.calls_eq, Nat.succ_add]⟩

/-- A new cell is at an address that is moved. -/
theorem Relocates.alloc (hρ : h.Moves m k ρ) (c : Cell) :
    Relocates h m k ρ (Value.rename ρ) (alloc c) (alloc (c.rename ρ)) := by
  intro i j s s' hs hm
  rw [outcome_alloc, Heap.size_alloc] at hm
  have hle := Heap.size_le_of_le hs.le_heap
  rw [outcome_alloc, outcome_alloc]
  refine ⟨?_, ⟨hs.le_heap.trans (s.heap.le_alloc c), hs.le_heap'.trans (s'.heap.le_alloc _), ?_, ?_,
    hs.trail_eq, hs.calls_eq⟩⟩
  · rw [hs.size_eq, ← hρ.moved s.heap.size hle hm]
    rfl
  · rw [Heap.size_alloc, Heap.size_alloc, hs.size_eq, Nat.succ_add]
  · intro a ha
    have hsize := hs.size_eq
    rcases Nat.lt_trichotomy a s.heap.size with hlt | rfl | hgt
    · have hlt' : a + k < s'.heap.size := by omega
      rw [Heap.cell?_alloc_of_lt hlt, Heap.cell?_alloc_of_lt hlt']
      exact hs.cell?_eq a ha
    · rw [Heap.cell?_alloc_size, ← hsize, Heap.cell?_alloc_size]
      rfl
    · have hge : (s.heap.alloc c).size ≤ a := by rw [Heap.size_alloc]; omega
      have hge' : (s'.heap.alloc (c.rename ρ)).size ≤ a + k := by rw [Heap.size_alloc]; omega
      rw [Heap.cell?_eq_none.mpr hge, Heap.cell?_eq_none.mpr hge']
      rfl

/-- **Computations that do the same elsewhere may follow each other.** -/
theorem Relocates.bind {x y : Cloning α} {p q : α → Cloning β} (hxy : Relocates h m k ρ f x y)
    (hp : ∀ a, Steady (p a)) (hpq : ∀ a, Relocates h m k ρ g (p a) (q (f a))) :
    Relocates h m k ρ g (x >>= p) (y >>= q) := by
  intro i j s s' hs hm
  have hx := hxy i j s s' hs
  rw [outcome_bind] at hm ⊢
  rw [outcome_bind]
  rcases hr : outcome x s with ⟨e | a, s₁⟩ <;> rw [hr] at hm hx
  · obtain ⟨hy, hs₁⟩ := hx hm
    rcases hr' : outcome y s' with ⟨r, s₂⟩
    rw [hr'] at hy hs₁
    cases hy
    exact ⟨rfl, hs₁⟩
  · -- What the second computation adds comes after what the first one has added.
    obtain ⟨hy, hs₁⟩ := hx ((Heap.size_le_of_le (hp a s₁).le_heap).trans hm)
    rcases hr' : outcome y s' with ⟨r, s₂⟩
    rw [hr'] at hy hs₁
    cases hy
    exact hpq a i j s₁ s₂ hs₁ hm

theorem Relocates.onTrail {x y : Cloning α} (v : Value) (hxy : Relocates h m k ρ f x y) :
    Relocates h m k ρ f (onTrail v x) (onTrail v y) := by
  intro i j s s' hs hm
  obtain ⟨hy, hs'⟩ := hxy i j { s with trail := s.trail.push v } { s' with trail := s'.trail.push v }
    ⟨hs.le_heap, hs.le_heap', hs.size_eq, hs.cell?_eq, congrArg (·.push v) hs.trail_eq,
      hs.calls_eq⟩ hm
  rw [outcome_onTrail, outcome_onTrail]
  exact ⟨hy, hs'.le_heap, hs'.le_heap', hs'.size_eq, hs'.cell?_eq,
    congrArg Trail.pop hs'.trail_eq, hs'.calls_eq⟩

theorem Relocates.each {w : Value → Cloning Value} {vs : List Value} (hw : ∀ v, Steady (w v))
    (hvs : ∀ v ∈ vs, Relocates h m k ρ (Value.rename ρ) (w v) (w v)) :
    Relocates h m k ρ (List.map (Value.rename ρ)) (each w vs) (each w vs) := by
  induction vs with
  | nil => exact .pure rfl
  | cons v vs ih =>
    have hrest := ih fun x hx => hvs x (List.mem_cons_of_mem _ hx)
    refine .bind (hvs v List.mem_cons_self) (fun _ => .bind (.each hw vs) fun _ => .pure _) fun _ => ?_
    exact .bind hrest (fun _ => .pure _) fun _ => .pure rfl

theorem Relocates.eachEntry {w w' : Value → Cloning Value} {es : List (Value × Value)}
    (hw : ∀ v, Steady (w v)) (hw' : ∀ v, Steady (w' v))
    (hes : ∀ e ∈ es, Relocates h m k ρ (Value.rename ρ) (w e.1) (w e.1))
    (hes' : ∀ e ∈ es, Relocates h m k ρ (Value.rename ρ) (w' e.2) (w' e.2)) :
    Relocates h m k ρ (List.map (Prod.map (Value.rename ρ) (Value.rename ρ)))
      (eachEntry w w' es) (eachEntry w w' es) := by
  induction es with
  | nil => exact .pure rfl
  | cons e es ih =>
    have hrest := ih (fun d hd => hes d (List.mem_cons_of_mem _ hd))
      fun d hd => hes' d (List.mem_cons_of_mem _ hd)
    have hsteady := Steady.eachEntry hw hw' es
    refine .bind (hes e List.mem_cons_self)
      (fun _ => .bind (hw' _) fun _ => .bind hsteady fun _ => .pure _) fun _ => ?_
    refine .bind (hes' e List.mem_cons_self) (fun _ => .bind hsteady fun _ => .pure _) fun _ => ?_
    exact .bind hrest (fun _ => .pure _) fun _ => .pure rfl

/-! ## Accessors and assignments -/

variable {call : Operation → Value → Cloning Value}

/-- **An accessor does the same elsewhere** if the calls in it do, on all values that the common
heap holds. -/
theorem Relocates.evaluate (hh : h.Closed) (hρ : h.Moves m k ρ) (hsteady : ∀ op w, Steady (call op w))
    (hcall : ∀ op w, h.Holds w → Relocates h m k ρ (Value.rename ρ) (call op w) (call op w))
    (member : String) (work : Accessor) {v : Value} (hv : h.Holds v) :
    Relocates h m k ρ (Value.rename ρ) (evaluate call member work v)
      (evaluate call member work v) := by
  induction work, v using Accessor.task_induction h member with
  | step work v ih =>
    have htask : ∀ task ∈ (work.action member (h.content v)).tasks v,
        Relocates h m k ρ (Value.rename ρ) (DeepCopy.evaluate call member task.1 task.2)
          (DeepCopy.evaluate call member task.1 task.2) := fun task ht =>
      ih task ht ((Accessor.reaches_of_mem_tasks ht).holds hh hv)
    have hwork := fun part w => Steady.evaluate hsteady member part w
    -- Both runs see the same content, so that the accessor does the same next.
    suffices hact : Relocates h m k ρ (Value.rename ρ)
        (perform call member v (work.action member (h.content v)))
        (perform call member v (work.action member (h.content v))) by
      intro i j s s' hs hm
      rw [outcome_evaluate _ _ _ _ s, Heap.content_of_le hs.le_heap hv] at hm ⊢
      rw [outcome_evaluate _ _ _ _ s', Heap.content_of_le hs.le_heap' hv]
      exact hact i j s s' hs hm
    generalize work.action member (h.content v) = action at htask ⊢
    cases action with
    | keep => exact .pure (Value.rename_eq_self hρ.fixed hv)
    | null => exact .pure rfl
    | refuse failure => exact .fail failure
    | call op => exact hcall op v hv
    | inner part => exact htask (part, v) (by simp [Action.tasks])
    | items element typeName vs =>
      have hitems : ∀ w ∈ vs, Relocates h m k ρ (Value.rename ρ)
          (DeepCopy.evaluate call member element w) (DeepCopy.evaluate call member element w) :=
        fun w hw => htask (element, w) (List.mem_map.mpr ⟨w, hw, rfl⟩)
      refine .bind (.each (hwork element) hitems) (fun _ => .alloc _) fun ws => ?_
      cases typeName with
      | none => exact .alloc hρ (.array ws)
      | some n => exact .alloc hρ (.sequence n ws)
    | entries key value n es =>
      refine .bind (.eachEntry (hwork key) (hwork value) (fun e he => ?_) fun e he => ?_)
        (fun _ => .alloc _) fun fs => .alloc hρ (.mapping n fs)
      · exact htask (key, e.1) (Action.mem_tasks_entries.mpr ⟨e, he, .inl rfl⟩)
      · exact htask (value, e.2) (Action.mem_tasks_entries.mpr ⟨e, he, .inr rfl⟩)

theorem Relocates.assign (hh : h.Closed) (hρ : h.Moves m k ρ) (hsteady : ∀ op w, Steady (call op w))
    (hcall : ∀ op w, h.Holds w → Relocates h m k ρ (Value.rename ρ) (call op w) (call op w))
    {source : Fields} (hsource : ∀ key, h.Holds (source.get key)) (as : List Assignment)
    (made : Fields) :
    Relocates h m k ρ (Fields.rename ρ) (assign call source as made)
      (assign call source as (made.rename ρ)) := by
  induction as generalizing made with
  | nil => exact .pure rfl
  | cons a as ih =>
    cases a with
    | kept name =>
      have hset : (made.set name (source.get name)).rename ρ =
          (made.rename ρ).set name (source.get name) := by
        rw [Fields.rename_set, Value.rename_eq_self hρ.fixed (hsource name)]
      rw [DeepCopy.assign, DeepCopy.assign, ← hset]
      exact ih (made.set name (source.get name))
    | cloned member =>
      refine .bind (.evaluate hh hρ hsteady hcall member.name member.accessor (hsource member.name))
        (fun w => .assign hsteady source as _) fun w => ?_
      rw [← made.rename_set]
      exact ih (made.set member.name w)

/-! ## Objects -/

theorem Relocates.build (op : Operation) (v : Value) {source : Fields} {p : Plan}
    (hassign : Relocates h m k ρ (Fields.rename ρ)
      (DeepCopy.assign call source (p.assignments op) .empty)
      (DeepCopy.assign call source (p.assignments op) .empty)) :
    Relocates h m k ρ (Fields.rename ρ) (build call op v source p) (build call op v source p) := by
  unfold Cloning.build
  split
  · exact .onTrail v hassign
  · exact hassign

variable {plans : Catalog} {op : Operation} {v : Value}

/-- An object is cloned the same elsewhere if the fields of its copy are made the same. -/
theorem Relocates.enter (hρ : h.Moves m k ρ) (hv : h.Holds v) {depth : Nat}
    (hb : ∀ d n source p, depth = d + 1 → h.content v = .cell (.object n source) →
      Relocates h m k ρ (Fields.rename ρ) (Cloning.build (cloneObject plans d) op v source p)
        (Cloning.build (cloneObject plans d) op v source p)) :
    Relocates h m k ρ (Value.rename ρ) (cloneObject plans depth op v)
      (cloneObject plans depth op v) := by
  intro i j s s' hs hm
  rw [outcome_cloneObject _ _ _ _ s, Heap.content_of_le hs.le_heap hv] at hm ⊢
  rw [outcome_cloneObject _ _ _ _ s', Heap.content_of_le hs.le_heap' hv, hs.trail_eq]
  have hentry : ∀ n source p, plans.entry op s.trail v (h.content v) = .entered n source p →
      h.content v = .cell (.object n source) := fun n source p he =>
    (Catalog.entry_eq_entered.mp he).1
  generalize plans.entry op s.trail v (h.content v) = entry at hm hentry ⊢
  cases entry with
  | refused failure => exact Relocates.fail failure i j s s' hs hm
  | met => exact Relocates.pure (Value.rename_eq_self hρ.fixed hv) i j s s' hs hm
  | entered n source p =>
    cases depth with
    | zero => exact Relocates.throw .exhausted i j s s' hs hm
    | succ d =>
      have hc := hentry n source p rfl
      obtain ⟨a, rfl, -⟩ := Heap.content_eq_cell.mp hc
      have hbuild := hb d n source p rfl hc
      have hcopy := hbuild.bind (q := fun made => Cloning.alloc (.object n made))
        (fun made => .alloc (.object n made)) fun made => .alloc hρ (.object n made)
      have hsteady := Steady.build (Steady.cloneObject plans d) op a source p
      exact Relocates.bind .count (fun _ => .bind hsteady fun _ => .alloc _) (fun _ => hcopy)
        i j s s' hs hm

/-- **A clone operation does the same elsewhere**: with cells added before, it ends with the same
result up to the renaming, or with the same failure. -/
theorem Relocates.cloneObject (hh : h.Closed) (hρ : h.Moves m k ρ) (plans : Catalog) (depth : Nat)
    (op : Operation) {v : Value} (hv : h.Holds v) :
    Relocates h m k ρ (Value.rename ρ) (cloneObject plans depth op v)
      (cloneObject plans depth op v) := by
  induction depth generalizing op v with
  | zero => exact .enter hρ hv fun d n source p hd => by cases hd
  | succ depth ih =>
    refine .enter hρ hv fun d n source p hd hc => .build op v ?_
    cases hd
    exact .assign hh hρ (Steady.cloneObject plans depth) (fun op _ hw => ih op hw)
      (Heap.holds_get hh hc) (p.assignments op) .empty

end Cloning

end DeepCopy
