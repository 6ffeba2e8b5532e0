import DeepCopy.Proofs.Cloning.Request
import DeepCopy.Proofs.Heap.Reach

/-!
# The number of clones

An object is counted when its cloning begins, before it is known whether its copy will ever be made.
If the whole operation succeeds then all of them were made, and no object was made otherwise.

## Main definitions

* `Heap.objects h`: the addresses of the objects in a heap
* `Cloning.Tallies m`: where `m` succeeds it has counted the objects that it has made

## Main results

* `Tallies.evaluate`, `Tallies.cloneObject`: accessors and clone operations count what they make
* `calls_of_perform`: the count of an operation that succeeds
-/

namespace DeepCopy

open Cloning

namespace Heap

variable {h g : Heap}

theorem hasObject_iff {a : Address} : h.HasObject a ↔ (h.cell? a).map Cell.kind = some .object := by
  rcases hc : h.cell? a with - | ⟨n, f⟩ | vs | ⟨n, vs⟩ | ⟨n, es⟩ <;>
    simp [HasObject, hc, Cell.kind]

instance (h : Heap) : DecidablePred h.HasObject := fun _ => decidable_of_iff _ hasObject_iff.symm

/-- The addresses of the objects in a heap. -/
def objects (h : Heap) : Finset Address := (Finset.range h.size).filter h.HasObject

theorem mem_objects {a : Address} : a ∈ h.objects ↔ h.HasObject a := by
  rw [objects, Finset.mem_filter, Finset.mem_range]
  exact and_iff_right_of_imp HasObject.lt

theorem objects_subset_of_le (hg : h ≤ g) : h.objects ⊆ g.objects := by
  intro a ha
  obtain ⟨n, f, hc⟩ := mem_objects.mp ha
  exact mem_objects.mpr ⟨n, f, cell?_of_le hg hc⟩

theorem hasObject_alloc {c : Cell} {a : Address} :
    (h.alloc c).HasObject a ↔ h.HasObject a ∨ a = h.size ∧ c.kind = .object := by
  constructor
  · rintro ⟨n, f, hc⟩
    rcases cell?_alloc_eq_some.mp hc with hc | ⟨rfl, rfl⟩
    · exact .inl ⟨n, f, hc⟩
    · exact .inr ⟨rfl, rfl⟩
  · rintro (⟨n, f, hc⟩ | ⟨rfl, hc⟩)
    · exact ⟨n, f, cell?_alloc_eq_some.mpr (.inl hc)⟩
    · cases c <;> cases hc
      exact ⟨_, _, cell?_alloc_size h _⟩

/-- A new object is one object more. -/
theorem card_objects_alloc_object (h : Heap) (typeName : String) (f : Fields) :
    (h.alloc (.object typeName f)).objects.card = h.objects.card + 1 := by
  have hnew : h.size ∉ h.objects := fun hmem => Nat.lt_irrefl _ (mem_objects.mp hmem).lt
  rw [← Finset.card_insert_of_notMem hnew]
  refine congrArg Finset.card (Finset.ext fun a => ?_)
  rw [mem_objects, hasObject_alloc, Finset.mem_insert, mem_objects]
  simp [Cell.kind, or_comm]

/-- A new container is no object. -/
theorem objects_alloc_of_ne {c : Cell} (hc : c.kind ≠ .object) :
    (h.alloc c).objects = h.objects := by
  ext a
  rw [mem_objects, hasObject_alloc, mem_objects]
  exact or_iff_left fun hnew => hc hnew.2

end Heap

namespace Cloning

variable {α β : Type}

/-- Where a computation succeeds it has counted as many objects as it has made. -/
def Tallies (m : Cloning α) : Prop :=
  ∀ s a s', outcome m s = (.ok a, s') →
    s'.calls + s.heap.objects.card = s.calls + s'.heap.objects.card

theorem Tallies.pure (a : α) : Tallies (pure a : Cloning α) := by
  intro s b s' hr
  cases hr
  rfl

theorem Tallies.bind {m : Cloning α} {k : α → Cloning β} (hm : Tallies m)
    (hk : ∀ a, Tallies (k a)) : Tallies (m >>= k) := by
  intro s b s' hr
  obtain ⟨a, s₁, ha, hb⟩ := outcome_bind_eq_ok.mp hr
  have hfirst := hm s a s₁ ha
  have hsecond := hk a s₁ b s' hb
  omega

/-- A new container is not counted. -/
theorem Tallies.alloc {c : Cell} (hc : c.kind ≠ .object) : Tallies (alloc c) := by
  intro s a s' hr
  cases hr
  rw [Heap.objects_alloc_of_ne hc]

theorem Tallies.each {f : Value → Cloning Value} (hf : ∀ v, Tallies (f v)) (vs : List Value) :
    Tallies (each f vs) := by
  induction vs with
  | nil => exact .pure []
  | cons v vs ih => exact .bind (hf v) fun w => .bind ih fun ws => .pure (w :: ws)

theorem Tallies.eachEntry {key value : Value → Cloning Value} (hk : ∀ v, Tallies (key v))
    (hv : ∀ v, Tallies (value v)) (es : List (Value × Value)) :
    Tallies (eachEntry key value es) := by
  induction es with
  | nil => exact .pure []
  | cons e es ih =>
    exact .bind (hk e.1) fun k => .bind (hv e.2) fun w => .bind ih fun fs => .pure ((k, w) :: fs)

variable {call : Operation → Value → Cloning Value}

/-- **Accessors count what they make** if the calls in them do. -/
theorem Tallies.evaluate (hcall : ∀ op w, Tallies (call op w)) (member : String) (work : Accessor)
    (v : Value) : Tallies (evaluate call member work v) := by
  induction work using Accessor.action_induction generalizing v with
  | step work ih =>
    intro s w s' hr
    have hpart := ih member (s.heap.content v)
    rw [outcome_evaluate] at hr
    cases ha : work.action member (s.heap.content v) <;> rw [ha] at hr hpart
    case keep | null =>
      cases hr
      rfl
    case refuse => cases hr
    case call op => exact hcall op v s w s' hr
    case inner part => exact hpart part (by simp [Action.parts]) v s w s' hr
    case items element typeName vs =>
      have hitems := Tallies.each (hpart element (by simp [Action.parts])) vs
      have hcontainer : ∀ ws, (Cell.container typeName ws).kind ≠ .object := by
        cases typeName <;> simp [Cell.container, Cell.kind]
      exact Tallies.bind hitems (fun ws => .alloc (hcontainer ws)) s w s' hr
    case entries key value typeName es =>
      have hentries := Tallies.eachEntry (hpart key (by simp [Action.parts]))
        (hpart value (by simp [Action.parts])) es
      exact Tallies.bind hentries (fun fs => .alloc (by simp [Cell.kind])) s w s' hr

theorem Tallies.assign (hcall : ∀ op w, Tallies (call op w)) (source : Fields)
    (as : List Assignment) (made : Fields) : Tallies (assign call source as made) := by
  induction as generalizing made with
  | nil => exact .pure made
  | cons a as ih =>
    cases a with
    | kept name => exact ih _
    | cloned m => exact .bind (.evaluate hcall m.name m.accessor _) fun w => ih _

theorem Tallies.build (hcall : ∀ op w, Tallies (call op w)) (op : Operation) (v : Value)
    (source : Fields) (p : Plan) : Tallies (build call op v source p) := by
  intro s made s' hr
  rw [outcome_build] at hr
  generalize hassign : outcome (DeepCopy.assign call source (p.assignments op) .empty) _ = r at hr
  obtain ⟨r, s₁⟩ := r
  cases hr
  have hmembers := Tallies.assign hcall source _ .empty _ made s₁ hassign
  exact hmembers

variable {plans : Catalog} {op : Operation} {v : Value}

/-- **A clone operation that succeeds has counted the objects that it has made**: those that it has
entered, each of which has become an object. -/
theorem Tallies.cloneObject (depth : Nat) : Tallies (cloneObject plans depth op v) := by
  induction depth generalizing op v with
  | zero =>
    intro s w s' hr
    rw [outcome_cloneObject] at hr
    cases he : plans.entry op s.trail v (s.heap.content v) <;> rw [he] at hr <;> cases hr
    rfl
  | succ depth ih =>
    intro s w s' hr
    rw [outcome_cloneObject] at hr
    cases he : plans.entry op s.trail v (s.heap.content v) <;> rw [he] at hr
    case refused => cases hr
    case met =>
      cases hr
      rfl
    case entered n f p =>
      obtain ⟨_, s₁, hcount, hr⟩ := outcome_bind_eq_ok.mp hr
      cases hcount
      obtain ⟨made, s₂, hbuild, hr⟩ := outcome_bind_eq_ok.mp hr
      cases hr
      have hmembers := Tallies.build (fun _ _ => ih) op v f p _ made s₂ hbuild
      rw [Heap.card_objects_alloc_object]
      dsimp only at hmembers ⊢
      omega

end Cloning

/-- **The count of an operation that succeeds** goes up by the number of objects that it makes. -/
theorem calls_of_perform {plans : Catalog} {s s' : CloneState} {r : Request} {w : Value}
    (hr : outcome (r.perform plans) s = (.ok w, s')) :
    s'.calls = s.calls + (s'.heap.objects \ s.heap.objects).card := by
  have hle := ((Request.steady_perform plans r).of_run hr).le_heap
  rw [Request.outcome_perform] at hr
  generalize hclone : outcome (cloneObject plans _ r.operation r.value) _ = p at hr
  obtain ⟨result, s₁⟩ := p
  cases hr
  have htally := Tallies.cloneObject _ _ _ _ hclone
  have hsubset := Heap.objects_subset_of_le hle
  have hcard := Finset.card_le_card hsubset
  rw [Finset.card_sdiff_of_subset hsubset]
  dsimp only at htally hcard ⊢
  omega

end DeepCopy
