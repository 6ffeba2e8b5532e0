import DeepCopy.Proofs.Cloning.Compositional

/-!
# Cloning is steady

Whatever the plans are and however a clone operation ends, the heap has only grown and the trail
is what it was.

## Main results

* `Steady.compositional`: steady steps make steady sequences
* `Steady.evaluate`, `Steady.assign`: the parts of an operation are steady if its calls are
* `Steady.cloneObject`: clone operations are steady
-/

namespace DeepCopy

open Cloning

namespace Cloning

variable {call : Operation → Value → Cloning Value}

theorem Steady.compositional : Compositional (fun _ _ => True) fun _ x _ => Steady x where
  pure := .pure
  fail := .fail
  alloc := .alloc
  look hk := .bind (.look _) fun c => hk c trivial
  bind := .bind

theorem Steady.each {f : Value → Cloning Value} (hf : ∀ v, Steady (f v)) (vs : List Value) :
    Steady (each f vs) :=
  Steady.compositional.each (g := f) fun v _ => hf v

theorem Steady.eachEntry {key value : Value → Cloning Value} (hk : ∀ v, Steady (key v))
    (hv : ∀ v, Steady (value v)) (es : List (Value × Value)) : Steady (eachEntry key value es) :=
  Steady.compositional.eachEntry (l := key) (n := value) (fun e _ => hk e.1)
    fun e _ => hv e.2

theorem Steady.evaluate (hc : ∀ op w, Steady (call op w)) (member : String) (work : Accessor)
    (v : Value) : Steady (evaluate call member work v) :=
  Steady.compositional.evaluate (g := call) (I := fun _ => True) (fun _ _ _ _ _ _ => trivial)
    (fun op w _ => hc op w) member work trivial

theorem Steady.assign (hc : ∀ op w, Steady (call op w)) (source : Fields)
    (as : List Assignment) (made : Fields) : Steady (assign call source as made) :=
  Steady.compositional.assign (g := call) (I := fun _ => True) (fun _ _ _ _ _ _ => trivial)
    (fun op w _ => hc op w) (fun _ => trivial) as made

theorem Steady.build (hc : ∀ op w, Steady (call op w)) (op : Operation) (a : Address)
    (source : Fields) (p : Plan) : Steady (build call op (.ref a) source p) := by
  have hs := Steady.assign hc source (p.assignments op) .empty
  unfold Cloning.build
  split
  · exact .onTrail hs
  · exact hs

/-- **Clone operations are steady**, on every outcome and for any plans. -/
theorem Steady.cloneObject (plans : Catalog) (depth : Nat) (op : Operation) (v : Value) :
    Steady (cloneObject plans depth op v) := by
  induction depth generalizing op v with
  | zero =>
    intro s
    rw [outcome_cloneObject]
    rcases plans.entry op s.trail v (s.heap.content v) with f | - | ⟨n, f, p⟩
    · exact Steady.fail f s
    · exact Steady.pure v s
    · exact Steady.throw _ s
  | succ depth ih =>
    intro s
    rw [outcome_cloneObject]
    rcases he : plans.entry op s.trail v (s.heap.content v) with f | - | ⟨n, f, p⟩
    · exact Steady.fail f s
    · exact Steady.pure v s
    · obtain ⟨a, rfl, -⟩ := Heap.content_eq_cell.mp (Catalog.entry_eq_entered.mp he).1
      exact Steady.bind .count (fun _ => .bind (.build ih op a f p) fun made => .alloc _) s

theorem Steady.onFreshTrail {α : Type} {m : Cloning α} (hm : Steady m) :
    Steady (onFreshTrail m) := by
  intro s
  rw [outcome_onFreshTrail]
  exact ⟨(hm { s with trail := {} }).le_heap, rfl⟩

theorem Steady.cloneSafeIn {plans : Catalog} {v : Value} : Steady (cloneSafeIn plans v) := by
  intro s
  rw [outcome_cloneSafeIn]
  exact Steady.cloneObject plans _ .safe v s

theorem Steady.cloneSafe {plans : Catalog} {v : Value} : Steady (cloneSafe plans v) :=
  Steady.cloneSafeIn.onFreshTrail

theorem Steady.cloneFast {plans : Catalog} {v : Value} : Steady (cloneFast plans v) := by
  refine Steady.onFreshTrail fun s => ?_
  rw [outcome_get_bind]
  exact Steady.cloneObject plans _ .fast v s

end Cloning

end DeepCopy
