import DeepCopy.Proofs.Cloning.Compositional

/-!
# Copies without clones

A member that is to be copied has its shape stripped of clones before an accessor is made of it. The
accessor is then what it would have been, with a copy wherever it would have called a clone
operation: containers are still rebuilt, guards stay where they are, and whatever stands at the
leaves is passed on. With no calls left there is nothing for which plans, trail or count would be
needed.

## Main definitions

* `Accessor.withoutCalls`: an accessor with every call turned into a copy
* `Cloning.HeapOnly m`: `m` reads and changes nothing but the heap

## Main results

* `synthesize_withoutClones`: stripping a shape strips its accessor
* `evaluate_withoutCalls`: what calls do is of no account where there are none
* `HeapOnly.evaluate`: accessors work on the heap alone if their calls do
* `withoutClones_copies`: what becomes of a member that is to be copied
-/

namespace DeepCopy

open Cloning

/-- The accessor with every call turned into a copy. -/
def Accessor.withoutCalls : Accessor → Accessor
  | .call _ _ => .copy
  | .copy => .copy
  | .passOn => .passOn
  | .guarded inner => .guarded inner.withoutCalls
  | .array element => .array element.withoutCalls
  | .sequence container element strategy => .sequence container element.withoutCalls strategy
  | .map container keyType valueType key value strategy =>
    .map container keyType valueType key.withoutCalls value.withoutCalls strategy
  | .project element => .project element.withoutCalls

theorem Accessor.callSites_withoutCalls (work : Accessor) : work.withoutCalls.callSites = 0 := by
  induction work with
  | copy | passOn | call => rfl
  | guarded inner ih => exact ih
  | array element ih => exact ih
  | sequence container element strategy ih => exact ih
  | map container keyType valueType key value strategy ihk ihv =>
    rw [withoutCalls, callSites, ihk, ihv]
  | project element ih => exact ih

/-! ## Shapes without clones -/

/-- A guard that a call would have taken over is left out before a copy as well. -/
theorem withoutCalls_guardNull (work : Accessor) :
    (guardNull work).withoutCalls = guardNull work.withoutCalls := by
  cases work <;> rfl

/-- **Stripping a shape of clones strips its accessor of calls.** -/
theorem synthesize_withoutClones (shape : Shape) :
    synthesize shape.withoutClones = (synthesize shape).withoutCalls := by
  induction shape with
  | scalar | unknown | cloneable => rfl
  | nullable inner ih =>
    rw [Shape.withoutClones, synthesize, ih, synthesize, withoutCalls_guardNull]
  | array element ih => rw [Shape.withoutClones, synthesize, ih, synthesize, Accessor.withoutCalls]
  | sequence container element strategy ih =>
    rw [Shape.withoutClones, synthesize, synthesize, ih]
    split_ifs <;> rfl
  | map container keyType valueType key value strategy ihk ihv =>
    rw [Shape.withoutClones, synthesize, synthesize, ihk, ihv]
    split_ifs <;> rfl
  | enumerable element ih =>
    rw [Shape.withoutClones, synthesize, ih, synthesize, Accessor.withoutCalls]

theorem Shape.withoutClones_withoutClones (shape : Shape) :
    shape.withoutClones.withoutClones = shape.withoutClones := by
  induction shape with
  | scalar | unknown | cloneable => rfl
  | nullable inner ih => simp only [withoutClones, ih]
  | array element ih => simp only [withoutClones, ih]
  | sequence container element strategy ih => simp only [withoutClones, ih]
  | map container keyType valueType key value strategy ihk ihv =>
    simp only [withoutClones, ihk, ihv]
  | enumerable element ih => simp only [withoutClones, ih]

/-! ## Evaluation without calls -/

/-- **What calls do is of no account** where there are none. -/
theorem evaluate_withoutCalls (call call' : Operation → Value → Cloning Value) (member : String)
    (work : Accessor) :
    evaluate call member work.withoutCalls = evaluate call' member work.withoutCalls := by
  funext v
  induction work generalizing v with
  | copy | passOn | call => rfl
  | guarded inner ih => simp only [Accessor.withoutCalls, evaluate, ih]
  | array element ih => simp only [Accessor.withoutCalls, evaluate, funext ih]
  | sequence container element strategy ih =>
    simp only [Accessor.withoutCalls, evaluate, funext ih]
  | map container keyType valueType key value strategy ihk ihv =>
    simp only [Accessor.withoutCalls, evaluate, funext ihk, funext ihv]
  | project element ih => simp only [Accessor.withoutCalls, evaluate, funext ih]

namespace Cloning

variable {α β : Type}

/-- A computation works on the heap alone: its result and the heap that it leaves depend on the heap
that it gets, and trail and count are neither read nor changed. -/
def HeapOnly (m : Cloning α) : Prop :=
  ∃ f : Heap → Except Halt α × Heap, ∀ s,
    outcome m s = ((f s.heap).1, { s with heap := (f s.heap).2 })

theorem HeapOnly.pure (a : α) : HeapOnly (pure a : Cloning α) :=
  ⟨fun h => (.ok a, h), fun _ => rfl⟩

theorem HeapOnly.bind {m : Cloning α} {k : α → Cloning β} (hm : HeapOnly m)
    (hk : ∀ a, HeapOnly (k a)) : HeapOnly (m >>= k) := by
  obtain ⟨f, hf⟩ := hm
  choose g hg using hk
  refine ⟨fun h => match f h with
    | (.ok a, h') => g a h'
    | (.error e, h') => (.error e, h'), fun s => ?_⟩
  rw [outcome_bind, hf]
  dsimp only
  rcases f s.heap with ⟨e | a, h'⟩
  · rfl
  · exact hg a { s with heap := h' }

theorem HeapOnly.look (v : Value) : HeapOnly (look v) :=
  ⟨fun h => (.ok (h.content v), h), fun _ => rfl⟩

theorem HeapOnly.compositional : Compositional (fun _ _ => True) fun _ x _ => HeapOnly x where
  pure := .pure
  fail failure := ⟨fun h => (.error (.failure failure), h), fun _ => rfl⟩
  alloc c := ⟨fun h => (.ok (.ref h.size), h.alloc c), fun _ => rfl⟩
  look hk := .bind (.look _) fun c => hk c trivial
  bind := .bind

/-- **Accessors work on the heap alone** if the calls in them do. -/
theorem HeapOnly.evaluate {call : Operation → Value → Cloning Value}
    (hcall : ∀ op w, HeapOnly (call op w)) (member : String) (work : Accessor) (v : Value) :
    HeapOnly (evaluate call member work v) :=
  HeapOnly.compositional.evaluate (g := call) (I := fun _ => True) (fun _ _ _ _ _ _ => trivial)
    (fun op w _ => hcall op w) member work trivial

end Cloning

/-- **Preventing clones removes the calls and nothing else.** The accessor of a stripped shape is
that of the shape with every call turned into a copy; it has no calls, and stripping twice is
stripping once. Evaluating it on a value ends, whatever calls would do, with a result and a heap
that depend on the heap alone; so no plan is looked up, nothing is counted, and the trail is as it
was. -/
theorem withoutClones_copies (shape : Shape) :
    synthesize shape.withoutClones = (synthesize shape).withoutCalls ∧
      (synthesize shape.withoutClones).callSites = 0 ∧
      shape.withoutClones.withoutClones = shape.withoutClones ∧
      ∀ member v, ∃ f : Heap → Except Halt Value × Heap,
        ∀ (call : Operation → Value → Cloning Value) (s : CloneState),
          outcome (evaluate call member (synthesize shape.withoutClones) v) s =
            ((f s.heap).1, { s with heap := (f s.heap).2 }) := by
  refine ⟨synthesize_withoutClones shape, ?_, shape.withoutClones_withoutClones, fun member v => ?_⟩
  · rw [synthesize_withoutClones, Accessor.callSites_withoutCalls]
  · -- One way of calling is as good as any other, so take one that leaves everything as it is.
    have hpure : ∀ (_ : Operation) (w : Value), HeapOnly (pure w : Cloning Value) :=
      fun _ w => .pure w
    obtain ⟨f, hf⟩ := HeapOnly.evaluate hpure member (synthesize shape).withoutCalls v
    refine ⟨f, fun call s => ?_⟩
    rw [synthesize_withoutClones, evaluate_withoutCalls call fun _ w => pure w]
    exact hf s

end DeepCopy
