import DeepCopy.Cloning.Machine
import DeepCopy.Proofs.Heap.Growth

/-!
# Running computations

What the parts of a clone operation do to the state, and the two facts that hold of all of them on
every outcome: the heap only grows, and the trail is left as it was.

## Main definitions

* `CloneState.Extends`: a heap has grown and the trail is the one given
* `Cloning.outcome m s`: what `m` ends with from the state `s`
* `Cloning.Steady m`: from every state the heap grows and the trail comes back

## Main results

* `outcome_bind_eq_ok`: what a sequence of computations needs in order to succeed
* `Steady.bind`, `Steady.onTrail`: steady computations compose
-/

namespace DeepCopy

/-- The heap has grown from `h`, and the trail is `t`. -/
structure CloneState.Extends (s : CloneState) (h : Heap) (t : Trail) : Prop where
  le_heap : h ≤ s.heap
  trail_eq : s.trail = t

theorem with_trail_eq_self {s : CloneState} {t : Trail} (hs : s.trail = t) :
    { s with trail := t } = s := by
  subst hs
  rfl

namespace CloneState.Extends

variable {s : CloneState} {h : Heap} {t : Trail}

theorem trans {s' : CloneState} (hs' : s'.Extends s.heap s.trail) (hs : s.Extends h t) :
    s'.Extends h t :=
  ⟨hs.le_heap.trans hs'.le_heap, hs'.trail_eq.trans hs.trail_eq⟩

theorem alloc (hs : s.Extends h t) (c : Cell) :
    { s with heap := s.heap.alloc c : CloneState }.Extends h t :=
  ⟨hs.le_heap.trans (s.heap.le_alloc c), hs.trail_eq⟩

theorem push (hs : s.Extends h t) (a : Address) :
    { s with trail := s.trail.push (.ref a) : CloneState }.Extends h (t.push (.ref a)) :=
  ⟨hs.le_heap, congrArg (·.push (.ref a)) hs.trail_eq⟩

theorem pop {a : Address} (hs : s.Extends h (t.push (.ref a))) :
    { s with trail := s.trail.pop : CloneState }.Extends h t :=
  ⟨hs.le_heap, by simp [hs.trail_eq]⟩

end CloneState.Extends

namespace Cloning

variable {α β : Type}

/-! ## The outcome of a computation -/

/-- What a computation ends with from a state, and the state it leaves. -/
def outcome (m : Cloning α) (s : CloneState) : Except Halt α × CloneState := (m.run.run s).run

@[simp] theorem outcome_pure (a : α) (s : CloneState) :
    outcome (pure a : Cloning α) s = (.ok a, s) := rfl

@[simp] theorem outcome_throw (e : Halt) (s : CloneState) :
    outcome (throw e : Cloning α) s = (.error e, s) := rfl

@[simp] theorem outcome_fail (f : CloneFailure) (s : CloneState) :
    outcome (fail f : Cloning α) s = (.error (.failure f), s) := rfl

@[simp] theorem outcome_look (v : Value) (s : CloneState) :
    outcome (look v) s = (.ok (s.heap.content v), s) := rfl

@[simp] theorem outcome_alloc (c : Cell) (s : CloneState) :
    outcome (alloc c) s = (.ok (.ref s.heap.size), { s with heap := s.heap.alloc c }) := rfl

@[simp] theorem outcome_count (s : CloneState) :
    outcome count s = (.ok (), { s with calls := s.calls + 1 }) := rfl

theorem outcome_onTrail (v : Value) (m : Cloning α) (s : CloneState) :
    outcome (onTrail v m) s =
      let p := outcome m { s with trail := s.trail.push v }
      (p.1, { p.2 with trail := p.2.trail.pop }) := rfl

theorem outcome_onFreshTrail (m : Cloning α) (s : CloneState) :
    outcome (onFreshTrail m) s =
      let p := outcome m { s with trail := {} }
      (p.1, { p.2 with trail := s.trail }) := rfl

/-- Computations are equal when they have the same outcomes. -/
theorem ext_outcome {m m' : Cloning α} (ho : ∀ s, outcome m s = outcome m' s) : m = m' :=
  funext ho

theorem outcome_bind (m : Cloning α) (k : α → Cloning β) (s : CloneState) :
    outcome (m >>= k) s =
      match outcome m s with
      | (.ok a, s') => outcome (k a) s'
      | (.error e, s') => (.error e, s') := by
  unfold outcome
  rw [ExceptT.run_bind, StateT.run_bind]
  rcases h : m.run.run s with ⟨- | a, s'⟩ <;> rfl

theorem outcome_get_bind (k : CloneState → Cloning β) (s : CloneState) :
    outcome (get >>= k) s = outcome (k s) s := rfl

theorem outcome_bind_eq_ok {m : Cloning α} {k : α → Cloning β} {s s'' : CloneState} {b : β} :
    outcome (m >>= k) s = (.ok b, s'') ↔
      ∃ a s', outcome m s = (.ok a, s') ∧ outcome (k a) s' = (.ok b, s'') := by
  rw [outcome_bind]
  rcases outcome m s with ⟨e | a, s'⟩
  · simp
  · refine ⟨fun hb => ⟨a, s', rfl, hb⟩, ?_⟩
    rintro ⟨a', s₁, heq, hb⟩
    cases heq
    exact hb

/-! ## Steady computations -/

/-- From every state the heap grows, and the trail is afterwards what it was before. -/
def Steady (m : Cloning α) : Prop := ∀ s, (outcome m s).2.Extends s.heap s.trail

theorem Steady.pure (a : α) : Steady (pure a : Cloning α) := fun _ => ⟨le_rfl, rfl⟩

theorem Steady.throw (e : Halt) : Steady (throw e : Cloning α) := fun _ => ⟨le_rfl, rfl⟩

theorem Steady.fail (f : CloneFailure) : Steady (fail f : Cloning α) := .throw _

theorem Steady.look (v : Value) : Steady (look v) := fun _ => ⟨le_rfl, rfl⟩

theorem Steady.count : Steady count := fun _ => ⟨le_rfl, rfl⟩

theorem Steady.alloc (c : Cell) : Steady (alloc c) := fun s => ⟨s.heap.le_alloc c, rfl⟩

/-- The state after a steady computation. -/
theorem Steady.of_run {m : Cloning α} (hm : Steady m) {s s' : CloneState} {r : Except Halt α}
    (hr : outcome m s = (r, s')) : s'.Extends s.heap s.trail := by
  have hs := hm s
  rwa [hr] at hs

theorem Steady.bind {m : Cloning α} {k : α → Cloning β} (hm : Steady m)
    (hk : ∀ a, Steady (k a)) : Steady (m >>= k) := by
  intro s
  rw [outcome_bind]
  rcases hr : outcome m s with ⟨e | a, s'⟩
  · exact hm.of_run hr
  · exact (hk a s').trans (hm.of_run hr)

theorem Steady.onTrail {a : Address} {m : Cloning α} (hm : Steady m) :
    Steady (onTrail (.ref a) m) := by
  intro s
  rw [outcome_onTrail]
  exact (hm { s with trail := s.trail.push (.ref a) }).pop

end Cloning

end DeepCopy
