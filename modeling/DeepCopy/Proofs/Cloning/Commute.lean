import DeepCopy.Proofs.Cloning.Bound
import DeepCopy.Proofs.Cloning.Request
import Mathlib.Logic.Equiv.Defs

/-!
# Clone operations commute

A clone operation only reads what was there before: it changes no cell, and no cell that was there
comes to refer to one that the operation makes. Of two operations that end, either may therefore go
first, each on the trail of its own caller. Each ends the same in both orders, but for the addresses
of the new cells, which the two operations take one after the other.

## Main definitions

* `Request.Terminates plans s r`: some bound on nested objects allows for the operation
* `Request.answer plans t r s`: what a caller that keeps the trail `t` has from the operation
* `Request.Commutes plans s q t r u σ`: up to the renaming `σ` it makes no difference which of `q`
  and `r` goes first

## Main results

* `Request.terminates_iff`: the bound that the operations use is enough for all that end
* `Request.perform_of_extends`: an operation ends the same after cells were added
* `clone_commutes`: clone operations only read, and they commute
-/

namespace DeepCopy

open Cloning

namespace Request

variable {plans : Catalog} {s s' : CloneState} {q r : Request} {t u : Trail}

/-- The operation ends if enough objects may be nested in each other. -/
def Terminates (plans : Catalog) (s : CloneState) (r : Request) : Prop :=
  ∃ depth, (outcome (cloneObject plans depth r.operation r.value)
    { s with trail := r.trail s.trail }).1 ≠ .error .exhausted

/-! ## Operations that end -/

/-- An operation that ends within some bound ends with the same within every bound that is not below
that of the heap. -/
theorem Terminates.outcome_cloneObject (hs : s.heap.Closed) (hv : s.heap.Holds r.value)
    (ht : r.Terminates plans s) {depth : Nat} (hd : depthLimit s.heap ≤ depth) :
    let start : CloneState := { s with trail := r.trail s.trail }
    outcome (cloneObject plans depth r.operation r.value) start =
        outcome (cloneObject plans (depthLimit s.heap) r.operation r.value) start ∧
      (outcome (cloneObject plans (depthLimit s.heap) r.operation r.value) start).1 ≠
        .error .exhausted := by
  intro start
  obtain ⟨d, hends⟩ := ht
  have hstart : start.Extends s.heap (r.trail s.trail) := ⟨le_rfl, rfl⟩
  have hlimit := (ends_of_extends hs hv hstart).mp
    (((ends_of_extends hs hv hstart).mpr hends).depthLimit hs hv)
  have hagree : Agrees s.heap start.trail start.trail
      (cloneObject plans (depthLimit s.heap) r.operation r.value)
      (cloneObject plans depth r.operation r.value) := .cloneObject_of_le hs hv hd
  obtain ⟨hs', hsame⟩ := hagree start hstart
  refine ⟨?_, hlimit⟩
  have hmore := hsame hlimit
  rwa [with_trail_eq_self hstart.trail_eq, with_trail_eq_self hs'.trail_eq] at hmore

/-- **The bound that the operations use** is enough for all that end. -/
theorem terminates_iff (hs : s.heap.Closed) (hv : s.heap.Holds r.value) :
    r.Terminates plans s ↔ (outcome (r.perform plans) s).1 ≠ .error .exhausted := by
  rw [outcome_perform]
  constructor
  · intro ht
    exact (ht.outcome_cloneObject hs hv le_rfl).2
  · intro hne
    exact ⟨_, hne⟩

/-- **An operation ends the same after cells were added**, up to a renaming that moves the cells
that it makes behind them. -/
theorem perform_of_extends (hs : s.heap.Closed) (hv : s.heap.Holds r.value)
    (ht : r.Terminates plans s) (hs' : s'.Extends s.heap s.trail) {k : Nat}
    (hk : s'.heap.size = s.heap.size + k) {ρ : Address → Address}
    (hρ : s.heap.Moves (outcome (r.perform plans) s).2.heap.size k ρ) :
    (outcome (r.perform plans) s').1 = (outcome (r.perform plans) s).1.map (Value.rename ρ) ∧
      (outcome (r.perform plans) s).2.Relocated s.heap k s.calls s'.calls ρ
        (outcome (r.perform plans) s').2 := by
  have hlimit : depthLimit s.heap ≤ depthLimit s'.heap := by
    unfold depthLimit
    exact Nat.mul_le_mul (by omega) (by omega)
  -- The bound of the larger heap makes no difference, so that both runs can be compared under it.
  obtain ⟨hsame, -⟩ := ht.outcome_cloneObject hs hv hlimit
  rw [outcome_perform plans s, ← hsame] at hρ
  rw [outcome_perform plans s, outcome_perform plans s', ← hsame, hs'.trail_eq]
  have hstart : CloneState.Extends { s' with trail := r.trail s.trail } s.heap (r.trail s.trail) :=
    ⟨hs'.le_heap, rfl⟩
  obtain ⟨hresult, hstate⟩ := Relocates.cloneObject hs hρ plans (depthLimit s'.heap) r.operation hv
    _ _ { s with trail := r.trail s.trail } _
    (CloneState.Extends.relocated (s := { s with trail := r.trail s.trail }) hstart hk ρ) le_rfl
  exact ⟨hresult, hstate.le_heap, hstate.le_heap', hstate.size_eq, hstate.cell?_eq, rfl,
    hstate.calls_eq⟩

/-! ## Operations in either order -/

/-- What a caller that keeps the trail `t` has from the operation. Another caller may keep another
trail, but heap and count are the same for all. -/
def answer (plans : Catalog) (t : Trail) (r : Request) (s : CloneState) :
    Except Halt Value × CloneState :=
  outcome (r.perform plans) { s with trail := t }

theorem answer_extends (plans : Catalog) (t : Trail) (r : Request) (s : CloneState) :
    (r.answer plans t s).2.Extends s.heap t :=
  steady_perform plans r { s with trail := t }

/-- A caller has the same from an operation after cells were added, but for where the cells are that
it makes. -/
theorem answer_of_le (hs : s.heap.Closed) (hv : s.heap.Holds r.value)
    (ht : r.Terminates plans { s with trail := t }) (hle : s.heap ≤ s'.heap) {k : Nat}
    (hk : s'.heap.size = s.heap.size + k) {ρ : Address → Address}
    (hρ : s.heap.Moves (r.answer plans t s).2.heap.size k ρ) :
    (r.answer plans t s').1 = (r.answer plans t s).1.map (Value.rename ρ) ∧
      (r.answer plans t s).2.Relocated s.heap k s.calls s'.calls ρ (r.answer plans t s').2 := by
  have hs' : CloneState.Extends { s' with trail := t } s.heap t := ⟨hle, rfl⟩
  exact perform_of_extends (s := { s with trail := t }) hs hv ht hs' hk hρ

/-- Up to a renaming of new cells it makes no difference whether `q` is performed first, for a caller
with the trail `t`, or `r`, for one with the trail `u`: each has the same result or the same failure
in both orders and leaves its caller's trail as it was, the same cells are added, and as many objects
are counted. -/
structure Commutes (plans : Catalog) (s : CloneState) (q : Request) (t : Trail) (r : Request)
    (u : Trail) (σ : Equiv.Perm Address) : Prop where
  /-- Only new cells are renamed. -/
  fixed : ∀ a < s.heap.size, σ a = a
  left : (q.answer plans t (r.answer plans u s).2).1 =
    (q.answer plans t s).1.map (Value.rename σ)
  right : (r.answer plans u s).1 =
    (r.answer plans u (q.answer plans t s).2).1.map (Value.rename σ)
  cell?_eq : ∀ a, (q.answer plans t (r.answer plans u s).2).2.heap.cell? (σ a) =
    ((r.answer plans u (q.answer plans t s).2).2.heap.cell? a).map (Cell.rename σ)
  calls_eq : (q.answer plans t (r.answer plans u s).2).2.calls =
    (r.answer plans u (q.answer plans t s).2).2.calls
  trail_left : (q.answer plans t (r.answer plans u s).2).2.trail = t
  trail_right : (r.answer plans u (q.answer plans t s).2).2.trail = u

/-- The address that another one goes to when two stretches after `n` trade places, the first of `k`
addresses and the second of `l`. -/
def exchanged (n k l a : Nat) : Nat :=
  if a < n then a else if a < n + k then a + l else if a < n + k + l then a - k else a

theorem exchanged_exchanged (n k l a : Nat) : exchanged n l k (exchanged n k l a) = a := by
  unfold exchanged
  split_ifs <;> omega

/-- The renaming that exchanges two stretches of addresses. -/
def exchange (n k l : Nat) : Equiv.Perm Address where
  toFun := exchanged n k l
  invFun := exchanged n l k
  left_inv := exchanged_exchanged n k l
  right_inv := exchanged_exchanged n l k

theorem moves_exchange (h : Heap) (k l : Nat) : h.Moves (h.size + k) l (exchange h.size k l) where
  fixed a ha := if_pos ha
  moved a ha hlt := by
    change exchanged h.size k l a = a + l
    rw [exchanged, if_neg (Nat.not_lt.mpr ha), if_pos hlt]

/-- If two operations each do after the other what they do first, the cells are the same in both
orders up to an exchange: `qr` is the state after both with the one that leads to `q` first. -/
theorem cell?_exchange {h : Heap} (hh : h.Closed) {q r qr rq : CloneState} {k l i j i' j' : Nat}
    (hq : q.heap.size = h.size + k) (hr : r.heap.size = h.size + l) (hqr : q.heap ≤ qr.heap)
    (hrq : r.heap ≤ rq.heap) (hleft : q.Relocated h l i j (exchange h.size k l) rq)
    (hright : r.Relocated h k i' j' (exchange h.size l k) qr) (a : Nat) :
    rq.heap.cell? (exchange h.size k l a) =
      (qr.heap.cell? a).map (Cell.rename (exchange h.size k l)) := by
  have hsize := hleft.size_eq
  have hsize' := hright.size_eq
  change rq.heap.cell? (exchanged h.size k l a) = _
  unfold exchanged
  split_ifs with hlt hltq hltr
  · -- a cell that was there before
    obtain ⟨c, hc⟩ := Heap.exists_cell?_of_lt hlt
    rw [Heap.cell?_of_le hleft.le_heap' hc, Heap.cell?_of_le hright.le_heap' hc, Option.map_some,
      Heap.rename_cell_eq_self hh (moves_exchange h k l).fixed hc]
  · -- a cell that the first operation has added
    have hltq' : a < q.heap.size := by omega
    rw [hleft.cell?_eq a (Nat.not_lt.mp hlt), Heap.cell?_eq_of_le hqr hltq']
  · -- a cell that the second one has added
    obtain ⟨b, rfl⟩ := Nat.exists_eq_add_of_le' (show k ≤ a by omega)
    have hb : h.size ≤ b := by omega
    have hltr' : b < r.heap.size := by omega
    have hback : Cell.rename (exchange h.size k l) ∘ Cell.rename (exchange h.size l k) = id :=
      funext (Cell.rename_rename_of_leftInverse (exchange h.size k l).right_inv)
    rw [Nat.add_sub_cancel, hright.cell?_eq b hb, Heap.cell?_eq_of_le hrq hltr', Option.map_map,
      hback, Option.map_id, id]
  · have hge : rq.heap.size ≤ a := by omega
    have hge' : qr.heap.size ≤ a := by omega
    rw [Heap.cell?_eq_none.mpr hge, Heap.cell?_eq_none.mpr hge']
    rfl

/-- **Operations that end commute.** -/
theorem Terminates.commutes (hs : s.heap.Closed) (hq : s.heap.Holds q.value)
    (hr : s.heap.Holds r.value) (hqt : q.Terminates plans { s with trail := t })
    (hru : r.Terminates plans { s with trail := u }) : ∃ σ, Commutes plans s q t r u σ := by
  have hsq := answer_extends plans t q s
  have hsr := answer_extends plans u r s
  have hsqr := answer_extends plans u r (q.answer plans t s).2
  have hsrq := answer_extends plans t q (r.answer plans u s).2
  obtain ⟨k, hk⟩ := Nat.exists_eq_add_of_le (Heap.size_le_of_le hsq.le_heap)
  obtain ⟨l, hl⟩ := Nat.exists_eq_add_of_le (Heap.size_le_of_le hsr.le_heap)
  have hσ := moves_exchange s.heap k l
  have hτ := moves_exchange s.heap l k
  rw [← hk] at hσ
  rw [← hl] at hτ
  -- Each of the two is compared with itself after the other one, on the trail of the same caller.
  obtain ⟨hleft, hrq⟩ := answer_of_le hs hq hqt hsr.le_heap hl hσ
  obtain ⟨hright, hqr⟩ := answer_of_le hs hr hru hsq.le_heap hk hτ
  refine ⟨exchange s.heap.size k l, hσ.fixed, hleft, ?_, ?_, ?_, hsrq.trail_eq, hsqr.trail_eq⟩
  · rw [hright]
    cases (r.answer plans u s).1 with
    | error e => rfl
    | ok w =>
      have hback := Value.rename_rename_of_leftInverse (exchange s.heap.size k l).right_inv w
      exact congrArg Except.ok hback.symm
  · exact cell?_exchange hs hk hl hsqr.le_heap hsrq.le_heap hrq hqr
  · have hi := hrq.calls_eq
    have hj := hqr.calls_eq
    omega

end Request

/-- **Clone operations only read, and they commute.** However an operation ends, every cell that was
there before is as it was, and refers to cells that were there before; and of two operations that
end either may go first, whatever trails their callers keep. -/
theorem clone_commutes (plans : Catalog) {s : CloneState} (hs : s.heap.Closed) :
    (∀ (r : Request) (a : Address), a < s.heap.size →
        (outcome (r.perform plans) s).2.heap.cell? a = s.heap.cell? a ∧
          ∀ c, (outcome (r.perform plans) s).2.heap.cell? a = some c →
            ∀ b, .ref b ∈ c.values → b < s.heap.size) ∧
      ∀ (q r : Request) (t u : Trail), s.heap.Holds q.value → s.heap.Holds r.value →
        q.Terminates plans { s with trail := t } → r.Terminates plans { s with trail := u } →
          (q.answer plans t s).1 ≠ .error .exhausted ∧
            (r.answer plans u s).1 ≠ .error .exhausted ∧
            ∃ σ, Request.Commutes plans s q t r u σ := by
  constructor
  · intro r a ha
    have hsame := Heap.cell?_eq_of_le (Request.steady_perform plans r s).le_heap ha
    refine ⟨hsame, fun c hc b hb => ?_⟩
    exact hs a c (hsame ▸ hc) b hb
  · intro q r t u hq hr hqt hru
    have hqe := (Request.terminates_iff (s := { s with trail := t }) hs hq).mp hqt
    have hre := (Request.terminates_iff (s := { s with trail := u }) hs hr).mp hru
    exact ⟨hqe, hre, hqt.commutes hs hq hr hru⟩

/-- A safe clone of the last node of the chain makes two cells for a caller that has the first one on
its trail, and a fast one makes six for a caller with an empty trail, in either order. -/
theorem clone_commutes_nodeChain :
    nodeChain.Closed ∧ nodeChain.Holds (.ref 3) ∧
      (Request.safeIn (.ref 3)).Terminates (.ofList [nodePlan])
        { heap := nodeChain, trail := ⟨[1]⟩ } ∧
      (Request.fast (.ref 3)).Terminates (.ofList [nodePlan]) { heap := nodeChain, trail := {} } ∧
      ∃ σ, Request.Commutes (.ofList [nodePlan]) { heap := nodeChain }
        (.safeIn (.ref 3)) ⟨[1]⟩ (.fast (.ref 3)) {} σ := by
  have hclosed : nodeChain.Closed := by decide +kernel
  have hholds : nodeChain.Holds (.ref 3) := Heap.holds_ref.mpr (by decide)
  have hsafe : (Request.safeIn (.ref 3)).Terminates (.ofList [nodePlan])
      { heap := nodeChain, trail := ⟨[1]⟩ } :=
    (Request.terminates_iff hclosed hholds).mpr (by decide +kernel)
  have hfast : (Request.fast (.ref 3)).Terminates (.ofList [nodePlan])
      { heap := nodeChain, trail := {} } :=
    (Request.terminates_iff hclosed hholds).mpr (by decide +kernel)
  obtain ⟨-, hcommute⟩ := clone_commutes (.ofList [nodePlan]) (s := { heap := nodeChain }) hclosed
  obtain ⟨-, -, hσ⟩ :=
    hcommute (.safeIn (.ref 3)) (.fast (.ref 3)) ⟨[1]⟩ {} hholds hholds hsafe hfast
  exact ⟨hclosed, hholds, hsafe, hfast, hσ⟩

end DeepCopy
