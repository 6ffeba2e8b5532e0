import DeepCopy.Proofs.Cloning.Agreement
import DeepCopy.Proofs.Cloning.Relocation
import Mathlib.Data.Finset.Card

/-!
# The bound on nested objects

A clone operation that needs more nested objects than the bound allows for never ends, whatever the
plans are. What an operation does next is decided by the operation, the trail and the object in
hand, so in a run that ends no two nested calls have all three in common. The trail changes only
when a safe operation puts an object on it that is not there; between two such changes the fast
operations enter every object once at most.

## Main definitions

* `Cloning.Ends plans h t depth op v`: a bound on nested objects allows for a clone of `v`

## Main results

* `ends_of_extends`: what is added to the heap does not decide whether an operation ends
* `Ends.exists_nested`: a call that needs a bound has a nested call that needs one less
* `Ends.depthLimit`: an operation that ends within any bound ends within that of the heap
-/

namespace DeepCopy

namespace Cloning

open DeepCopy (cloneObject)

variable {plans : Catalog} {h : Heap} {t : Trail} {op : Operation} {v : Value} {depth : Nat}

/-- A bound on nested objects allows for the clone of a value in a heap, on a trail. -/
def Ends (plans : Catalog) (h : Heap) (t : Trail) (depth : Nat) (op : Operation) (v : Value) :
    Prop :=
  (outcome (cloneObject plans depth op v) { heap := h, trail := t }).1 ≠ .error .exhausted

theorem Except.map_eq_error {ε α β : Type} {f : α → β} {r : Except ε α} {e : ε} :
    r.map f = .error e ↔ r = .error e := by
  cases r <;> simp [Except.map]

/-- What was added to the heap does not decide whether an operation ends. -/
theorem ends_of_extends (hh : h.Closed) (hv : h.Holds v) {s : CloneState} (hs : s.Extends h t) :
    Ends plans h t depth op v ↔ (outcome (cloneObject plans depth op v) s).1 ≠ .error .exhausted := by
  obtain ⟨k, hk⟩ := Nat.exists_eq_add_of_le (Heap.size_le_of_le hs.le_heap)
  let ρ : Address → Address := fun a => if a < h.size then a else a + k
  let start : CloneState := { heap := h, trail := t }
  have hρ : h.Moves (outcome (cloneObject plans depth op v) start).2.heap.size k ρ :=
    ⟨fun a ha => if_pos ha, fun a ha _ => if_neg (Nat.not_lt.mpr ha)⟩
  have hstart : start.Relocated h k 0 s.calls ρ s :=
    CloneState.Extends.relocated (s := start) hs hk ρ
  have hresult := (Relocates.cloneObject hh hρ plans depth op hv _ _ start s hstart le_rfl).1
  rw [hresult, Ne, Except.map_eq_error]
  rfl

theorem Ends.mono {depth' : Nat} (hh : h.Closed) (hv : h.Holds v)
    (he : Ends plans h t depth op v) (hd : depth ≤ depth') : Ends plans h t depth' op v := by
  have hagree : Agrees h t t (cloneObject plans depth op v) (cloneObject plans depth' op v) :=
    .cloneObject_of_le hh hv hd
  rw [Ends, (hagree { heap := h, trail := t } ⟨le_rfl, rfl⟩).2 he]
  exact he

/-- One level more of nested objects changes nothing where one level less is enough. -/
theorem Agrees.of_ends (hh : h.Closed) (hv : h.Holds v)
    (he : Ends plans h t (depth + 1) op v → Ends plans h t depth op v) :
    Agrees h t t (cloneObject plans (depth + 1) op v) (cloneObject plans depth op v) := by
  intro s hs
  have hagree : Agrees h t t (cloneObject plans depth op v) (cloneObject plans (depth + 1) op v) :=
    .cloneObject_of_le hh hv (Nat.le_succ depth)
  obtain ⟨hs', hle⟩ := hagree s hs
  refine ⟨(Steady.cloneObject plans (depth + 1) op v s).trans hs, fun hne => ?_⟩
  have hends := (ends_of_extends hh hv hs).mp (he ((ends_of_extends hh hv hs).mpr hne))
  have hsame := hle hends
  rw [with_trail_eq_self hs.trail_eq, with_trail_eq_self hs'.trail_eq] at hsame
  rw [with_trail_eq_self hs.trail_eq, hsame, with_trail_eq_self hs'.trail_eq]

/-! ## Nested calls -/

/-- Only an operation that enters an object can need more nested objects. -/
theorem exists_entered_of_not_ends (hn : ¬ Ends plans h t depth op v) :
    ∃ n source p, plans.entry op t v (h.content v) = .entered n source p := by
  rw [Ends, outcome_cloneObject, not_not] at hn
  dsimp only at hn
  cases he : plans.entry op t v (h.content v) with
  | refused failure =>
    rw [he] at hn
    cases depth <;> cases hn
  | met =>
    rw [he] at hn
    cases depth <;> cases hn
  | entered n source p => exact ⟨n, source, p, rfl⟩

/-- **A call that needs a bound has a nested call that needs one less**, on the trail on which its
members are cloned. -/
theorem Ends.exists_nested (hh : h.Closed) (hv : h.Holds v)
    (he : Ends plans h t (depth + 2) op v) (hn : ¬ Ends plans h t (depth + 1) op v) :
    ∃ o w, h.Holds w ∧ Ends plans h (op.trail t v) (depth + 1) o w ∧
      ¬ Ends plans h (op.trail t v) depth o w := by
  by_contra hall
  have hnested : ∀ o w, h.Holds w → Ends plans h (op.trail t v) (depth + 1) o w →
      Ends plans h (op.trail t v) depth o w := fun o w hw hend => by
    by_contra hnot
    exact hall ⟨o, w, hw, hend, hnot⟩
  -- If no nested call needs the last level, neither does the operation itself.
  have hagree : Agrees h t t (cloneObject plans (depth + 2) op v)
      (cloneObject plans (depth + 1) op v) := by
    refine .enter hv rfl fun d n source p hd hentry => ⟨depth, rfl, ?_⟩
    cases hd
    obtain ⟨hc, -, -⟩ := Catalog.entry_eq_entered.mp hentry
    obtain ⟨a, rfl, -⟩ := Heap.content_eq_cell.mp hc
    have hassign : Agrees h (op.trail t (.ref a)) (op.trail t (.ref a))
        (assign (cloneObject plans (depth + 1)) source (p.assignments op) .empty)
        (assign (cloneObject plans depth) source (p.assignments op) .empty) :=
      Agrees.compositional.assign_of_reaches hh (Heap.holds_get hh hc)
        (fun o key w hw => by
          have hhw := hw.holds hh (Heap.holds_get hh hc key)
          exact .of_ends hh hhw (hnested o w hhw)) _ _
    cases op with
    | fast => exact hassign
    | safe => exact .onTrail hassign
  refine hn ?_
  have hsame := (hagree { heap := h, trail := t } ⟨le_rfl, rfl⟩).2 he
  rw [Ends, hsame]
  exact he

/-! ## Counting the calls that are nested -/

/-- The addresses of a heap that are not on a trail. -/
def offTrail (h : Heap) (t : Trail) : Finset Address :=
  (Finset.range h.size).filter (· ∉ t.cells)

theorem card_offTrail_le (h : Heap) (t : Trail) : (offTrail h t).card ≤ h.size :=
  (Finset.card_filter_le _ _).trans (Finset.card_range h.size).le

theorem card_offTrail_push_lt {a : Address} (ha : a < h.size) (hat : a ∉ t.cells) :
    (offTrail h (t.push (.ref a))).card < (offTrail h t).card := by
  refine Finset.card_lt_card ((Finset.ssubset_iff_of_subset fun b hb => ?_).mpr ⟨a, ?_, ?_⟩)
  · obtain ⟨hb, hbt⟩ := Finset.mem_filter.mp hb
    exact Finset.mem_filter.mpr ⟨hb, fun hmem => hbt (List.mem_cons_of_mem _ hmem)⟩
  · exact Finset.mem_filter.mpr ⟨Finset.mem_range.mpr ha, hat⟩
  · simp [offTrail, Trail.push]

/-- A call that needs `depth + 1` levels has room for them: as many as there are addresses for every
address that is off the trail, and once more, without the objects in `entered`, which are being
cloned by fast operations on the same trail. -/
theorem Ends.add_card_le (hh : h.Closed) (hv : h.Holds v) {entered : Finset Address}
    (hsub : entered ⊆ Finset.range h.size) (he : Ends plans h t (depth + 1) op v)
    (hn : ¬ Ends plans h t depth op v)
    (hfast : ∀ a ∈ entered, ¬ Ends plans h t (depth + 1) .fast (.ref a)) :
    depth + 1 + entered.card ≤ (offTrail h t).card * (h.size + 1) + (h.size + 1) := by
  have hcard : entered.card ≤ h.size := by simpa using Finset.card_le_card hsub
  induction depth generalizing t op v entered with
  | zero => omega
  | succ depth ih =>
    obtain ⟨n, source, p, hentry⟩ := exists_entered_of_not_ends hn
    obtain ⟨hc, hmet, -⟩ := Catalog.entry_eq_entered.mp hentry
    obtain ⟨a, rfl, hcell⟩ := Heap.content_eq_cell.mp hc
    have ha := Heap.lt_of_cell? hcell
    obtain ⟨o, w, hw, hend, hnot⟩ := he.exists_nested hh hv hn
    cases op with
    | fast =>
      -- The trail stays, and the object joins those entered. It is none of them yet, as it ends
      -- within a bound that they exceed.
      have hnew : a ∉ entered := fun hmem => hfast a hmem he
      have hsub' : insert a entered ⊆ Finset.range h.size :=
        Finset.insert_subset (Finset.mem_range.mpr ha) hsub
      have hle := ih hw hsub' hend hnot (fun b hb hb' => ?_)
        (by simpa using Finset.card_le_card hsub')
      · rw [Finset.card_insert_of_notMem hnew] at hle
        change depth + 1 + (entered.card + 1) ≤ (offTrail h t).card * (h.size + 1) + _ at hle
        omega
      · rcases Finset.mem_insert.mp hb with rfl | hb
        · exact hn hb'
        · exact hfast b hb (hb'.mono hh (Heap.holds_ref.mpr (Finset.mem_range.mp (hsub hb)))
            (Nat.le_succ _))
    | safe =>
      -- The trail grows by the object, which pays for all that may be entered on the longer trail.
      have hat : a ∉ t.cells := fun hmem => hmet ⟨rfl, List.contains_iff_mem.mpr hmem⟩
      have hle := ih hw (Finset.empty_subset _) hend hnot (by simp) (by simp)
      have hmul := Nat.mul_le_mul_right (h.size + 1) (card_offTrail_push_lt ha hat)
      rw [Nat.succ_mul] at hmul
      rw [Finset.card_empty] at hle
      change depth + 1 + 0 ≤ (offTrail h (t.push (.ref a))).card * (h.size + 1) + _ at hle
      omega

/-- **An operation that ends within any bound ends within that of the heap.** -/
theorem Ends.depthLimit (hh : h.Closed) (hv : h.Holds v) (he : Ends plans h t depth op v) :
    Ends plans h t (depthLimit h) op v := by
  induction depth with
  | zero => exact he.mono hh hv (Nat.zero_le _)
  | succ depth ih =>
    by_cases hless : Ends plans h t depth op v
    · exact ih hless
    · have hle := he.add_card_le hh hv (Finset.empty_subset _) hless (by simp)
      have hmul := Nat.mul_le_mul_right (h.size + 1) (card_offTrail_le h t)
      refine he.mono hh hv ?_
      rw [DeepCopy.depthLimit, Nat.succ_mul]
      simp only [Finset.card_empty] at hle
      omega

end Cloning

end DeepCopy
