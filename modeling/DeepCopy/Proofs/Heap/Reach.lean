import DeepCopy.Proofs.Heap.Fields
import DeepCopy.Proofs.Heap.Growth
import Mathlib.Data.Finset.Card
import Mathlib.Logic.Relation

/-!
# Reaching values

A value reaches another when a chain of references leads from it to the other. Only finitely many
objects can be reached, because a heap is finite.

## Main definitions

* `Heap.Refers h v w`: `w` stands in the cell of `v`
* `Heap.Reaches h v w`: `w` is found from `v` along references
* `Heap.AcyclicFrom h v`: nothing that `v` reaches refers back to itself
* `Heap.ObjectAcyclicFrom h v`: no object that `v` reaches does
* `Heap.Descending h`: every cell refers to earlier cells only
* `Heap.objectsFrom h v`: the addresses of the objects that `v` reaches

## Main results

* `Descending.acyclicFrom`: without references to later cells there are no cycles
* `objectsFrom_subset_of_reaches`: what is reached reaches no more objects
-/

namespace DeepCopy

open Relation (ReflTransGen TransGen)

namespace Heap

variable {h : Heap} {u v w : Value}

/-- One value stands in the cell of another. -/
def Refers (h : Heap) (v w : Value) : Prop := ∃ c, h.content v = .cell c ∧ w ∈ c.values

/-- A value is found from another along references. -/
def Reaches (h : Heap) : Value → Value → Prop := ReflTransGen h.Refers

/-- Nothing that a value reaches can reach itself along one reference or more. -/
def AcyclicFrom (h : Heap) (v : Value) : Prop := ∀ w, h.Reaches v w → ¬ TransGen h.Refers w w

/-- There is an object at an address. -/
def HasObject (h : Heap) (a : Address) : Prop :=
  ∃ typeName fields, h.cell? a = some (.object typeName fields)

theorem HasObject.lt {a : Address} (ha : h.HasObject a) : a < h.size := by
  obtain ⟨n, f, hc⟩ := ha
  exact lt_of_cell? hc

/-- No object that a value reaches can reach itself along one reference or more. -/
def ObjectAcyclicFrom (h : Heap) (v : Value) : Prop :=
  ∀ a, h.HasObject a → h.Reaches v (.ref a) → ¬ TransGen h.Refers (.ref a) (.ref a)

theorem Reaches.holds (hh : h.Closed) (hv : h.Holds v) (hw : h.Reaches v w) : h.Holds w := by
  induction hw with
  | refl => exact hv
  | tail _ hr _ =>
    obtain ⟨c, hc, hm⟩ := hr
    exact hh.holds hc hm

theorem AcyclicFrom.of_reaches (hv : h.AcyclicFrom v) (hw : h.Reaches v w) : h.AcyclicFrom w :=
  fun u hu => hv u (hw.trans hu)

theorem AcyclicFrom.objectAcyclicFrom (hv : h.AcyclicFrom v) : h.ObjectAcyclicFrom v :=
  fun a _ ha => hv (.ref a) ha

theorem ObjectAcyclicFrom.of_reaches (hv : h.ObjectAcyclicFrom v) (hw : h.Reaches v w) :
    h.ObjectAcyclicFrom w :=
  fun a ha hr => hv a ha (hw.trans hr)

/-- Nothing refers to a value that it is reached from. -/
theorem AcyclicFrom.not_reaches (hv : h.AcyclicFrom v) (hr : h.Refers v w) : ¬ h.Reaches w v :=
  fun hw => hv v .refl (TransGen.head' hr hw)

/-! ## Heaps without cycles -/

/-- Every cell refers to earlier cells only. -/
def Descending (h : Heap) : Prop := ∀ a c, h.cell? a = some c → ∀ b, .ref b ∈ c.values → b < a

instance (h : Heap) : Decidable h.Descending := decidable_of_iff _ forall_ref_iff.symm

theorem Descending.exists_lt (hd : h.Descending) (hw : TransGen h.Refers v w) {b : Address}
    (hb : w = .ref b) : ∃ a, v = .ref a ∧ b < a := by
  induction hw generalizing b with
  | single hr =>
    subst hb
    obtain ⟨c, hc, hb⟩ := hr
    obtain ⟨a, rfl, ha⟩ := content_eq_cell.mp hc
    exact ⟨a, rfl, hd a c ha b hb⟩
  | tail _ hr ih =>
    subst hb
    obtain ⟨c, hc, hb⟩ := hr
    obtain ⟨m, rfl, hm⟩ := content_eq_cell.mp hc
    obtain ⟨a, rfl, ha⟩ := ih rfl
    exact ⟨a, rfl, Nat.lt_trans (hd m c hm b hb) ha⟩

theorem Descending.le_of_reaches (hd : h.Descending) {a b : Address}
    (hb : h.Reaches (.ref a) (.ref b)) : b ≤ a := by
  rcases Relation.reflTransGen_iff_eq_or_transGen.mp hb with heq | hb
  · cases heq
    exact Nat.le_refl _
  · obtain ⟨m, hm, hlt⟩ := hd.exists_lt hb rfl
    cases hm
    exact hlt.le

/-- **Where every cell refers to earlier cells only, nothing refers back to itself.** -/
theorem Descending.acyclicFrom (hd : h.Descending) (v : Value) : h.AcyclicFrom v := by
  intro w _ hw
  obtain ⟨u, ⟨c, hc, -⟩, -⟩ := Relation.TransGen.head'_iff.mp hw
  obtain ⟨b, rfl, -⟩ := content_eq_cell.mp hc
  obtain ⟨a, ha, hlt⟩ := hd.exists_lt hw rfl
  cases ha
  exact Nat.lt_irrefl _ hlt

/-! ## The objects that are reached -/

section Objects

open Classical

/-- The addresses of the objects that a value reaches. -/
noncomputable def objectsFrom (h : Heap) (v : Value) : Finset Address :=
  (Finset.range h.size).filter fun a => h.HasObject a ∧ h.Reaches v (.ref a)

theorem mem_objectsFrom {a : Address} :
    a ∈ h.objectsFrom v ↔ h.HasObject a ∧ h.Reaches v (.ref a) := by
  simp only [objectsFrom, Finset.mem_filter, Finset.mem_range, and_iff_right_iff_imp]
  exact fun ha => ha.1.lt

theorem card_objectsFrom_le (h : Heap) (v : Value) : (h.objectsFrom v).card ≤ h.size := by
  have hf := Finset.card_filter_le (Finset.range h.size)
    fun a => h.HasObject a ∧ h.Reaches v (.ref a)
  rwa [Finset.card_range] at hf

theorem objectsFrom_subset_of_reaches (hw : h.Reaches v w) :
    h.objectsFrom w ⊆ h.objectsFrom v := by
  intro a ha
  rw [mem_objectsFrom] at ha ⊢
  exact ⟨ha.1, hw.trans ha.2⟩

/-- **What an object reaches reaches fewer objects** than the object, which it does not lead back
to. -/
theorem ObjectAcyclicFrom.card_lt {a : Address} (ha : h.HasObject a)
    (hv : h.ObjectAcyclicFrom (.ref a)) (hw : TransGen h.Refers (.ref a) w) :
    (h.objectsFrom w).card < (h.objectsFrom (.ref a)).card := by
  have hself : a ∈ h.objectsFrom (.ref a) := mem_objectsFrom.mpr ⟨ha, .refl⟩
  have hnot : a ∉ h.objectsFrom w := fun hmem =>
    hv a ha .refl (hw.trans_left (mem_objectsFrom.mp hmem).2)
  have hsub := objectsFrom_subset_of_reaches hw.to_reflTransGen
  exact Finset.card_lt_card ((Finset.ssubset_iff_of_subset hsub).mpr ⟨a, hself, hnot⟩)

end Objects

/-! ## The fields of an object -/

section Fields

variable {typeName : String} {f : Fields}

theorem get_eq_null_or_refers (hv : h.content v = .cell (.object typeName f)) (key : String) :
    f.get key = .null ∨ h.Refers v (f.get key) :=
  (f.get_eq_null_or_mem typeName key).imp_right fun hm => ⟨_, hv, hm⟩

theorem holds_get (hh : h.Closed) (hv : h.content v = .cell (.object typeName f))
    (key : String) : h.Holds (f.get key) := by
  rcases get_eq_null_or_refers hv key with hnull | ⟨c, hc, hm⟩
  · exact hnull ▸ h.holds_null
  · exact hh.holds hc hm

/-- A scalar refers to nothing. -/
theorem eq_of_reaches_null (hw : h.Reaches .null w) : w = .null := by
  rcases Relation.ReflTransGen.cases_head hw with rfl | ⟨u, ⟨c, hc, -⟩, -⟩
  · rfl
  · cases hc

/-- A field of an object reaches nothing that the object does not reach, null apart. -/
theorem Reaches.of_get (hv : h.content v = .cell (.object typeName f)) {key : String}
    (hw : h.Reaches (f.get key) w) : w = .null ∨ h.Reaches v w := by
  rcases get_eq_null_or_refers hv key with hnull | hr
  · exact .inl (eq_of_reaches_null (hnull ▸ hw))
  · exact .inr (hw.head hr)

theorem objectsFrom_get_subset (hv : h.content v = .cell (.object typeName f)) (key : String) :
    h.objectsFrom (f.get key) ⊆ h.objectsFrom v := by
  intro a ha
  obtain ⟨ho, hr⟩ := mem_objectsFrom.mp ha
  rcases hr.of_get hv with hnull | hr
  · cases hnull
  · exact mem_objectsFrom.mpr ⟨ho, hr⟩

end Fields

end Heap

end DeepCopy
