import DeepCopy.Heap.Basic
import Mathlib.Order.Basic

/-!
# Growing heaps

A heap grows when cells are added and none is changed. Where every reference refers to a cell, a
value is the same in a heap and in all that grow from it.

## Main definitions

* `h ≤ g`: every cell of `h` is in `g` at the same address
* `Heap.Holds h v`: a reference refers to a cell of `h`
* `Heap.Shows h v c`: what `v` can be found to be once `h` has grown

## Main results

* `Heap.le_alloc`: a heap grows by a new cell
* `Heap.Closed.alloc`: references to cells in the new cell keep the heap closed
* `Heap.content_of_le`: growth does not change what a value is
-/

namespace DeepCopy

namespace Heap

instance : Preorder Heap where
  le h g := ∀ a c, h.cell? a = some c → g.cell? a = some c
  le_refl _ _ _ hc := hc
  le_trans _ _ _ hhg hgk a c hc := hgk a c (hhg a c hc)

theorem cell?_of_le {h g : Heap} (hg : h ≤ g) {a : Address} {c : Cell}
    (hc : h.cell? a = some c) : g.cell? a = some c :=
  hg a c hc

theorem exists_cell?_of_lt {h : Heap} {a : Address} (ha : a < h.size) :
    ∃ c, h.cell? a = some c := by
  rcases hc : h.cell? a with - | c
  · exact absurd ha (Nat.not_lt.mpr (cell?_eq_none.mp hc))
  · exact ⟨c, rfl⟩

theorem cell?_eq_of_le {h g : Heap} (hg : h ≤ g) {a : Address} (ha : a < h.size) :
    g.cell? a = h.cell? a := by
  obtain ⟨c, hc⟩ := exists_cell?_of_lt ha
  rw [hc, cell?_of_le hg hc]

theorem le_alloc (h : Heap) (c : Cell) : h ≤ h.alloc c := by
  intro a d hd
  rw [cell?_alloc_of_lt (lt_of_cell? hd), hd]

/-- The value refers to a cell, or to nothing at all. -/
def Holds (h : Heap) (v : Value) : Prop := ∀ a, v = .ref a → a < h.size

theorem holds_null (h : Heap) : h.Holds .null := fun _ ha => by cases ha

theorem holds_ref {h : Heap} {a : Address} : h.Holds (.ref a) ↔ a < h.size :=
  ⟨fun ha => ha a rfl, fun ha b hb => by cases hb; exact ha⟩

theorem Holds.of_le {h g : Heap} {v : Value} (hv : h.Holds v) (hg : h ≤ g) : g.Holds v := by
  intro a ha
  obtain ⟨c, hc⟩ := exists_cell?_of_lt (hv a ha)
  exact lt_of_cell? (cell?_of_le hg hc)

theorem size_le_of_le {h g : Heap} (hg : h ≤ g) : h.size ≤ g.size := by
  rcases Nat.eq_zero_or_pos h.size with h0 | hpos
  · exact h0 ▸ Nat.zero_le _
  · have hlast : h.Holds (.ref (h.size - 1)) := holds_ref.mpr (Nat.sub_one_lt_of_lt hpos)
    have hlt : h.size - 1 < g.size := holds_ref.mp (hlast.of_le hg)
    omega

/-- A value that refers to a cell or to nothing at all is null only if it is null itself. -/
theorem Holds.content_eq_null {h : Heap} {v : Value} (hv : h.Holds v) :
    h.content v = .scalar .null ↔ v = .null := by
  cases v with
  | ref a =>
    obtain ⟨c, hc⟩ := exists_cell?_of_lt (holds_ref.mp hv)
    simp [content, hc]
  | _ => simp [content]

theorem content_eq_cell {h : Heap} {v : Value} {c : Cell} :
    h.content v = .cell c ↔ ∃ a, v = .ref a ∧ h.cell? a = some c := by
  cases v with
  | ref a =>
    cases hc : h.cell? a <;> simp [content, hc]
  | _ => simp [content]

theorem content_cell_of_le {h g : Heap} (hg : h ≤ g) {v : Value} {c : Cell}
    (hc : h.content v = .cell c) : g.content v = .cell c := by
  obtain ⟨a, rfl, ha⟩ := content_eq_cell.mp hc
  exact content_eq_cell.mpr ⟨a, rfl, cell?_of_le hg ha⟩

theorem holds_of_content {h : Heap} {v : Value} {c : Cell} (hc : h.content v = .cell c) :
    h.Holds v := by
  obtain ⟨a, rfl, ha⟩ := content_eq_cell.mp hc
  exact holds_ref.mpr (lt_of_cell? ha)

/-- The cells of a heap with a new cell. -/
theorem cell?_alloc_eq_some {h : Heap} {c d : Cell} {a : Address} :
    (h.alloc c).cell? a = some d ↔ h.cell? a = some d ∨ a = h.size ∧ d = c := by
  rcases Nat.lt_trichotomy a h.size with ha | rfl | ha
  · rw [cell?_alloc_of_lt ha, or_iff_left fun hd => Nat.ne_of_lt ha hd.1]
  · rw [cell?_alloc_size, cell?_eq_none.mpr (Nat.le_refl _), Option.some.injEq]
    simp [eq_comm]
  · rw [cell?_eq_none.mpr (by rw [size_alloc]; exact ha), cell?_eq_none.mpr (Nat.le_of_lt ha)]
    simp [Nat.ne_of_gt ha]

theorem Closed.alloc {h : Heap} (hh : h.Closed) {c : Cell} (hc : ∀ v ∈ c.values, h.Holds v) :
    (h.alloc c).Closed := by
  intro a d hd b hb
  refine holds_ref.mp (Holds.of_le ?_ (h.le_alloc c))
  rcases cell?_alloc_eq_some.mp hd with hd | ⟨-, rfl⟩
  · exact holds_ref.mpr (hh a d hd b hb)
  · exact hc _ hb

theorem Closed.holds {h : Heap} (hh : h.Closed) {v w : Value} {c : Cell}
    (hc : h.content v = .cell c) (hw : w ∈ c.values) : h.Holds w := by
  obtain ⟨a, -, ha⟩ := content_eq_cell.mp hc
  rintro b rfl
  exact hh a c ha b hw

/-- What is said of all references in a heap can be looked at one by one. -/
theorem forall_ref_iff {h : Heap} {P : Address → Address → Prop} :
    (∀ a c, h.cell? a = some c → ∀ b, .ref b ∈ c.values → P a b) ↔
      ∀ a (ha : a < h.cells.size), ∀ b ∈ (h.cells[a]).values.filterMap Value.address?, P a b := by
  constructor
  · intro hP a ha b hb
    obtain ⟨v, hv, hvb⟩ := List.mem_filterMap.mp hb
    cases v <;> cases hvb
    exact hP a _ (by simp [cell?, ha]) b hv
  · intro hP a c hc b hb
    obtain ⟨ha, rfl⟩ := Array.getElem?_eq_some_iff.mp hc
    exact hP a ha b (List.mem_filterMap.mpr ⟨.ref b, hb, rfl⟩)

instance (h : Heap) : Decidable h.Closed := decidable_of_iff _ forall_ref_iff.symm

/-- **Growth does not change what a value is.** -/
theorem content_of_le {h g : Heap} (hg : h ≤ g) {v : Value} (hv : h.Holds v) :
    g.content v = h.content v := by
  cases v with
  | ref a => simp only [content, cell?_eq_of_le hg (hv a rfl)]
  | _ => rfl

/-- What a value that `h` holds can be found to be in a heap that has grown from `h`. -/
def Shows (h : Heap) (v : Value) (c : Content) : Prop := h.Holds v → c = h.content v

/-- What is seen in a cell is held like the value that refers to the cell. -/
theorem Closed.holds_of_shows {h : Heap} (hh : h.Closed) {v w : Value} {c : Cell} (hv : h.Holds v)
    (hc : h.Shows v (.cell c)) (hw : w ∈ c.values) : h.Holds w :=
  hh.holds (hc hv).symm hw

theorem shows_of_le {h g : Heap} (hg : h ≤ g) (v : Value) : h.Shows v (g.content v) :=
  fun hv => content_of_le hg hv

end Heap

end DeepCopy
