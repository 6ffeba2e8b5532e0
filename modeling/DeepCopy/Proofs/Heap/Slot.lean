import DeepCopy.Proofs.Heap.Fields
import Mathlib.Data.List.Count
import Mathlib.Data.List.FinRange

/-!
# Slots

Every value in a cell stands in a slot: in a field, at an index, or in an entry at an index.

## Main definitions

* `Slot`, `Cell.slot?`: the places in a cell, and what stands in them
* `Cell.slots`: the places in a cell where something stands, in order

## Main results

* `Cell.mem_values_iff`: the values in a cell are what stands in its slots
* `Cell.existsUnique_slot`: what stands in a cell once stands in one slot
-/

namespace DeepCopy

/-- A place in a cell. -/
inductive Slot where
  | field (name : String)
  | item (index : Nat)
  /-- The key of an entry. -/
  | key (index : Nat)
  /-- The value of an entry. -/
  | value (index : Nat)
  deriving DecidableEq

namespace Cell

/-- What stands in a slot of a cell. -/
def slot? : Cell → Slot → Option Value
  | .object _ f, .field name => f.entries.lookup name
  | .array vs, .item i | .sequence _ vs, .item i => vs[i]?
  | .mapping _ es, .key i => es[i]?.map Prod.fst
  | .mapping _ es, .value i => es[i]?.map Prod.snd
  | _, _ => none

/-- **The values in a cell are what stands in its slots.** -/
theorem mem_values_iff {c : Cell} {v : Value} : v ∈ c.values ↔ ∃ σ, c.slot? σ = some v := by
  constructor
  · intro hv
    cases c with
    | object n f =>
      obtain ⟨⟨name, w⟩, he, rfl⟩ := List.mem_map.mp hv
      exact ⟨.field name, Fields.lookup_eq_some.mpr he⟩
    | array vs | sequence n vs =>
      obtain ⟨i, hi⟩ := List.mem_iff_getElem?.mp hv
      exact ⟨.item i, hi⟩
    | mapping n es =>
      obtain ⟨e, he, hv⟩ := mem_values_mapping.mp hv
      obtain ⟨i, hi⟩ := List.mem_iff_getElem?.mp he
      rcases hv with rfl | rfl
      · exact ⟨.key i, by simp [slot?, hi]⟩
      · exact ⟨.value i, by simp [slot?, hi]⟩
  · rintro ⟨σ, hσ⟩
    fun_cases slot? c σ
    case case1 n f name => exact List.mem_map.mpr ⟨(name, v), Fields.lookup_eq_some.mp hσ, rfl⟩
    case case2 | case3 => exact List.mem_iff_getElem?.mpr ⟨_, hσ⟩
    case case4 =>
      obtain ⟨e, he, rfl⟩ := Option.map_eq_some_iff.mp hσ
      exact mem_values_mapping.mpr ⟨e, List.mem_iff_getElem?.mpr ⟨_, he⟩, .inl rfl⟩
    case case5 =>
      obtain ⟨e, he, rfl⟩ := Option.map_eq_some_iff.mp hσ
      exact mem_values_mapping.mpr ⟨e, List.mem_iff_getElem?.mpr ⟨_, he⟩, .inr rfl⟩
    case case6 => simp_all [slot?]

/-- The places in a cell where something stands, in order. -/
def slots : Cell → List Slot
  | .object _ f => f.entries.map fun e => .field e.1
  | .array vs | .sequence _ vs => (List.finRange vs.length).map fun i => .item i.val
  | .mapping _ es => (List.finRange es.length).flatMap fun i => [.key i.val, .value i.val]

theorem map_slot?_slots (c : Cell) : c.slots.map c.slot? = c.values.map some := by
  cases c with
  | object n f =>
    simp only [slots, values, List.map_map]
    exact List.map_congr_left fun e he => Fields.lookup_eq_some.mpr he
  | array vs | sequence n vs =>
    simp only [slots, values, List.map_map]
    conv_rhs => rw [← List.map_get_finRange vs, List.map_map]
    exact List.map_congr_left fun i _ => List.getElem?_eq_getElem i.2
  | mapping n es =>
    simp only [slots, values, List.map_flatMap]
    conv_rhs => rw [← List.map_get_finRange es, List.flatMap_map]
    refine List.flatMap_congr fun i _ => ?_
    simp [slot?]

theorem mem_slots_of_slot? {c : Cell} {σ : Slot} {v : Value} (hσ : c.slot? σ = some v) :
    σ ∈ c.slots := by
  fun_cases slot? c σ
  case case1 n f name => exact List.mem_map.mpr ⟨(name, v), Fields.lookup_eq_some.mp hσ, rfl⟩
  case case2 | case3 =>
    obtain ⟨hi, -⟩ := List.getElem?_eq_some_iff.mp hσ
    exact List.mem_map.mpr ⟨⟨_, hi⟩, List.mem_finRange _, rfl⟩
  case case4 | case5 =>
    obtain ⟨e, he, -⟩ := Option.map_eq_some_iff.mp hσ
    obtain ⟨hi, -⟩ := List.getElem?_eq_some_iff.mp he
    exact List.mem_flatMap.mpr ⟨⟨_, hi⟩, List.mem_finRange _, by simp⟩
  case case6 => simp_all [slot?]

/-- **What stands in a cell once stands in one slot.** -/
theorem existsUnique_slot {c : Cell} {v : Value} (hv : c.values.count v = 1) :
    ∃! σ, c.slot? σ = some v := by
  have hcount : c.slots.countP (fun σ => c.slot? σ == some v) = 1 := by
    have hmap : (c.slots.map c.slot?).count (some v) = 1 := by
      rw [map_slot?_slots, List.count_map_of_injective _ _ (Option.some_injective _), hv]
    rwa [List.count, List.countP_map] at hmap
  rw [List.countP_eq_length_filter] at hcount
  obtain ⟨σ, hσ⟩ := List.length_eq_one_iff.mp hcount
  have hmem : ∀ τ, c.slot? τ = some v ↔ τ = σ := by
    intro τ
    have hiff : τ ∈ c.slots.filter (fun σ => c.slot? σ == some v) ↔ c.slot? τ = some v := by
      rw [List.mem_filter, beq_iff_eq]
      exact and_iff_right_of_imp mem_slots_of_slot?
    rw [← hiff, hσ, List.mem_singleton]
  exact ⟨σ, (hmem σ).mpr rfl, fun τ hτ => (hmem τ).mp hτ⟩

end Cell

end DeepCopy
