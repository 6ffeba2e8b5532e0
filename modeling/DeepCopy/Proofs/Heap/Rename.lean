import DeepCopy.Proofs.Heap.Fields
import DeepCopy.Proofs.Heap.Growth

/-!
# Renaming cells

Which address a cell has is of no account as long as whatever refers to the cell agrees on it.
Renaming puts another address wherever a value, fields or a cell refer to one.

## Main definitions

* `Value.rename`, `Fields.rename`, `Cell.rename`: renaming what is referred to

## Main results

* `Fields.rename_set`: setting a field and renaming may trade places
* `Heap.rename_cell_eq_self`: what leaves a heap in place leaves its cells as they are
* `Cell.rename_rename_of_leftInverse`: renaming is undone by the inverse
-/

namespace DeepCopy

variable {ρ τ : Address → Address}

/-- The value with the cell it refers to renamed. -/
def Value.rename (ρ : Address → Address) : Value → Value
  | .ref a => .ref (ρ a)
  | v => v

namespace Value

theorem rename_rename (v : Value) : (v.rename ρ).rename τ = v.rename (τ ∘ ρ) := by
  cases v <;> rfl

theorem rename_id (v : Value) : v.rename id = v := by
  cases v <;> rfl

theorem rename_rename_of_leftInverse (hτ : Function.LeftInverse τ ρ) (v : Value) :
    (v.rename ρ).rename τ = v := by
  rw [rename_rename, hτ.comp_eq_id, rename_id]

/-- A renaming that leaves a heap in place leaves the values that the heap holds. -/
theorem rename_eq_self {h : Heap} (hρ : ∀ a < h.size, ρ a = a) {v : Value} (hv : h.Holds v) :
    v.rename ρ = v := by
  cases v with
  | ref a => exact congrArg Value.ref (hρ a (Heap.holds_ref.mp hv))
  | _ => rfl

end Value

/-! ## Fields -/

theorem lookup_map_rename (es : List (String × Value)) (key : String) :
    (es.map (Prod.map id (Value.rename ρ))).lookup key = (es.lookup key).map (Value.rename ρ) := by
  induction es with
  | nil => rfl
  | cons e es ih =>
    rw [List.map_cons, lookup_cons_eq_ite, lookup_cons_eq_ite, ih, Prod.map_fst, Prod.map_snd, id]
    split_ifs <;> rfl

theorem setField_map_rename (name : String) (v : Value) (es : List (String × Value)) :
    setField name (v.rename ρ) (es.map (Prod.map id (Value.rename ρ))) =
      (setField name v es).map (Prod.map id (Value.rename ρ)) := by
  induction es with
  | nil => rfl
  | cons e es ih =>
    simp only [List.map_cons, setField, Prod.map_fst, id_eq, ih]
    split_ifs <;> rfl

namespace Fields

/-- The fields with all that they refer to renamed. -/
def rename (ρ : Address → Address) (f : Fields) : Fields :=
  ⟨f.entries.map (Prod.map id (Value.rename ρ)), List.pairwise_map.mpr f.ordered⟩

/-- Setting a field and renaming may trade places. -/
theorem rename_set (f : Fields) (name : String) (v : Value) :
    (f.set name v).rename ρ = (f.rename ρ).set name (v.rename ρ) := by
  rw [rename, set, Fields.mk.injEq]
  exact (setField_map_rename name v f.entries).symm

theorem rename_foldl_set (es : List (String × Value)) (f : Fields) :
    (es.foldl (fun f e => f.set e.1 e.2) f).rename ρ =
      (es.map (Prod.map id (Value.rename ρ))).foldl (fun f e => f.set e.1 e.2) (f.rename ρ) := by
  induction es generalizing f with
  | nil => rfl
  | cons e es ih =>
    rw [List.foldl_cons, ih, rename_set]
    rfl

theorem rename_ofList (es : List (String × Value)) :
    (ofList es).rename ρ = ofList (es.map (Prod.map id (Value.rename ρ))) :=
  rename_foldl_set es empty

end Fields

/-! ## Cells -/

/-- The cell with all that it refers to renamed. -/
def Cell.rename (ρ : Address → Address) : Cell → Cell
  | .object typeName f => .object typeName (f.rename ρ)
  | .array vs => .array (vs.map (Value.rename ρ))
  | .sequence typeName vs => .sequence typeName (vs.map (Value.rename ρ))
  | .mapping typeName es =>
    .mapping typeName (es.map (Prod.map (Value.rename ρ) (Value.rename ρ)))

namespace Cell

theorem kind_rename (c : Cell) : (c.rename ρ).kind = c.kind := by
  cases c <;> rfl

theorem rename_rename (c : Cell) : (c.rename ρ).rename τ = c.rename (τ ∘ ρ) := by
  cases c <;> simp [rename, Fields.rename, Function.comp_def, Value.rename_rename]

/-- A cell stays as it is if none of its values is changed. -/
theorem rename_eq_self_of_values {c : Cell} (hc : ∀ v ∈ c.values, v.rename ρ = v) :
    c.rename ρ = c := by
  cases c with
  | object n f =>
    have hes : ∀ e ∈ f.entries, Prod.map id (Value.rename ρ) e = e := fun e he =>
      Prod.ext rfl (hc e.2 (List.mem_map_of_mem he))
    simp only [rename, Fields.rename, (List.map_congr_left hes).trans (List.map_id' _)]
  | array vs => exact congrArg array ((List.map_congr_left hc).trans (List.map_id' vs))
  | sequence n vs => exact congrArg (sequence n) ((List.map_congr_left hc).trans (List.map_id' vs))
  | mapping n es =>
    have hes : ∀ e ∈ es, Prod.map (Value.rename ρ) (Value.rename ρ) e = e := fun e he =>
      Prod.ext (hc e.1 (mem_values_mapping.mpr ⟨e, he, .inl rfl⟩))
        (hc e.2 (mem_values_mapping.mpr ⟨e, he, .inr rfl⟩))
    exact congrArg (mapping n) ((List.map_congr_left hes).trans (List.map_id' es))

/-- **Renaming is undone by the inverse.** -/
theorem rename_rename_of_leftInverse (hτ : Function.LeftInverse τ ρ) (c : Cell) :
    (c.rename ρ).rename τ = c := by
  rw [rename_rename, hτ.comp_eq_id]
  exact rename_eq_self_of_values fun v _ => v.rename_id

end Cell

namespace Heap

/-- **A renaming that leaves a heap in place leaves its cells as they are**, since they refer to
cells of the heap only. -/
theorem rename_cell_eq_self {h : Heap} (hh : h.Closed) (hρ : ∀ a < h.size, ρ a = a) {a : Address}
    {c : Cell} (hc : h.cell? a = some c) : c.rename ρ = c :=
  Cell.rename_eq_self_of_values fun _ hv =>
    Value.rename_eq_self hρ fun b hb => hh a c hc b (hb ▸ hv)

end Heap

end DeepCopy
