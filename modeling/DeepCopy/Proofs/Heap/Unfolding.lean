import DeepCopy.Proofs.Heap.Reach
import DeepCopy.Proofs.Heap.Rename
import DeepCopy.Proofs.Heap.Slot

/-!
# Unfoldings

Whoever follows references from a value without telling addresses apart finds a tree: along every
path of slots there is a scalar, a cell of some kind, or nothing. Two references to one cell lead to
the same tree twice. A tree may also be cut off at the cells that come before some address, which
then stand in it as they are.

## Main definitions

* `Label`: what is to be seen of a value at its place in a tree
* `Heap.contentFrom h n v`: what a value is when the cells before `n` are not looked into
* `Heap.unfolding h n v`: the tree of a value, as the labels that are found along the paths
* `Heap.IsRenamed g g' n n' ρ`: what is looked into in `g` is in `g'` as well, renamed

## Main results

* `Heap.exists_unfolding_iff`: what is in a tree is what can be reached
* `Heap.IsRenamed.unfolding_rename`: a renaming of what is looked into does not change the tree
-/

namespace DeepCopy

/-- What is to be seen of a value: a scalar, or the kind of a cell with the name of its type. How
many fields, items or entries there are is told by the paths that lead on. -/
inductive Label where
  | scalar (value : Value)
  | object (typeName : String)
  | array
  | sequence (typeName : String)
  | mapping (typeName : String)
  deriving DecidableEq

/-- What is to be seen of a cell. -/
def Cell.label : Cell → Label
  | .object typeName _ => .object typeName
  | .array _ => .array
  | .sequence typeName _ => .sequence typeName
  | .mapping typeName _ => .mapping typeName

namespace Content

/-- What is to be seen of a content. -/
def label : Content → Label
  | .scalar v => .scalar v
  | .cell c => c.label

/-- What stands in a slot; a scalar has none. -/
def slot? : Content → Slot → Option Value
  | .scalar _, _ => none
  | .cell c, σ => c.slot? σ

end Content

namespace Heap

variable {h g g' : Heap} {n : Address} {v w : Value}

/-- What a value is when the cells before `n` are not looked into: a reference to one of them is no
more to be seen through than a scalar. -/
def contentFrom (h : Heap) (n : Address) : Value → Content
  | .ref a => if a < n then .scalar (.ref a) else h.content (.ref a)
  | v => .scalar v

/-- The tree of a value: what is to be seen along every path of slots, without looking into the
cells before `n`. -/
def unfolding (h : Heap) (n : Address) : Value → List Slot → Option Label
  | v, [] => some (h.contentFrom n v).label
  | v, σ :: path => ((h.contentFrom n v).slot? σ).bind fun w => h.unfolding n w path

@[simp] theorem contentFrom_zero (h : Heap) (v : Value) : h.contentFrom 0 v = h.content v := by
  cases v <;> rfl

theorem unfolding_nil (h : Heap) (n : Address) (v : Value) :
    h.unfolding n v [] = some (h.contentFrom n v).label := rfl

theorem unfolding_cons (h : Heap) (n : Address) (v : Value) (σ : Slot) (path : List Slot) :
    h.unfolding n v (σ :: path) =
      ((h.contentFrom n v).slot? σ).bind fun w => h.unfolding n w path := rfl

/-! ## Trees and what can be reached -/

theorem refers_iff_slot? : h.Refers v w ↔ ∃ σ, (h.content v).slot? σ = some w := by
  constructor
  · rintro ⟨c, hc, hw⟩
    obtain ⟨σ, hσ⟩ := Cell.mem_values_iff.mp hw
    exact ⟨σ, by rw [hc]; exact hσ⟩
  · rintro ⟨σ, hσ⟩
    rcases hc : h.content v with x | c
    · rw [hc] at hσ
      cases hσ
    · rw [hc] at hσ
      exact ⟨c, hc, Cell.mem_values_iff.mpr ⟨σ, hσ⟩⟩

/-- **What is in the tree of a value is what can be reached from it.** -/
theorem exists_unfolding_iff {l : Label} :
    (∃ path, h.unfolding 0 v path = some l) ↔ ∃ w, h.Reaches v w ∧ (h.content w).label = l := by
  constructor
  · rintro ⟨path, hl⟩
    induction path generalizing v with
    | nil =>
      rw [unfolding_nil, contentFrom_zero] at hl
      exact ⟨v, .refl, Option.some.inj hl⟩
    | cons σ path ih =>
      rw [unfolding_cons, contentFrom_zero] at hl
      obtain ⟨x, hx, hl⟩ := Option.bind_eq_some_iff.mp hl
      obtain ⟨w, hw, hl⟩ := ih hl
      exact ⟨w, hw.head (refers_iff_slot?.mpr ⟨σ, hx⟩), hl⟩
  · rintro ⟨w, hw, rfl⟩
    induction hw using Relation.ReflTransGen.head_induction_on with
    | refl => exact ⟨[], by rw [unfolding_nil, contentFrom_zero]⟩
    | head hr _ ih =>
      obtain ⟨σ, hσ⟩ := refers_iff_slot?.mp hr
      obtain ⟨path, hpath⟩ := ih
      exact ⟨σ :: path, by rw [unfolding_cons, contentFrom_zero, hσ, Option.bind_some, hpath]⟩

end Heap

/-! ## Trees and renamings -/

namespace Cell

variable {ρ : Address → Address}

theorem label_rename (c : Cell) : (c.rename ρ).label = c.label := by
  cases c <;> rfl

theorem slot?_rename (c : Cell) (σ : Slot) :
    (c.rename ρ).slot? σ = (c.slot? σ).map (Value.rename ρ) := by
  cases c with
  | object n f =>
    cases σ with
    | field name => exact lookup_map_rename f.entries name
    | item i | key i | value i => rfl
  | array vs | sequence n vs =>
    cases σ with
    | item i => exact List.getElem?_map
    | field name | key i | value i => rfl
  | mapping n es =>
    cases σ with
    | key i | value i =>
      simp only [rename, slot?, List.getElem?_map, Option.map_map]
      rfl
    | field name | item i => rfl

end Cell

namespace Content

variable {ρ : Address → Address}

/-- The content with all that a cell refers to renamed. -/
def rename (ρ : Address → Address) : Content → Content
  | .scalar v => .scalar v
  | .cell c => .cell (c.rename ρ)

theorem label_rename (c : Content) : (c.rename ρ).label = c.label := by
  cases c with
  | scalar v => rfl
  | cell c => exact c.label_rename

theorem slot?_rename (c : Content) (σ : Slot) :
    (c.rename ρ).slot? σ = (c.slot? σ).map (Value.rename ρ) := by
  cases c with
  | scalar v => rfl
  | cell c => exact c.slot?_rename σ

end Content

namespace Heap

variable {g g' : Heap} {n n' : Nat} {v : Value} {ρ : Address → Address}

/-- A heap has what is looked into in another one, at new addresses: the cells before `n` keep
theirs, and the others are renamed and not put before `n'`, from where on they are looked into. -/
structure IsRenamed (g g' : Heap) (n n' : Nat) (ρ : Address → Address) : Prop where
  le : n ≤ n'
  fixed : ∀ a < n, ρ a = a
  le_moved : ∀ a, n ≤ a → a < g.size → n' ≤ ρ a
  cell?_eq : ∀ a, n ≤ a → a < g.size → g'.cell? (ρ a) = (g.cell? a).map (Cell.rename ρ)

theorem IsRenamed.contentFrom_rename (hρ : IsRenamed g g' n n' ρ) (hv : g.Holds v) :
    g'.contentFrom n' (v.rename ρ) = (g.contentFrom n v).rename ρ := by
  cases v with
  | ref a =>
    by_cases ha : a < n
    · have ha' : a < n' := ha.trans_le hρ.le
      simp only [Value.rename, hρ.fixed a ha, contentFrom, if_pos ha, if_pos ha', Content.rename]
    · have hsize := holds_ref.mp hv
      have hmoved := hρ.le_moved a (Nat.not_lt.mp ha) hsize
      obtain ⟨c, hc⟩ := exists_cell?_of_lt hsize
      have hc' := hρ.cell?_eq a (Nat.not_lt.mp ha) hsize
      rw [hc, Option.map_some] at hc'
      simp only [Value.rename, contentFrom, if_neg ha, if_neg (Nat.not_lt.mpr hmoved), content, hc,
        hc', Content.rename]
  | _ => rfl

theorem holds_of_slot?_contentFrom (hg : g.Closed) {σ : Slot} {w : Value}
    (hσ : (g.contentFrom n v).slot? σ = some w) : g.Holds w := by
  cases v with
  | ref a =>
    by_cases ha : a < n
    · rw [contentFrom, if_pos ha] at hσ
      cases hσ
    · rw [contentFrom, if_neg ha] at hσ
      obtain ⟨c, hc, hw⟩ := refers_iff_slot?.mpr ⟨σ, hσ⟩
      exact hg.holds hc hw
  | _ => cases hσ

/-- **A renaming of the cells that are looked into does not change the tree.** -/
theorem IsRenamed.unfolding_rename (hρ : IsRenamed g g' n n' ρ) (hg : g.Closed) (hv : g.Holds v)
    (path : List Slot) : g'.unfolding n' (v.rename ρ) path = g.unfolding n v path := by
  induction path generalizing v with
  | nil => rw [unfolding_nil, unfolding_nil, hρ.contentFrom_rename hv, Content.label_rename]
  | cons σ path ih =>
    rw [unfolding_cons, unfolding_cons, hρ.contentFrom_rename hv, Content.slot?_rename]
    rcases hσ : (g.contentFrom n v).slot? σ with - | w
    · rfl
    · exact ih (holds_of_slot?_contentFrom hg hσ)

end Heap

end DeepCopy
