import DeepCopy.Heap.Equality
import DeepCopy.Proofs.Heap.Unfolding

/-!
# Equality of contents is equality of trees

Two values are equal in content when their trees are the same, numbers being compared as their
format compares them. To compare two values is to compare their labels and then the values in their
slots; where nothing can be reached from itself the slots hold values that reach fewer cells, so
this comes to an end, and the bound on references that `Heap.equal` sets itself is never met.

## Main definitions

* `Label.Agree`: labels that tell nothing apart
* `Heap.SameTree h v g w`: the trees of `v` and `w` have agreeing labels along the same paths
* `Heap.equalBy`: one step of the comparison
* `Heap.Compares h p q`: comparing the values of `p` may come to comparing those of `q`

## Main results

* `Cell.equalBy_iff`: cells are equal when their labels are and what stands in each slot is
* `Heap.acc_compares`: comparisons come to an end
* `Heap.equalWithin_iff_sameTree`: with enough references allowed for, what is compared is the trees
* `equal_compares_trees`: equality of contents
-/

namespace DeepCopy

open Number (Binary64)

namespace Number.Binary64

theorem ieeeEq_eq_true {x y : Binary64} :
    x.ieeeEq y = true ↔
      x.isNaN = false ∧ y.isNaN = false ∧ (x = y ∨ x.isZero = true ∧ y.isZero = true) := by
  simp [ieeeEq, and_assoc]

theorem ieeeEq_trans {x y z : Binary64} (hxy : x.ieeeEq y = true) (hyz : y.ieeeEq z = true) :
    x.ieeeEq z = true := by
  rw [ieeeEq_eq_true] at hxy hyz ⊢
  obtain ⟨hx, -, rfl | ⟨hx0, hy0⟩⟩ := hxy
  · exact hyz
  · obtain ⟨-, hz, rfl | ⟨-, hz0⟩⟩ := hyz
    · exact ⟨hx, hz, .inr ⟨hx0, hy0⟩⟩
    · exact ⟨hx, hz, .inr ⟨hx0, hz0⟩⟩

end Number.Binary64

/-! ## Labels that agree -/

/-- Labels agree when they are the same; of numbers, two agree when they are equal as their format
defines it. -/
def Label.Agree : Label → Label → Prop
  | .scalar (.float x), .scalar (.float y) => x.ieeeEq y = true
  | l, m => l = m

namespace Label

variable {l m k : Label}

theorem agree_float {x : Binary64} :
    (scalar (.float x)).Agree m ↔ ∃ y, m = .scalar (.float y) ∧ x.ieeeEq y = true := by
  rcases m with (- | b | i | y | s | a) | n | - | n | n <;> simp [Agree]

theorem agree_of_ne_float (hl : ∀ x, l ≠ .scalar (.float x)) : l.Agree m ↔ l = m := by
  rcases l with (- | b | i | y | s | a) | n | - | n | n <;> first | rfl | exact absurd rfl (hl y)

theorem Agree.symm (h : l.Agree m) : m.Agree l := by
  by_cases hl : ∃ x, l = .scalar (.float x)
  · obtain ⟨x, rfl⟩ := hl
    obtain ⟨y, rfl, hxy⟩ := agree_float.mp h
    exact agree_float.mpr ⟨x, rfl, Binary64.ieeeEq_comm x y ▸ hxy⟩
  · have hl' := fun x hx => hl ⟨x, hx⟩
    obtain rfl := (agree_of_ne_float hl').mp h
    exact h

theorem Agree.trans (h : l.Agree m) (h' : m.Agree k) : l.Agree k := by
  by_cases hl : ∃ x, l = .scalar (.float x)
  · obtain ⟨x, rfl⟩ := hl
    obtain ⟨y, rfl, hxy⟩ := agree_float.mp h
    obtain ⟨z, rfl, hyz⟩ := agree_float.mp h'
    exact agree_float.mpr ⟨z, rfl, Binary64.ieeeEq_trans hxy hyz⟩
  · obtain rfl := (agree_of_ne_float fun x hx => hl ⟨x, hx⟩).mp h
    exact h'

/-- A label agrees with itself unless it is a NaN. -/
theorem agree_self_iff : l.Agree l ↔ ∀ x, l = .scalar (.float x) → x.isNaN = false := by
  by_cases hl : ∃ x, l = .scalar (.float x)
  · obtain ⟨x, rfl⟩ := hl
    simp [Agree, Binary64.ieeeEq_self]
  · have hl' := fun x hx => hl ⟨x, hx⟩
    exact iff_of_true ((agree_of_ne_float hl').mpr rfl) fun x hx => absurd hx (hl' x)

/-- A label of a cell agrees with nothing else. -/
theorem agree_cell {c : Cell} : c.label.Agree m ↔ c.label = m :=
  agree_of_ne_float fun x hx => by cases c <;> cases hx

end Label

/-- Scalars are equal when their labels agree; a reference is no scalar. -/
theorem Value.equalScalar_iff {v w : Value} (hv : ∀ a, v ≠ .ref a) :
    v.equalScalar w = true ↔ (Label.scalar v).Agree (.scalar w) := by
  rcases v with - | b | i | x | s | a
  case ref => exact absurd rfl (hv a)
  all_goals cases w <;> simp [equalScalar, Label.Agree]

/-! ## Cells slot by slot -/

theorem equalLists_iff {α : Type} {eq : α → α → Bool} {xs ys : List α} :
    equalLists eq xs ys = true ↔ List.Forall₂ (fun x y => eq x y = true) xs ys := by
  induction xs generalizing ys with
  | nil => cases ys <;> simp [equalLists]
  | cons x xs ih => cases ys <;> simp [equalLists, ih]

section Slots

variable {α β : Type} {R : α → β → Prop}

theorem forall₂_iff_getElem? {xs : List α} {ys : List β} :
    List.Forall₂ R xs ys ↔ ∀ i : Nat, Option.Rel R xs[i]? ys[i]? := by
  induction xs generalizing ys with
  | nil =>
    refine ⟨fun hr => by cases hr; simp, fun hr => ?_⟩
    cases ys with
    | nil => exact .nil
    | cons y ys => cases hr 0
  | cons x xs ih =>
    refine ⟨fun hr i => ?_, fun hr => ?_⟩
    · cases hr with
      | cons hxy hrest =>
        cases i with
        | zero => exact .some hxy
        | succ i => exact ih.mp hrest i
    · cases ys with
      | nil => cases hr 0
      | cons y ys => exact .cons (Option.rel_some_some.mp (hr 0)) (ih.mpr fun i => hr (i + 1))

/-- Pairs are related when their parts are. -/
theorem rel_prod_iff {S : α → β → Prop} {x : Option (α × α)} {y : Option (β × β)} :
    Option.Rel (fun a b => R a.1 b.1 ∧ S a.2 b.2) x y ↔
      Option.Rel R (x.map Prod.fst) (y.map Prod.fst) ∧
        Option.Rel S (x.map Prod.snd) (y.map Prod.snd) := by
  rcases x with - | x <;> rcases y with - | y <;> simp

end Slots

theorem Fields.forall₂_entries_iff {R : Value → Value → Prop} {f g : Fields} :
    List.Forall₂ (fun a b => a.1 = b.1 ∧ R a.2 b.2) f.entries g.entries ↔
      ∀ name, Option.Rel R (f.entries.lookup name) (g.entries.lookup name) := by
  constructor
  · generalize f.entries = es, g.entries = es'
    intro hr name
    induction hr with
    | nil => exact .none
    | @cons a b _ _ hab _ ih =>
      rw [lookup_cons_eq_ite, lookup_cons_eq_ite, ← hab.1]
      split_ifs
      · exact .some hab.2
      · exact ih
  · -- The entries of fields are in the order of their names, so the names settle the order of both.
    intro hr
    have hmem : ∀ {f : Fields} {key : String}, key ∈ f.names ↔ f.entries.lookup key ≠ none :=
      fun {f key} => by
        refine ⟨fun hk => by simp [lookup_eq_get hk], fun hk => ?_⟩
        obtain ⟨v, hv⟩ := Option.ne_none_iff_exists'.mp hk
        exact List.mem_map.mpr ⟨(key, v), lookup_eq_some.mp hv, rfl⟩
    refine forall₂_entries (fun key => ?_) fun key hkey => ?_
    · have hkey := hr key
      rw [hmem, hmem]
      generalize f.entries.lookup key = x, g.entries.lookup key = y at hkey
      cases hkey <;> simp
    · have hrel := hr key
      rw [lookup_eq_get hkey] at hrel
      generalize hy : g.entries.lookup key = y at hrel
      cases hrel with
      | some hxy => rwa [get, get, hy, lookup_eq_get hkey]

theorem Slot.forall_iff {P : Slot → Prop} :
    (∀ σ, P σ) ↔ (∀ name, P (.field name)) ∧ (∀ i, P (.item i)) ∧ (∀ i, P (.key i)) ∧
      ∀ i, P (.value i) := by
  refine ⟨fun hP => ⟨fun _ => hP _, fun _ => hP _, fun _ => hP _, fun _ => hP _⟩, ?_⟩
  rintro ⟨hfield, hitem, hkey, hvalue⟩ (name | i | i | i)
  exacts [hfield name, hitem i, hkey i, hvalue i]

/-- **Cells are equal** when they have one label and what stands in each slot of them is equal. -/
theorem Cell.equalBy_iff {eq : Value → Value → Bool} {c d : Cell} :
    c.equalBy eq d = true ↔
      c.label = d.label ∧ ∀ σ, Option.Rel (fun x y => eq x y = true) (c.slot? σ) (d.slot? σ) := by
  rw [Slot.forall_iff]
  cases c <;> cases d
  case object.object =>
    simp [equalBy, label, slot?, equalLists_iff,
      Fields.forall₂_entries_iff (R := fun x y => eq x y = true)]
  case array.array =>
    simp [equalBy, label, slot?, equalLists_iff, forall₂_iff_getElem?]
  case sequence.sequence =>
    simp [equalBy, label, slot?, equalLists_iff, forall₂_iff_getElem?]
  case mapping.mapping =>
    simp [equalBy, label, slot?, equalLists_iff, forall₂_iff_getElem?, forall_and,
      rel_prod_iff (R := fun x y => eq x y = true) (S := fun x y => eq x y = true)]
  all_goals simp [equalBy, label]

/-! ## Trees that are the same -/

namespace Heap

variable {h g k : Heap} {v w u : Value}

/-- The trees of two values, each in a heap of its own, have agreeing labels along the same
paths. -/
def SameTree (h : Heap) (v : Value) (g : Heap) (w : Value) : Prop :=
  ∀ path, Option.Rel Label.Agree (h.unfolding 0 v path) (g.unfolding 0 w path)

/-- **Trees are the same** when their labels agree and the trees below them are the same. -/
theorem sameTree_iff : h.SameTree v g w ↔
    (h.content v).label.Agree (g.content w).label ∧
      ∀ σ, Option.Rel (fun x y => h.SameTree x g y) ((h.content v).slot? σ)
        ((g.content w).slot? σ) := by
  constructor
  · intro hvw
    have hroot := hvw []
    rw [unfolding_nil, unfolding_nil, contentFrom_zero, contentFrom_zero] at hroot
    refine ⟨Option.rel_some_some.mp hroot, fun σ => ?_⟩
    have hpaths := fun path => hvw (σ :: path)
    simp only [unfolding_cons, contentFrom_zero] at hpaths
    generalize (h.content v).slot? σ = x, (g.content w).slot? σ = y at hpaths
    rcases x with - | x <;> rcases y with - | y
    · exact .none
    · cases hpaths []
    · cases hpaths []
    · exact .some hpaths
  · rintro ⟨hlabel, hslots⟩ (- | ⟨σ, path⟩)
    · rw [unfolding_nil, unfolding_nil, contentFrom_zero, contentFrom_zero]
      exact .some hlabel
    · have hσ := hslots σ
      rw [unfolding_cons, unfolding_cons, contentFrom_zero, contentFrom_zero]
      generalize (h.content v).slot? σ = x, (g.content w).slot? σ = y at hσ
      cases hσ with
      | none => exact .none
      | some hxy => exact hxy path

theorem SameTree.symm (hvw : h.SameTree v g w) : g.SameTree w h v := by
  intro path
  have hpath := hvw path
  generalize h.unfolding 0 v path = x, g.unfolding 0 w path = y at hpath
  cases hpath with
  | none => exact .none
  | some hlm => exact .some hlm.symm

theorem SameTree.trans (hvw : h.SameTree v g w) (hwu : g.SameTree w k u) : h.SameTree v k u := by
  intro path
  have hpath := hvw path
  have hpath' := hwu path
  generalize h.unfolding 0 v path = x, g.unfolding 0 w path = y, k.unfolding 0 u path = z at *
  cases hpath with
  | none => exact hpath'
  | some hlm =>
    cases hpath' with
    | some hmk => exact .some (hlm.trans hmk)

/-- The label of a float is that of nothing else. -/
theorem label_content_eq_float {x : Binary64} :
    (h.content v).label = .scalar (.float x) ↔ v = .float x := by
  cases v with
  | ref a =>
    rw [content]
    split
    · next c _ => cases c <;> simp [Content.label, Cell.label]
    · simp [Content.label]
  | _ => simp [content, Content.label]

/-- **A tree is the same as itself** unless a NaN is in it. -/
theorem sameTree_self_iff :
    h.SameTree v h v ↔ ∀ x, h.Reaches v (.float x) → x.isNaN = false := by
  constructor
  · intro hv x hx
    obtain ⟨path, hpath⟩ := exists_unfolding_iff.mpr ⟨.float x, hx, rfl⟩
    have hself := hv path
    rw [hpath] at hself
    exact Label.agree_self_iff.mp (Option.rel_some_some.mp hself) x rfl
  · intro hx path
    cases hpath : h.unfolding 0 v path with
    | none => exact .none
    | some l =>
      obtain ⟨w, hw, rfl⟩ := exists_unfolding_iff.mp ⟨path, hpath⟩
      refine .some (Label.agree_self_iff.mpr fun x hl => hx x ?_)
      rwa [← label_content_eq_float.mp hl]

/-! ## One step of the comparison -/

/-- Whether two values are equal when the values in their cells are compared in some way. -/
def equalBy (h : Heap) (eq : Value → Value → Bool) (v w : Value) : Bool :=
  match h.content v, h.content w with
  | .scalar a, .scalar b => a.equalScalar b
  | .cell c, .cell d => c.equalBy eq d
  | _, _ => false

theorem ne_ref_of_content {x : Value} (hx : h.content v = .scalar x) (a : Address) :
    x ≠ .ref a := by
  rintro rfl
  cases v with
  | ref b =>
    rw [content] at hx
    split at hx <;> cases hx
  | _ => cases hx

/-- **Two values are equal** when their labels agree and what stands in each slot is equal. -/
theorem equalBy_iff {eq : Value → Value → Bool} : h.equalBy eq v w = true ↔
    (h.content v).label.Agree (h.content w).label ∧
      ∀ σ, Option.Rel (fun x y => eq x y = true) ((h.content v).slot? σ)
        ((h.content w).slot? σ) := by
  rw [equalBy]
  rcases hv : h.content v with x | c <;> rcases hw : h.content w with y | d
  · simp [Value.equalScalar_iff (ne_ref_of_content hv), Content.label, Content.slot?]
  · have hne : ¬ (Label.scalar x).Agree d.label := fun hxd => by
      have hlabel := Label.agree_cell.mp hxd.symm
      cases d <;> cases hlabel
    simp [Content.label, hne]
  · have hne : ¬ c.label.Agree (.scalar y) := fun hcy => by
      have hlabel := Label.agree_cell.mp hcy
      cases c <;> cases hlabel
    simp [Content.label, hne]
  · simp only [Cell.equalBy_iff, Content.label, Content.slot?, Label.agree_cell]

theorem equalWithin_succ (h : Heap) (n : Nat) (v w : Value) :
    h.equalWithin (n + 1) v w = h.equalBy (h.equalWithin n) v w := by
  rcases hv : h.content v with x | c <;> rcases hw : h.content w with y | d <;>
    simp only [equalWithin, equalBy, hv, hw]

/-- Without a cell to follow there is no need for references. -/
theorem equalWithin_zero {x : Value} (hv : h.content v = .scalar x) (eq : Value → Value → Bool)
    (w : Value) : h.equalWithin 0 v w = h.equalBy eq v w := by
  rw [equalWithin, equalBy, hv]
  cases h.content w <;> rfl

/-- One step decides whether trees are the same if what stands in the slots is decided right. -/
theorem equalBy_iff_sameTree {eq : Value → Value → Bool}
    (heq : ∀ σ x y, (h.content v).slot? σ = some x → (h.content w).slot? σ = some y →
      (eq x y = true ↔ h.SameTree x h y)) :
    h.equalBy eq v w = true ↔ h.SameTree v h w := by
  rw [equalBy_iff, sameTree_iff]
  refine and_congr_right fun _ => forall_congr' fun σ => ?_
  have hσ := heq σ
  generalize (h.content v).slot? σ = x, (h.content w).slot? σ = y at hσ
  rcases x with - | x <;> rcases y with - | y <;> simp [hσ]

/-- To compare the values of one pair may come to comparing those of another, which stand in one
slot of them. -/
def Compares (h : Heap) (p q : Value × Value) : Prop :=
  ∃ σ, (h.content p.1).slot? σ = some q.1 ∧ (h.content p.2).slot? σ = some q.2

/-! ## Comparisons come to an end -/

section Cells

open Classical

/-- The addresses of the cells that a value reaches. -/
noncomputable def cellsFrom (h : Heap) (v : Value) : Finset Address :=
  (Finset.range h.size).filter fun a => h.Reaches v (.ref a)

theorem mem_cellsFrom {a : Address} : a ∈ h.cellsFrom v ↔ a < h.size ∧ h.Reaches v (.ref a) := by
  rw [cellsFrom, Finset.mem_filter, Finset.mem_range]

theorem card_cellsFrom_le (h : Heap) (v : Value) : (h.cellsFrom v).card ≤ h.size :=
  (Finset.card_filter_le _ _).trans (Finset.card_range h.size).le

end Cells

theorem exists_mem_cellsFrom {c : Cell} (hc : h.content v = .cell c) :
    ∃ a, v = .ref a ∧ a ∈ h.cellsFrom v := by
  obtain ⟨a, rfl, ha⟩ := content_eq_cell.mp hc
  exact ⟨a, rfl, mem_cellsFrom.mpr ⟨lt_of_cell? ha, .refl⟩⟩

/-- **What stands in a value reaches fewer cells**, since it does not lead back. -/
theorem AcyclicFrom.card_cellsFrom_lt (hv : h.AcyclicFrom v) (hr : h.Refers v w) :
    (h.cellsFrom w).card < (h.cellsFrom v).card := by
  obtain ⟨c, hc, -⟩ := id hr
  obtain ⟨a, rfl, ha⟩ := exists_mem_cellsFrom hc
  refine Finset.card_lt_card ((Finset.ssubset_iff_of_subset fun b hb => ?_).mpr ⟨a, ha, ?_⟩)
  · obtain ⟨hb, hwb⟩ := mem_cellsFrom.mp hb
    exact mem_cellsFrom.mpr ⟨hb, hwb.head hr⟩
  · exact fun hmem => hv.not_reaches hr (mem_cellsFrom.mp hmem).2

theorem AcyclicFrom.of_refers (hv : h.AcyclicFrom v) (hr : h.Refers v w) : h.AcyclicFrom w :=
  hv.of_reaches (.single hr)

/-- **Comparisons come to an end**: there is no endless chain of them from values of which one leads
to no cycle. -/
theorem acc_compares (hv : h.AcyclicFrom v) (w : Value) :
    Acc (fun q p => h.Compares p q) (v, w) := by
  induction hn : (h.cellsFrom v).card using Nat.strong_induction_on generalizing v w with
  | h n ih =>
    refine .intro _ fun q ⟨σ, hσ, _⟩ => ?_
    have hr : h.Refers v q.1 := refers_iff_slot?.mpr ⟨σ, hσ⟩
    exact ih _ (hn ▸ hv.card_cellsFrom_lt hr) (hv.of_refers hr) q.2 rfl

/-- **With enough references allowed for, what is compared is the trees.** -/
theorem equalWithin_iff_sameTree {n : Nat} (hv : h.AcyclicFrom v)
    (hn : (h.cellsFrom v).card ≤ n) : h.equalWithin n v w = true ↔ h.SameTree v h w := by
  induction n generalizing v w with
  | zero =>
    rcases hc : h.content v with x | c
    · rw [equalWithin_zero hc fun _ _ => false]
      refine equalBy_iff_sameTree fun σ x y hx _ => ?_
      rw [hc] at hx
      cases hx
    · obtain ⟨a, -, ha⟩ := exists_mem_cellsFrom hc
      exact absurd (Finset.card_pos.mpr ⟨a, ha⟩) (Nat.not_lt.mpr hn)
  | succ n ih =>
    rw [equalWithin_succ]
    refine equalBy_iff_sameTree fun σ x y hx _ => ?_
    have hr : h.Refers v x := refers_iff_slot?.mpr ⟨σ, hx⟩
    exact ih (hv.of_refers hr) (Nat.le_of_lt_succ ((hv.card_cellsFrom_lt hr).trans_le hn))

theorem equal_iff_sameTree (hv : h.AcyclicFrom v) : h.equal v w = true ↔ h.SameTree v h w :=
  equalWithin_iff_sameTree hv (h.card_cellsFrom_le v)

/-- The comparison follows its rule without any bound on references. -/
theorem equal_eq_equalBy (hv : h.AcyclicFrom v) (w : Value) :
    h.equal v w = h.equalBy h.equal v w := by
  rw [Bool.eq_iff_iff, equal_iff_sameTree hv, equalBy_iff_sameTree fun σ x y hx _ => ?_]
  exact equal_iff_sameTree (hv.of_refers (refers_iff_slot?.mpr ⟨σ, hx⟩))

/-- **Whatever follows the rule of the comparison gives its answer.** -/
theorem eq_equal_of_rule (hv : h.AcyclicFrom v) {eq : Value → Value → Bool}
    (hrule : ∀ x y, eq x y = h.equalBy eq x y) (w : Value) : eq v w = h.equal v w := by
  induction hn : (h.cellsFrom v).card using Nat.strong_induction_on generalizing v w with
  | h n ih =>
    rw [hrule, Bool.eq_iff_iff, equal_iff_sameTree hv]
    refine equalBy_iff_sameTree fun σ x y hx _ => ?_
    have hr : h.Refers v x := refers_iff_slot?.mpr ⟨σ, hx⟩
    rw [ih _ (hn ▸ hv.card_cellsFrom_lt hr) (hv.of_refers hr) y rfl,
      equal_iff_sameTree (hv.of_refers hr)]

end Heap

/-- **Equality of contents is equality of trees.** Of values that lead to no cycle, whatever they
share, it is decided by following the rule of the comparison: this comes to an end, its answer is
the only one that the rule allows, and no bound on references at or above the number of cells makes
a difference. The values are equal just when their trees have agreeing labels along the same paths;
hence equality is symmetric and transitive, depends on nothing but the trees, wherever their cells
are, and holds of a value and itself just when the value reaches no NaN. -/
theorem equal_compares_trees (h : Heap) :
    (∀ v w, h.AcyclicFrom v → h.AcyclicFrom w →
      (Acc (fun q p => h.Compares p q) (v, w) ∧
        h.equal v w = h.equalBy h.equal v w ∧
        (∀ eq, (∀ x y, eq x y = h.equalBy eq x y) → eq v w = h.equal v w) ∧
        ∀ n, h.size ≤ n → h.equalWithin n v w = h.equal v w) ∧
      (h.equal v w = true ↔ h.SameTree v h w) ∧
      h.equal v w = h.equal w v ∧
      (∀ u, h.AcyclicFrom u → h.equal v w = true → h.equal w u = true → h.equal v u = true) ∧
      ∀ (g : Heap) (x y : Value), g.AcyclicFrom x → g.AcyclicFrom y →
        h.unfolding 0 v = g.unfolding 0 x → h.unfolding 0 w = g.unfolding 0 y →
          h.equal v w = g.equal x y) ∧
    ∀ v, h.AcyclicFrom v →
      (h.equal v v = true ↔ ∀ x, h.Reaches v (.float x) → x.isNaN = false) := by
  refine ⟨fun v w hv hw => ⟨⟨Heap.acc_compares hv w, Heap.equal_eq_equalBy hv w,
    fun eq hrule => Heap.eq_equal_of_rule hv hrule w, fun n hn => ?_⟩,
    Heap.equal_iff_sameTree hv, ?_, fun u _ => ?_, fun g x y hx _ hvx hwy => ?_⟩, fun v hv => ?_⟩
  · rw [Bool.eq_iff_iff, Heap.equal_iff_sameTree hv,
      Heap.equalWithin_iff_sameTree hv ((h.card_cellsFrom_le v).trans hn)]
  · rw [Bool.eq_iff_iff, Heap.equal_iff_sameTree hv, Heap.equal_iff_sameTree hw]
    exact ⟨Heap.SameTree.symm, Heap.SameTree.symm⟩
  · rw [Heap.equal_iff_sameTree hv, Heap.equal_iff_sameTree hw, Heap.equal_iff_sameTree hv]
    exact Heap.SameTree.trans
  · rw [Bool.eq_iff_iff, Heap.equal_iff_sameTree hv, Heap.equal_iff_sameTree hx, Heap.SameTree,
      Heap.SameTree, hvx, hwy]
  · rw [Heap.equal_iff_sameTree hv, Heap.sameTree_self_iff]

/-- A pair that has one row twice and a pair of two rows, with a zero of either sign in the rows;
and a row with a NaN. -/
def pairHeap : Heap :=
  ⟨#[.array [.float ⟨0⟩, .text "x"], .object "Pair" (.ofList [("Left", .ref 0), ("Right", .ref 0)]),
    .array [.float ⟨0x8000000000000000⟩, .text "x"],
    .object "Pair" (.ofList [("Left", .ref 0), ("Right", .ref 2)]),
    .array [.float ⟨0x7FF8000000000000⟩]]⟩

/-- The pairs have the same tree, and the row with a NaN is not equal to itself. -/
theorem equal_compares_trees_pairHeap :
    pairHeap.AcyclicFrom (.ref 1) ∧ pairHeap.AcyclicFrom (.ref 3) ∧
      pairHeap.equal (.ref 1) (.ref 3) = true ∧ pairHeap.SameTree (.ref 1) pairHeap (.ref 3) ∧
      pairHeap.AcyclicFrom (.ref 4) ∧ pairHeap.equal (.ref 4) (.ref 4) = false ∧
      ¬ ∀ x, pairHeap.Reaches (.ref 4) (.float x) → x.isNaN = false := by
  have hdescending : pairHeap.Descending := by decide +kernel
  have hpairs : pairHeap.equal (.ref 1) (.ref 3) = true := by decide +kernel
  have hnan : pairHeap.equal (.ref 4) (.ref 4) = false := by decide +kernel
  have hacyclic := hdescending.acyclicFrom
  obtain ⟨hequal, hself⟩ := equal_compares_trees pairHeap
  refine ⟨hacyclic _, hacyclic _, hpairs, ?_, hacyclic _, hnan, fun hall => ?_⟩
  · exact (hequal (.ref 1) (.ref 3) (hacyclic _) (hacyclic _)).2.1.mp hpairs
  · have htrue := (hself (.ref 4) (hacyclic _)).mpr hall
    rw [hnan] at htrue
    cases htrue

end DeepCopy
