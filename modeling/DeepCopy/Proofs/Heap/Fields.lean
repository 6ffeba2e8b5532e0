import DeepCopy.Heap.Value
import Mathlib.Data.List.Forall2
import Mathlib.Data.List.Sort

/-!
# Fields

Fields are kept in the order of their names, so that two objects with the same field names have
them in the same places.

## Main results

* `Fields.lookup_set`: setting a field changes that field and no other
* `Fields.mem_entries_ofList`: entries with distinct names become fields one by one
* `Fields.forall₂_entries`: fields with the same names correspond one by one
-/

namespace DeepCopy

/-- The values in a mapping are the keys and the values of its entries. -/
theorem Cell.mem_values_mapping {typeName : String} {es : List (Value × Value)} {v : Value} :
    v ∈ (Cell.mapping typeName es).values ↔ ∃ e ∈ es, v = e.1 ∨ v = e.2 := by
  simp [values]

theorem lookup_cons_eq_ite {α : Type} (e : String × α) (es : List (String × α)) (key : String) :
    (e :: es).lookup key = if key = e.1 then some e.2 else es.lookup key := by
  obtain ⟨name, v⟩ := e
  by_cases hk : key = name
  · simp [hk]
  · have hb : (key == name) = false := beq_false_of_ne hk
    simp [List.lookup_cons, hb, hk]

theorem lookup_eq_some_iff_mem {es : List (String × Value)} (hn : (es.map Prod.fst).Nodup)
    {key : String} {v : Value} : es.lookup key = some v ↔ (key, v) ∈ es := by
  induction es with
  | nil => simp
  | cons e es ih =>
    obtain ⟨he, hes⟩ := List.nodup_cons.mp hn
    rw [lookup_cons_eq_ite, List.mem_cons, ← ih hes]
    split_ifs with hk
    · have hne : es.lookup key ≠ some v := fun hv =>
        he (List.mem_map.mpr ⟨(key, v), (ih hes).mp hv, hk⟩)
      rw [or_iff_left hne, Prod.ext_iff, Option.some.injEq, and_iff_right hk]
      exact eq_comm
    · simp [hk, Prod.ext_iff]

theorem lookup_setField (name key : String) (v : Value) (es : List (String × Value)) :
    (setField name v es).lookup key = if key = name then some v else es.lookup key := by
  induction es with
  | nil => simp [setField, lookup_cons_eq_ite]
  | cons e es ih =>
    unfold setField
    split
    · rw [lookup_cons_eq_ite]
    · next hlt =>
      split
      · next heq => simp only [lookup_cons_eq_ite, ← heq]; split_ifs <;> rfl
      · next hne =>
        rw [lookup_cons_eq_ite, lookup_cons_eq_ite, ih]
        by_cases hk : key = name
        · simp [hk, hne]
        · simp [hk]

namespace Fields

variable {f g : Fields}

/-- The names of the fields, in order. -/
def names (f : Fields) : List String := f.entries.map Prod.fst

theorem pairwise_names (f : Fields) : f.names.Pairwise (· < ·) :=
  List.pairwise_map.mpr f.ordered

theorem nodup_names (f : Fields) : f.names.Nodup :=
  f.pairwise_names.imp fun {a b} hlt => by
    rintro rfl
    exact String.lt_irrefl a hlt

theorem lookup_eq_some {key : String} {v : Value} :
    f.entries.lookup key = some v ↔ (key, v) ∈ f.entries :=
  lookup_eq_some_iff_mem f.nodup_names

theorem get_of_mem {key : String} {v : Value} (hm : (key, v) ∈ f.entries) : f.get key = v := by
  rw [get, lookup_eq_some.mpr hm, Option.getD_some]

/-- A field is null, or it stands in the object. -/
theorem get_eq_null_or_mem (f : Fields) (typeName key : String) :
    f.get key = .null ∨ f.get key ∈ (Cell.object typeName f).values := by
  rcases hl : f.entries.lookup key with - | v
  · exact .inl (by rw [get, hl, Option.getD_none])
  · refine .inr (List.mem_map.mpr ⟨(key, v), lookup_eq_some.mp hl, ?_⟩)
    rw [get, hl, Option.getD_some]

theorem lookup_eq_get {key : String} (hk : key ∈ f.names) :
    f.entries.lookup key = some (f.get key) := by
  obtain ⟨⟨name, v⟩, he, rfl⟩ := List.mem_map.mp hk
  rw [get_of_mem he, lookup_eq_some.mpr he]

theorem get_mem_values {key : String} (hk : key ∈ f.names) (typeName : String) :
    f.get key ∈ (Cell.object typeName f).values := by
  obtain ⟨⟨name, v⟩, he, rfl⟩ := List.mem_map.mp hk
  exact List.mem_map.mpr ⟨(name, v), he, (get_of_mem he).symm⟩

/-- What stands in an object is the value of a field. -/
theorem exists_get_of_mem_values {typeName : String} {v : Value}
    (hv : v ∈ (Cell.object typeName f).values) : ∃ key, f.get key = v := by
  obtain ⟨⟨key, w⟩, he, rfl⟩ := List.mem_map.mp hv
  exact ⟨key, get_of_mem he⟩

/-! ## Fields of given entries -/

theorem lookup_set (f : Fields) (name key : String) (v : Value) :
    (f.set name v).entries.lookup key = if key = name then some v else f.entries.lookup key :=
  lookup_setField name key v f.entries

theorem get_set (f : Fields) (name key : String) (v : Value) :
    (f.set name v).get key = if key = name then v else f.get key := by
  rw [get, lookup_set]
  split_ifs <;> rfl

theorem mem_names_set {name key : String} {v : Value} :
    key ∈ (f.set name v).names ↔ key = name ∨ key ∈ f.names := by
  have hnames (g : Fields) : key ∉ g.names ↔ g.entries.lookup key = none := by
    simp only [List.lookup_eq_none_iff, names, List.mem_map, not_exists, not_and, bne_iff_ne]
    exact forall₂_congr fun _ _ => ne_comm
  rw [← not_iff_not, not_or, hnames, hnames, lookup_set]
  split_ifs with hkey <;> simp [hkey]

theorem lookup_foldl_set (es : List (String × Value)) (f : Fields) (key : String) :
    (es.foldl (fun f e => f.set e.1 e.2) f).entries.lookup key =
      (es.reverse.lookup key).or (f.entries.lookup key) := by
  induction es generalizing f with
  | nil => simp
  | cons e es ih =>
    rw [List.foldl_cons, ih, List.reverse_cons, List.lookup_append, lookup_set, Option.or_assoc,
      lookup_cons_eq_ite]
    split_ifs <;> simp

/-- **Of entries with distinct names each becomes a field**, and nothing else does. -/
theorem mem_entries_ofList {es : List (String × Value)} (hn : (es.map Prod.fst).Nodup)
    {key : String} {v : Value} : (key, v) ∈ (ofList es).entries ↔ (key, v) ∈ es := by
  have hn' : (es.reverse.map Prod.fst).Nodup := by
    rwa [List.map_reverse, List.nodup_reverse]
  rw [← lookup_eq_some, ofList, lookup_foldl_set, Fields.empty, List.lookup_nil, Option.or_none,
    lookup_eq_some_iff_mem hn', List.mem_reverse]

theorem perm_entries_ofList {es : List (String × Value)} (hn : (es.map Prod.fst).Nodup) :
    (ofList es).entries.Perm es := by
  have hfields : (ofList es).entries.Nodup := List.Nodup.of_map Prod.fst (ofList es).nodup_names
  exact (List.perm_ext_iff_of_nodup hfields (List.Nodup.of_map Prod.fst hn)).mpr fun _ =>
    mem_entries_ofList hn

/-- **Fields with the same names correspond one by one**, as their values do. -/
theorem forall₂_entries {R : Value → Value → Prop} (hn : ∀ key, key ∈ f.names ↔ key ∈ g.names)
    (hR : ∀ key ∈ f.names, R (f.get key) (g.get key)) :
    List.Forall₂ (fun a b => a.1 = b.1 ∧ R a.2 b.2) f.entries g.entries := by
  have hnames : f.names = g.names :=
    f.pairwise_names.eq_of_mem_iff g.pairwise_names fun {key} => hn key
  have hlen : f.entries.length = g.entries.length := by
    simpa [names] using congrArg List.length hnames
  refine List.forall₂_iff_get.mpr ⟨hlen, fun i hi hj => ?_⟩
  have hkey : f.entries[i].1 = g.entries[i].1 := by
    have := congrArg (·[i]?) hnames
    simpa [names, hi, hj] using this
  refine ⟨hkey, ?_⟩
  have hmf : (f.entries[i].1, f.entries[i].2) ∈ f.entries := List.getElem_mem hi
  have hmg : (g.entries[i].1, g.entries[i].2) ∈ g.entries := List.getElem_mem hj
  have hv := hR f.entries[i].1 (List.mem_map.mpr ⟨_, hmf, rfl⟩)
  rwa [get_of_mem hmf, hkey, get_of_mem hmg] at hv

end Fields

end DeepCopy
