import DeepCopy.Proofs.Cloning.Action
import DeepCopy.Proofs.Heap.Fields

/-!
# What a clone is made of

A clone operation that succeeds has made a copy of its source piece by piece: of the value of a
member, of the items of a container, of the members of an object. `Copied` tells how the pieces of
the source and of the result belong together. Cells are added when their parts are finished, so
what a piece adds to the heap stands in one stretch of addresses, the cell of the piece itself
last; the stretches of the parts of a piece follow each other.

## Main definitions

* `Piece`: something in the source with what was made of it
* `Copied plans h g t piece n m`: on the trail `t` the piece was made by the rules, and its cells
  stand in `g` at the addresses from `n` up to `m`

## Main results

* `Copied.value_cases`: what was made of a value follows from what its accessor does next
* `Copied.of_container`, `Copied.of_mapping`: a container is added after what it holds
* `Copied.forall₂_items`, `Copied.forall₂_entries`: the items of a copied container are copied
* `Copied.get_kept`, `Copied.get_cloned`: the fields of a copied object are kept or copied
-/

namespace DeepCopy

open Cloning

/-- Something in the source with what was made of it. -/
inductive Piece where
  /-- What an accessor makes of a value. -/
  | value (work : Accessor) (source made : Value)
  /-- What an accessor makes of values in order. -/
  | items (element : Accessor) (source made : List Value)
  | entries (key value : Accessor) (source made : List (Value × Value))
  /-- What assignments make of the members of an object. -/
  | members (source : Fields) (assignments : List Assignment) (made : List (String × Value))

/-- A piece of a source in `h` was made by the rules, with the cells in `g` at the addresses from
one number up to another. -/
inductive Copied (plans : Catalog) (h g : Heap) : Trail → Piece → Address → Address → Prop
  | keep {t : Trail} {member : String} {work : Accessor} {v : Value} {n : Address}
      (ha : work.action member (h.content v) = .keep) :
      Copied plans h g t (.value work v v) n n
  | null {t : Trail} {member : String} {work : Accessor} {v : Value} {n : Address}
      (ha : work.action member (h.content v) = .null) :
      Copied plans h g t (.value work v .null) n n
  | inner {t : Trail} {member : String} {work inner : Accessor} {v w : Value} {n m : Address}
      (ha : work.action member (h.content v) = .inner inner)
      (hw : Copied plans h g t (.value inner v w) n m) :
      Copied plans h g t (.value work v w) n m
  | container {t : Trail} {member : String} {work element : Accessor} {v : Value}
      {typeName : Option String} {vs ws : List Value} {n m : Address}
      (ha : work.action member (h.content v) = .items element typeName vs)
      (hws : Copied plans h g t (.items element vs ws) n m)
      (hm : g.cell? m = some (.container typeName ws)) :
      Copied plans h g t (.value work v (.ref m)) n (m + 1)
  | mapping {t : Trail} {member : String} {work key value : Accessor} {v : Value}
      {typeName : String} {es fs : List (Value × Value)} {n m : Address}
      (ha : work.action member (h.content v) = .entries key value typeName es)
      (hfs : Copied plans h g t (.entries key value es fs) n m)
      (hm : g.cell? m = some (.mapping typeName fs)) :
      Copied plans h g t (.value work v (.ref m)) n (m + 1)
  | met {t : Trail} {member : String} {work : Accessor} {op : Operation} {v : Value} {n : Address}
      (ha : work.action member (h.content v) = .call op)
      (he : plans.entry op t v (h.content v) = .met) :
      Copied plans h g t (.value work v v) n n
  | object {t : Trail} {member : String} {work : Accessor} {op : Operation} {v : Value}
      {typeName : String} {source : Fields} {p : Plan} {made : List (String × Value)}
      {n m : Address}
      (ha : work.action member (h.content v) = .call op)
      (he : plans.entry op t v (h.content v) = .entered typeName source p)
      (hmade : Copied plans h g (op.trail t v) (.members source (p.assignments op) made) n m)
      (hm : g.cell? m = some (.object typeName (.ofList made))) :
      Copied plans h g t (.value work v (.ref m)) n (m + 1)
  | itemsNil {t : Trail} {element : Accessor} {n : Address} :
      Copied plans h g t (.items element [] []) n n
  | itemsCons {t : Trail} {element : Accessor} {v w : Value} {vs ws : List Value}
      {n k m : Address} (hw : Copied plans h g t (.value element v w) n k)
      (hws : Copied plans h g t (.items element vs ws) k m) :
      Copied plans h g t (.items element (v :: vs) (w :: ws)) n m
  | entriesNil {t : Trail} {key value : Accessor} {n : Address} :
      Copied plans h g t (.entries key value [] []) n n
  | entriesCons {t : Trail} {key value : Accessor} {e f : Value × Value}
      {es fs : List (Value × Value)} {n k l m : Address}
      (hkey : Copied plans h g t (.value key e.1 f.1) n k)
      (hvalue : Copied plans h g t (.value value e.2 f.2) k l)
      (hfs : Copied plans h g t (.entries key value es fs) l m) :
      Copied plans h g t (.entries key value (e :: es) (f :: fs)) n m
  | membersNil {t : Trail} {source : Fields} {n : Address} :
      Copied plans h g t (.members source [] []) n n
  | kept {t : Trail} {source : Fields} {name : String} {as : List Assignment}
      {made : List (String × Value)} {n m : Address}
      (hmade : Copied plans h g t (.members source as made) n m) :
      Copied plans h g t
        (.members source (.kept name :: as) ((name, source.get name) :: made)) n m
  | cloned {t : Trail} {source : Fields} {member : ClonedMember} {as : List Assignment} {w : Value}
      {made : List (String × Value)} {n k m : Address}
      (hw : Copied plans h g t (.value member.accessor (source.get member.name) w) n k)
      (hmade : Copied plans h g t (.members source as made) k m) :
      Copied plans h g t
        (.members source (.cloned member :: as) ((member.name, w) :: made)) n m

namespace Copied

variable {plans : Catalog} {h g g' : Heap} {t : Trail} {piece : Piece} {n m : Address}

/-- A piece adds cells after those that there are. -/
theorem le (hc : Copied plans h g t piece n m) : n ≤ m := by
  induction hc with
  | keep | null | met | itemsNil | entriesNil | membersNil => exact Nat.le_refl _
  | inner _ _ ih | kept _ ih => exact ih
  | container _ _ _ ih | mapping _ _ _ ih | object _ _ _ _ ih => exact Nat.le_succ_of_le ih
  | itemsCons _ _ ihw ihws | cloned _ _ ihw ihws => exact ihw.trans ihws
  | entriesCons _ _ _ ihk ihv ihfs => exact ihk.trans (ihv.trans ihfs)

/-! ### The parts of a piece -/

/-- **What was made of a value** follows from what its accessor does next. -/
theorem value_cases {work : Accessor} {v w : Value}
    (hc : Copied plans h g t (.value work v w) n m) (member : String) :
    match work.action member (h.content v) with
    | .keep => w = v ∧ m = n
    | .null => w = .null ∧ m = n
    | .refuse _ => False
    | .inner part => Copied plans h g t (.value part v w) n m
    | .items element typeName vs => ∃ ws b, w = .ref b ∧ m = b + 1 ∧
        g.cell? b = some (.container typeName ws) ∧
        Copied plans h g t (.items element vs ws) n b
    | .entries key value typeName es => ∃ fs b, w = .ref b ∧ m = b + 1 ∧
        g.cell? b = some (.mapping typeName fs) ∧
        Copied plans h g t (.entries key value es fs) n b
    | .call op => match plans.entry op t v (h.content v) with
      | .refused _ => False
      | .met => w = v ∧ m = n
      | .entered typeName source p => ∃ made b, w = .ref b ∧ m = b + 1 ∧
          g.cell? b = some (.object typeName (.ofList made)) ∧
          Copied plans h g (op.trail t v) (.members source (p.assignments op) made) n b := by
  cases hc with
  | keep ha =>
    rw [Accessor.action_congr ha (by simp) member]
    exact ⟨rfl, rfl⟩
  | null ha =>
    rw [Accessor.action_congr ha (by simp) member]
    exact ⟨rfl, rfl⟩
  | inner ha hw =>
    rw [Accessor.action_congr ha (by simp) member]
    exact hw
  | container ha hws hm =>
    rw [Accessor.action_congr ha (by simp) member]
    exact ⟨_, _, rfl, rfl, hm, hws⟩
  | mapping ha hfs hm =>
    rw [Accessor.action_congr ha (by simp) member]
    exact ⟨_, _, rfl, rfl, hm, hfs⟩
  | met ha he =>
    rw [Accessor.action_congr ha (by simp) member]
    dsimp only
    rw [he]
    exact ⟨rfl, rfl⟩
  | object ha he hmade hm =>
    rw [Accessor.action_congr ha (by simp) member]
    dsimp only
    rw [he]
    exact ⟨_, _, rfl, rfl, hm, hmade⟩

/-- What is behind a guard was made of the value without the guard. -/
theorem of_guarded {member : String} {work inner : Accessor} {v w : Value}
    (hc : Copied plans h g t (.value work v w) n m)
    (ha : work.action member (h.content v) = .inner inner) :
    Copied plans h g t (.value inner v w) n m := by
  have hcases := hc.value_cases member
  rw [ha] at hcases
  exact hcases

/-- A container is added right after what was made of its items. -/
theorem of_container {member : String} {work element : Accessor} {v : Value} {b : Address}
    {typeName typeName' : Option String} {vs ws : List Value}
    (hc : Copied plans h g t (.value work v (.ref b)) n m)
    (ha : work.action member (h.content v) = .items element typeName vs)
    (hb : g.cell? b = some (.container typeName' ws)) :
    Copied plans h g t (.items element vs ws) n b := by
  have hcases := hc.value_cases member
  rw [ha] at hcases
  obtain ⟨_, _, hw, -, hcell, hitems⟩ := hcases
  cases hw
  rw [hb, Option.some.injEq] at hcell
  rwa [Cell.container_injective hcell]

/-- A mapping is added right after what was made of its entries. -/
theorem of_mapping {member : String} {work key value : Accessor} {v : Value} {b : Address}
    {typeName typeName' : String} {es fs : List (Value × Value)}
    (hc : Copied plans h g t (.value work v (.ref b)) n m)
    (ha : work.action member (h.content v) = .entries key value typeName es)
    (hb : g.cell? b = some (.mapping typeName' fs)) :
    Copied plans h g t (.entries key value es fs) n b := by
  have hcases := hc.value_cases member
  rw [ha] at hcases
  obtain ⟨_, _, hw, -, hcell, hentries⟩ := hcases
  cases hw
  rw [hb] at hcell
  cases hcell
  exact hentries

theorem forall₂_items {element : Accessor} {vs ws : List Value}
    (hc : Copied plans h g t (.items element vs ws) n m) :
    List.Forall₂ (fun v w => ∃ k l, n ≤ k ∧ Copied plans h g t (.value element v w) k l) vs ws := by
  generalize hp : Piece.items element vs ws = piece at hc
  induction hc generalizing vs ws with
  | itemsNil =>
    cases hp
    exact .nil
  | itemsCons hw _ _ ihws =>
    cases hp
    refine .cons ⟨_, _, Nat.le_refl _, hw⟩ ((ihws rfl).imp fun _ _ hx => ?_)
    obtain ⟨k, l, hk, hx⟩ := hx
    exact ⟨k, l, hw.le.trans hk, hx⟩
  | _ => cases hp

theorem of_items {element : Accessor} {vs ws : List Value}
    (hc : Copied plans h g t (.items element vs ws) n m) {i : Nat} {v w : Value}
    (hv : vs[i]? = some v) (hw : ws[i]? = some w) :
    ∃ k l, n ≤ k ∧ Copied plans h g t (.value element v w) k l := by
  obtain ⟨hi, rfl⟩ := List.getElem?_eq_some_iff.mp hv
  obtain ⟨hj, rfl⟩ := List.getElem?_eq_some_iff.mp hw
  exact (List.forall₂_iff_get.mp hc.forall₂_items).2 i hi hj

theorem forall₂_entries {key value : Accessor} {es fs : List (Value × Value)}
    (hc : Copied plans h g t (.entries key value es fs) n m) :
    List.Forall₂ (fun e f => (∃ k l, n ≤ k ∧ Copied plans h g t (.value key e.1 f.1) k l) ∧
      ∃ k l, n ≤ k ∧ Copied plans h g t (.value value e.2 f.2) k l) es fs := by
  generalize hp : Piece.entries key value es fs = piece at hc
  induction hc generalizing es fs with
  | entriesNil =>
    cases hp
    exact .nil
  | entriesCons hkey hvalue _ _ _ ihfs =>
    cases hp
    have hle := hkey.le.trans hvalue.le
    refine .cons ⟨⟨_, _, Nat.le_refl _, hkey⟩, _, _, hkey.le, hvalue⟩
      ((ihfs rfl).imp fun _ _ hx => ?_)
    obtain ⟨⟨k, l, hk, hx⟩, k', l', hk', hx'⟩ := hx
    exact ⟨⟨k, l, hle.trans hk, hx⟩, k', l', hle.trans hk', hx'⟩
  | _ => cases hp

theorem of_entries {key value : Accessor} {es fs : List (Value × Value)}
    (hc : Copied plans h g t (.entries key value es fs) n m) {i : Nat} {e f : Value × Value}
    (he : es[i]? = some e) (hf : fs[i]? = some f) :
    (∃ k l, n ≤ k ∧ Copied plans h g t (.value key e.1 f.1) k l) ∧
      ∃ k l, n ≤ k ∧ Copied plans h g t (.value value e.2 f.2) k l := by
  obtain ⟨hi, rfl⟩ := List.getElem?_eq_some_iff.mp he
  obtain ⟨hj, rfl⟩ := List.getElem?_eq_some_iff.mp hf
  exact (List.forall₂_iff_get.mp hc.forall₂_entries).2 i hi hj

/-- The members that are made have the names that are assigned. -/
theorem map_fst_members {source : Fields} {as : List Assignment} {made : List (String × Value)}
    (hc : Copied plans h g t (.members source as made) n m) :
    made.map Prod.fst = as.map Assignment.name := by
  generalize hp : Piece.members source as made = piece at hc
  induction hc generalizing as made with
  | membersNil =>
    cases hp
    rfl
  | kept _ ih | cloned _ _ _ ih =>
    cases hp
    rw [List.map_cons, List.map_cons, ih rfl]
    rfl
  | _ => cases hp

/-- A kept member is passed on. -/
theorem mem_of_kept {source : Fields} {as : List Assignment} {made : List (String × Value)}
    (hc : Copied plans h g t (.members source as made) n m) {name : String}
    (ha : .kept name ∈ as) : (name, source.get name) ∈ made := by
  generalize hp : Piece.members source as made = piece at hc
  induction hc generalizing as made with
  | membersNil =>
    cases hp
    cases ha
  | kept _ ih =>
    cases hp
    rcases List.mem_cons.mp ha with hname | ha
    · cases hname
      exact List.mem_cons_self
    · exact List.mem_cons_of_mem _ (ih ha rfl)
  | cloned _ _ _ ih =>
    cases hp
    rcases List.mem_cons.mp ha with hname | ha
    · cases hname
    · exact List.mem_cons_of_mem _ (ih ha rfl)
  | _ => cases hp

/-- A cloned member is made by its accessor. -/
theorem exists_of_cloned {source : Fields} {as : List Assignment} {made : List (String × Value)}
    (hc : Copied plans h g t (.members source as made) n m) {member : ClonedMember}
    (ha : .cloned member ∈ as) : ∃ w k l, (member.name, w) ∈ made ∧ n ≤ k ∧
      Copied plans h g t (.value member.accessor (source.get member.name) w) k l := by
  generalize hp : Piece.members source as made = piece at hc
  induction hc generalizing as made with
  | membersNil =>
    cases hp
    cases ha
  | kept _ ih =>
    cases hp
    rcases List.mem_cons.mp ha with hmember | ha
    · cases hmember
    · obtain ⟨w, k, l, hw, hrest⟩ := ih ha rfl
      exact ⟨w, k, l, List.mem_cons_of_mem _ hw, hrest⟩
  | cloned hw _ _ ih =>
    cases hp
    rcases List.mem_cons.mp ha with hmember | ha
    · cases hmember
      exact ⟨_, _, _, List.mem_cons_self, Nat.le_refl _, hw⟩
    · obtain ⟨x, k, l, hx, hk, hc⟩ := ih ha rfl
      exact ⟨x, k, l, List.mem_cons_of_mem _ hx, hw.le.trans hk, hc⟩
  | _ => cases hp

/-! ### The fields of a copy

No member is assigned twice, so every assignment decides a field of the copy. -/

section Fields

variable {source : Fields} {as : List Assignment} {made : List (String × Value)}
  (hn : (as.map Assignment.name).Nodup) (hc : Copied plans h g t (.members source as made) n m)

include hn hc

theorem mem_entries_ofList {key : String} {w : Value} :
    (key, w) ∈ (Fields.ofList made).entries ↔ (key, w) ∈ made :=
  Fields.mem_entries_ofList (hc.map_fst_members ▸ hn)

theorem mem_names_ofList {key : String} :
    key ∈ (Fields.ofList made).names ↔ key ∈ as.map Assignment.name := by
  rw [← hc.map_fst_members, Fields.names, List.mem_map, List.mem_map]
  exact exists_congr fun e => and_congr_left fun _ => mem_entries_ofList hn hc

theorem get_kept {name : String} (ha : .kept name ∈ as) :
    (Fields.ofList made).get name = source.get name :=
  Fields.get_of_mem ((mem_entries_ofList hn hc).mpr (hc.mem_of_kept ha))

theorem get_cloned {member : ClonedMember} (ha : .cloned member ∈ as) :
    ∃ k l, n ≤ k ∧ Copied plans h g t (.value member.accessor (source.get member.name)
      ((Fields.ofList made).get member.name)) k l := by
  obtain ⟨w, k, l, hw, hk, hx⟩ := hc.exists_of_cloned ha
  rw [Fields.get_of_mem ((mem_entries_ofList hn hc).mpr hw)]
  exact ⟨k, l, hk, hx⟩

end Fields

end Copied

end DeepCopy
