import DeepCopy.Proofs.Cloning.Copied
import DeepCopy.Proofs.Heap.Slot

/-!
# The sites of a clone

A clone and its source are read side by side: from the value that was cloned and the result, along
the accessors, to the values at corresponding places in both. Each place that is found so is a
`Site`: it tells where the value stands in the result, how it was made, of what, and which objects
were being cloned meanwhile.

## Main definitions

* `Site`: a value in the result with how it was made
* `Opens`: from a site to the sites of the parts of its value
* `Reached`: the sites of a clone

## Main results

* `Reached.isMade`: what stands at a site was made by the rules
* `Copied.exists_site`: every slot of a new cell is a site
-/

namespace DeepCopy

open Cloning
open Relation (ReflTransGen)

/-- Where a value that a clone operation makes stands. -/
inductive Place where
  | result
  | slot (address : Address) (slot : Slot)

/-- How a value is made. -/
inductive Making where
  /-- It is the value of a kept member. -/
  | kept
  | work (work : Accessor)

/-- A value in the result of a clone operation, with how it was made. -/
structure Site where
  place : Place
  /-- The objects of the source that are being cloned, the innermost first. -/
  path : List Address
  making : Making
  source : Value
  made : Value

/-- The parts of the value at a site are sites as well: the items of a container, the fields of an
object, and what stands below a guard. The objects being cloned are on the stack above what the
caller has there; an object that is met again has no parts. -/
inductive Opens (plans : Catalog) (h g : Heap) (t : Trail) : Site → Site → Prop
  | guarded {place : Place} {path : List Address} {member : String} {work inner : Accessor}
      {v w : Value} (ha : work.action member (h.content v) = .inner inner) :
      Opens plans h g t ⟨place, path, .work work, v, w⟩ ⟨place, path, .work inner, v, w⟩
  | item {place : Place} {path : List Address} {member : String} {work element : Accessor}
      {v x y : Value} {typeName : Option String} {vs ws : List Value} {b : Address} {i : Nat}
      (ha : work.action member (h.content v) = .items element typeName vs)
      (hb : g.cell? b = some (.container typeName ws))
      (hx : vs[i]? = some x) (hy : ws[i]? = some y) :
      Opens plans h g t ⟨place, path, .work work, v, .ref b⟩
        ⟨.slot b (.item i), path, .work element, x, y⟩
  | key {place : Place} {path : List Address} {member : String} {work key value : Accessor}
      {v : Value} {typeName : String} {es fs : List (Value × Value)} {e f : Value × Value}
      {b : Address} {i : Nat}
      (ha : work.action member (h.content v) = .entries key value typeName es)
      (hb : g.cell? b = some (.mapping typeName fs))
      (he : es[i]? = some e) (hf : fs[i]? = some f) :
      Opens plans h g t ⟨place, path, .work work, v, .ref b⟩
        ⟨.slot b (.key i), path, .work key, e.1, f.1⟩
  | value {place : Place} {path : List Address} {member : String} {work key value : Accessor}
      {v : Value} {typeName : String} {es fs : List (Value × Value)} {e f : Value × Value}
      {b : Address} {i : Nat}
      (ha : work.action member (h.content v) = .entries key value typeName es)
      (hb : g.cell? b = some (.mapping typeName fs))
      (he : es[i]? = some e) (hf : fs[i]? = some f) :
      Opens plans h g t ⟨place, path, .work work, v, .ref b⟩
        ⟨.slot b (.value i), path, .work value, e.2, f.2⟩
  | cloned {place : Place} {path : List Address} {member : String} {work : Accessor}
      {op : Operation} {a b : Address} {typeName : String} {source made : Fields} {p : Plan}
      {m : ClonedMember}
      (ha : work.action member (h.content (.ref a)) = .call op)
      (he : plans.entry op ⟨path ++ t.cells⟩ (.ref a) (h.content (.ref a)) =
        .entered typeName source p)
      (hb : g.cell? b = some (.object typeName made))
      (hm : .cloned m ∈ p.assignments op) :
      Opens plans h g t ⟨place, path, .work work, .ref a, .ref b⟩
        ⟨.slot b (.field m.name), a :: path, .work m.accessor, source.get m.name, made.get m.name⟩
  | kept {place : Place} {path : List Address} {member : String} {work : Accessor}
      {op : Operation} {a b : Address} {typeName name : String} {source made : Fields} {p : Plan}
      (ha : work.action member (h.content (.ref a)) = .call op)
      (he : plans.entry op ⟨path ++ t.cells⟩ (.ref a) (h.content (.ref a)) =
        .entered typeName source p)
      (hb : g.cell? b = some (.object typeName made))
      (hm : .kept name ∈ p.assignments op) :
      Opens plans h g t ⟨place, path, .work work, .ref a, .ref b⟩
        ⟨.slot b (.field name), a :: path, .kept, source.get name, made.get name⟩

/-- The site of the result of an operation. -/
def Site.root (op : Operation) (v w : Value) : Site := ⟨.result, [], .work (.call false op), v, w⟩

/-- The sites of an operation on `v` with the result `w`. -/
def Reached (plans : Catalog) (h g : Heap) (t : Trail) (op : Operation) (v w : Value) :
    Site → Prop :=
  ReflTransGen (Opens plans h g t) (.root op v w)

/-- The trail while the objects on a path are being cloned. -/
def Operation.trailOn (op : Operation) (t : Trail) (path : List Address) : Trail :=
  match op with
  | .fast => t
  | .safe => ⟨path ++ t.cells⟩

theorem Operation.trail_trailOn (op : Operation) (t : Trail) (path : List Address) (a : Address) :
    op.trail (op.trailOn t path) (.ref a) = op.trailOn t (a :: path) := by
  cases op <;> rfl

/-- A fast operation does not look at the trail. -/
theorem Catalog.entry_trailOn (plans : Catalog) (op : Operation) (t : Trail) (path : List Address)
    (v : Value) (c : Content) :
    plans.entry op (op.trailOn t path) v c = plans.entry op ⟨path ++ t.cells⟩ v c := by
  cases op with
  | safe => rfl
  | fast => rcases c with x | ⟨n, f⟩ | vs | ⟨n, vs⟩ | ⟨n, es⟩ <;> rfl

/-! ## Sites were made by the rules -/

variable {plans : Catalog} {h g : Heap} {t : Trail} {op : Operation} {v w : Value} {site : Site}

/-- Every call at a site names one operation. -/
def Site.Targets (op : Operation) (site : Site) : Prop :=
  ∀ work, site.making = .work work → work.targets op = true

/-- What stands at a site was made by the rules: a kept value is passed on, and an accessor made its
piece, with cells after those of the source. -/
def Site.IsMade (plans : Catalog) (h g : Heap) (t : Trail) (op : Operation) (site : Site) : Prop :=
  match site.making with
  | .kept => site.made = site.source
  | .work work => ∃ n m, h.size ≤ n ∧
      Copied plans h g (op.trailOn t site.path) (.value work site.source site.made) n m

theorem Opens.targets (hplans : plans.IsCompiled) {x y : Site} (ho : Opens plans h g t x y)
    (hx : x.Targets op) : y.Targets op := by
  intro work hwork
  cases ho with
  | guarded ha | item ha | key ha | value ha =>
    cases hwork
    exact Accessor.targets_of_mem_parts (hx _ rfl) (by rw [ha]; simp [Action.parts])
  | cloned ha he _ hm =>
    cases hwork
    obtain ⟨-, -, hp⟩ := Catalog.entry_eq_entered.mp he
    have hop := Accessor.eq_of_targets (hx _ rfl) ha
    exact hop ▸ (hplans _ _ hp).targets hm
  | kept => cases hwork

theorem Reached.targets (hplans : plans.IsCompiled) (hr : Reached plans h g t op v w site) :
    site.Targets op := by
  induction hr with
  | refl =>
    intro work hwork
    cases hwork
    exact beq_self_eq_true op
  | tail _ ho ih => exact ho.targets hplans ih

/-- The copy of an object at a site was made on the stack with the object on it. -/
theorem exists_members_of_isMade {place : Place} {path : List Address} {member : String}
    {work : Accessor} {a b : Address} {typeName : String} {source made : Fields} {p : Plan}
    (ha : work.action member (h.content (.ref a)) = .call op)
    (he : plans.entry op ⟨path ++ t.cells⟩ (.ref a) (h.content (.ref a)) =
      .entered typeName source p)
    (hb : g.cell? b = some (.object typeName made))
    (hs : Site.IsMade plans h g t op ⟨place, path, .work work, .ref a, .ref b⟩) :
    ∃ entries n, made = .ofList entries ∧ h.size ≤ n ∧
      Copied plans h g (op.trailOn t (a :: path)) (.members source (p.assignments op) entries) n
        b := by
  obtain ⟨n, m, hn, hc⟩ := hs
  have hcases := hc.value_cases member
  rw [ha] at hcases
  dsimp only at hcases
  rw [plans.entry_trailOn, he] at hcases
  obtain ⟨entries, b, hbb, -, hb', hmembers⟩ := hcases
  cases hbb
  rw [hb] at hb'
  cases hb'
  exact ⟨entries, n, rfl, hn, op.trail_trailOn t path a ▸ hmembers⟩

/-- What stands at the parts of a site was made by the rules if what stands at the site was. -/
theorem Opens.isMade (hplans : plans.IsCompiled) {x y : Site} (ho : Opens plans h g t x y)
    (htargets : x.Targets op) (hx : x.IsMade plans h g t op) : y.IsMade plans h g t op := by
  cases ho with
  | guarded ha =>
    obtain ⟨n, m, hn, hc⟩ := hx
    exact ⟨n, m, hn, hc.of_guarded ha⟩
  | item ha hb hv hw =>
    obtain ⟨n, m, hn, hc⟩ := hx
    obtain ⟨k, l, hk, hpart⟩ := (hc.of_container ha hb).of_items hv hw
    exact ⟨k, l, hn.trans hk, hpart⟩
  | key ha hb he hf =>
    obtain ⟨n, m, hn, hc⟩ := hx
    obtain ⟨k, l, hk, hpart⟩ := ((hc.of_mapping ha hb).of_entries he hf).1
    exact ⟨k, l, hn.trans hk, hpart⟩
  | value ha hb he hf =>
    obtain ⟨n, m, hn, hc⟩ := hx
    obtain ⟨k, l, hk, hpart⟩ := ((hc.of_mapping ha hb).of_entries he hf).2
    exact ⟨k, l, hn.trans hk, hpart⟩
  -- All calls at a site name one operation, so the one that is called here is that of the site.
  | cloned ha he hb hm =>
    obtain rfl := Accessor.eq_of_targets (htargets _ rfl) ha
    obtain ⟨entries, n, rfl, hn, hmembers⟩ := exists_members_of_isMade ha he hb hx
    have hp := hplans _ _ (Catalog.entry_eq_entered.mp he).2.2
    obtain ⟨k, l, hk, hpart⟩ := hmembers.get_cloned (hp.nodup_names _) hm
    exact ⟨k, l, hn.trans hk, hpart⟩
  | kept ha he hb hm =>
    obtain rfl := Accessor.eq_of_targets (htargets _ rfl) ha
    obtain ⟨entries, n, rfl, -, hmembers⟩ := exists_members_of_isMade ha he hb hx
    have hp := hplans _ _ (Catalog.entry_eq_entered.mp he).2.2
    exact hmembers.get_kept (hp.nodup_names _) hm

/-- **What stands at a site was made by the rules.** -/
theorem Reached.isMade (hplans : plans.IsCompiled)
    (hroot : Copied plans h g (op.trailOn t []) (.value (.call false op) v w) h.size g.size)
    (hr : Reached plans h g t op v w site) : site.IsMade plans h g t op := by
  induction hr with
  | refl => exact ⟨_, _, Nat.le_refl _, hroot⟩
  | tail hr ho ih => exact ho.isMade hplans (Reached.targets hplans hr) ih

/-! ## The slots of new cells are sites -/

/-- The values of a piece stand at sites of a clone. -/
def Piece.IsReached (reached : Site → Prop) (path : List Address) : Piece → Prop
  | .value work v w => ∃ place, reached ⟨place, path, .work work, v, w⟩
  | .items element vs ws => ∀ (i : Nat) v w, vs[i]? = some v → ws[i]? = some w →
      ∃ place, reached ⟨place, path, .work element, v, w⟩
  | .entries k l es fs => ∀ (i : Nat) e f, es[i]? = some e → fs[i]? = some f →
      (∃ place, reached ⟨place, path, .work k, e.1, f.1⟩) ∧
        ∃ place, reached ⟨place, path, .work l, e.2, f.2⟩
  | .members source as made => ∀ m w, .cloned m ∈ as → (m.name, w) ∈ made →
      ∃ place, reached ⟨place, path, .work m.accessor, source.get m.name, w⟩

theorem Cell.slot?_container {typeName : Option String} {vs : List Value} {σ : Slot} {x : Value}
    (hσ : (Cell.container typeName vs).slot? σ = some x) :
    ∃ i, σ = .item i ∧ vs[i]? = some x := by
  cases typeName <;> cases σ <;> simp_all [container, slot?]

theorem Cell.slot?_mapping {typeName : String} {es : List (Value × Value)} {σ : Slot} {x : Value}
    (hσ : (Cell.mapping typeName es).slot? σ = some x) :
    ∃ i e, es[i]? = some e ∧ (σ = .key i ∧ e.1 = x ∨ σ = .value i ∧ e.2 = x) := by
  cases σ with
  | key i | value i =>
    obtain ⟨e, he, hx⟩ := Option.map_eq_some_iff.mp hσ
    exact ⟨i, e, he, by simp [hx]⟩
  | field name | item i => cases hσ

/-- The slots of the copy of an object are those that are assigned. -/
theorem Copied.slot?_object {as : List Assignment} {source : Fields}
    {made : List (String × Value)} {n m : Address} (hn : (as.map Assignment.name).Nodup)
    (hmade : Copied plans h g t (.members source as made) n m) {typeName : String} {σ : Slot}
    {x : Value} (hσ : (Cell.object typeName (.ofList made)).slot? σ = some x) :
    ∃ assignment ∈ as, σ = .field assignment.name ∧ (assignment.name, x) ∈ made := by
  cases σ with
  | field name =>
    have hmem : (name, x) ∈ made :=
      (Copied.mem_entries_ofList hn hmade).mp (Fields.lookup_eq_some.mp hσ)
    have hname : name ∈ as.map Assignment.name :=
      hmade.map_fst_members ▸ List.mem_map.mpr ⟨_, hmem, rfl⟩
    obtain ⟨assignment, hassignment, rfl⟩ := List.mem_map.mp hname
    exact ⟨assignment, hassignment, rfl, hmem⟩
  | item i | key i | value i => cases hσ

/-- **Every slot of a new cell is a site**, as soon as the piece that the cell belongs to is. -/
theorem Copied.exists_site (hplans : plans.IsCompiled) {reached : Site → Prop}
    (hopen : ∀ x y, reached x → Opens plans h g t x y → reached y)
    (htargets : ∀ x, reached x → x.Targets op) {path : List Address} {piece : Piece}
    {n m b : Address} (hc : Copied plans h g (op.trailOn t path) piece n m)
    (hreached : piece.IsReached reached path) (hnb : n ≤ b) (hbm : b < m) {c : Cell}
    (hb : g.cell? b = some c) {σ : Slot} {x : Value} (hσ : c.slot? σ = some x) :
    ∃ site, reached site ∧ site.place = .slot b σ ∧ site.made = x := by
  generalize htrail : op.trailOn t path = trail at hc
  -- The cells of a piece are those of its parts, in turn, and then its own: so the cell belongs to a
  -- part, whose values stand at sites too, or it is the last one, whose slots hold these values.
  induction hc generalizing path with
  | keep | null | met | itemsNil | entriesNil | membersNil =>
    exact absurd hbm (Nat.not_lt.mpr hnb)
  | inner ha _ ih =>
    obtain ⟨place, hsite⟩ := hreached
    exact ih ⟨place, hopen _ _ hsite (.guarded ha)⟩ hnb hbm htrail
  | @container _ _ _ _ _ _ vs ws _ m ha hws hm ih =>
    obtain ⟨place, hsite⟩ := hreached
    have hitem : ∀ i v w, vs[i]? = some v → ws[i]? = some w →
        reached ⟨.slot m (.item i), path, _, v, w⟩ := fun i v w hv hw =>
      hopen _ _ hsite (.item ha hm hv hw)
    rcases Nat.lt_succ_iff_lt_or_eq.mp hbm with hlt | rfl
    · exact ih (fun i v w hv hw => ⟨_, hitem i v w hv hw⟩) hnb hlt htrail
    · rw [hm, Option.some.injEq] at hb
      subst hb
      obtain ⟨i, rfl, hx⟩ := Cell.slot?_container hσ
      obtain ⟨hi, -⟩ := List.getElem?_eq_some_iff.mp hx
      have hv := List.getElem?_eq_getElem (hws.forall₂_items.length_eq.symm ▸ hi)
      exact ⟨_, hitem i _ x hv hx, rfl, rfl⟩
  | @mapping _ _ _ key value _ _ es fs _ m ha hfs hm ih =>
    obtain ⟨place, hsite⟩ := hreached
    have hentry : ∀ i e f, es[i]? = some e → fs[i]? = some f →
        reached ⟨.slot m (.key i), path, .work key, e.1, f.1⟩ ∧
          reached ⟨.slot m (.value i), path, .work value, e.2, f.2⟩ := fun i e f he hf =>
      ⟨hopen _ _ hsite (.key ha hm he hf), hopen _ _ hsite (.value ha hm he hf)⟩
    rcases Nat.lt_succ_iff_lt_or_eq.mp hbm with hlt | rfl
    · exact ih (fun i e f he hf => ⟨⟨_, (hentry i e f he hf).1⟩, _, (hentry i e f he hf).2⟩) hnb
        hlt htrail
    · rw [hm, Option.some.injEq] at hb
      subst hb
      obtain ⟨i, f, hf, hx⟩ := Cell.slot?_mapping hσ
      obtain ⟨hi, -⟩ := List.getElem?_eq_some_iff.mp hf
      have he := List.getElem?_eq_getElem (hfs.forall₂_entries.length_eq.symm ▸ hi)
      rcases hx with ⟨rfl, rfl⟩ | ⟨rfl, rfl⟩
      · exact ⟨_, (hentry i _ f he hf).1, rfl, rfl⟩
      · exact ⟨_, (hentry i _ f he hf).2, rfl, rfl⟩
  | @object _ _ _ site v _ source p made _ m ha he hmade hm ih =>
    obtain ⟨place, hsite⟩ := hreached
    obtain rfl := Accessor.eq_of_targets (htargets _ hsite _ rfl) ha
    obtain ⟨hc, -, hp⟩ := Catalog.entry_eq_entered.mp he
    obtain ⟨a, rfl, -⟩ := Heap.content_eq_cell.mp hc
    rw [← htrail, plans.entry_trailOn] at he
    have hnodup := (hplans _ _ hp).nodup_names site
    have hget : ∀ {key : String} {w : Value}, (key, w) ∈ made → (Fields.ofList made).get key = w :=
      fun hw => Fields.get_of_mem ((Copied.mem_entries_ofList hnodup hmade).mpr hw)
    have hcloned : ∀ l w, .cloned l ∈ p.assignments site → (l.name, w) ∈ made →
        reached ⟨.slot m (.field l.name), a :: path, .work l.accessor, source.get l.name, w⟩ :=
      fun l w hl hw => hget hw ▸ hopen _ _ hsite (.cloned ha he hm hl)
    rcases Nat.lt_succ_iff_lt_or_eq.mp hbm with hlt | rfl
    · -- The members are made with the object itself on the stack.
      have htrail' := site.trail_trailOn t path a
      rw [htrail] at htrail'
      refine ih ?_ hnb hlt htrail'.symm
      exact fun l w hl hw => ⟨_, hcloned l w hl hw⟩
    · rw [hm, Option.some.injEq] at hb
      subst hb
      obtain ⟨assignment, hassignment, rfl, hmem⟩ := hmade.slot?_object hnodup hσ
      cases assignment with
      | kept name => exact ⟨_, hopen _ _ hsite (.kept ha he hm hassignment), rfl, hget hmem⟩
      | cloned l => exact ⟨_, hcloned l x hassignment hmem, rfl, rfl⟩
  | @itemsCons _ _ _ _ _ _ _ k _ _ _ ihw ihws =>
    rcases Nat.lt_or_ge b k with hlt | hle
    · exact ihw (hreached 0 _ _ rfl rfl) hnb hlt htrail
    · exact ihws (fun i v w hv hw => hreached (i + 1) v w hv hw) hle hbm htrail
  | @entriesCons _ _ _ _ _ _ _ _ k l _ _ _ _ ihk ihv ihfs =>
    rcases Nat.lt_or_ge b k with hlt | hle
    · exact ihk (hreached 0 _ _ rfl rfl).1 hnb hlt htrail
    · rcases Nat.lt_or_ge b l with hlt | hle'
      · exact ihv (hreached 0 _ _ rfl rfl).2 hle hlt htrail
      · exact ihfs (fun i e f he hf => hreached (i + 1) e f he hf) hle' hbm htrail
  | kept _ ih =>
    exact ih (fun l w hl hw => hreached l w (List.mem_cons_of_mem _ hl)
      (List.mem_cons_of_mem _ hw)) hnb hbm htrail
  | @cloned _ _ _ _ _ _ _ k _ _ _ ihw ihmade =>
    rcases Nat.lt_or_ge b k with hlt | hle
    · exact ihw (hreached _ _ List.mem_cons_self List.mem_cons_self) hnb hlt htrail
    · exact ihmade (fun l w hl hw => hreached l w (List.mem_cons_of_mem _ hl)
        (List.mem_cons_of_mem _ hw)) hle hbm htrail

end DeepCopy
