import DeepCopy.Proofs.Accessor.NormalForm
import DeepCopy.Proofs.Cloning.Copies
import DeepCopy.Proofs.Cloning.Site

/-!
# What a clone shares with its source

What a site of a clone shares with the source follows from how its value was made. Kept members and
what accessors copy are passed on, and so are, in a safe clone, the objects on the stack that are
met again; all other cells that are met are made anew.

## Main definitions

* `IsSeparated`: new cells refer to old ones only where a value is passed on by the rules

## Main results

* `Copied.shared`: what is no new cell was passed on
* `Copied.exists_new_object`, `Copied.exists_new_container`: what is made anew
* `clone_isSeparated`: the results of clone operations are separated from their sources
-/

namespace DeepCopy

open Cloning

variable {plans : Catalog} {h g : Heap} {t : Trail} {op : Operation} {v w : Value}

/-! ## What is shared and what is new -/

namespace Accessor

/-- The work below all guards. -/
def unguarded : Accessor → Accessor
  | .guarded inner => inner.unguarded
  | work => work

theorem targets_unguarded {work : Accessor} (ht : work.targets op = true) :
    work.unguarded.targets op = true := by
  induction work with
  | guarded inner ih => exact ih ht
  | _ => exact ht

end Accessor

namespace Copied

variable {work : Accessor} {x y : Value} {n m : Address}

/-- **A value that is no new cell was passed on**: it was copied, or it is an object that was met
again. -/
theorem shared {a : Address} (hc : Copied plans h g t (.value work x (.ref a)) n m) (ha : a < n) :
    x = .ref a ∧ (work.unguarded = .copy ∨ work.unguarded = .passOn ∨
      ∃ nullable, work.unguarded = .call nullable .safe ∧ h.HasObject a ∧ a ∈ t.cells) := by
  generalize hp : Piece.value work x (.ref a) = piece at hc
  induction hc generalizing work with
  | keep haction =>
    cases hp
    rcases Accessor.eq_of_action_keep haction with rfl | rfl
    · exact ⟨rfl, .inl rfl⟩
    · exact ⟨rfl, .inr (.inl rfl)⟩
  | inner haction _ ih =>
    cases hp
    obtain ⟨-, rfl⟩ := Accessor.eq_of_action_inner haction
    have hinner := ih ha rfl
    exact hinner
  | container _ hpart _ | mapping _ hpart _ | object _ _ hpart _ =>
    cases hp
    exact absurd ha (Nat.not_lt.mpr hpart.le)
  | met haction he =>
    cases hp
    obtain ⟨-, nullable, rfl⟩ := Accessor.eq_of_action_call haction
    obtain ⟨⟨name, f, hcont⟩, rfl, hmem⟩ := Catalog.entry_eq_met.mp he
    obtain ⟨b, hb, hcell⟩ := Heap.content_eq_cell.mp hcont
    cases hb
    exact ⟨rfl, .inr (.inr ⟨nullable, rfl, ⟨name, f, hcell⟩, List.contains_iff_mem.mp hmem⟩)⟩
  | _ => cases hp

/-- An object at a call is made anew unless it is met again. -/
theorem exists_new_object {nullable : Bool} {typeName : String} {f : Fields}
    (hc : Copied plans h g t (.value work x y) n m) (hu : work.unguarded = .call nullable op)
    (hx : h.content x = .cell (.object typeName f)) (hs : ¬ (op = .safe ∧ t.contains x)) :
    ∃ b f', y = .ref b ∧ n ≤ b ∧ g.cell? b = some (.object typeName f') := by
  generalize hp : Piece.value work x y = piece at hc
  induction hc generalizing work with
  | keep haction =>
    cases hp
    rcases Accessor.eq_of_action_keep haction with rfl | rfl <;> cases hu
  | null haction =>
    cases hp
    rw [Accessor.eq_of_action_null haction] at hx
    cases hx
  | inner haction _ ih =>
    cases hp
    obtain ⟨-, rfl⟩ := Accessor.eq_of_action_inner haction
    refine ih ?_ hs rfl
    exact hu
  | @container _ _ _ _ _ typeName' _ _ _ _ haction =>
    cases hp
    rw [Accessor.eq_of_action_items haction] at hx
    cases typeName' <;> cases hx
  | mapping haction =>
    cases hp
    rw [Accessor.eq_of_action_entries haction] at hx
    cases hx
  | met haction he =>
    cases hp
    obtain ⟨-, nullable, rfl⟩ := Accessor.eq_of_action_call haction
    cases hu
    exact absurd (Catalog.entry_eq_met.mp he).2 hs
  | object _ he hpart hb =>
    cases hp
    rw [(Catalog.entry_eq_entered.mp he).1] at hx
    cases hx
    exact ⟨_, _, rfl, hpart.le, hb⟩
  | _ => cases hp

/-- A container whose items are mapped is made anew. -/
theorem exists_new_container {c : Cell} (hc : Copied plans h g t (.value work x y) n m)
    (hu : work.unguarded.rebuilds = true) (hx : h.content x = .cell c) :
    ∃ b d, y = .ref b ∧ n ≤ b ∧ g.cell? b = some d ∧ d.kind = c.kind := by
  generalize hp : Piece.value work x y = piece at hc
  induction hc generalizing work with
  | keep haction =>
    cases hp
    rcases Accessor.eq_of_action_keep haction with rfl | rfl <;> cases hu
  | null haction =>
    cases hp
    rw [Accessor.eq_of_action_null haction] at hx
    cases hx
  | inner haction _ ih =>
    cases hp
    obtain ⟨-, rfl⟩ := Accessor.eq_of_action_inner haction
    refine ih ?_ rfl
    exact hu
  | @container _ _ _ _ _ typeName _ _ _ _ haction hpart hb =>
    cases hp
    rw [Accessor.eq_of_action_items haction, Content.cell.injEq] at hx
    subst hx
    exact ⟨_, _, rfl, hpart.le, hb, by cases typeName <;> rfl⟩
  | mapping haction hpart hb =>
    cases hp
    rw [Accessor.eq_of_action_entries haction, Content.cell.injEq] at hx
    subst hx
    exact ⟨_, _, rfl, hpart.le, hb, rfl⟩
  | met haction _ | object haction _ _ _ =>
    cases hp
    obtain ⟨-, nullable, rfl⟩ := Accessor.eq_of_action_call haction
    cases hu
  | _ => cases hp

end Copied

/-- A clone with the result `w` in `g` is separated from its source `v` in `h`: a cell that was
there before is found in a new cell only where the rules pass a value on, and whatever the rules
make anew is a new cell. The objects on the stack are those that are being cloned, and those that
the caller has on the trail `t`. -/
structure IsSeparated (plans : Catalog) (op : Operation) (t : Trail) (h g : Heap) (v w : Value) :
    Prop where
  /-- Every slot of a new cell is a site of the clone. -/
  exists_site : ∀ b c σ x, h.size ≤ b → g.cell? b = some c → c.slot? σ = some x →
    ∃ site, Reached plans h g t op v w site ∧ site.place = .slot b σ ∧ site.made = x
  /-- Old cells stand only at kept members, where an accessor copies, and, in a safe clone, at calls
  on objects on the stack. -/
  shared : ∀ site a, Reached plans h g t op v w site → site.made = .ref a → a < h.size →
    site.source = .ref a ∧ (site.making = .kept ∨ ∃ work, site.making = .work work ∧
      (work.unguarded = .copy ∨ work.unguarded = .passOn ∨
        op = .safe ∧ (∃ nullable, work.unguarded = .call nullable .safe) ∧ h.HasObject a ∧
          (a ∈ site.path ∨ a ∈ t.cells)))
  /-- An object at a call is made anew unless it is on the stack. -/
  new_object : ∀ site work nullable o a typeName f, Reached plans h g t op v w site →
    site.making = .work work → work.unguarded = .call nullable o → site.source = .ref a →
    h.cell? a = some (.object typeName f) → ¬ (op = .safe ∧ (a ∈ site.path ∨ a ∈ t.cells)) →
    ∃ b f', site.made = .ref b ∧ h.size ≤ b ∧ g.cell? b = some (.object typeName f')
  /-- A container whose items are mapped is made anew. -/
  new_container : ∀ site work c, Reached plans h g t op v w site → site.making = .work work →
    work.unguarded.rebuilds = true → h.content site.source = .cell c →
    ∃ b d, site.made = .ref b ∧ h.size ≤ b ∧ g.cell? b = some d ∧ d.kind = c.kind

/-- What the rules make is separated from what it is made of. -/
theorem Copied.isSeparated (hplans : plans.IsCompiled)
    (hc : Copied plans h g (op.trailOn t []) (.value (.call false op) v w) h.size g.size) :
    IsSeparated plans op t h g v w where
  exists_site b c σ x hb hcell hσ :=
    hc.exists_site hplans (fun _ _ hr ho => hr.tail ho) (fun _ hr => Reached.targets hplans hr)
      ⟨.result, .refl⟩ hb (Heap.lt_of_cell? hcell) hcell hσ
  shared site a hr hmade ha := by
    have hsite := Reached.isMade hplans hc hr
    have htargets := Reached.targets hplans hr
    obtain ⟨place, path, making, source, made⟩ := site
    cases hmade
    cases making with
    | kept => exact ⟨hsite.symm, .inl rfl⟩
    | work work =>
      obtain ⟨n, m, hn, hpiece⟩ := hsite
      -- A piece that is one of the old cells has none of its own.
      obtain ⟨hsource, hwork⟩ := hpiece.shared (Nat.lt_of_lt_of_le ha hn)
      refine ⟨hsource, .inr ⟨work, rfl, hwork.imp_right fun hrest => hrest.imp_right ?_⟩⟩
      rintro ⟨nullable, hcall, hobject, hmem⟩
      have hop := Accessor.targets_unguarded (htargets work rfl)
      rw [hcall] at hop
      obtain rfl := beq_iff_eq.mp hop
      exact ⟨rfl, ⟨nullable, hcall⟩, hobject, List.mem_append.mp hmem⟩
  new_object site work nullable o a typeName f hr hmaking hu hsource hcell hs := by
    have hsite := Reached.isMade hplans hc hr
    have hop := Accessor.targets_unguarded (Reached.targets hplans hr work hmaking)
    obtain ⟨place, path, making, source, made⟩ := site
    cases hmaking
    cases hsource
    rw [hu] at hop
    obtain rfl := beq_iff_eq.mp hop
    obtain ⟨n, m, hn, hpiece⟩ := hsite
    -- The stack at the site is the path on top of the caller's trail.
    have hnew : ¬ (o = .safe ∧ (o.trailOn t path).contains (.ref a)) := by
      rintro ⟨rfl, hmem⟩
      exact hs ⟨rfl, List.mem_append.mp (List.contains_iff_mem.mp hmem)⟩
    obtain ⟨b, f', hb, hnb, hcell'⟩ :=
      hpiece.exists_new_object hu (Heap.content_eq_cell.mpr ⟨a, rfl, hcell⟩) hnew
    exact ⟨b, f', hb, hn.trans hnb, hcell'⟩
  new_container site work c hr hmaking hu hx := by
    have hsite := Reached.isMade hplans hc hr
    obtain ⟨place, path, making, source, made⟩ := site
    cases hmaking
    obtain ⟨n, m, hn, hpiece⟩ := hsite
    obtain ⟨b, d, hb, hnb, hd, hkind⟩ := hpiece.exists_new_container hu hx
    exact ⟨b, d, hb, hn.trans hnb, hd, hkind⟩

/-- **What a clone shares with its source** is what the rules pass on: the results of all operations
that succeed are separated from the values that were cloned. -/
theorem clone_isSeparated {ps : List Plan} (hps : ∀ p ∈ ps, p.IsCompiled) {s : CloneState}
    (hs : s.heap.Closed) (hv : s.heap.Holds v) :
    (∀ w s', outcome (cloneFast (.ofList ps) v) s = (.ok w, s') →
        IsSeparated (.ofList ps) .fast {} s.heap s'.heap v w) ∧
      (∀ w s', outcome (cloneSafe (.ofList ps) v) s = (.ok w, s') →
        IsSeparated (.ofList ps) .safe {} s.heap s'.heap v w) ∧
      ∀ w s', outcome (cloneSafeIn (.ofList ps) v) s = (.ok w, s') →
        IsSeparated (.ofList ps) .safe s.trail s.heap s'.heap v w := by
  have hp := Catalog.isCompiled_ofList hps
  refine ⟨fun w s' hr => ?_, fun w s' hr => ?_, fun w s' hr => ?_⟩
  · exact (copied_of_cloneFast hs hv hr).isSeparated hp
  · exact (copied_of_cloneSafe hs hv hr).isSeparated hp
  · exact (copied_of_cloneSafeIn hs hv hr).isSeparated hp

/-- With the second node of the ring on the trail of the caller, the clone of the first one is
separated from the ring. -/
theorem clone_isSeparated_nodeRing :
    (∀ p ∈ [nodePlan], p.IsCompiled) ∧ nodeRing.Closed ∧ nodeRing.Holds (.ref 0) ∧
      ∃ s', outcome (cloneSafeIn (.ofList [nodePlan]) (.ref 0))
          { heap := nodeRing, trail := ⟨[1]⟩ } = (.ok (.ref 5), s') ∧
        IsSeparated (.ofList [nodePlan]) .safe ⟨[1]⟩ nodeRing s'.heap (.ref 0) (.ref 5) := by
  have hclosed : nodeRing.Closed := by decide +kernel
  have hholds : nodeRing.Holds (.ref 0) := Heap.holds_ref.mpr (by decide)
  have hok : (outcome (cloneSafeIn (.ofList [nodePlan]) (.ref 0))
      { heap := nodeRing, trail := ⟨[1]⟩ }).1 = .ok (.ref 5) := by decide +kernel
  refine ⟨isCompiled_of_mem_nodePlan, hclosed, hholds, _, Prod.ext hok rfl, ?_⟩
  exact (clone_isSeparated isCompiled_of_mem_nodePlan (s := { heap := nodeRing, trail := ⟨[1]⟩ })
    hclosed hholds).2.2 _ _ (Prod.ext hok rfl)

end DeepCopy
