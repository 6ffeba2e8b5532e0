import DeepCopy.Proofs.Cloning.Sharing
import DeepCopy.Proofs.Cloning.Tally
import Mathlib.Algebra.BigOperators.Intervals

/-!
# New cells are a tree

No cell that a clone operation makes is used twice: the result refers to new cells as a tree does. A
piece of the copy has its cells in one stretch of addresses. Counted over the cells of the stretch and
what was made of the piece, every address of the stretch is mentioned exactly once, and no other new
address is mentioned. This is true of the parts of a piece, whose stretches follow each other, and so
it is of the piece.

## Main definitions

* `Heap.mentions g n m a`: how often the cells from `n` up to `m` refer to `a`
* `Piece.values`: what was made of a piece
* `IsTree h g w`: the cells that `g` has and `h` has not are a tree with the root `w`
* `Site.Clones h op t`: an object is cloned at the site

## Main results

* `Copied.count_add_mentions`: every new cell of a piece is mentioned once
* `Copied.isTree`: what the rules make is a tree
* `clone_isTree`: what clone operations make is a tree, with as many objects as are counted
-/

namespace DeepCopy

open Cloning

/-! ## Counting references -/

namespace Heap

variable {g : Heap} {n k m a b : Nat} {c : Cell} {σ : Slot}

/-- What stands in a slot of the cell at an address. -/
def slot? (g : Heap) (b : Address) (σ : Slot) : Option Value := (g.cell? b).bind (·.slot? σ)

theorem slot?_of_cell? (hc : g.cell? b = some c) : g.slot? b σ = c.slot? σ := by
  rw [slot?, hc, Option.bind_some]

theorem lt_of_slot? {v : Value} (hσ : g.slot? b σ = some v) : b < g.size := by
  obtain ⟨c, hc, -⟩ := Option.bind_eq_some_iff.mp hσ
  exact lt_of_cell? hc

/-- How often the cell at an address refers to another. -/
def mentionsAt (g : Heap) (a b : Nat) : Nat :=
  ((g.cell? b).map fun c => c.values.count (.ref a)).getD 0

/-- How often the cells in a stretch of addresses refer to an address. -/
def mentions (g : Heap) (n m a : Nat) : Nat := ∑ b ∈ Finset.Ico n m, g.mentionsAt a b

theorem mentions_self (g : Heap) (n a : Nat) : g.mentions n n a = 0 := by
  rw [mentions, Finset.Ico_self, Finset.sum_empty]

theorem mentions_append (hnk : n ≤ k) (hkm : k ≤ m) :
    g.mentions n k a + g.mentions k m a = g.mentions n m a :=
  Finset.sum_Ico_consecutive _ hnk hkm

theorem mentions_succ (hnm : n ≤ m) (hc : g.cell? m = some c) :
    g.mentions n (m + 1) a = g.mentions n m a + c.values.count (.ref a) := by
  rw [mentions, Finset.sum_Ico_succ_top hnm, mentions, mentionsAt, hc]
  rfl

theorem mentionsAt_pos_of_slot? (hσ : g.slot? b σ = some (.ref a)) : 0 < g.mentionsAt a b := by
  obtain ⟨c, hc, hσ⟩ := Option.bind_eq_some_iff.mp hσ
  rw [mentionsAt, hc]
  exact List.count_pos_iff.mpr (Cell.mem_values_iff.mpr ⟨σ, hσ⟩)

/-- What is not mentioned in a stretch stands in no slot there. -/
theorem slot?_ne_of_mentions (hg : g.mentions n m a = 0) (hn : n ≤ b) (hm : b < m) :
    g.slot? b σ ≠ some (.ref a) := by
  intro hσ
  have hzero := Finset.sum_eq_zero_iff.mp hg b (Finset.mem_Ico.mpr ⟨hn, hm⟩)
  exact absurd (mentionsAt_pos_of_slot? hσ) (Nat.not_lt.mpr hzero.le)

/-- **What is mentioned once in a stretch stands in one slot there.** -/
theorem existsUnique_slot_of_mentions (hg : g.mentions n m a = 1) :
    ∃! p : Address × Slot, (n ≤ p.1 ∧ p.1 < m) ∧ g.slot? p.1 p.2 = some (.ref a) := by
  obtain ⟨b, hb, hne⟩ : ∃ b ∈ Finset.Ico n m, g.mentionsAt a b ≠ 0 := by
    refine Finset.exists_ne_zero_of_sum_ne_zero ?_
    rw [mentions] at hg
    omega
  have hsplit := Finset.add_sum_erase _ (g.mentionsAt a) hb
  rw [← mentions, hg] at hsplit
  have hone : g.mentionsAt a b = 1 := by omega
  rw [hone] at hsplit
  have hrest := Nat.add_eq_left.mp hsplit
  rw [mentionsAt] at hone
  cases hc : g.cell? b with
  | none =>
    rw [hc] at hone
    cases hone
  | some c =>
    rw [hc] at hone
    obtain ⟨σ, hσ, hunique⟩ := Cell.existsUnique_slot hone
    refine ⟨(b, σ), ⟨Finset.mem_Ico.mp hb, (slot?_of_cell? hc).trans hσ⟩, ?_⟩
    rintro ⟨x, τ⟩ ⟨hx, hτ⟩
    obtain rfl : x = b := by
      by_contra hxb
      have hzero := Finset.sum_eq_zero_iff.mp hrest x
        (Finset.mem_erase.mpr ⟨hxb, Finset.mem_Ico.mpr hx⟩)
      exact absurd (mentionsAt_pos_of_slot? hτ) (Nat.not_lt.mpr hzero.le)
    rw [slot?_of_cell? hc] at hτ
    rw [hunique τ hτ]

/-- What a heap holds is no new cell. -/
theorem Holds.ne_ref {h : Heap} {v : Value} (hv : h.Holds v) (ha : h.size ≤ a) : v ≠ .ref a :=
  fun heq => absurd (hv a heq) (Nat.not_lt.mpr ha)

end Heap

/-! ## Every new cell is mentioned once -/

/-- A new address is mentioned once, among some values or by the cells in a stretch, if it is in the
stretch, and not at all if it is not; and only cells that come after it mention it. -/
structure IsMentionedOnce (g : Heap) (a : Nat) (vs : List Value) (n m : Nat) : Prop where
  count_eq : vs.count (.ref a) + g.mentions n m a = if n ≤ a ∧ a < m then 1 else 0
  lt_of_slot? : ∀ b σ, n ≤ b → b < m → g.slot? b σ = some (.ref a) → a < b

namespace IsMentionedOnce

variable {g : Heap} {n k m a : Nat} {vs ws : List Value}

/-- Values that are no new cells take no stretch. -/
theorem of_notMem (ha : .ref a ∉ vs) : IsMentionedOnce g a vs n n where
  count_eq := by
    have hempty : ¬ (n ≤ a ∧ a < n) := by omega
    rw [List.count_eq_zero.mpr ha, Heap.mentions_self, if_neg hempty]
  lt_of_slot? b σ hn hm := by omega

/-- Stretches may follow each other. -/
theorem append (hnk : n ≤ k) (hkm : k ≤ m) (hvs : IsMentionedOnce g a vs n k)
    (hws : IsMentionedOnce g a ws k m) : IsMentionedOnce g a (vs ++ ws) n m where
  count_eq := by
    have hfirst := hvs.count_eq
    have hsecond := hws.count_eq
    have hsum : (if n ≤ a ∧ a < m then 1 else 0) =
        (if n ≤ a ∧ a < k then 1 else 0) + if k ≤ a ∧ a < m then 1 else 0 := by
      split_ifs <;> omega
    rw [List.count_append, ← Heap.mentions_append hnk hkm, hsum]
    omega
  lt_of_slot? b σ hn hm hσ := by
    rcases Nat.lt_or_ge b k with hlt | hge
    · exact hvs.lt_of_slot? b σ hn hlt hσ
    · exact hws.lt_of_slot? b σ hge hm hσ

/-- A cell of the values comes after the stretch, and stands for them. -/
theorem cell {c : Cell} (hnm : n ≤ m) (hm : g.cell? m = some c)
    (hc : IsMentionedOnce g a c.values n m) : IsMentionedOnce g a [.ref m] n (m + 1) where
  count_eq := by
    rw [Heap.mentions_succ hnm hm, List.count_singleton, Nat.add_comm (g.mentions n m a),
      hc.count_eq]
    by_cases hma : m = a
    · subst hma
      simp [hnm]
    · have hlt : a < m + 1 ↔ a < m := by omega
      simp [hma, hlt]
  lt_of_slot? b σ hn hb hσ := by
    rcases Nat.lt_succ_iff_lt_or_eq.mp hb with hlt | rfl
    · exact hc.lt_of_slot? b σ hn hlt hσ
    · -- The values of the cell are in the stretch before it.
      rw [Heap.slot?_of_cell? hm] at hσ
      have hpos := List.count_pos_iff.mpr (Cell.mem_values_iff.mpr ⟨σ, hσ⟩)
      have hcount := hc.count_eq
      by_contra hge
      rw [if_neg (by omega)] at hcount
      omega

end IsMentionedOnce

namespace Piece

/-- What was made of a piece. -/
def values : Piece → List Value
  | .value _ _ w => [w]
  | .items _ _ ws => ws
  | .entries _ _ _ fs => fs.flatMap fun f => [f.1, f.2]
  | .members _ _ made => made.map Prod.snd

/-- The values of which a piece was made are held by a heap. -/
def IsHeld (h : Heap) : Piece → Prop
  | .value _ v _ => h.Holds v
  | .items _ vs _ => ∀ v ∈ vs, h.Holds v
  | .entries _ _ es _ => ∀ e ∈ es, h.Holds e.1 ∧ h.Holds e.2
  | .members source _ _ => ∀ key, h.Holds (source.get key)

section IsHeld

variable {h : Heap} {work : Accessor} {member : String} {v : Value}

/-- The items that an accessor finds are held. -/
theorem isHeld_items (hh : h.Closed) {element : Accessor} {typeName : Option String}
    {vs : List Value} (ha : work.action member (h.content v) = .items element typeName vs)
    (ws : List Value) : (Piece.items element vs ws).IsHeld h := fun _ hw =>
  hh.holds (Accessor.eq_of_action_items ha) (by rwa [Cell.values_container])

/-- The entries that an accessor finds are held. -/
theorem isHeld_entries (hh : h.Closed) {keyWork valueWork : Accessor} {typeName : String}
    {es : List (Value × Value)}
    (ha : work.action member (h.content v) = .entries keyWork valueWork typeName es)
    (fs : List (Value × Value)) : (Piece.entries keyWork valueWork es fs).IsHeld h := fun e he =>
  have hcell := Accessor.eq_of_action_entries ha
  ⟨hh.holds hcell (Cell.mem_values_mapping.mpr ⟨e, he, .inl rfl⟩),
    hh.holds hcell (Cell.mem_values_mapping.mpr ⟨e, he, .inr rfl⟩)⟩

end IsHeld

end Piece

/-- **Every new cell of a piece is mentioned once**, in what was made of the piece or by another cell
of the piece, and no other new cell is mentioned. -/
theorem Copied.isMentionedOnce {plans : Catalog} {h g : Heap} {t : Trail} {piece : Piece}
    {n m a : Nat} (hplans : plans.IsCompiled) (hh : h.Closed) (hc : Copied plans h g t piece n m)
    (hheld : piece.IsHeld h) (ha : h.size ≤ a) : IsMentionedOnce g a piece.values n m := by
  have hold : ∀ {v : Value} {k : Nat}, h.Holds v → IsMentionedOnce g a [v] k k := fun hv =>
    .of_notMem fun hmem => (hv.ne_ref ha) (List.mem_singleton.mp hmem).symm
  -- What is passed on mentions no new cell, and the parts of a piece have stretches of their own.
  induction hc with
  | keep | met => exact hold hheld
  | null => exact hold h.holds_null
  | inner _ _ ih => exact ih hheld
  | container haction hws hm ih =>
    refine .cell hws.le hm ?_
    rw [Cell.values_container]
    exact ih (Piece.isHeld_items hh haction _)
  | mapping haction hfs hm ih =>
    exact .cell hfs.le hm (ih (Piece.isHeld_entries hh haction _))
  | @object _ _ _ op _ _ _ p made _ _ _ he hmade hm ih =>
    refine .cell hmade.le hm ?_
    obtain ⟨hcell, -, hp⟩ := Catalog.entry_eq_entered.mp he
    have hnodup : (made.map Prod.fst).Nodup :=
      hmade.map_fst_members ▸ (hplans _ _ hp).nodup_names op
    -- The fields are the members that were made, in another order.
    have hperm := (Fields.perm_entries_ofList hnodup).map Prod.snd
    have hmembers := ih (Heap.holds_get hh hcell)
    exact ⟨hperm.count_eq (.ref a) ▸ hmembers.count_eq, hmembers.lt_of_slot?⟩
  | itemsNil | entriesNil | membersNil => exact .of_notMem (List.not_mem_nil)
  | itemsCons hw hws ihw ihws =>
    exact .append hw.le hws.le (ihw (hheld _ List.mem_cons_self))
      (ihws fun v hv => hheld v (List.mem_cons_of_mem _ hv))
  | entriesCons hkey hvalue hfs ihk ihv ihfs =>
    obtain ⟨hk, hv⟩ := hheld _ List.mem_cons_self
    have hrest := ihfs fun e he => hheld e (List.mem_cons_of_mem _ he)
    have hvalues := IsMentionedOnce.append hvalue.le hfs.le (ihv hv) hrest
    have hentries := IsMentionedOnce.append hkey.le (hvalue.le.trans hfs.le) (ihk hk) hvalues
    exact hentries
  | kept hmade ih => exact .append le_rfl hmade.le (hold (hheld _)) (ih hheld)
  | cloned hw hmade ihw ihmade => exact .append hw.le hmade.le (ihw (hheld _)) (ihmade hheld)

/-! ## The tree of new cells -/

variable {plans : Catalog} {h g : Heap} {t : Trail} {op : Operation} {v w : Value}

/-- The cells that `g` has and `h` has not are a tree with the root `w`. -/
structure IsTree (h g : Heap) (w : Value) : Prop where
  /-- Every new cell but the root stands in exactly one slot of a new cell. -/
  existsUnique_slot : ∀ a : Nat, h.size ≤ a → a < g.size → w ≠ .ref a →
    ∃! p : Address × Slot, h.size ≤ p.1 ∧ g.slot? p.1 p.2 = some (.ref a)
  /-- The root stands in none. -/
  slot?_ne_root : ∀ (a b : Nat) (σ : Slot), w = .ref a → h.size ≤ a → h.size ≤ b →
    g.slot? b σ ≠ some (.ref a)
  /-- New cells refer to cells that come before them. -/
  lt_of_slot? : ∀ (a b : Nat) (σ : Slot), h.size ≤ b → g.slot? b σ = some (.ref a) → a < b

/-- **What the rules make is a tree.** -/
theorem Copied.isTree {work : Accessor} (hplans : plans.IsCompiled) (hh : h.Closed)
    (hv : h.Holds v) (hc : Copied plans h g t (.value work v w) h.size g.size) :
    IsTree h g w where
  existsUnique_slot a ha hag hw := by
    have hcount := (hc.isMentionedOnce hplans hh hv ha).count_eq
    have hroot : [w].count (.ref a) = 0 :=
      List.count_eq_zero.mpr fun hmem => hw (List.mem_singleton.mp hmem).symm
    rw [Piece.values, hroot, Nat.zero_add, if_pos ⟨ha, hag⟩] at hcount
    obtain ⟨p, ⟨hp, hσ⟩, hunique⟩ := Heap.existsUnique_slot_of_mentions hcount
    exact ⟨p, ⟨hp.1, hσ⟩, fun q hq => hunique q ⟨⟨hq.1, Heap.lt_of_slot? hq.2⟩, hq.2⟩⟩
  slot?_ne_root a b σ hw ha hb := by
    subst hw
    intro hσ
    have hcount := (hc.isMentionedOnce hplans hh hv ha).count_eq
    have hroot : [Value.ref a].count (.ref a) = 1 := List.count_singleton_self
    rw [Piece.values, hroot] at hcount
    have hzero : g.mentions h.size g.size a = 0 := by
      split_ifs at hcount <;> omega
    exact Heap.slot?_ne_of_mentions hzero hb (Heap.lt_of_slot? hσ) hσ
  lt_of_slot? a b σ hb hσ := by
    rcases Nat.lt_or_ge a h.size with hlt | hge
    · omega
    · exact (hc.isMentionedOnce hplans hh hv hge).lt_of_slot? b σ hb (Heap.lt_of_slot? hσ) hσ

/-- What is added to a closed heap as a tree leaves it closed. -/
theorem IsTree.closed (hh : h.Closed) (hg : h ≤ g) (ht : IsTree h g w) : g.Closed := by
  intro a c hc b hb
  have hag := Heap.lt_of_cell? hc
  rcases Nat.lt_or_ge a h.size with hlt | hge
  · rw [Heap.cell?_eq_of_le hg hlt] at hc
    exact (hh a c hc b hb).trans_le (Heap.size_le_of_le hg)
  · obtain ⟨σ, hσ⟩ := Cell.mem_values_iff.mp hb
    exact (ht.lt_of_slot? b a σ hge ((Heap.slot?_of_cell? hc).trans hσ)).trans hag

/-! ## The places of new cells -/

variable {site : Site}

/-- What was made at a site stands at its place: it is the result, or it is in a slot of a new
cell. -/
def Site.Stands (h g : Heap) (w : Value) (site : Site) : Prop :=
  match site.place with
  | .result => site.made = w
  | .slot b σ => h.size ≤ b ∧ g.slot? b σ = some site.made

theorem Opens.stands (hplans : plans.IsCompiled) {x y : Site} (ho : Opens plans h g t x y)
    (htargets : x.Targets op) (hmade : x.IsMade plans h g t op) (hx : x.Stands h g w) :
    y.Stands h g w := by
  cases ho with
  | guarded => exact hx
  | @item _ _ _ _ _ _ _ _ typeName _ _ _ _ ha hb _ hy =>
    obtain ⟨n, m, hn, hc⟩ := hmade
    refine ⟨hn.trans (hc.of_container ha hb).le, (Heap.slot?_of_cell? hb).trans ?_⟩
    cases typeName <;> exact hy
  | key ha hb _ hf | value ha hb _ hf =>
    obtain ⟨n, m, hn, hc⟩ := hmade
    refine ⟨hn.trans (hc.of_mapping ha hb).le, (Heap.slot?_of_cell? hb).trans ?_⟩
    simp [Cell.slot?, hf]
  | cloned ha he hb hm | kept ha he hb hm =>
    obtain rfl := Accessor.eq_of_targets (htargets _ rfl) ha
    obtain ⟨entries, n, rfl, hn, hmembers⟩ := exists_members_of_isMade ha he hb hmade
    have hp := hplans _ _ (Catalog.entry_eq_entered.mp he).2.2
    have hname := (hmembers.mem_names_ofList (hp.nodup_names _)).mpr (List.mem_map_of_mem hm)
    exact ⟨hn.trans hmembers.le, (Heap.slot?_of_cell? hb).trans (Fields.lookup_eq_get hname)⟩

/-- **What was made at a site stands at its place.** -/
theorem Reached.stands (hplans : plans.IsCompiled)
    (hroot : Copied plans h g (op.trailOn t []) (.value (.call false op) v w) h.size g.size)
    (hr : Reached plans h g t op v w site) : site.Stands h g w := by
  induction hr with
  | refl => exact rfl
  | tail hr ho ih =>
    exact ho.stands hplans (Reached.targets hplans hr) (Reached.isMade hplans hroot hr) ih

/-- A new cell stands at one place only. -/
theorem IsTree.place_eq (ht : IsTree h g w) {x y : Site} {a : Nat} (ha : h.size ≤ a)
    (hx : x.Stands h g w) (hy : y.Stands h g w) (hxa : x.made = .ref a) (hya : y.made = .ref a) :
    x.place = y.place := by
  rw [Site.Stands, hxa] at hx
  rw [Site.Stands, hya] at hy
  cases hpx : x.place with
  | result =>
    rw [hpx] at hx
    cases hpy : y.place with
    | result => rfl
    | slot b σ =>
      rw [hpy] at hy
      exact absurd hy.2 (ht.slot?_ne_root a b σ hx.symm ha hy.1)
  | slot b σ =>
    rw [hpx] at hx
    have hw : w ≠ .ref a := fun hw => ht.slot?_ne_root a b σ hw ha hx.1 hx.2
    cases hpy : y.place with
    | result =>
      rw [hpy] at hy
      exact absurd hy.symm hw
    | slot b' σ' =>
      rw [hpy] at hy
      have hag : a < g.size := (ht.lt_of_slot? a b σ hx.1 hx.2).trans (Heap.lt_of_slot? hx.2)
      have hp : (b, σ) = (b', σ') := (ht.existsUnique_slot a ha hag hw).unique hx hy
      cases hp
      rfl

/-! ## The places of new objects -/

/-- An object is cloned at the site: a call meets an object that is not on the stack, where those are
that are being cloned and, in a safe clone, those that the caller has on the trail `t`. -/
def Site.Clones (h : Heap) (op : Operation) (t : Trail) (site : Site) : Prop :=
  ∃ work nullable a, site.making = .work work ∧ work.unguarded = .call nullable op ∧
    site.source = .ref a ∧ h.HasObject a ∧ ¬ (op = .safe ∧ (a ∈ site.path ∨ a ∈ t.cells))

theorem Opens.holds (hh : h.Closed) {x y : Site} (ho : Opens plans h g t x y)
    (hx : h.Holds x.source) : h.Holds y.source := by
  cases ho with
  | guarded => exact hx
  | item ha _ hv _ => exact Piece.isHeld_items hh ha [] _ (List.mem_of_getElem? hv)
  | key ha _ he _ => exact (Piece.isHeld_entries hh ha [] _ (List.mem_of_getElem? he)).1
  | value ha _ he _ => exact (Piece.isHeld_entries hh ha [] _ (List.mem_of_getElem? he)).2
  | cloned _ he | kept _ he => exact Heap.holds_get hh (Catalog.entry_eq_entered.mp he).1 _

theorem Reached.holds (hh : h.Closed) (hv : h.Holds v) (hr : Reached plans h g t op v w site) :
    h.Holds site.source := by
  induction hr with
  | refl => exact hv
  | tail _ ho ih => exact ho.holds hh ih

/-- A new object was made by a call that has entered another object. -/
theorem Copied.exists_call {work : Accessor} {x : Value} {n m b : Nat}
    (hc : Copied plans h g t (.value work x (.ref b)) n m) (hx : h.Holds x) (hb : h.size ≤ b)
    (hobject : g.HasObject b) : ∃ nullable o typeName f p, work.unguarded = .call nullable o ∧
      plans.entry o t x (h.content x) = .entered typeName f p := by
  obtain ⟨name, fields, hcell⟩ := hobject
  generalize hp : Piece.value work x (.ref b) = piece at hc
  induction hc generalizing work with
  | keep | met =>
    cases hp
    exact absurd rfl (hx.ne_ref hb)
  | inner haction _ ih =>
    cases hp
    obtain ⟨-, rfl⟩ := Accessor.eq_of_action_inner haction
    have hinner := ih rfl
    exact hinner
  | @container _ _ _ _ _ typeName _ _ _ _ _ _ hm =>
    cases hp
    rw [hcell] at hm
    cases typeName <;> cases hm
  | mapping _ _ hm =>
    cases hp
    rw [hcell] at hm
    cases hm
  | object haction he _ _ =>
    cases hp
    obtain ⟨-, nullable, rfl⟩ := Accessor.eq_of_action_call haction
    exact ⟨nullable, _, _, _, _, rfl, he⟩
  | _ => cases hp

/-- A new object is made where an object is cloned. -/
theorem Reached.clones (hplans : plans.IsCompiled) (hh : h.Closed) (hv : h.Holds v)
    (hroot : Copied plans h g (op.trailOn t []) (.value (.call false op) v w) h.size g.size)
    (hr : Reached plans h g t op v w site) {b : Nat} (hb : h.size ≤ b) (hobject : g.HasObject b)
    (hmade : site.made = .ref b) : site.Clones h op t := by
  have hsource := Reached.holds hh hv hr
  have htargets := Reached.targets hplans hr
  have hsite := Reached.isMade hplans hroot hr
  obtain ⟨place, path, making, source, made⟩ := site
  cases hmade
  cases making with
  | kept =>
    cases hsite
    exact absurd rfl (hsource.ne_ref hb)
  | work work =>
    obtain ⟨n, m, -, hc⟩ := hsite
    obtain ⟨nullable, o, typeName, f, p, hcall, he⟩ := hc.exists_call hsource hb hobject
    obtain ⟨hcontent, hmet, -⟩ := Catalog.entry_eq_entered.mp he
    obtain ⟨a, rfl, ha⟩ := Heap.content_eq_cell.mp hcontent
    have hop := Accessor.targets_unguarded (htargets work rfl)
    rw [hcall] at hop
    obtain rfl := beq_iff_eq.mp hop
    refine ⟨work, nullable, a, rfl, hcall, rfl, ⟨typeName, f, ha⟩, ?_⟩
    rintro ⟨rfl, hmem⟩
    exact hmet ⟨rfl, List.contains_iff_mem.mpr (List.mem_append.mpr hmem)⟩

/-- Every new object is made at a site where an object is cloned. -/
theorem Copied.exists_clones (hplans : plans.IsCompiled) (hh : h.Closed) (hv : h.Holds v)
    (hc : Copied plans h g (op.trailOn t []) (.value (.call false op) v w) h.size g.size) {b : Nat}
    (hb : h.size ≤ b) (hobject : g.HasObject b) :
    ∃ site, Reached plans h g t op v w site ∧ site.Clones h op t ∧ site.made = .ref b := by
  obtain ⟨site, hr, hmade⟩ : ∃ site, Reached plans h g t op v w site ∧ site.made = .ref b := by
    by_cases hw : w = .ref b
    · exact ⟨.root op v w, .refl, hw⟩
    · obtain ⟨⟨x, σ⟩, ⟨hx, hσ⟩, -⟩ :=
        (hc.isTree hplans hh hv).existsUnique_slot b hb hobject.lt hw
      obtain ⟨c, hcell, hslot⟩ := Option.bind_eq_some_iff.mp hσ
      obtain ⟨site, hr, -, hmade⟩ :=
        (hc.isSeparated hplans).exists_site x c σ (.ref b) hx hcell hslot
      exact ⟨site, hr, hmade⟩
  exact ⟨site, hr, hr.clones hplans hh hv hc hb hobject hmade, hmade⟩

/-- The new objects of an operation are the copies that it makes. -/
theorem Heap.mem_objects_sdiff {b : Nat} (hle : h ≤ g) :
    b ∈ g.objects \ h.objects ↔ h.size ≤ b ∧ g.HasObject b := by
  rw [Finset.mem_sdiff, Heap.mem_objects, Heap.mem_objects, and_comm]
  refine and_congr_left fun hobject => ?_
  constructor
  · intro hnot
    by_contra hlt
    obtain ⟨n, f, hcell⟩ := hobject
    rw [Heap.cell?_eq_of_le hle (Nat.lt_of_not_le hlt)] at hcell
    exact hnot ⟨n, f, hcell⟩
  · intro hge hold
    exact absurd hold.lt (Nat.not_lt.mpr hge)

/-- **The new part of a clone is a tree**, and its objects are counted. The count goes up by the
number of new objects; these are the copies of the objects that are cloned, one for each place where
one is, so that an object that is met along several paths has a copy for each of them, and neither
null values nor objects that are passed on have any. -/
theorem clone_isTree {ps : List Plan} (hps : ∀ p ∈ ps, p.IsCompiled) {s s' : CloneState}
    (hs : s.heap.Closed) {r : Request} (hv : s.heap.Holds r.value)
    (hr : outcome (r.perform (.ofList ps)) s = (.ok w, s')) :
    IsTree s.heap s'.heap w ∧
      s'.calls = s.calls + (s'.heap.objects \ s.heap.objects).card ∧
      (∀ site, Reached (.ofList ps) s.heap s'.heap (r.trail s.trail) r.operation r.value w site →
        site.Clones s.heap r.operation (r.trail s.trail) →
          ∃ b ∈ s'.heap.objects \ s.heap.objects, site.made = .ref b) ∧
      ∀ b ∈ s'.heap.objects \ s.heap.objects, ∃! place, ∃ site,
        Reached (.ofList ps) s.heap s'.heap (r.trail s.trail) r.operation r.value w site ∧
          site.Clones s.heap r.operation (r.trail s.trail) ∧ site.made = .ref b ∧
            site.place = place := by
  have hp := Catalog.isCompiled_ofList hps
  have hle := ((Request.steady_perform _ r).of_run hr).le_heap
  have hc := Request.copied_of_perform hs hv hr
  have hnil : r.operation.trailOn (r.trail s.trail) [] = r.trail s.trail := by
    cases r.operation <;> rfl
  rw [← hnil] at hc
  have htree := hc.isTree hp hs hv
  refine ⟨htree, calls_of_perform hr, ?_, ?_⟩
  · rintro site hsite ⟨work, nullable, a, hmaking, hcall, hsource, ⟨n, f, hcell⟩, hmet⟩
    obtain ⟨b, f', hmade, hb, hcell'⟩ := (hc.isSeparated hp).new_object site work nullable
      r.operation a n f hsite hmaking hcall hsource hcell hmet
    exact ⟨b, (Heap.mem_objects_sdiff hle).mpr ⟨hb, n, f', hcell'⟩, hmade⟩
  · -- A new object stands at a site that clones, and as a node of a tree it stands at no other.
    intro b hb
    obtain ⟨hsize, hobject⟩ := (Heap.mem_objects_sdiff hle).mp hb
    obtain ⟨site, hsite, hclones, hmade⟩ := hc.exists_clones hp hs hv hsize hobject
    refine ⟨site.place, ⟨site, hsite, hclones, hmade, rfl⟩, ?_⟩
    rintro place ⟨site', hsite', -, hmade', rfl⟩
    exact htree.place_eq hsize (Reached.stands hp hc hsite') (Reached.stands hp hc hsite) hmade'
      hmade

/-- In the chain the first node is both next and peer of the last one: the fast clone of the last node
makes two copies of it. -/
theorem clone_isTree_nodeChain :
    (∀ p ∈ [nodePlan], p.IsCompiled) ∧ nodeChain.Closed ∧ nodeChain.Holds (.ref 3) ∧
      ∃ s', outcome ((Request.fast (.ref 3)).perform (.ofList [nodePlan])) { heap := nodeChain } =
          (.ok (.ref 10), s') ∧
        IsTree nodeChain s'.heap (.ref 10) ∧ (s'.heap.objects \ nodeChain.objects).card = 3 := by
  have hclosed : nodeChain.Closed := by decide +kernel
  have hholds : nodeChain.Holds (.ref 3) := Heap.holds_ref.mpr (by decide)
  have hok : (outcome ((Request.fast (.ref 3)).perform (.ofList [nodePlan]))
      { heap := nodeChain }).1 = .ok (.ref 10) := by decide +kernel
  have hcalls : (outcome ((Request.fast (.ref 3)).perform (.ofList [nodePlan]))
      { heap := nodeChain }).2.calls = 3 := by decide +kernel
  obtain ⟨htree, hcount, -, -⟩ := clone_isTree isCompiled_of_mem_nodePlan
    (s := { heap := nodeChain }) (r := .fast (.ref 3)) hclosed hholds (Prod.ext hok rfl)
  refine ⟨isCompiled_of_mem_nodePlan, hclosed, hholds, _, Prod.ext hok rfl, htree, ?_⟩
  rw [hcalls] at hcount
  dsimp only at hcount
  omega

end DeepCopy
