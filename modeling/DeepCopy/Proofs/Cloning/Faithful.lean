import DeepCopy.Proofs.Cloning.Copies
import DeepCopy.Proofs.Heap.Bisimilarity

/-!
# Faithful clones

Where the fields of every object are those that its plan assigns, a clone cannot be told apart from
its source. The clone may refer back into the source, to what it shares with it and to the objects
that were met again; so what is related is each new cell with the cell that it was made of, and
each cell of the source with itself.

## Main definitions

* `Heap.Fits h plans v`: the objects that `v` reaches have the fields that their plans assign
* `Counterparts`: a value that is reached in the source, and what was made of it

## Main results

* `Counterparts.alike`: a value and what was made of it look alike
* `clone_bisimilar`: the result of a clone operation is bisimilar to its source
-/

namespace DeepCopy

open Cloning

/-- Every object that a value reaches has the fields that its plan assigns, cloned and kept ones
together, if it has a plan. -/
def Heap.Fits (h : Heap) (plans : Catalog) (v : Value) : Prop :=
  ∀ a n f p, h.Reaches v (.ref a) → h.cell? a = some (.object n f) → plans.get? n = some p →
    ∀ key, key ∈ f.names ↔ key ∈ p.memberNames ∨ key ∈ p.kept.map KeptMember.name

/-- A value that is reached in the source, and what some accessor made of it. -/
def Counterparts (plans : Catalog) (h g : Heap) (v x y : Value) : Prop :=
  h.Reaches v x ∧ ∃ t work n m, Copied plans h g t (.value work x y) n m

/-- Containers look alike when their items are related one by one. -/
theorem Content.Alike.container {R : Value → Value → Prop} {typeName : Option String}
    {vs ws : List Value} (hvw : List.Forall₂ R vs ws) :
    Alike R (.cell (.container typeName vs)) (.cell (.container typeName ws)) := by
  cases typeName with
  | none => exact .array hvw
  | some typeName => exact .sequence hvw

variable {plans : Catalog} {h g : Heap} {v x y : Value}

/-! ## Parts of counterparts -/

theorem forall₂_counterparts {element : Accessor} {t : Trail} {typeName : Option String}
    {vs ws : List Value} {n m : Address} (hx : h.Reaches v x)
    (hcont : h.content x = .cell (.container typeName vs))
    (hws : Copied plans h g t (.items element vs ws) n m) :
    List.Forall₂ (Counterparts plans h g v) vs ws := by
  have hmem : ∀ a ∈ vs, h.Reaches v a := fun a ha =>
    hx.tail ⟨_, hcont, (Cell.values_container typeName vs).symm ▸ ha⟩
  refine ((List.forall₂_and_left vs ws).mpr ⟨hmem, hws.forall₂_items⟩).imp ?_
  rintro a b ⟨hr, k, l, -, hab⟩
  exact ⟨hr, _, _, k, l, hab⟩

theorem forall₂_counterparts_entries {key value : Accessor} {t : Trail} {typeName : String}
    {es fs : List (Value × Value)} {n m : Address} (hx : h.Reaches v x)
    (hcont : h.content x = .cell (.mapping typeName es))
    (hfs : Copied plans h g t (.entries key value es fs) n m) :
    List.Forall₂ (fun e f => Counterparts plans h g v e.1 f.1 ∧ Counterparts plans h g v e.2 f.2)
      es fs := by
  have hmem : ∀ e ∈ es, h.Reaches v e.1 ∧ h.Reaches v e.2 := fun e he =>
    ⟨hx.tail ⟨_, hcont, Cell.mem_values_mapping.mpr ⟨e, he, .inl rfl⟩⟩,
      hx.tail ⟨_, hcont, Cell.mem_values_mapping.mpr ⟨e, he, .inr rfl⟩⟩⟩
  refine ((List.forall₂_and_left es fs).mpr ⟨hmem, hfs.forall₂_entries⟩).imp ?_
  rintro e f ⟨⟨hr, hr'⟩, ⟨k, l, -, he⟩, k', l', -, he'⟩
  exact ⟨⟨hr, _, _, k, l, he⟩, hr', _, _, k', l', he'⟩

/-- The fields of an object and of its copy are the same, and they correspond one by one. -/
theorem forall₂_counterparts_fields (hplans : plans.IsCompiled) (hh : h.Closed) (hg : h ≤ g)
    (hf : h.Fits plans v) (hx : h.Reaches v x) {op : Operation} {t t' : Trail}
    {typeName : String} {source : Fields} {p : Plan} {made : List (String × Value)}
    {n m : Address} (he : plans.entry op t x (h.content x) = .entered typeName source p)
    (hmade : Copied plans h g t' (.members source (p.assignments op) made) n m) :
    List.Forall₂ (fun a b => a.1 = b.1 ∧
        (Counterparts plans h g v a.2 b.2 ∨ h.Bisimilar a.2 g b.2))
      source.entries (Fields.ofList made).entries := by
  obtain ⟨hc, -, hp⟩ := Catalog.entry_eq_entered.mp he
  obtain ⟨a, rfl, ha⟩ := Heap.content_eq_cell.mp hc
  have hnodup := (hplans _ p hp).nodup_names op
  have hnames : ∀ key, key ∈ source.names ↔ key ∈ (p.assignments op).map Assignment.name :=
    fun key => by rw [hf a _ _ p hx ha hp key, (hplans _ p hp).mem_names_iff]
  refine Fields.forall₂_entries
    (R := fun a b => Counterparts plans h g v a b ∨ h.Bisimilar a g b)
    (fun key => ?_) fun key hkey => ?_
  · rw [hnames, hmade.mem_names_ofList hnodup]
  · have href : h.Refers (.ref a) (source.get key) := ⟨_, hc, Fields.get_mem_values hkey _⟩
    obtain ⟨assignment, hmem, rfl⟩ := List.mem_map.mp ((hnames key).mp hkey)
    cases assignment with
    | kept name =>
      rw [Assignment.name, hmade.get_kept hnodup hmem]
      exact .inr (Heap.bisimilar_self hh hg (Heap.holds_get hh hc name))
    | cloned member =>
      obtain ⟨k, l, -, hw⟩ := hmade.get_cloned hnodup hmem
      exact .inl ⟨hx.tail href, _, _, k, l, hw⟩

/-! ## Counterparts and bisimilarity -/

/-- **A value and what was made of it look alike**, and the values at corresponding places in them
are made of each other or the same. -/
theorem Counterparts.alike (hplans : plans.IsCompiled) (hh : h.Closed) (hg : h ≤ g)
    (hv : h.Holds v) (hf : h.Fits plans v) (hxy : Counterparts plans h g v x y) :
    (h.content x).Alike (fun a b => Counterparts plans h g v a b ∨ h.Bisimilar a g b)
      (g.content y) := by
  obtain ⟨hx, t, work, n, m, hc⟩ := hxy
  have hself := (Heap.bisimilar_self hh hg (hx.holds hh hv)).alike.mono fun a b hab =>
    Or.inr (a := Counterparts plans h g v a b) hab
  generalize hpiece : Piece.value work x y = piece at hc
  -- Guards only pass the value on, so the induction is on how many of them there are.
  induction hc generalizing work with
  | keep | met =>
    cases hpiece
    exact hself
  | null ha =>
    cases hpiece
    rw [Accessor.eq_of_action_null ha]
    exact .scalar .null
  | inner _ _ ih =>
    cases hpiece
    exact ih _ rfl
  | container ha hws hm =>
    cases hpiece
    have hcont := Accessor.eq_of_action_items ha
    rw [hcont, Heap.content_eq_cell.mpr ⟨_, rfl, hm⟩]
    exact .container ((forall₂_counterparts hx hcont hws).imp fun _ _ hab => .inl hab)
  | mapping ha hfs hm =>
    cases hpiece
    have hcont := Accessor.eq_of_action_entries ha
    rw [hcont, Heap.content_eq_cell.mpr ⟨_, rfl, hm⟩]
    exact .mapping ((forall₂_counterparts_entries hx hcont hfs).imp fun _ _ hab =>
      hab.imp .inl .inl)
  | object ha he hmade hm =>
    cases hpiece
    rw [(Catalog.entry_eq_entered.mp he).1, Heap.content_eq_cell.mpr ⟨_, rfl, hm⟩]
    exact .object (forall₂_counterparts_fields hplans hh hg hf hx he hmade)
  | _ => cases hpiece

/-- What the rules make is bisimilar to what it is made of. -/
theorem Copied.bisimilar (hplans : plans.IsCompiled) (hh : h.Closed) (hg : h ≤ g)
    (hv : h.Holds v) (hf : h.Fits plans v) {t : Trail} {work : Accessor} {n m : Address}
    (hc : Copied plans h g t (.value work v y) n m) : h.Bisimilar v g y :=
  .of_step (R := Counterparts plans h g v) (fun _ _ hab => hab.alike hplans hh hg hv hf)
    ⟨.refl, t, work, n, m, hc⟩

/-- **A clone is faithful to its source**, whatever refers to whatever: where the objects that are
reached have the fields that their plans assign, the result of every operation that succeeds is
bisimilar to the value that was cloned. -/
theorem clone_bisimilar {ps : List Plan} (hps : ∀ p ∈ ps, p.IsCompiled) {s : CloneState}
    (hs : s.heap.Closed) (hv : s.heap.Holds v) (hf : s.heap.Fits (.ofList ps) v) :
    (∀ w s', outcome (cloneSafe (.ofList ps) v) s = (.ok w, s') →
        s.heap.Bisimilar v s'.heap w) ∧
      (∀ w s', outcome (cloneSafeIn (.ofList ps) v) s = (.ok w, s') →
        s.heap.Bisimilar v s'.heap w) ∧
      ∀ w s', outcome (cloneFast (.ofList ps) v) s = (.ok w, s') →
        s.heap.Bisimilar v s'.heap w := by
  have hp := Catalog.isCompiled_ofList hps
  refine ⟨fun w s' hr => ?_, fun w s' hr => ?_, fun w s' hr => ?_⟩
  · exact (copied_of_cloneSafe hs hv hr).bisimilar hp hs (Steady.cloneSafe.of_run hr).1 hv hf
  · exact (copied_of_cloneSafeIn hs hv hr).bisimilar hp hs (Steady.cloneSafeIn.of_run hr).1 hv hf
  · exact (copied_of_cloneFast hs hv hr).bisimilar hp hs (Steady.cloneFast.of_run hr).1 hv hf

theorem fits_nodeRing : nodeRing.Fits (.ofList [nodePlan]) (.ref 0) := by
  intro a n f p _ hc hp key
  obtain rfl := List.mem_singleton.mp (Catalog.mem_of_get?_ofList hp)
  have hnames : f.names = ["Label", "Next", "Owner", "Peers"] := by
    rcases a with _ | _ | _ | _ | a
    · cases hc
      decide +kernel
    · cases hc
      decide +kernel
    all_goals cases hc
  simp only [hnames, Plan.memberNames, nodePlan, List.map_cons, List.map_nil, List.mem_cons,
    List.not_mem_nil, or_false]
  grind

/-- The safe clone of the first node of the ring refers back to the ring and is bisimilar to it. -/
theorem clone_bisimilar_nodeRing :
    (∀ p ∈ [nodePlan], p.IsCompiled) ∧ nodeRing.Closed ∧ nodeRing.Holds (.ref 0) ∧
      nodeRing.Fits (.ofList [nodePlan]) (.ref 0) ∧
      ∃ s', outcome (cloneSafe (.ofList [nodePlan]) (.ref 0)) { heap := nodeRing } =
          (.ok (.ref 9), s') ∧
        nodeRing.Bisimilar (.ref 0) s'.heap (.ref 9) := by
  have hclosed : nodeRing.Closed := by decide +kernel
  have hholds : nodeRing.Holds (.ref 0) := Heap.holds_ref.mpr (by decide)
  have hok : (outcome (cloneSafe (.ofList [nodePlan]) (.ref 0)) { heap := nodeRing }).1 =
      .ok (.ref 9) := by decide +kernel
  refine ⟨isCompiled_of_mem_nodePlan, hclosed, hholds, fits_nodeRing, _, Prod.ext hok rfl, ?_⟩
  exact (clone_bisimilar isCompiled_of_mem_nodePlan (s := { heap := nodeRing }) hclosed hholds
    fits_nodeRing).1 _ _ (Prod.ext hok rfl)

end DeepCopy
