import DeepCopy.Proofs.Cloning.Commute
import DeepCopy.Proofs.Cloning.Tree
import DeepCopy.Proofs.Heap.Unfolding

/-!
# Cloning a copy

What a fast clone has made can be cloned in turn, and this adds nothing: whatever an accessor has
made it finds again, in the same kind of container and under the same names, so it takes the same
steps once more. The cells come in the same order and are those of the copy, further on by as many
addresses as the copy has cells; and what was passed on is passed on again. Fields that the source
lacked are null in the copy and stay null, and those that no plan assigns are gone already.

## Main definitions

* `Cloning.Remakes g k ρ n m x a`: on the heap `g` of a copy, `x` ends with `a` and has made the
  cells of `g` from `n` up to `m` again, `k` addresses further on
* `Piece.Remade`: the steps that have made a piece, taken with what was made, make it again

## Main results

* `Copied.exists_remade`: every piece of a fast clone is made again
* `cloneFast_again`: the fast clone of a fast clone
-/

namespace DeepCopy

open Cloning

theorem Cell.rename_container (ρ : Address → Address) (typeName : Option String)
    (vs : List Value) :
    (Cell.container typeName vs).rename ρ = .container typeName (vs.map (Value.rename ρ)) := by
  cases typeName <;> rfl

/-! ## Making cells again -/

namespace Cloning

variable {α β : Type} {g : Heap} {n l m k : Nat} {ρ : Address → Address}

/-- From a state with all of `g`, and with the next address `k` after `n`, a computation ends with a
result and has made the cells of `g` from `n` up to `m` again, renamed, and no others. -/
def Remakes (g : Heap) (k : Nat) (ρ : Address → Address) (n m : Nat) (x : Cloning α) (a : α) :
    Prop :=
  ∀ s : CloneState, g ≤ s.heap → s.heap.size = n + k →
    ∃ s', outcome x s = (.ok a, s') ∧ s.heap ≤ s'.heap ∧ s'.heap.size = m + k ∧
      ∀ b : Nat, n ≤ b → b < m → s'.heap.cell? (b + k) = (g.cell? b).map (Cell.rename ρ)

theorem Remakes.pure (a : α) : Remakes g k ρ n n (pure a) a := fun s _ hs =>
  ⟨s, rfl, le_rfl, hs, fun _ hn hm => absurd hm (Nat.not_lt.mpr hn)⟩

theorem Remakes.count : Remakes g k ρ n n count () := fun _ _ hs =>
  ⟨_, rfl, le_rfl, hs, fun _ hn hm => absurd hm (Nat.not_lt.mpr hn)⟩

/-- A cell of `g` is made again by making it from what it refers to, renamed. -/
theorem Remakes.alloc {c : Cell} (hc : g.cell? m = some c) (hm : ρ m = m + k) :
    Remakes g k ρ m (m + 1) (alloc (c.rename ρ)) ((Value.ref m).rename ρ) := by
  intro s _ hs
  refine ⟨{ s with heap := s.heap.alloc (c.rename ρ) }, ?_, s.heap.le_alloc _, ?_,
    fun b hn hb => ?_⟩
  · rw [outcome_alloc, hs, Value.rename, hm]
  · rw [Heap.size_alloc, hs, Nat.add_right_comm]
  · obtain rfl : b = m := by omega
    rw [← hs, Heap.cell?_alloc_size, hc, Option.map_some]

/-- **Stretches that are made again may follow each other.** -/
theorem Remakes.bind {x : Cloning α} {p : α → Cloning β} {a : α} {b : β}
    (hx : Remakes g k ρ n l x a) (hp : Remakes g k ρ l m (p a) b) :
    Remakes g k ρ n m (x >>= p) b := by
  intro s hg hs
  obtain ⟨s₁, hr₁, hle₁, hsize₁, hcell₁⟩ := hx s hg hs
  obtain ⟨s₂, hr₂, hle₂, hsize₂, hcell₂⟩ := hp s₁ (hg.trans hle₁) hsize₁
  refine ⟨s₂, outcome_bind_eq_ok.mpr ⟨a, s₁, hr₁, hr₂⟩, hle₁.trans hle₂, hsize₂, fun c hn hm => ?_⟩
  rcases Nat.lt_or_ge c l with hlt | hge
  · have hlt' : c + k < s₁.heap.size := by omega
    rw [Heap.cell?_eq_of_le hle₂ hlt', hcell₁ c hn hlt]
  · exact hcell₂ c hge hm

variable {call : Operation → Value → Cloning Value} {member : String} {work : Accessor}

/-- An accessor makes again what it makes next, if this is the same on all heaps grown from `g`. -/
theorem Remakes.evaluate {v w : Value} (action : Action)
    (ha : ∀ g', g ≤ g' → work.action member (g'.content v) = action)
    (hw : Remakes g k ρ n m (perform call member v action) w) :
    Remakes g k ρ n m (evaluate call member work v) w := by
  intro s hg hs
  rw [outcome_evaluate, ha s.heap hg]
  exact hw s hg hs

/-- An accessor makes a container of `g` again if it would take such a container apart and makes
its items again. -/
theorem Remakes.container {element : Accessor} {typeName : Option String} {vs ws : List Value}
    {other : String}
    (ha : work.action other (.cell (.container typeName vs)) = .items element typeName vs)
    (hc : g.cell? m = some (.container typeName ws)) (hm : ρ m = m + k)
    (hws : Remakes g k ρ n m (each (DeepCopy.evaluate call member element) ws)
      (ws.map (Value.rename ρ))) :
    Remakes g k ρ n (m + 1) (DeepCopy.evaluate call member work (.ref m))
      ((Value.ref m).rename ρ) := by
  have hcell := Heap.content_eq_cell.mpr ⟨m, rfl, hc⟩
  have hnew := Remakes.alloc hc hm
  rw [Cell.rename_container] at hnew
  refine .evaluate (.items element typeName ws) (fun g' hg' => ?_) (.bind hws hnew)
  rw [Heap.content_cell_of_le hg' hcell]
  exact Accessor.action_container ha member ws

/-- An accessor makes a mapping of `g` again if it would take such a mapping apart and makes its
entries again. -/
theorem Remakes.mapping {key value : Accessor} {typeName : String} {es fs : List (Value × Value)}
    {other : String}
    (ha : work.action other (.cell (.mapping typeName es)) = .entries key value typeName es)
    (hc : g.cell? m = some (.mapping typeName fs)) (hm : ρ m = m + k)
    (hfs : Remakes g k ρ n m
      (eachEntry (DeepCopy.evaluate call member key) (DeepCopy.evaluate call member value) fs)
      (fs.map (Prod.map (Value.rename ρ) (Value.rename ρ)))) :
    Remakes g k ρ n (m + 1) (DeepCopy.evaluate call member work (.ref m))
      ((Value.ref m).rename ρ) := by
  have hcell := Heap.content_eq_cell.mpr ⟨m, rfl, hc⟩
  have hnew := Remakes.alloc hc hm
  refine .evaluate (.entries key value typeName fs) (fun g' hg' => ?_) (.bind hfs hnew)
  rw [Heap.content_cell_of_le hg' hcell]
  exact Accessor.action_mapping ha member fs

/-- **An object of `g` is made again** by cloning it if its fields are made again. -/
theorem Remakes.cloneObject {plans : Catalog} {depth : Nat} {typeName : String} {f : Fields}
    {p : Plan} (hc : g.cell? m = some (.object typeName f)) (hm : ρ m = m + k)
    (hp : plans.get? typeName = some p)
    (hf : Remakes g k ρ n m
      (assign (cloneObject plans depth) f (p.assignments .fast) .empty) (f.rename ρ)) :
    Remakes g k ρ n (m + 1) (cloneObject plans (depth + 1) .fast (.ref m))
      ((Value.ref m).rename ρ) := by
  intro s hg hs
  have hcell := Heap.content_eq_cell.mpr ⟨m, rfl, Heap.cell?_of_le hg hc⟩
  have hentry : plans.entry .fast s.trail (.ref m) (s.heap.content (.ref m)) =
      .entered typeName f p :=
    Catalog.entry_eq_entered.mpr ⟨hcell, by simp, hp⟩
  rw [outcome_cloneObject, hentry]
  exact Remakes.bind .count (.bind hf (.alloc hc hm)) s hg hs

end Cloning

/-! ## Pieces that are made again -/

namespace Piece

/-- Every call that has made a piece names one operation. -/
def Targets (op : Operation) : Piece → Prop
  | .value work _ _ => work.targets op = true
  | .items element _ _ => element.targets op = true
  | .entries keyWork valueWork _ _ => keyWork.targets op = true ∧ valueWork.targets op = true
  | .members _ as _ => ∀ m, .cloned m ∈ as → m.accessor.targets op = true

/-- The steps that have made a piece, taken with what was made, make it again, renamed. -/
def Remade (call : Operation → Value → Cloning Value) (g : Heap) (k : Nat) (ρ : Address → Address)
    (n m : Nat) : Piece → Prop
  | .value work _ w => ∀ member,
      Remakes g k ρ n m (evaluate call member work w) (w.rename ρ)
  | .items element _ ws => ∀ member,
      Remakes g k ρ n m (each (evaluate call member element) ws) (ws.map (Value.rename ρ))
  | .entries keyWork valueWork _ fs => ∀ member,
      Remakes g k ρ n m
        (eachEntry (evaluate call member keyWork) (evaluate call member valueWork) fs)
        (fs.map (Prod.map (Value.rename ρ) (Value.rename ρ)))
  | .members _ as made => ∀ source first, (∀ e ∈ made, source.get e.1 = e.2) →
      Remakes g k ρ n m (assign call source as first)
        ((made.map (Prod.map id (Value.rename ρ))).foldl (fun f e => f.set e.1 e.2) first)

end Piece

variable {plans : Catalog} {h g : Heap} {t : Trail}

/-- Nothing but null is made null. -/
theorem Copied.content_ne_null {work : Accessor} {v w : Value} {n m : Nat} (hg : h ≤ g)
    (hv : h.Holds v) (hc : Copied plans h g t (.value work v w) n m)
    (hne : h.content v ≠ .scalar .null) {g' : Heap} (hg' : g ≤ g') :
    g'.content w ≠ .scalar .null := by
  have hnew : ∀ {b : Nat} {c : Cell}, g.cell? b = some c →
      g'.content (.ref b) ≠ .scalar .null := fun hb => by
    rw [Heap.content_eq_cell.mpr ⟨_, rfl, Heap.cell?_of_le hg' hb⟩]
    simp
  generalize hp : Piece.value work v w = piece at hc
  induction hc generalizing work with
  | keep | met =>
    cases hp
    rwa [Heap.content_of_le (hg.trans hg') hv]
  | null ha =>
    cases hp
    exact absurd (Accessor.eq_of_action_null ha) hne
  | inner _ _ ih =>
    cases hp
    exact ih rfl
  | container _ _ hm | mapping _ _ hm | object _ _ _ hm =>
    cases hp
    exact hnew hm
  | _ => cases hp

/-- **Every piece of a fast clone is made again**, with enough nested objects allowed for. -/
theorem Copied.exists_remade (hplans : plans.IsCompiled) (hh : h.Closed) (hg : h ≤ g) {k : Nat}
    {ρ : Address → Address} (hρ : h.Moves g.size k ρ) {piece : Piece} {n m : Nat}
    (hc : Copied plans h g t piece n m) (hheld : piece.IsHeld h) (ht : piece.Targets .fast)
    (hn : h.size ≤ n) :
    ∃ d, ∀ depth, d ≤ depth → piece.Remade (cloneObject plans depth) g k ρ n m := by
  have hmoved : ∀ {b : Nat} {c : Cell}, h.size ≤ b → g.cell? b = some c → ρ b = b + k :=
    fun hb hc => hρ.moved _ hb (Heap.lt_of_cell? hc)
  induction hc with
  | keep ha =>
    refine ⟨0, fun depth _ member => .evaluate .keep (fun g' _ => ?_) ?_⟩
    · rcases Accessor.eq_of_action_keep ha with rfl | rfl <;> rfl
    · rw [Value.rename_eq_self hρ.fixed hheld]
      exact .pure _
  | null ha =>
    refine ⟨0, fun depth _ member => .evaluate .null (fun g' _ => ?_) (.pure _)⟩
    rw [Accessor.eq_of_action_null ha] at ha
    exact Accessor.action_congr ha (by simp) member
  | @inner _ _ _ inner _ _ _ _ ha hw ih =>
    obtain ⟨hne, rfl⟩ := Accessor.eq_of_action_inner ha
    obtain ⟨d, hd⟩ := ih hheld ht hn
    -- What is behind a guard is not null, and nor is what was made of it.
    refine ⟨d, fun depth hdepth member =>
      .evaluate (.inner inner) (fun g' hg' => ?_) (hd depth hdepth member)⟩
    exact if_neg (hw.content_ne_null hg hheld hne hg')
  | @container _ _ _ element _ _ _ _ _ _ ha hws hm ih =>
    have helement : element.targets .fast = true :=
      Accessor.targets_of_mem_parts ht (by rw [ha]; exact List.mem_cons_self)
    obtain ⟨d, hd⟩ := ih (Piece.isHeld_items hh ha _) helement hn
    rw [Accessor.eq_of_action_items ha] at ha
    exact ⟨d, fun depth hdepth member =>
      .container ha hm (hmoved (hn.trans hws.le) hm) (hd depth hdepth member)⟩
  | @mapping _ _ _ keyWork valueWork _ _ _ _ _ _ ha hfs hm ih =>
    have hkey : keyWork.targets .fast = true :=
      Accessor.targets_of_mem_parts ht (by rw [ha]; exact List.mem_cons_self)
    have hvalue : valueWork.targets .fast = true :=
      Accessor.targets_of_mem_parts ht
        (by rw [ha]; exact List.mem_cons_of_mem _ List.mem_cons_self)
    obtain ⟨d, hd⟩ := ih (Piece.isHeld_entries hh ha _) ⟨hkey, hvalue⟩ hn
    rw [Accessor.eq_of_action_entries ha] at ha
    exact ⟨d, fun depth hdepth member =>
      .mapping ha hm (hmoved (hn.trans hfs.le) hm) (hd depth hdepth member)⟩
  | met ha he =>
    cases Accessor.eq_of_targets ht ha
    cases (Catalog.entry_eq_met.mp he).2.1
  | @object _ _ _ _ _ _ _ _ made _ _ ha he hmade hm ih =>
    cases Accessor.eq_of_targets ht ha
    obtain ⟨-, nullable, rfl⟩ := Accessor.eq_of_action_call ha
    obtain ⟨hcell, -, hp⟩ := Catalog.entry_eq_entered.mp he
    have hcompiled := hplans _ _ hp
    obtain ⟨d, hd⟩ := ih (Heap.holds_get hh hcell) (fun _ hmem => hcompiled.targets hmem) hn
    -- The object itself takes one level of nesting more than its members.
    refine ⟨d + 1, fun depth hdepth member => .evaluate (.call .fast) (fun g' hg' => ?_) ?_⟩
    · rw [Heap.content_cell_of_le hg' (Heap.content_eq_cell.mpr ⟨_, rfl, hm⟩)]
      rfl
    · obtain ⟨depth, rfl⟩ := Nat.exists_eq_add_of_le' (Nat.one_le_of_lt hdepth)
      have hgets : ∀ e ∈ made, (Fields.ofList made).get e.1 = e.2 := fun e he =>
        Fields.get_of_mem ((hmade.mem_entries_ofList (hcompiled.nodup_names .fast)).mpr he)
      have hfields := hd depth (Nat.le_of_succ_le_succ hdepth) (.ofList made) .empty hgets
      rw [← Fields.ofList, ← Fields.rename_ofList] at hfields
      exact .cloneObject hm (hmoved (hn.trans hmade.le) hm) hp hfields
  | itemsNil => exact ⟨0, fun _ _ _ => .pure _⟩
  | itemsCons hw hws ihw ihws =>
    obtain ⟨d, hd⟩ := ihw (hheld _ List.mem_cons_self) ht hn
    obtain ⟨d', hd'⟩ :=
      ihws (fun v hv => hheld v (List.mem_cons_of_mem _ hv)) ht (hn.trans hw.le)
    refine ⟨max d d', fun depth hdepth member => ?_⟩
    exact .bind (hd depth (le_of_max_le_left hdepth) member)
      (.bind (hd' depth (le_of_max_le_right hdepth) member) (.pure _))
  | entriesNil => exact ⟨0, fun _ _ _ => .pure _⟩
  | entriesCons hkey hvalue hfs ihk ihv ihfs =>
    obtain ⟨hk, hv⟩ := hheld _ List.mem_cons_self
    obtain ⟨d, hd⟩ := ihk hk ht.1 hn
    obtain ⟨d', hd'⟩ := ihv hv ht.2 (hn.trans hkey.le)
    obtain ⟨d'', hd''⟩ := ihfs (fun e he => hheld e (List.mem_cons_of_mem _ he)) ht
      (hn.trans (hkey.le.trans hvalue.le))
    refine ⟨max d (max d' d''), fun depth hdepth member => ?_⟩
    obtain ⟨hle, hrest⟩ := max_le_iff.mp hdepth
    exact .bind (hd depth hle member) (.bind (hd' depth (le_of_max_le_left hrest) member)
      (.bind (hd'' depth (le_of_max_le_right hrest) member) (.pure _)))
  | membersNil => exact ⟨0, fun _ _ _ _ _ => .pure _⟩
  | @kept _ source name _ made _ _ hmade ih =>
    obtain ⟨d, hd⟩ := ih hheld (fun a ha => ht a (List.mem_cons_of_mem _ ha)) hn
    refine ⟨d, fun depth hdepth source' first hgets => ?_⟩
    -- What was kept was there before, so it stays where it is.
    have hkept : source'.get name = (source.get name).rename ρ := by
      rw [hgets _ List.mem_cons_self, Value.rename_eq_self hρ.fixed (hheld name)]
    have hrest := hd depth hdepth source' (first.set name (source'.get name)) fun e he =>
      hgets e (List.mem_cons_of_mem _ he)
    rw [hkept] at hrest
    rw [List.map_cons, List.foldl_cons, assign, hkept]
    exact hrest
  | @cloned _ source member _ w made _ _ _ hw hmade ihw ihmade =>
    obtain ⟨d, hd⟩ := ihw (hheld _) (ht member List.mem_cons_self) hn
    obtain ⟨d', hd'⟩ :=
      ihmade hheld (fun a ha => ht a (List.mem_cons_of_mem _ ha)) (hn.trans hw.le)
    refine ⟨max d d', fun depth hdepth source' first hgets => ?_⟩
    have hcloned : source'.get member.name = w := hgets _ List.mem_cons_self
    rw [assign, hcloned]
    exact .bind (hd depth (le_of_max_le_left hdepth) member.name)
      (hd' depth (le_of_max_le_right hdepth) source' _ fun e he =>
        hgets e (List.mem_cons_of_mem _ he))

/-! ## The clone of a clone -/

/-- Cells that are made again have as many objects among them. -/
theorem Heap.card_objects_of_moved {g' : Heap} {k : Nat} {ρ : Address → Address} (hg : h ≤ g)
    (hg' : g ≤ g') (hk : g.size = h.size + k) (hk' : g'.size = g.size + k)
    (hcell : ∀ b : Nat, h.size ≤ b → b < g.size →
      g'.cell? (b + k) = (g.cell? b).map (Cell.rename ρ)) :
    (g'.objects \ g.objects).card = (g.objects \ h.objects).card := by
  have hobject : ∀ b : Nat, h.size ≤ b → b < g.size → (g'.HasObject (b + k) ↔ g.HasObject b) := by
    intro b hb hbg
    rw [hasObject_iff, hasObject_iff, hcell b hb hbg, Option.map_map]
    have hkind : Cell.kind ∘ Cell.rename ρ = Cell.kind := funext Cell.kind_rename
    rw [hkind]
  rw [← Finset.card_map (addRightEmbedding k) (s := g.objects \ h.objects)]
  refine congrArg Finset.card (Finset.ext fun (a : Nat) => ?_)
  rw [mem_objects_sdiff hg', Finset.mem_map]
  constructor
  · rintro ⟨ha, hobj⟩
    have hlt : a < g'.size := hobj.lt
    obtain ⟨b, rfl⟩ := Nat.exists_eq_add_of_le' (show k ≤ a by omega)
    have hb : h.size ≤ b := by omega
    have hbg : b < g.size := by omega
    exact ⟨b, (mem_objects_sdiff hg).mpr ⟨hb, (hobject b hb hbg).mp hobj⟩, rfl⟩
  · rintro ⟨b, hmem, rfl⟩
    obtain ⟨hb, hobj⟩ := (mem_objects_sdiff hg).mp hmem
    exact ⟨by rw [hk]; exact Nat.add_le_add_right hb k, (hobject b hb hobj.lt).mpr hobj⟩

/-- A bound that is not below that of the heap allows for what the fast operation makes. -/
theorem outcome_cloneFast_of_le {s s' : CloneState} {v w : Value} (hs : s.heap.Closed)
    (hv : s.heap.Holds v) {depth : Nat} (hd : depthLimit s.heap ≤ depth)
    (hr : outcome (cloneObject plans depth .fast v) { s with trail := {} } = (.ok w, s')) :
    outcome (cloneFast plans v) s = (.ok w, { s' with trail := s.trail }) := by
  have hends : (Request.fast v).Terminates plans s := by
    refine ⟨depth, fun herror => ?_⟩
    rw [Request.operation, Request.value, Request.trail, hr] at herror
    cases herror
  have hsame := (Request.Terminates.outcome_cloneObject (r := .fast v) hs hv hends hd).1
  have hlimit := hsame.symm.trans hr
  rw [Request.operation, Request.value, Request.trail] at hlimit
  rw [outcome_cloneFast, hlimit]

/-- **Cloning a copy adds nothing.** Where a fast clone succeeds, so does a fast clone of what it
has made, on the heap that it has left: it counts as many objects, and its result is the same tree,
with the cells that were there before the first clone in the same places. It is this tree also when
the first copy is not looked into, so that the two copies share none of their cells. -/
theorem cloneFast_again {ps : List Plan} (hps : ∀ p ∈ ps, p.IsCompiled) {s s' : CloneState}
    {v c : Value} (hs : s.heap.Closed) (hv : s.heap.Holds v)
    (hr : outcome (cloneFast (.ofList ps) v) s = (.ok c, s')) :
    ∃ c' s'' k, outcome (cloneFast (.ofList ps) c) s' = (.ok c', s'') ∧
      s'.calls = s.calls + k ∧ s''.calls = s'.calls + k ∧
      ∀ n path, s.heap.size ≤ n → n ≤ s'.heap.size →
        s''.heap.unfolding n c' path = s'.heap.unfolding s.heap.size c path := by
  have hplans := Catalog.isCompiled_ofList hps
  have hcopied := copied_of_cloneFast hs hv hr
  have hle := (Steady.cloneFast.of_run hr).le_heap
  have hclosed := (hcopied.isTree hplans hs hv).closed hs hle
  obtain ⟨typeName, f, hsource⟩ := exists_object_of_cloneFast hr
  obtain ⟨b, f', rfl, -, hb⟩ := hcopied.exists_new_object rfl hsource (by simp)
  have hc : s'.heap.Holds (.ref b) := Heap.holds_ref.mpr (Heap.lt_of_cell? hb)
  -- The new cells are made again as far on as there are any.
  obtain ⟨k, hk⟩ := Nat.exists_eq_add_of_le (Heap.size_le_of_le hle)
  let ρ : Address → Address := fun a => if a < s.heap.size then a else a + k
  have hρ : s.heap.Moves s'.heap.size k ρ :=
    ⟨fun a ha => if_pos ha, fun a ha _ => if_neg (Nat.not_lt.mpr ha)⟩
  obtain ⟨d, hd⟩ := hcopied.exists_remade hplans hs hle hρ hv rfl le_rfl
  obtain ⟨s₁, hrun, hle₁, hsize₁, hcell₁⟩ :=
    hd (max d (depthLimit s'.heap)) (le_max_left _ _) "" { s' with trail := {} } le_rfl hk
  have haction :
      (Accessor.call false .fast).action "" (s'.heap.content (.ref b)) = .call .fast := by
    rw [Heap.content_eq_cell.mpr ⟨b, rfl, hb⟩]
    rfl
  rw [outcome_evaluate, haction] at hrun
  have hagain := outcome_cloneFast_of_le hclosed hc (le_max_right _ _) hrun
  have hcalls := calls_of_perform (r := .fast v) hr
  have hcalls' := calls_of_perform (r := .fast (.ref b)) hagain
  rw [Heap.card_objects_of_moved hle hle₁ hk hsize₁ hcell₁] at hcalls'
  refine ⟨_, _, _, hagain, hcalls, hcalls', fun n path hn hn' => ?_⟩
  have hrenamed : Heap.IsRenamed s'.heap s₁.heap s.heap.size n ρ := by
    refine ⟨hn, hρ.fixed, fun a ha ha' => ?_, fun a ha ha' => ?_⟩
    · rw [hρ.moved a ha ha']
      exact hn'.trans (hk ▸ Nat.add_le_add_right ha k)
    · rw [hρ.moved a ha ha', hcell₁ a ha ha']
  exact hrenamed.unfolding_rename hclosed hc path

/-- A node that has no label and no next, but a color, which no plan assigns, and a node that has
it as its next and twice as its peer; both have one owner. -/
def strayNodes : Heap :=
  ⟨#[.sequence "List" [.integer 1], .array [],
    .object "Node" (.ofList [("Color", .text "red"), ("Peers", .ref 1), ("Owner", .ref 0)]),
    .array [.ref 2, .ref 2], node "b" (.ref 3) (.ref 2) (.ref 0)]⟩

/-- The clone of the second node has three copies of the first one, and so has the clone of the
clone. -/
theorem cloneFast_again_strayNodes :
    (∀ p ∈ [nodePlan], p.IsCompiled) ∧ strayNodes.Closed ∧ strayNodes.Holds (.ref 4) ∧
      ∃ s' c' s'', outcome (cloneFast (.ofList [nodePlan]) (.ref 4)) { heap := strayNodes } =
          (.ok (.ref 12), s') ∧
        outcome (cloneFast (.ofList [nodePlan]) (.ref 12)) s' = (.ok c', s'') ∧
        s'.calls = 4 ∧ s''.calls = 8 ∧
        ∀ path, s''.heap.unfolding 5 c' path = s'.heap.unfolding 5 (.ref 12) path := by
  have hclosed : strayNodes.Closed := by decide +kernel
  have hholds : strayNodes.Holds (.ref 4) := Heap.holds_ref.mpr (by decide)
  have hok : (outcome (cloneFast (.ofList [nodePlan]) (.ref 4)) { heap := strayNodes }).1 =
      .ok (.ref 12) := by decide +kernel
  have hfour : (outcome (cloneFast (.ofList [nodePlan]) (.ref 4)) { heap := strayNodes }).2.calls =
      4 := by decide +kernel
  have hsize : 5 ≤
      (outcome (cloneFast (.ofList [nodePlan]) (.ref 4)) { heap := strayNodes }).2.heap.size := by
    decide +kernel
  obtain ⟨c', s'', k, hr, hcalls, hcalls', htree⟩ :=
    cloneFast_again isCompiled_of_mem_nodePlan (s := { heap := strayNodes }) hclosed hholds
      (Prod.ext hok rfl)
  rw [hfour] at hcalls hcalls'
  obtain rfl : k = 4 := by
    dsimp only at hcalls
    omega
  exact ⟨isCompiled_of_mem_nodePlan, hclosed, hholds, _, c', s'', Prod.ext hok rfl, hr, hfour,
    hcalls', fun path => htree 5 path le_rfl hsize⟩

end DeepCopy
