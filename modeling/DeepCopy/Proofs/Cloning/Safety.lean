import DeepCopy.Proofs.Cloning.Finish
import DeepCopy.Proofs.Plan.Typing

/-!
# Clones of well-typed objects

On a well-typed heap no clone operation fails, and it leaves a well-typed heap: the accessor of
every member takes the value of its field and makes a value that it would take again, so that the
plan of an object admits the fields of the copy. Nothing that runs meanwhile takes anything away,
because what an accessor takes it still takes once the heap has grown.

## Main definitions

* `Ensures plans h t x Q`: on well-typed heaps grown from `h` and with the trail `t` the computation
  `x` succeeds, `Q` holds of its result, and the heap stays well typed
* `Accessor.Made work g w`: `w` is a value that `work` takes in `g`
* `Assigned as first g made`: assignments made of the fields `first` the fields `made`
* `Plan.Made p g made`: `made` are fields that `p` admits in `g`

## Main results

* `Ensures.bind`: computations that succeed follow each other
* `Ensures.evaluate`: an accessor makes a value that it takes of a value that it takes
* `Ensures.members`: the fields of a copy are those that the plan admits
* `Ensures.cloneObject`: cloning an object succeeds while fewer objects are left from call to call
* `clone_wellTyped`: so do the operations, and the heap stays well typed
-/

namespace DeepCopy

open Cloning
open Relation (TransGen)

namespace Cloning

variable {α β : Type} {plans : Catalog} {h g : Heap} {t : Trail} {x : Cloning α}
  {Q R : Heap → α → Prop}

/-- From a well-typed heap grown from `h` and with the trail `t`, a computation succeeds; the heap
has grown to a well-typed one, the trail is what it was, and `Q` holds of the result in the heap. -/
def Ensures (plans : Catalog) (h : Heap) (t : Trail) (x : Cloning α) (Q : Heap → α → Prop) : Prop :=
  ∀ s : CloneState, s.Extends h t → s.heap.WellTyped plans →
    ∃ a s', outcome x s = (.ok a, s') ∧ s'.Extends s.heap t ∧ s'.heap.WellTyped plans ∧ Q s'.heap a

/-! ## Steps and sequences -/

theorem Ensures.mono (hx : Ensures plans h t x Q) (hg : h ≤ g) : Ensures plans g t x Q :=
  fun s hs => hx s ⟨hg.trans hs.le_heap, hs.trail_eq⟩

theorem Ensures.imp (hx : Ensures plans h t x Q) (hQR : ∀ g a, h ≤ g → Q g a → R g a) :
    Ensures plans h t x R := by
  intro s hs ht
  obtain ⟨a, s', hr, hs', ht', hQ⟩ := hx s hs ht
  exact ⟨a, s', hr, hs', ht', hQR s'.heap a (hs.le_heap.trans hs'.le_heap) hQ⟩

theorem Ensures.pure {a : α} (ha : ∀ g, h ≤ g → Q g a) : Ensures plans h t (pure a) Q :=
  fun s hs ht => ⟨a, s, rfl, ⟨le_rfl, hs.trail_eq⟩, ht, ha s.heap hs.le_heap⟩

theorem Ensures.count : Ensures plans h t count fun _ _ => True :=
  fun _ hs ht => ⟨(), _, rfl, ⟨le_rfl, hs.trail_eq⟩, ht, trivial⟩

/-- **Computations that succeed follow each other**: the second one may rely on what the first one
leaves. -/
theorem Ensures.bind {k : α → Cloning β} {S : Heap → β → Prop} (hx : Ensures plans h t x Q)
    (hk : ∀ g a, h ≤ g → Q g a → Ensures plans g t (k a) S) : Ensures plans h t (x >>= k) S := by
  intro s hs ht
  obtain ⟨a, s', hr, hs', ht', hQ⟩ := hx s hs ht
  have hg := hs.le_heap.trans hs'.le_heap
  obtain ⟨b, s'', hr', hs'', ht'', hS⟩ := hk s'.heap a hg hQ s' ⟨le_rfl, hs'.trail_eq⟩ ht'
  have hle := hs'.le_heap.trans hs''.le_heap
  exact ⟨b, s'', outcome_bind_eq_ok.mpr ⟨a, s', hr, hr'⟩, ⟨hle, hs''.trail_eq⟩, ht'', hS⟩

/-- A look at a value shows what it is in `h`. -/
theorem Ensures.look {v : Value} {k : Content → Cloning α} (hv : h.Holds v)
    (hk : Ensures plans h t (k (h.content v)) Q) : Ensures plans h t (look v >>= k) Q := by
  intro s hs ht
  rw [outcome_bind, outcome_look]
  dsimp only
  rw [Heap.content_of_le hs.le_heap hv]
  exact hk s hs ht

theorem Ensures.alloc {c : Cell} (hc : ∀ v ∈ c.values, h.Holds v)
    (ho : ∀ n f, c = .object n f → ∃ p, plans.get? n = some p ∧ p.Admits h f) :
    Ensures plans h t (alloc c) fun g w => g.content w = .cell c := by
  intro s hs ht
  have ht' : (s.heap.alloc c).WellTyped plans := by
    apply ht.alloc
    · intro v hv
      exact (hc v hv).of_le hs.le_heap
    · intro n f hcell
      obtain ⟨p, hp, hf⟩ := ho n f hcell
      exact ⟨p, hp, hf.mono hs.le_heap⟩
  refine ⟨_, _, outcome_alloc c s, ⟨s.heap.le_alloc c, hs.trail_eq⟩, ht', ?_⟩
  exact Heap.content_eq_cell.mpr ⟨_, rfl, Heap.cell?_alloc_size _ _⟩

/-- A value is on the trail for as long as the computation takes. -/
theorem Ensures.onTrail {a : Address} (hx : Ensures plans h (t.push (.ref a)) x Q) :
    Ensures plans h t (onTrail (.ref a) x) Q := by
  intro s hs ht
  obtain ⟨b, s', hr, hs', ht', hQ⟩ := hx { s with trail := s.trail.push (.ref a) } (hs.push a) ht
  refine ⟨b, { s' with trail := s'.trail.pop }, ?_, hs'.pop, ht', hQ⟩
  rw [outcome_onTrail, hr]

end Cloning

/-! ## Accessors -/

/-- A value in a heap that an accessor takes there. -/
def Accessor.Made (work : Accessor) (g : Heap) (w : Value) : Prop := g.Holds w ∧ work.Takes g w

theorem Accessor.Made.mono {work : Accessor} {w : Value} {h g : Heap} (hg : h ≤ g)
    (hw : work.Made h w) : work.Made g w :=
  ⟨hw.1.of_le hg, hw.2.mono hg⟩

namespace Cloning

variable {plans : Catalog} {h g : Heap} {t : Trail} {f f' : Value → Cloning Value}

theorem Ensures.each {element : Accessor} {vs : List Value}
    (hf : ∀ v ∈ vs, Ensures plans h t (f v) element.Made) :
    Ensures plans h t (each f vs) fun g ws => ∀ w ∈ ws, element.Made g w := by
  induction vs generalizing h with
  | nil =>
    apply Ensures.pure
    intro g _ w hw
    cases hw
  | cons v vs ih =>
    refine .bind (hf v List.mem_cons_self) fun g w hg hw => ?_
    refine .bind (ih fun x hx => (hf x (List.mem_cons_of_mem _ hx)).mono hg) fun g' ws hg' hws => ?_
    apply Ensures.pure
    intro k hk x hx
    -- What was made first is still a value that the accessor takes after all the rest was made.
    rcases List.mem_cons.mp hx with rfl | hx
    · exact hw.mono (hg'.trans hk)
    · exact (hws x hx).mono hk

theorem Ensures.eachEntry {key value : Accessor} {es : List (Value × Value)}
    (hf : ∀ e ∈ es, Ensures plans h t (f e.1) key.Made)
    (hf' : ∀ e ∈ es, Ensures plans h t (f' e.2) value.Made) :
    Ensures plans h t (eachEntry f f' es) fun g fs =>
      ∀ e ∈ fs, key.Made g e.1 ∧ value.Made g e.2 := by
  induction es generalizing h with
  | nil =>
    apply Ensures.pure
    intro g _ e he
    cases he
  | cons e es ih =>
    refine .bind (hf e List.mem_cons_self) fun g x hg hx => ?_
    refine .bind ((hf' e List.mem_cons_self).mono hg) fun g' y hg' hy => ?_
    have hle := hg.trans hg'
    refine .bind (ih (fun d hd => (hf d (List.mem_cons_of_mem _ hd)).mono hle)
      fun d hd => (hf' d (List.mem_cons_of_mem _ hd)).mono hle) fun g'' fs hg'' hfs => ?_
    apply Ensures.pure
    intro k hk d hd
    rcases List.mem_cons.mp hd with rfl | hd
    · exact ⟨hx.mono (hg'.trans (hg''.trans hk)), hy.mono (hg''.trans hk)⟩
    · exact (hfs d hd).imp (.mono hk) (.mono hk)

/-- A container of values that were made one by one. -/
theorem Ensures.container (typeName : Option String) {element : Accessor} {vs : List Value}
    (hf : ∀ v ∈ vs, Ensures plans h t (f v) element.Made) :
    Ensures plans h t (Cloning.each f vs >>= fun ws => Cloning.alloc (.container typeName ws))
      fun g w => ∃ ws, g.content w = .cell (.container typeName ws) ∧
        ∀ x ∈ ws, element.Takes g x := by
  refine .bind (.each hf) fun g ws hg hws => .imp (.alloc ?_ ?_) fun k w hk hw => ?_
  · intro x hx
    rw [Cell.values_container] at hx
    exact (hws x hx).1
  · intro n f' hobject
    cases typeName <;> cases hobject
  · exact ⟨ws, hw, fun x hx => (hws x hx).2.mono hk⟩

/-- A mapping of keys and values that were made one by one. -/
theorem Ensures.mapping (typeName : String) {key value : Accessor} {es : List (Value × Value)}
    (hf : ∀ e ∈ es, Ensures plans h t (f e.1) key.Made)
    (hf' : ∀ e ∈ es, Ensures plans h t (f' e.2) value.Made) :
    Ensures plans h t (Cloning.eachEntry f f' es >>= fun fs => Cloning.alloc (.mapping typeName fs))
      fun g w => ∃ fs, g.content w = .cell (.mapping typeName fs) ∧
        ∀ e ∈ fs, key.Takes g e.1 ∧ value.Takes g e.2 := by
  refine .bind (.eachEntry hf hf') fun g fs hg hfs => .imp (.alloc ?_ ?_) fun k w hk hw => ?_
  · intro x hx
    obtain ⟨e, he, rfl | rfl⟩ := Cell.mem_values_mapping.mp hx
    · exact (hfs e he).1.1
    · exact (hfs e he).2.1
  · intro n f' hobject
    cases hobject
  · exact ⟨fs, hw, fun e he => ⟨(hfs e he).1.2.mono hk, (hfs e he).2.2.mono hk⟩⟩

variable {call : Operation → Value → Cloning Value} {I : Value → Prop}

/-- **An accessor makes a value that it takes of a value that it takes**, if calls on objects make
objects, on all values of a kind that looking into values does not leave. -/
theorem Ensures.evaluate (hholds : ∀ v, I v → h.Holds v)
    (hI : ∀ v c w, I v → h.content v = .cell c → w ∈ c.values → I w)
    (hcall : ∀ op w, I w → h.IsObject w → Ensures plans h t (call op w) Heap.IsObject)
    (member : String) {work : Accessor} {v : Value} (hv : I v) (hw : work.Takes h v) :
    Ensures plans h t (evaluate call member work v) work.Made := by
  induction work generalizing v with
  | copy | passOn =>
    apply Ensures.pure
    intro g hg
    exact ⟨(hholds v hv).of_le hg, trivial⟩
  | call nullable op =>
    apply Ensures.look (hholds v hv)
    rcases hw with ⟨rfl, rfl⟩ | hw
    · apply Ensures.pure
      intro g _
      exact ⟨g.holds_null, .inl ⟨rfl, rfl⟩⟩
    · obtain ⟨n, f, hc⟩ := hw
      rw [hc]
      exact (hcall op v hv ⟨n, f, hc⟩).imp fun g y _ hy => ⟨hy.holds, .inr hy⟩
  | guarded inner ih =>
    apply Ensures.look (hholds v hv)
    split
    · apply Ensures.pure
      intro g _
      exact ⟨g.holds_null, .inl rfl⟩
    · next hnull =>
      rcases hw with rfl | hw
      · exact absurd rfl hnull
      · exact (ih hv hw).imp fun g y _ hy => ⟨hy.1, .inr hy.2⟩
  | array element ih =>
    obtain ⟨vs, hc, hvs⟩ := hw
    apply Ensures.look (hholds v hv)
    rw [hc]
    refine (Ensures.container none fun x hx => ih (hI v _ x hv hc hx) (hvs x hx)).imp ?_
    rintro g y - ⟨ws, hy, hws⟩
    exact ⟨Heap.holds_of_content hy, ws, hy, hws⟩
  | sequence container element strategy ih =>
    obtain ⟨n, vs, hc, hvs⟩ := hw
    apply Ensures.look (hholds v hv)
    rw [hc]
    refine (Ensures.container (some n) fun x hx => ih (hI v _ x hv hc hx) (hvs x hx)).imp ?_
    rintro g y - ⟨ws, hy, hws⟩
    exact ⟨Heap.holds_of_content hy, n, ws, hy, hws⟩
  | project element ih =>
    apply Ensures.look (hholds v hv)
    -- A projection makes a sequence of a sequence and an array of an array.
    rcases hw with ⟨n, vs, hc, hvs⟩ | ⟨vs, hc, hvs⟩
    · rw [hc]
      refine (Ensures.container (some n) fun x hx => ih (hI v _ x hv hc hx) (hvs x hx)).imp ?_
      rintro g y - ⟨ws, hy, hws⟩
      exact ⟨Heap.holds_of_content hy, .inl ⟨n, ws, hy, hws⟩⟩
    · rw [hc]
      refine (Ensures.container none fun x hx => ih (hI v _ x hv hc hx) (hvs x hx)).imp ?_
      rintro g y - ⟨ws, hy, hws⟩
      exact ⟨Heap.holds_of_content hy, .inr ⟨ws, hy, hws⟩⟩
  | map container keyType valueType key value strategy ihk ihv =>
    obtain ⟨n, es, hc, hes⟩ := hw
    have hmem : ∀ e ∈ es, I e.1 ∧ I e.2 := fun e he =>
      ⟨hI v _ e.1 hv hc (Cell.mem_values_mapping.mpr ⟨e, he, .inl rfl⟩),
        hI v _ e.2 hv hc (Cell.mem_values_mapping.mpr ⟨e, he, .inr rfl⟩)⟩
    apply Ensures.look (hholds v hv)
    rw [hc]
    refine (Ensures.mapping n (fun e he => ihk (hmem e he).1 (hes e he).1)
      fun e he => ihv (hmem e he).2 (hes e he).2).imp ?_
    rintro g y - ⟨fs, hy, hfs⟩
    exact ⟨Heap.holds_of_content hy, n, fs, hy, hfs⟩

/-! ## Objects -/

/-- What assignments have made of some fields: values in the heap, for each cloned member one that
its accessor takes, and what was there before in the fields that are not assigned. -/
structure Assigned (as : List Assignment) (first : Fields) (g : Heap) (made : Fields) : Prop where
  holds : ∀ key, g.Holds (made.get key)
  takes : ∀ c, .cloned c ∈ as → c.accessor.Takes g (made.get c.name)
  get_eq : ∀ key ∉ as.map Assignment.name, made.get key = first.get key

/-- One assignment before others, none of which is to the same member. -/
theorem Assigned.cons {a : Assignment} {as : List Assignment} {first made : Fields} {w : Value}
    (ha : a.name ∉ as.map Assignment.name) (hw : ∀ c, a = .cloned c → c.accessor.Takes g w)
    (has : Assigned as (first.set a.name w) g made) : Assigned (a :: as) first g made where
  holds := has.holds
  takes c hc := by
    rcases List.mem_cons.mp hc with rfl | hc
    · have hget : made.get c.name = w := by
        rw [has.get_eq c.name ha, Fields.get_set]
        exact if_pos rfl
      rw [hget]
      exact hw c rfl
    · exact has.takes c hc
  get_eq key hkey := by
    rw [List.map_cons, List.mem_cons, not_or] at hkey
    rw [has.get_eq key hkey.2, Fields.get_set, if_neg hkey.1]

theorem holds_get_set {first : Fields} (hfirst : ∀ key, h.Holds (first.get key)) {w : Value}
    (hw : h.Holds w) (name key : String) : h.Holds ((first.set name w).get key) := by
  rw [Fields.get_set]
  split_ifs
  · exact hw
  · exact hfirst key

theorem Ensures.assign {source : Fields} (hsource : ∀ key, h.Holds (source.get key))
    {as : List Assignment} (hn : (as.map Assignment.name).Nodup)
    (hwork : ∀ c, .cloned c ∈ as → Ensures plans h t
      (DeepCopy.evaluate call c.name c.accessor (source.get c.name)) c.accessor.Made)
    (hg : h ≤ g) {first : Fields} (hfirst : ∀ key, g.Holds (first.get key)) :
    Ensures plans g t (DeepCopy.assign call source as first) (Assigned as first) := by
  -- The source stays in `h`, while the fields made so far are in the heap that has grown from it.
  induction as generalizing first g with
  | nil =>
    apply Ensures.pure
    intro k hk
    exact ⟨fun key => (hfirst key).of_le hk, fun _ hc => absurd hc List.not_mem_nil, fun _ _ => rfl⟩
  | cons a as ih =>
    rw [List.map_cons, List.nodup_cons] at hn
    have hrest := fun c hc => hwork c (List.mem_cons_of_mem _ hc)
    cases a with
    | kept name =>
      have hset := holds_get_set hfirst ((hsource name).of_le hg) name
      refine (ih hn.2 hrest hg hset).imp fun k made _ hmade => hmade.cons hn.1 fun c hc => ?_
      cases hc
    | cloned m =>
      refine .bind ((hwork m List.mem_cons_self).mono hg) fun k w hk hw => ?_
      have hset := holds_get_set (fun key => (hfirst key).of_le hk) hw.1 m.name
      refine (ih hn.2 hrest (hg.trans hk) hset).imp fun l made hl hmade =>
        hmade.cons hn.1 fun c hc => ?_
      cases hc
      exact hw.2.mono hl

end Cloning

/-- Fields in a heap that a plan admits there. -/
def Plan.Made (p : Plan) (g : Heap) (made : Fields) : Prop :=
  (∀ key, g.Holds (made.get key)) ∧ p.Admits g made

namespace Cloning

variable {plans : Catalog} {h : Heap} {t : Trail} {op : Operation} {p : Plan} {source : Fields}

/-- **The fields of a copy are those that the plan admits**, if calls on the objects that the fields
of the source reach make objects. -/
theorem Ensures.members (hh : h.Closed) (hp : p.Admits h source)
    (hsource : ∀ key, h.Holds (source.get key)) {depth : Nat}
    (hcall : ∀ key w, h.Reaches (source.get key) w → h.IsObject w →
      Ensures plans h t (cloneObject plans depth op w) Heap.IsObject) :
    Ensures plans h t (DeepCopy.assign (cloneObject plans depth) source (p.assignments op) .empty)
      p.Made := by
  have hc := hp.isCompiled
  rw [hc.assign_eq _ source op op]
  have hwork : ∀ c, .cloned c ∈ p.assignments op → Ensures plans h t
      (DeepCopy.evaluate (fun _ => cloneObject plans depth op) c.name c.accessor
        (source.get c.name)) c.accessor.Made := by
    intro c hmem
    have htakes := (hc.admits_iff_takes op).mp hp c hmem
    refine Ensures.evaluate (I := fun w => ∃ key, h.Reaches (source.get key) w) ?_ ?_ ?_ c.name
      ⟨c.name, .refl⟩ htakes
    · rintro v ⟨key, hv⟩
      exact hv.holds hh (hsource key)
    · rintro v cell w ⟨key, hv⟩ hcell hw
      exact ⟨key, hv.tail ⟨cell, hcell, hw⟩⟩
    · rintro _ w ⟨key, hw⟩ hobject
      exact hcall key w hw hobject
  have hempty : ∀ key, h.Holds (Fields.empty.get key) := fun _ => h.holds_null
  refine (Ensures.assign hsource (hc.nodup_names op) hwork le_rfl hempty).imp ?_
  intro g made _ hmade
  exact ⟨hmade.holds, (hc.admits_iff_takes op).mpr hmade.takes⟩

/-- The members of an object are cloned with the object on the trail of a safe operation. -/
theorem Ensures.build {call : Operation → Value → Cloning Value} {Q : Heap → Fields → Prop}
    {a : Address}
    (hx : Ensures plans h (op.trail t (.ref a))
      (DeepCopy.assign call source (p.assignments op) .empty) Q) :
    Ensures plans h t (build call op (.ref a) source p) Q := by
  cases op with
  | fast => exact hx
  | safe => exact .onTrail hx

/-- **Cloning an object makes an object** if it is passed on as one that is being cloned already, or
if the fields of the copy are those that its plan admits. -/
theorem Ensures.enter {depth : Nat} {a : Address} {n : String}
    (ha : h.cell? a = some (.object n source)) (hp : plans.get? n = some p)
    (hmembers : ¬ (op = .safe ∧ t.contains (.ref a)) → Ensures plans h (op.trail t (.ref a))
      (DeepCopy.assign (cloneObject plans depth) source (p.assignments op) .empty) p.Made) :
    Ensures plans h t (cloneObject plans (depth + 1) op (.ref a)) Heap.IsObject := by
  have hc : h.content (.ref a) = .cell (.object n source) := Heap.content_eq_cell.mpr ⟨a, rfl, ha⟩
  intro s hs ht
  rw [outcome_cloneObject, Heap.content_of_le hs.le_heap (Heap.holds_of_content hc), hs.trail_eq]
  by_cases hmet : op = .safe ∧ t.contains (.ref a)
  · have hself : Ensures plans h t (Pure.pure (.ref a)) Heap.IsObject :=
      .pure fun g hg => Heap.IsObject.mono hg ⟨n, source, hc⟩
    rw [Catalog.entry_eq_met.mpr ⟨⟨n, source, hc⟩, hmet⟩]
    exact hself s hs ht
  · rw [Catalog.entry_eq_entered.mpr ⟨hc, hmet, hp⟩]
    suffices hobject : Ensures plans h t (Cloning.enter plans op (.ref a) (depth + 1)
        (.entered n source p)) Heap.IsObject from hobject s hs ht
    -- The object is counted, its fields are made, and the copy is the cell that comes last.
    refine .bind .count fun g _ hg _ => ?_
    refine .bind (.mono (.build (hmembers hmet)) hg) fun k made hk hmade => ?_
    refine .imp (.alloc ?_ ?_) fun l y _ hy => ⟨n, made, hy⟩
    · intro v hv
      obtain ⟨key, rfl⟩ := Fields.exists_get_of_mem_values hv
      exact hmade.1 key
    · intro n' f hobject
      cases hobject
      exact ⟨p, hp, hmade.2⟩

/-- **Cloning an object makes an object while fewer objects are left from call to call**: `I` tells
what can be called, and `left` how many objects there are left to enter. -/
theorem Ensures.cloneObject (hh : h.WellTyped plans) (I : Trail → Address → Prop)
    (left : Trail → Address → Nat)
    (hleft : ∀ t a b, I t a → h.HasObject a → ¬ (op = .safe ∧ t.contains (.ref a)) →
      TransGen h.Refers (.ref a) (.ref b) → h.HasObject b →
        I (op.trail t (.ref a)) b ∧ left (op.trail t (.ref a)) b < left t a)
    {depth : Nat} {a : Address} (ha : h.HasObject a) (hI : I t a) (hd : left t a < depth) :
    Ensures plans h t (cloneObject plans depth op (.ref a)) Heap.IsObject := by
  -- The nesting that is allowed for stays above the number of objects that are left.
  induction depth generalizing t a with
  | zero => exact absurd hd (Nat.not_lt_zero _)
  | succ depth ih =>
    obtain ⟨n, source, hcell⟩ := ha
    obtain ⟨p, hpn, hp⟩ := hh.admits a n source hcell
    have hc : h.content (.ref a) = .cell (.object n source) :=
      Heap.content_eq_cell.mpr ⟨a, rfl, hcell⟩
    apply Ensures.enter hcell hpn
    intro hmet
    refine .members hh.closed hp (Heap.holds_get hh.closed hc) fun key w hw hobject => ?_
    obtain ⟨n', f, hcw⟩ := hobject
    obtain ⟨b, rfl, hb⟩ := Heap.content_eq_cell.mp hcw
    have hab : TransGen h.Refers (.ref a) (.ref b) := by
      rcases Heap.get_eq_null_or_refers hc key with hnull | hr
      · -- A field that is null reaches nothing but null, which is no object.
        cases Heap.eq_of_reaches_null (hnull ▸ hw)
      · exact .head' hr hw
    obtain ⟨hIb, hlt⟩ := hleft t a b hI ⟨n, source, hcell⟩ hmet hab ⟨n', f, hb⟩
    exact ih ⟨n', f, hb⟩ hIb (by omega)

/-- A safe clone leaves fewer objects unmet from call to call. -/
theorem Ensures.cloneObject_safe (hh : h.WellTyped plans) {a : Address} (ha : h.HasObject a) :
    Ensures plans h t (DeepCopy.cloneObject plans (depthLimit h) .safe (.ref a))
      Heap.IsObject := by
  refine .cloneObject hh (fun _ _ => True) (fun t a => (h.unmetFrom t (.ref a)).card)
    (fun t a b _ ha hmet hab _ => ⟨trivial, ?_⟩) ha trivial ?_
  · have hat : a ∉ t.cells := fun hmem => hmet ⟨rfl, List.contains_iff_mem.mpr hmem⟩
    exact Heap.card_unmetFrom_lt ha .refl hat
      (Heap.objectsFrom_subset_of_reaches hab.to_reflTransGen)
  · exact (h.card_unmetFrom_le t _).trans_lt (h.card_objectsFrom_lt_depthLimit _)

/-- A fast clone leaves fewer objects from call to call where no object leads back to itself. -/
theorem Ensures.cloneObject_fast (hh : h.WellTyped plans) {a : Address} (ha : h.HasObject a)
    (hacyclic : h.ObjectAcyclicFrom (.ref a)) :
    Ensures plans h t (DeepCopy.cloneObject plans (depthLimit h) .fast (.ref a))
      Heap.IsObject := by
  refine .cloneObject hh (fun _ a => h.ObjectAcyclicFrom (.ref a))
    (fun _ a => (h.objectsFrom (.ref a)).card)
    (fun t a b hI ha _ hab _ => ⟨?_, hI.card_lt ha hab⟩) ha hacyclic ?_
  · exact hI.of_reaches hab.to_reflTransGen
  · exact h.card_objectsFrom_lt_depthLimit _

end Cloning

/-! ## The operations -/

/-- **Clones of well-typed objects succeed and leave well-typed heaps**: the safe clone of any
object does, and the fast clone of an object that reaches no object that leads back to itself. -/
theorem clone_wellTyped {plans : Catalog} {s : CloneState} (hs : s.heap.WellTyped plans)
    {a : Address} (ha : s.heap.HasObject a) :
    (∃ w s', outcome (cloneSafe plans (.ref a)) s = (.ok w, s') ∧ s'.heap.WellTyped plans) ∧
      (s.heap.ObjectAcyclicFrom (.ref a) →
        ∃ w s', outcome (cloneFast plans (.ref a)) s = (.ok w, s') ∧
          s'.heap.WellTyped plans) := by
  refine ⟨?_, fun hacyclic => ?_⟩
  · obtain ⟨w, s', hr, -, hs', -⟩ :=
      Ensures.cloneObject_safe hs ha { s with trail := {} } ⟨le_rfl, rfl⟩ hs
    refine ⟨w, { s' with trail := s.trail }, ?_, hs'⟩
    simp only [outcome_cloneSafe, outcome_cloneSafeIn, hr]
  · obtain ⟨w, s', hr, -, hs', -⟩ :=
      Ensures.cloneObject_fast hs ha hacyclic { s with trail := {} } ⟨le_rfl, rfl⟩ hs
    refine ⟨w, { s' with trail := s.trail }, ?_, hs'⟩
    simp only [outcome_cloneFast, hr]

/-- The plan of nodes admits an array of nodes as the peers, and a node or nothing as the next. -/
theorem admits_node {h : Heap} {label : String} {peers next owner : Value}
    (hpeers : h.IsArrayOf h.IsObject peers) (hnext : next = .null ∨ h.IsObject next) :
    nodePlan.Admits h
      (.ofList [("Label", .text label), ("Peers", peers), ("Next", next), ("Owner", owner)]) := by
  have hfast : nodePlan.assignments .fast =
      [.cloned ⟨"Label", .copy⟩, .cloned ⟨"Peers", .array (.call false .fast)⟩,
        .cloned ⟨"Next", .call true .fast⟩, .kept "Owner"] := by decide +kernel
  have hget : ∀ {key : String} {v : Value},
      (key, v) ∈ [("Label", .text label), ("Peers", peers), ("Next", next), ("Owner", owner)] →
        (Fields.ofList [("Label", .text label), ("Peers", peers), ("Next", next),
          ("Owner", owner)]).get key = v := fun hmem =>
    Fields.get_of_mem ((Fields.mem_entries_ofList (by simp)).mpr hmem)
  rw [isCompiled_nodePlan.admits_iff_takes .fast, hfast]
  intro c hc
  simp only [List.mem_cons, Assignment.cloned.injEq, reduceCtorEq, List.not_mem_nil, or_false] at hc
  rcases hc with rfl | rfl | rfl
  · trivial
  · rw [hget (v := peers) (by simp)]
    exact hpeers.mono le_rfl fun v hv => .inr hv
  · rw [hget (v := next) (by simp)]
    exact hnext.imp_left fun hnull => ⟨rfl, hnull⟩

theorem wellTyped_nodeRing : nodeRing.WellTyped (.ofList [nodePlan]) := by
  have hfirst : nodeRing.IsObject (.ref 0) := ⟨_, _, rfl⟩
  have hsecond : nodeRing.IsObject (.ref 1) := ⟨_, _, rfl⟩
  have hpeers : nodeRing.IsArrayOf nodeRing.IsObject (.ref 2) := by
    refine ⟨_, rfl, ?_⟩
    simp [hfirst, hsecond]
  refine ⟨by decide +kernel, fun a n f ha => ⟨nodePlan, ?_⟩⟩
  rcases a with _ | _ | _ | _ | a
  · cases ha
    exact ⟨rfl, admits_node hpeers (.inr hsecond)⟩
  · cases ha
    exact ⟨rfl, admits_node hpeers (.inr hfirst)⟩
  all_goals cases ha

theorem wellTyped_nodeChain : nodeChain.WellTyped (.ofList [nodePlan]) := by
  have hobject : nodeChain.IsObject (.ref 1) := ⟨_, _, rfl⟩
  have hnone : nodeChain.IsArrayOf nodeChain.IsObject (.ref 0) := by
    refine ⟨_, rfl, ?_⟩
    simp
  have hpeers : nodeChain.IsArrayOf nodeChain.IsObject (.ref 2) := by
    refine ⟨_, rfl, ?_⟩
    simp [hobject]
  refine ⟨by decide +kernel, fun a n f ha => ⟨nodePlan, ?_⟩⟩
  rcases a with _ | _ | _ | _ | _ | a
  · cases ha
  · cases ha
    exact ⟨rfl, admits_node hnone (.inl rfl)⟩
  · cases ha
  · cases ha
    exact ⟨rfl, admits_node hpeers (.inr hobject)⟩
  · cases ha
    exact ⟨rfl, admits_node hnone (.inl rfl)⟩
  · cases ha

/-- The safe clone of a node in the ring and the fast clone of the last node of the chain. -/
theorem clone_wellTyped_nodeRing :
    nodeRing.WellTyped (.ofList [nodePlan]) ∧ nodeRing.HasObject 0 ∧
      nodeChain.WellTyped (.ofList [nodePlan]) ∧ nodeChain.HasObject 3 ∧
      nodeChain.ObjectAcyclicFrom (.ref 3) ∧
      (∃ w s', outcome (cloneSafe (.ofList [nodePlan]) (.ref 0)) { heap := nodeRing } =
          (.ok w, s') ∧ s'.heap.WellTyped (.ofList [nodePlan])) ∧
      ∃ w s', outcome (cloneFast (.ofList [nodePlan]) (.ref 3)) { heap := nodeChain } =
          (.ok w, s') ∧ s'.heap.WellTyped (.ofList [nodePlan]) := by
  have hring : nodeRing.HasObject 0 := ⟨_, _, rfl⟩
  have hchain : nodeChain.HasObject 3 := ⟨_, _, rfl⟩
  have hdescending : nodeChain.Descending := by decide +kernel
  have hacyclic := (hdescending.acyclicFrom (.ref 3)).objectAcyclicFrom
  refine ⟨wellTyped_nodeRing, hring, wellTyped_nodeChain, hchain, hacyclic, ?_, ?_⟩
  · exact (clone_wellTyped (s := { heap := nodeRing }) wellTyped_nodeRing hring).1
  · exact (clone_wellTyped (s := { heap := nodeChain }) wellTyped_nodeChain hchain).2 hacyclic

end DeepCopy
