import DeepCopy.Proofs.Cloning.Copied
import DeepCopy.Proofs.Cloning.Steady

/-!
# Clone operations copy by the rules

Whatever a clone operation that succeeds has made is `Copied` from its source, on the trail on which
the operation ran, with all that was added to the heap meanwhile.

## Main definitions

* `Cloning.Copies plans h g t m piece`: where `m` succeeds it has made the piece

## Main results

* `Copies.each`, `Copies.eachEntry`, `Copies.evaluate`: the parts of an operation copy by the rules
* `Copies.cloneObject`: so does the operation
* `copied_of_cloneFast`, `copied_of_cloneSafeIn`, `copied_of_cloneSafe`: what the operations make
-/

namespace DeepCopy

open Cloning

/-! ## What operations make -/

namespace Cloning

variable {α : Type} {plans : Catalog} {h g : Heap} {t : Trail}

/-- Where a computation succeeds, on a heap grown from `h` and with the trail `t`, it has made a
piece. -/
def Copies (plans : Catalog) (h g : Heap) (t : Trail) (m : Cloning α) (piece : α → Piece) : Prop :=
  ∀ s a s', s.Extends h t → outcome m s = (.ok a, s') → s'.heap ≤ g →
    Copied plans h g t (piece a) s.heap.size s'.heap.size

theorem Copies.each {f : Value → Cloning Value} {element : Accessor} {vs : List Value}
    (hsteady : ∀ v, Steady (f v))
    (hf : ∀ v ∈ vs, Copies plans h g t (f v) (.value element v)) :
    Copies plans h g t (each f vs) (.items element vs) := by
  induction vs with
  | nil =>
    intro s ws s' hs hr hg
    cases hr
    exact .itemsNil
  | cons v vs ih =>
    intro s ws s' hs hr hg
    obtain ⟨w, s₁, hw, hr⟩ := outcome_bind_eq_ok.mp hr
    obtain ⟨ws, s₂, hws, hr⟩ := outcome_bind_eq_ok.mp hr
    cases hr
    have hs₁ := ((hsteady v).of_run hw).trans hs
    have hle := ((Steady.each hsteady vs).of_run hws).le_heap
    have hhead := hf v List.mem_cons_self s w s₁ hs hw (hle.trans hg)
    have htail := ih (fun w hw => hf w (List.mem_cons_of_mem _ hw)) s₁ ws s' hs₁ hws hg
    exact .itemsCons hhead htail

theorem Copies.eachEntry {f f' : Value → Cloning Value} {key value : Accessor}
    {es : List (Value × Value)} (hk : ∀ v, Steady (f v)) (hv : ∀ v, Steady (f' v))
    (hf : ∀ e ∈ es, Copies plans h g t (f e.1) (.value key e.1))
    (hf' : ∀ e ∈ es, Copies plans h g t (f' e.2) (.value value e.2)) :
    Copies plans h g t (eachEntry f f' es) (.entries key value es) := by
  induction es with
  | nil =>
    intro s fs s' hs hr hg
    cases hr
    exact .entriesNil
  | cons e es ih =>
    intro s fs s' hs hr hg
    obtain ⟨k, s₁, hkr, hr⟩ := outcome_bind_eq_ok.mp hr
    obtain ⟨w, s₂, hwr, hr⟩ := outcome_bind_eq_ok.mp hr
    obtain ⟨fs, s₃, hfs, hr⟩ := outcome_bind_eq_ok.mp hr
    cases hr
    have hs₁ := ((hk e.1).of_run hkr).trans hs
    have hs₂ := (hv e.2).of_run hwr
    have hle := ((Steady.eachEntry hk hv es).of_run hfs).le_heap.trans hg
    have hkey := hf e List.mem_cons_self s k s₁ hs hkr (hs₂.le_heap.trans hle)
    have hvalue := hf' e List.mem_cons_self s₁ w s₂ hs₁ hwr hle
    have htail := ih (fun d hd => hf d (List.mem_cons_of_mem _ hd))
      (fun d hd => hf' d (List.mem_cons_of_mem _ hd)) s₂ fs s' (hs₂.trans hs₁) hfs hg
    exact .entriesCons hkey hvalue htail

variable {call : Operation → Value → Cloning Value}

/-- An accessor makes its piece if the calls on all that its value reaches do. -/
theorem Copies.evaluate (hh : h.Closed) (hcall : ∀ op w, Steady (call op w))
    {member : String} {work : Accessor} {v : Value} (hv : h.Holds v)
    (hc : ∀ (site : Accessor) op w, h.Holds w → site.action member (h.content w) = .call op →
      Copies plans h g t (call op w) (.value site w)) :
    Copies plans h g t (evaluate call member work v) (.value work v) := by
  induction work, v using Accessor.task_induction h member with
  | step work v ih =>
    intro s w s' hs hr hg
    rw [outcome_evaluate, Heap.content_of_le hs.le_heap hv] at hr
    have hwork := fun part w => Steady.evaluate hcall member part w
    -- The parts of the value are in the heap that the clone began on, as it is closed.
    have htask : ∀ task ∈ (work.action member (h.content v)).tasks v,
        Copies plans h g t (DeepCopy.evaluate call member task.1 task.2)
          (.value task.1 task.2) := fun task ht =>
      ih task ht ((Accessor.reaches_of_mem_tasks ht).holds hh hv)
    cases ha : work.action member (h.content v) with
    | keep =>
      rw [ha] at hr
      cases hr
      exact .keep ha
    | null =>
      rw [ha] at hr
      cases hr
      exact .null ha
    | refuse failure =>
      rw [ha] at hr
      cases hr
    | call op =>
      rw [ha] at hr
      exact hc work op v hv ha s w s' hs hr hg
    | inner part =>
      rw [ha] at hr htask
      exact .inner ha (htask (part, v) (by simp [Action.tasks]) s w s' hs hr hg)
    | items element typeName vs =>
      rw [ha] at hr htask
      obtain ⟨ws, s₁, hws, hr⟩ := outcome_bind_eq_ok.mp hr
      cases hr
      have hitems := Copies.each (hwork element) fun w hw =>
        htask (element, w) (List.mem_map.mpr ⟨w, hw, rfl⟩)
      have hpiece := hitems s ws s₁ hs hws ((s₁.heap.le_alloc _).trans hg)
      -- The container is the last cell, behind those of its items.
      rw [Heap.size_alloc]
      exact .container ha hpiece (Heap.cell?_of_le hg (Heap.cell?_alloc_size _ _))
    | entries key value typeName es =>
      rw [ha] at hr htask
      obtain ⟨fs, s₁, hfs, hr⟩ := outcome_bind_eq_ok.mp hr
      cases hr
      have hentries := Copies.eachEntry (hwork key) (hwork value)
        (fun e he => htask (key, e.1) (Action.mem_tasks_entries.mpr ⟨e, he, .inl rfl⟩))
        fun e he => htask (value, e.2) (Action.mem_tasks_entries.mpr ⟨e, he, .inr rfl⟩)
      have hpiece := hentries s fs s₁ hs hfs ((s₁.heap.le_alloc _).trans hg)
      rw [Heap.size_alloc]
      exact .mapping ha hpiece (Heap.cell?_of_le hg (Heap.cell?_alloc_size _ _))

theorem Copies.exists_of_assign (hh : h.Closed) (hcall : ∀ op w, Steady (call op w))
    {source : Fields} (hv : ∀ key, h.Holds (source.get key))
    (hc : ∀ member (site : Accessor) op w, h.Holds w →
      site.action member (h.content w) = .call op →
      Copies plans h g t (call op w) (.value site w))
    {as : List Assignment} {first last : Fields} {s s' : CloneState}
    (hr : outcome (assign call source as first) s = (.ok last, s')) (hs : s.Extends h t)
    (hg : s'.heap ≤ g) :
    ∃ made : List (String × Value), last = made.foldl (fun f e => f.set e.1 e.2) first ∧
      Copied plans h g t (.members source as made) s.heap.size s'.heap.size := by
  induction as generalizing first s with
  | nil =>
    cases hr
    exact ⟨[], rfl, .membersNil⟩
  | cons a as ih =>
    cases a with
    | kept name =>
      obtain ⟨made, hlast, hmade⟩ := ih hr hs
      exact ⟨(name, source.get name) :: made, hlast, .kept hmade⟩
    | cloned m =>
      rw [assign] at hr
      obtain ⟨w, s₁, hw, hr⟩ := outcome_bind_eq_ok.mp hr
      have hs₁ := (Steady.evaluate hcall _ _ _).of_run hw
      obtain ⟨made, hlast, hmade⟩ := ih hr (hs₁.trans hs)
      have hle := ((Steady.assign hcall source as _).of_run hr).le_heap
      have hpiece := Copies.evaluate hh hcall (hv m.name) (hc m.name) s w s₁ hs hw (hle.trans hg)
      exact ⟨(m.name, w) :: made, hlast, .cloned hpiece hmade⟩

/-- **What a clone operation makes is made by the rules**, at every place where an accessor calls
it. -/
theorem Copies.cloneObject (hh : h.Closed) (depth : Nat) {member : String} {site : Accessor}
    {op : Operation} {v : Value} (hv : h.Holds v)
    (ha : site.action member (h.content v) = .call op) :
    Copies plans h g t (cloneObject plans depth op v) (.value site v) := by
  induction depth generalizing t member site op v with
  | zero =>
    -- With no object allowed for, a clone succeeds only if the object is met again.
    intro s w s' hs hr hg
    rw [outcome_cloneObject, Heap.content_of_le hs.le_heap hv, hs.trail_eq] at hr
    cases he : plans.entry op t v (h.content v) <;> rw [he] at hr <;> cases hr
    exact .met ha he
  | succ depth ih =>
    intro s w s' hs hr hg
    rw [outcome_cloneObject, Heap.content_of_le hs.le_heap hv, hs.trail_eq] at hr
    cases he : plans.entry op t v (h.content v) with
    | refused failure =>
      rw [he] at hr
      cases hr
    | met =>
      rw [he] at hr
      cases hr
      exact .met ha he
    | entered n f p =>
      rw [he] at hr
      -- The object is counted, its members are made on the trail with it, and its cell comes last.
      obtain ⟨_, s₁, hcount, hr⟩ := outcome_bind_eq_ok.mp hr
      cases hcount
      obtain ⟨fields, s₂, hbuild, hr⟩ := outcome_bind_eq_ok.mp hr
      cases hr
      rw [outcome_build] at hbuild
      obtain ⟨hc, -, -⟩ := Catalog.entry_eq_entered.mp he
      generalize hassign : outcome (DeepCopy.assign _ f (p.assignments op) .empty) _ = r at hbuild
      obtain ⟨r, s₃⟩ := r
      cases hbuild
      obtain ⟨made, rfl, hmade⟩ := Copies.exists_of_assign (t := op.trail t v) hh
        (Steady.cloneObject plans depth) (Heap.holds_get hh hc)
        (fun _ _ _ _ hw hcall => ih hw hcall) hassign
        ⟨hs.le_heap, congrArg (op.trail · v) hs.trail_eq⟩
        ((s₃.heap.le_alloc _).trans hg)
      rw [Heap.size_alloc]
      exact .object ha he hmade (Heap.cell?_of_le hg (Heap.cell?_alloc_size _ _))

end Cloning

/-! ## The operations -/

section Operations

variable {plans : Catalog} {v w : Value} {s s' : CloneState}

/-- Only objects are cloned. -/
theorem exists_object_of_cloneObject {depth : Nat} {op : Operation}
    (hr : outcome (cloneObject plans depth op v) s = (.ok w, s')) :
    ∃ typeName source, s.heap.content v = .cell (.object typeName source) := by
  rw [outcome_cloneObject] at hr
  cases he : plans.entry op s.trail v (s.heap.content v) with
  | refused failure =>
    rw [he] at hr
    cases depth <;> cases hr
  | met => exact (Catalog.entry_eq_met.mp he).1
  | entered n f p => exact ⟨n, f, (Catalog.entry_eq_entered.mp he).1⟩

theorem copied_of_cloneObject (hs : s.heap.Closed) (hv : s.heap.Holds v) {depth : Nat}
    {op : Operation} (hr : outcome (cloneObject plans depth op v) s = (.ok w, s')) :
    Copied plans s.heap s'.heap s.trail (.value (.call false op) v w) s.heap.size s'.heap.size := by
  obtain ⟨n, f, hc⟩ := exists_object_of_cloneObject hr
  have ha : (Accessor.call false op).action "" (s.heap.content v) = .call op := by
    rw [hc]
    rfl
  exact Copies.cloneObject hs depth hv ha s w s' ⟨le_rfl, rfl⟩ hr le_rfl

theorem exists_object_of_cloneFast (hr : outcome (cloneFast plans v) s = (.ok w, s')) :
    ∃ typeName source, s.heap.content v = .cell (.object typeName source) := by
  rw [outcome_cloneFast] at hr
  generalize hp : outcome (cloneObject plans _ .fast v) _ = p at hr
  obtain ⟨r, s₁⟩ := p
  cases hr
  have hobject := exists_object_of_cloneObject hp
  exact hobject

/-- What the fast operation makes, on no trail. -/
theorem copied_of_cloneFast (hs : s.heap.Closed) (hv : s.heap.Holds v)
    (hr : outcome (cloneFast plans v) s = (.ok w, s')) :
    Copied plans s.heap s'.heap {} (.value (.call false .fast) v w) s.heap.size s'.heap.size := by
  rw [outcome_cloneFast] at hr
  generalize hp : outcome (cloneObject plans _ .fast v) _ = p at hr
  obtain ⟨r, s₁⟩ := p
  cases hr
  have hc := copied_of_cloneObject (s := { s with trail := {} }) hs hv hp
  exact hc

/-- What the safe operation makes on the trail of its caller. -/
theorem copied_of_cloneSafeIn (hs : s.heap.Closed) (hv : s.heap.Holds v)
    (hr : outcome (cloneSafeIn plans v) s = (.ok w, s')) :
    Copied plans s.heap s'.heap s.trail (.value (.call false .safe) v w) s.heap.size
      s'.heap.size := by
  rw [outcome_cloneSafeIn] at hr
  exact copied_of_cloneObject hs hv hr

/-- What the safe operation makes on a trail of its own. -/
theorem copied_of_cloneSafe (hs : s.heap.Closed) (hv : s.heap.Holds v)
    (hr : outcome (cloneSafe plans v) s = (.ok w, s')) :
    Copied plans s.heap s'.heap {} (.value (.call false .safe) v w) s.heap.size s'.heap.size := by
  rw [outcome_cloneSafe] at hr
  generalize hp : outcome (cloneSafeIn plans v) _ = p at hr
  obtain ⟨r, s₁⟩ := p
  cases hr
  have hc := copied_of_cloneSafeIn (s := { s with trail := {} }) hs hv hp
  exact hc

end Operations

end DeepCopy
