import DeepCopy.Proofs.Cloning.Action
import DeepCopy.Proofs.Heap.Reach

/-!
# Compositional relations

Much of what is true of a clone operation is true of every single step that it takes, and stays true
when steps follow each other. Such a property of computations, or relation between two of them, is
`Compositional`; it then holds of everything that accessors and assignments do, as soon as it holds
of the calls in them. What is shown here once serves for all of them.

## Main definitions

* `Compositional sees P`: single steps are related by `P`, and so are sequences of related
  computations; after a look at a value they need to be related only for the contents that `sees`
  allows

## Main results

* `Compositional.each`, `Compositional.eachEntry`: doing the same for values in order
* `Compositional.evaluate`, `Compositional.assign`: accessors and assignments are related if their
  calls are
-/

namespace DeepCopy

open Cloning

/-- A relation between computations that single steps have and sequences keep. -/
structure Compositional (sees : Value → Content → Prop)
    (P : ∀ α : Type, Cloning α → Cloning α → Prop) : Prop where
  pure {α : Type} (a : α) : P α (pure a) (pure a)
  fail {α : Type} (f : CloneFailure) : P α (fail f) (fail f)
  alloc (c : Cell) : P Value (alloc c) (alloc c)
  look {α : Type} {v : Value} {k l : Content → Cloning α}
    (hkl : ∀ c, sees v c → P α (k c) (l c)) : P α (look v >>= k) (look v >>= l)
  bind {α β : Type} {x y : Cloning α} {k l : α → Cloning β} (hxy : P α x y)
    (hkl : ∀ a, P β (k a) (l a)) : P β (x >>= k) (y >>= l)

namespace Compositional

variable {sees : Value → Content → Prop} {P : ∀ α : Type, Cloning α → Cloning α → Prop}

theorem each (hP : Compositional sees P) {f g : Value → Cloning Value} {vs : List Value}
    (hfg : ∀ v ∈ vs, P Value (f v) (g v)) : P _ (each f vs) (each g vs) := by
  induction vs with
  | nil => exact hP.pure _
  | cons v vs ih =>
    have hvs := ih fun w hw => hfg w (List.mem_cons_of_mem _ hw)
    exact hP.bind (hfg v List.mem_cons_self) fun w => hP.bind hvs fun ws => hP.pure _

theorem eachEntry (hP : Compositional sees P) {k l m n : Value → Cloning Value}
    {es : List (Value × Value)} (hkl : ∀ e ∈ es, P Value (k e.1) (l e.1))
    (hmn : ∀ e ∈ es, P Value (m e.2) (n e.2)) :
    P _ (eachEntry k m es) (eachEntry l n es) := by
  induction es with
  | nil => exact hP.pure _
  | cons e es ih =>
    have hes := ih (fun d hd => hkl d (List.mem_cons_of_mem _ hd))
      fun d hd => hmn d (List.mem_cons_of_mem _ hd)
    exact hP.bind (hkl e List.mem_cons_self) fun key =>
      hP.bind (hmn e List.mem_cons_self) fun value => hP.bind hes fun ds => hP.pure _

variable {f g : Operation → Value → Cloning Value}

/-- Every action is related if the calls and the tasks that it goes on with are. -/
theorem perform (hP : Compositional sees P) {member : String} {v : Value} {a : Action}
    (hcall : ∀ op, P Value (f op v) (g op v))
    (htask : ∀ task ∈ a.tasks v,
      P Value (evaluate f member task.1 task.2) (evaluate g member task.1 task.2)) :
    P Value (perform f member v a) (perform g member v a) := by
  cases a with
  | keep => exact hP.pure v
  | null => exact hP.pure Value.null
  | refuse failure => exact hP.fail failure
  | call op => exact hcall op
  | inner work => exact htask (work, v) (by simp [Action.tasks])
  | items element typeName vs =>
    refine hP.bind (hP.each fun w hw => ?_) fun made => hP.alloc _
    exact htask (element, w) (List.mem_map.mpr ⟨w, hw, rfl⟩)
  | entries key value typeName es =>
    refine hP.bind (hP.eachEntry (fun e he => ?_) fun e he => ?_) fun made => hP.alloc _
    · exact htask (key, e.1) (Action.mem_tasks_entries.mpr ⟨e, he, .inl rfl⟩)
    · exact htask (value, e.2) (Action.mem_tasks_entries.mpr ⟨e, he, .inr rfl⟩)

variable {I : Value → Prop}

/-- **Accessors are related if the calls in them are**, on all values of a kind that looking into
values does not leave. -/
theorem evaluate (hP : Compositional sees P)
    (hI : ∀ v cell w, I v → sees v (.cell cell) → w ∈ cell.values → I w)
    (hcall : ∀ op w, I w → P Value (f op w) (g op w)) (member : String) (work : Accessor)
    {v : Value} (hv : I v) :
    P Value (evaluate f member work v) (evaluate g member work v) := by
  induction work using Accessor.action_induction generalizing v with
  | step work ih =>
    rw [evaluate_eq, evaluate_eq]
    refine hP.look fun c hc => hP.perform (fun op => hcall op v hv) fun task ht => ?_
    refine ih member c task.1 (Action.mem_parts_of_mem_tasks ht) ?_
    rcases Accessor.eq_or_mem_of_mem_tasks ht with heq | ⟨cell, rfl, hmem⟩
    · exact heq ▸ hv
    · exact hI v cell task.2 hv hc hmem

theorem assign (hP : Compositional sees P)
    (hI : ∀ v cell w, I v → sees v (.cell cell) → w ∈ cell.values → I w)
    (hcall : ∀ op w, I w → P Value (f op w) (g op w)) {source : Fields}
    (hsource : ∀ key, I (source.get key)) (as : List Assignment) (made : Fields) :
    P Fields (assign f source as made) (assign g source as made) := by
  induction as generalizing made with
  | nil => exact hP.pure made
  | cons a as ih =>
    cases a with
    | kept name => exact ih _
    | cloned m =>
      rw [DeepCopy.assign, DeepCopy.assign]
      exact hP.bind (hP.evaluate hI hcall m.name m.accessor (hsource m.name)) fun w => ih _

/-- Where looks show what the values are in `h`, assignments are related if the calls on all that
the fields reach are. -/
theorem assign_of_reaches {h : Heap} (hP : Compositional h.Shows P) (hh : h.Closed)
    {source : Fields} (hsource : ∀ key, h.Holds (source.get key))
    (hcall : ∀ op key w, h.Reaches (source.get key) w → P Value (f op w) (g op w))
    (as : List Assignment) (made : Fields) :
    P Fields (DeepCopy.assign f source as made) (DeepCopy.assign g source as made) := by
  refine hP.assign (I := fun w => ∃ key, h.Reaches (source.get key) w) ?_
    (fun op w ⟨key, hw⟩ => hcall op key w hw) (fun key => ⟨key, .refl⟩) as made
  rintro v cell w ⟨key, hv⟩ hc hw
  have hcell := hc (hv.holds hh (hsource key))
  exact ⟨key, hv.tail ⟨cell, hcell.symm, hw⟩⟩

end Compositional

end DeepCopy
