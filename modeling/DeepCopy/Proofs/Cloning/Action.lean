import DeepCopy.Proofs.Cloning.Run
import DeepCopy.Proofs.Heap.Reach
import DeepCopy.Proofs.Plan.Compiled

/-!
# What an accessor does with a value

The next thing that an accessor does depends on what the value is and on nothing else. Taking an
object in hand depends on the trail besides. Both are told here apart from what then happens to
the state, so that proofs split into one case for each thing that can happen.

## Main definitions

* `Accessor.action`, `Cloning.perform`: what an accessor does next, and doing it
* `Catalog.entry`, `Cloning.enter`: what becomes of an object in hand, and doing it

## Main results

* `outcome_evaluate`, `outcome_cloneObject`: evaluating and cloning are these steps
* `Accessor.action_induction`: induction along the accessors that come next
* `evaluate_retarget`, `assign_retarget`: retargeted calls are the calls of one operation
* `Plan.IsCompiled.assign_eq`: compiled plans call one operation only
-/

namespace DeepCopy

open Cloning

/-! ## Accessors -/

/-- The container of some items: a sequence of a type, or an array where there is none. -/
def Cell.container : Option String → List Value → Cell
  | none, items => .array items
  | some typeName, items => .sequence typeName items

@[simp] theorem Cell.values_container (typeName : Option String) (items : List Value) :
    (Cell.container typeName items).values = items := by
  cases typeName <;> rfl

theorem Cell.container_injective {typeName typeName' : Option String} {vs ws : List Value}
    (hc : Cell.container typeName vs = .container typeName' ws) : vs = ws := by
  rw [← values_container typeName vs, hc, values_container]

/-- What an accessor does next with a value. -/
inductive Action where
  /-- The value itself is the result. -/
  | keep
  | null
  | refuse (failure : CloneFailure)
  | call (operation : Operation)
  | inner (work : Accessor)
  | items (element : Accessor) (typeName : Option String) (items : List Value)
  | entries (key value : Accessor) (typeName : String) (entries : List (Value × Value))
  deriving DecidableEq

/-- The accessors that an action goes on with. -/
def Action.parts : Action → List Accessor
  | .inner work => [work]
  | .items element _ _ => [element]
  | .entries key value _ _ => [key, value]
  | _ => []

/-- The accessors that an action on a value goes on with, each with a value that it makes another
of. -/
def Action.tasks (v : Value) : Action → List (Accessor × Value)
  | .inner work => [(work, v)]
  | .items element _ vs => vs.map fun w => (element, w)
  | .entries key value _ es => es.flatMap fun e => [(key, e.1), (value, e.2)]
  | _ => []

/-- What an accessor and a value are like of which an action is what comes next. -/
def Action.ComesFrom (work : Accessor) (c : Content) : Action → Prop
  | .keep => work = .copy ∨ work = .passOn
  | .null => c = .scalar .null
  | .refuse _ => True
  | .call op => c ≠ .scalar .null ∧ ∃ nullable, work = .call nullable op
  | .inner part => c ≠ .scalar .null ∧ work = .guarded part
  | .items _ typeName vs => c = .cell (.container typeName vs)
  | .entries _ _ typeName es => c = .cell (.mapping typeName es)

theorem Action.mem_tasks_entries {key value : Accessor} {typeName : String}
    {es : List (Value × Value)} {v : Value} {task : Accessor × Value} :
    task ∈ (Action.entries key value typeName es).tasks v ↔
      ∃ e ∈ es, task = (key, e.1) ∨ task = (value, e.2) := by
  simp [tasks]

theorem Action.mem_parts_of_mem_tasks {a : Action} {v : Value} {task : Accessor × Value}
    (ht : task ∈ a.tasks v) : task.1 ∈ a.parts := by
  cases a with
  | keep | null | refuse | call => cases ht
  | inner work =>
    rw [List.mem_singleton.mp ht]
    exact List.mem_cons_self
  | items element typeName vs =>
    obtain ⟨w, -, rfl⟩ := List.mem_map.mp ht
    exact List.mem_cons_self
  | entries key value typeName es =>
    obtain ⟨e, -, rfl | rfl⟩ := Action.mem_tasks_entries.mp ht
    · exact List.mem_cons_self
    · exact List.mem_cons_of_mem _ List.mem_cons_self

/-- What an accessor of a member does next, told by what the value is. -/
def Accessor.action (member : String) : Accessor → Content → Action
  | .copy, _ | .passOn, _ => .keep
  | .call nullable op, c =>
    if c = .scalar .null then if nullable then .null else .refuse (.nullReference member)
    else .call op
  | .guarded inner, c => if c = .scalar .null then .null else .inner inner
  | .array element, .cell (.array items) => .items element none items
  | .array _, c => .refuse (mismatch member .array c)
  | .sequence _ element _, .cell (.sequence typeName items) =>
    .items element (some typeName) items
  | .sequence _ _ _, c => .refuse (mismatch member .sequence c)
  | .project element, .cell (.sequence typeName items) => .items element (some typeName) items
  | .project element, .cell (.array items) => .items element none items
  | .project _, c => .refuse (mismatch member .sequence c)
  | .map _ _ _ key value _, .cell (.mapping typeName entries) => .entries key value typeName entries
  | .map _ _ _ _ _ _, c => .refuse (mismatch member .mapping c)

namespace Cloning

/-- Doing what comes next. -/
def perform (call : Operation → Value → Cloning Value) (member : String) (v : Value) :
    Action → Cloning Value
  | .keep => pure v
  | .null => pure .null
  | .refuse failure => fail failure
  | .call op => call op v
  | .inner work => evaluate call member work v
  | .items element typeName items =>
    each (evaluate call member element) items >>= fun made => alloc (.container typeName made)
  | .entries key value typeName entries =>
    eachEntry (evaluate call member key) (evaluate call member value) entries >>=
      fun made => alloc (.mapping typeName made)

end Cloning

/-- **Evaluating an accessor** is doing what it does next with the value as it is. -/
theorem outcome_evaluate (call : Operation → Value → Cloning Value) (member : String)
    (work : Accessor) (v : Value) (s : CloneState) :
    outcome (evaluate call member work v) s =
      outcome (perform call member v (work.action member (s.heap.content v))) s := by
  cases work with
  | copy => rfl
  | passOn => rfl
  | call nullable op =>
    simp only [evaluate, outcome_bind, outcome_look, Accessor.action]
    split
    · next hc => cases nullable <;> simp [hc, perform]
    · next hc => rw [if_neg (by simpa using hc)]; rfl
  | guarded inner =>
    simp only [evaluate, outcome_bind, outcome_look, Accessor.action]
    split
    · next hc => simp [hc, perform]
    · next hc => rw [if_neg (by simpa using hc)]; rfl
  | _ =>
    simp only [evaluate, outcome_bind, outcome_look]
    rcases s.heap.content v with x | ⟨n, f⟩ | xs | ⟨n, xs⟩ | ⟨n, es⟩ <;> rfl

theorem evaluate_eq (call : Operation → Value → Cloning Value) (member : String) (work : Accessor)
    (v : Value) :
    evaluate call member work v =
      look v >>= fun c => perform call member v (work.action member c) := by
  refine ext_outcome fun s => ?_
  rw [outcome_evaluate, outcome_bind, outcome_look]

namespace Accessor

variable {member : String} {op : Operation} {work : Accessor} {c : Content}

/-- **What comes next tells** what the accessor and the value are like. -/
theorem action_comesFrom (member : String) (work : Accessor) (c : Content) :
    (work.action member c).ComesFrom work c := by
  fun_cases action member work c <;> simp_all [Action.ComesFrom, Cell.container]

theorem eq_of_action_keep (ha : work.action member c = .keep) : work = .copy ∨ work = .passOn := by
  have h := action_comesFrom member work c
  rwa [ha] at h

theorem eq_of_action_null (ha : work.action member c = .null) : c = .scalar .null := by
  have h := action_comesFrom member work c
  rwa [ha] at h

theorem eq_of_action_call (ha : work.action member c = .call op) :
    c ≠ .scalar .null ∧ ∃ nullable, work = .call nullable op := by
  have h := action_comesFrom member work c
  rwa [ha] at h

theorem eq_of_action_inner {inner : Accessor} (ha : work.action member c = .inner inner) :
    c ≠ .scalar .null ∧ work = .guarded inner := by
  have h := action_comesFrom member work c
  rwa [ha] at h

theorem eq_of_action_items {element : Accessor} {typeName : Option String} {vs : List Value}
    (ha : work.action member c = .items element typeName vs) :
    c = .cell (.container typeName vs) := by
  have h := action_comesFrom member work c
  rwa [ha] at h

theorem eq_of_action_entries {key value : Accessor} {typeName : String}
    {es : List (Value × Value)} (ha : work.action member c = .entries key value typeName es) :
    c = .cell (.mapping typeName es) := by
  have h := action_comesFrom member work c
  rwa [ha] at h

/-- The name of the member shows in refusals only. -/
theorem action_congr {a : Action} (ha : work.action member c = a) (hr : ∀ f, a ≠ .refuse f)
    (member' : String) : work.action member' c = a := by
  subst ha
  fun_cases action member work c <;> simp_all [action]

/-- An accessor that takes a container of some items apart does so with other items. -/
theorem action_container {element : Accessor} {typeName : Option String} {vs : List Value}
    (ha : work.action member (.cell (.container typeName vs)) = .items element typeName vs)
    (member' : String) (ws : List Value) :
    work.action member' (.cell (.container typeName ws)) = .items element typeName ws := by
  cases work <;> cases typeName <;> simp_all [action, Cell.container]

/-- An accessor that takes a mapping of some entries apart does so with other entries. -/
theorem action_mapping {key value : Accessor} {typeName : String} {es : List (Value × Value)}
    (ha : work.action member (.cell (.mapping typeName es)) = .entries key value typeName es)
    (member' : String) (fs : List (Value × Value)) :
    work.action member' (.cell (.mapping typeName fs)) = .entries key value typeName fs := by
  cases work <;> simp_all [action]

/-- An accessor goes on with accessors that it contains. -/
theorem sizeOf_lt_of_mem_parts {part : Accessor} (hp : part ∈ (work.action member c).parts) :
    sizeOf part < sizeOf work := by
  revert hp
  fun_cases action member work c <;> simp [Action.parts]
  case case15 => rintro (rfl | rfl) <;> omega
  all_goals
    rintro rfl
    omega

/-- **Induction along the accessors that come next**: what holds of an accessor whenever it holds
of all that it can go on with holds of every accessor. -/
theorem action_induction {P : Accessor → Prop}
    (step : ∀ work : Accessor, (∀ member c, ∀ part ∈ (work.action member c).parts, P part) → P work)
    (work : Accessor) : P work :=
  step work fun _ _ part hp =>
    have := sizeOf_lt_of_mem_parts hp
    action_induction step part
termination_by sizeOf work

theorem targets_of_mem_parts (ht : work.targets op = true) {part : Accessor}
    (hp : part ∈ (work.action member c).parts) : part.targets op = true := by
  revert hp
  fun_cases action member work c <;> simp_all [Action.parts, targets]
  rintro (rfl | rfl)
  · exact ht.1
  · exact ht.2

theorem eq_of_targets {site : Operation} (ht : work.targets op = true)
    (ha : work.action member c = .call site) : site = op := by
  obtain ⟨-, nullable, rfl⟩ := eq_of_action_call ha
  exact beq_iff_eq.mp ht

/-- An accessor goes on with its own value or with those in its cell. -/
theorem eq_or_mem_of_mem_tasks {v : Value} {task : Accessor × Value}
    (ht : task ∈ (work.action member c).tasks v) :
    task.2 = v ∨ ∃ cell, c = .cell cell ∧ task.2 ∈ cell.values := by
  rcases ha : work.action member c with - | - | f | op | inner | ⟨el, n, vs⟩ | ⟨k, w, n, es⟩
    <;> rw [ha] at ht
  case inner => exact .inl (congrArg Prod.snd (List.mem_singleton.mp ht))
  case items =>
    obtain ⟨w, hw, rfl⟩ := List.mem_map.mp ht
    exact .inr ⟨_, eq_of_action_items ha, (Cell.values_container n vs).symm ▸ hw⟩
  case entries =>
    obtain ⟨e, he, hw⟩ := Action.mem_tasks_entries.mp ht
    refine .inr ⟨_, eq_of_action_entries ha, Cell.mem_values_mapping.mpr ⟨e, he, ?_⟩⟩
    exact hw.imp (congrArg Prod.snd) (congrArg Prod.snd)
  all_goals cases ht

/-- The values that an accessor goes on with are found from its value. -/
theorem reaches_of_mem_tasks {h : Heap} {v : Value} {task : Accessor × Value}
    (ht : task ∈ (work.action member (h.content v)).tasks v) : h.Reaches v task.2 := by
  rcases eq_or_mem_of_mem_tasks ht with heq | ⟨cell, hcell, hmem⟩
  · exact heq ▸ .refl
  · exact .single ⟨cell, hcell, hmem⟩

/-- **Induction along the tasks that come next**, on a heap in which the values are found. -/
theorem task_induction {P : Accessor → Value → Prop} (h : Heap) (member : String)
    (step : ∀ work v, (∀ task ∈ (work.action member (h.content v)).tasks v, P task.1 task.2) →
      P work v) (work : Accessor) (v : Value) : P work v := by
  induction work using action_induction generalizing v with
  | step work ih =>
    exact step work v fun task ht => ih _ _ _ (Action.mem_parts_of_mem_tasks ht) task.2

end Accessor

/-- Retargeted calls are calls of one operation. -/
theorem evaluate_retarget (call : Operation → Value → Cloning Value) (member : String)
    (op : Operation) (work : Accessor) :
    evaluate call member (work.retarget op) = evaluate (fun _ => call op) member work := by
  funext v
  induction work generalizing v with
  | copy | passOn => rfl
  | call nullable site => rfl
  | guarded inner ih => simp only [Accessor.retarget, evaluate, ih]
  | array element ih => simp only [Accessor.retarget, evaluate, funext ih]
  | sequence container element strategy ih =>
    simp only [Accessor.retarget, evaluate, funext ih]
  | map container keyType valueType key value strategy ihk ihv =>
    simp only [Accessor.retarget, evaluate, funext ihk, funext ihv]
  | project element ih => simp only [Accessor.retarget, evaluate, funext ih]

theorem assign_retarget (call : Operation → Value → Cloning Value) (source : Fields)
    (op : Operation) (as : List Assignment) (made : Fields) :
    assign call source (as.map (Assignment.retarget op)) made =
      assign (fun _ => call op) source as made := by
  induction as generalizing made with
  | nil => rfl
  | cons a as ih =>
    cases a with
    | kept name => exact ih _
    | cloned m =>
      simp only [List.map_cons, Assignment.retarget, assign, evaluate_retarget, ih]

/-- The assignments of a compiled plan call one operation only. -/
theorem Plan.IsCompiled.assign_eq {p : Plan} (hp : p.IsCompiled)
    (call : Operation → Value → Cloning Value) (source : Fields) (o op : Operation)
    (made : Fields) :
    assign call source (p.assignments op) made =
      assign (fun _ => call op) source (p.assignments o) made := by
  rw [hp.assignments_retarget o op, assign_retarget]

/-! ## Objects -/

/-- What becomes of a value that an operation takes in hand. -/
inductive Entry where
  | refused (failure : CloneFailure)
  /-- The object is being cloned already. -/
  | met
  /-- The members of the object are cloned by the plan. -/
  | entered (typeName : String) (source : Fields) (plan : Plan)

/-- What becomes of a value that an operation takes in hand, told by the trail and by what the
value is. -/
def Catalog.entry (plans : Catalog) (op : Operation) (t : Trail) (v : Value) : Content → Entry
  | .cell (.object typeName source) =>
    if op = .safe ∧ t.contains v then .met
    else
      match plans.get? typeName with
      | none => .refused (.missingPlan typeName)
      | some p => .entered typeName source p
  | found => .refused (.notCloneable found.kind)

namespace Catalog

variable {plans : Catalog} {op : Operation} {t : Trail} {v : Value} {c : Content}

/-- What an object must be like to be cloned by a plan. -/
theorem entry_eq_entered {n : String} {f : Fields} {p : Plan} :
    plans.entry op t v c = .entered n f p ↔
      c = .cell (.object n f) ∧ ¬ (op = .safe ∧ t.contains v) ∧ plans.get? n = some p := by
  constructor
  · intro he
    rcases c with x | ⟨m, g⟩ | xs | ⟨m, xs⟩ | ⟨m, es⟩ <;> simp only [entry] at he
    case cell.object =>
      split at he
      · contradiction
      · next hm =>
        split at he
        · contradiction
        · next q hq =>
          cases he
          exact ⟨rfl, hm, hq⟩
    all_goals contradiction
  · rintro ⟨rfl, hm, hp⟩
    simp [entry, hm, hp]

theorem entry_eq_met : plans.entry op t v c = .met ↔
    (∃ n f, c = .cell (.object n f)) ∧ op = .safe ∧ t.contains v := by
  constructor
  · intro he
    rcases c with x | ⟨m, g⟩ | xs | ⟨m, xs⟩ | ⟨m, es⟩ <;> simp only [entry] at he
    case cell.object =>
      split at he
      · next hm => exact ⟨⟨m, g, rfl⟩, hm⟩
      · split at he <;> contradiction
    all_goals contradiction
  · rintro ⟨⟨n, f, rfl⟩, hm⟩
    simp [entry, hm]

end Catalog

/-- The trail while the members of an object are cloned. -/
def Operation.trail (op : Operation) (t : Trail) (v : Value) : Trail :=
  match op with
  | .fast => t
  | .safe => t.push v

namespace Cloning

/-- The fields of a copy; a safe operation has the object on the trail while it makes them. -/
def build (call : Operation → Value → Cloning Value) (op : Operation) (v : Value)
    (source : Fields) (p : Plan) : Cloning Fields :=
  let made := assign call source (p.assignments op) .empty
  if op = .safe then onTrail v made else made

theorem outcome_build (call : Operation → Value → Cloning Value) (op : Operation) (v : Value)
    (source : Fields) (p : Plan) (s : CloneState) :
    outcome (build call op v source p) s =
      let r := outcome (assign call source (p.assignments op) .empty)
        { s with trail := op.trail s.trail v }
      (r.1, { r.2 with trail := if op = .safe then r.2.trail.pop else r.2.trail }) := by
  cases op <;> rfl

/-- Doing what becomes of a value in hand, as long as objects may be nested. -/
def enter (plans : Catalog) (op : Operation) (v : Value) : Nat → Entry → Cloning Value
  | _, .refused failure => fail failure
  | _, .met => pure v
  | 0, .entered _ _ _ => throw .exhausted
  | depth + 1, .entered typeName source p => do
    count
    let made ← build (cloneObject plans depth) op v source p
    alloc (.object typeName made)

end Cloning

/-- **Cloning an object** is doing what becomes of it in the state as it is. -/
theorem outcome_cloneObject (plans : Catalog) (depth : Nat) (op : Operation) (v : Value)
    (s : CloneState) :
    outcome (cloneObject plans depth op v) s =
      outcome (enter plans op v depth (plans.entry op s.trail v (s.heap.content v))) s := by
  rw [cloneObject]
  simp only [outcome_bind, outcome_look]
  rcases s.heap.content v with x | ⟨n, f⟩ | xs | ⟨n, xs⟩ | ⟨n, es⟩
  case cell.object =>
    simp only [outcome_get_bind, Catalog.entry]
    by_cases hm : op = .safe ∧ s.trail.contains v
    · simp [hm, enter]
    · simp only [if_neg hm]
      rcases plans.get? n with - | p
      · simp [hm, enter]
      · cases depth with
        | zero => simp [hm, enter]
        | succ depth => cases op <;> simp_all [enter, build]
  all_goals cases depth <;> rfl

/-! ## The operations -/

theorem outcome_cloneSafeIn (plans : Catalog) (v : Value) (s : CloneState) :
    outcome (cloneSafeIn plans v) s =
      outcome (cloneObject plans (depthLimit s.heap) .safe v) s := by
  rw [cloneSafeIn, outcome_get_bind]

theorem outcome_cloneSafe (plans : Catalog) (v : Value) (s : CloneState) :
    outcome (cloneSafe plans v) s =
      let p := outcome (cloneSafeIn plans v) { s with trail := {} }
      (p.1, { p.2 with trail := s.trail }) := by
  rw [cloneSafe, outcome_onFreshTrail]

theorem outcome_cloneFast (plans : Catalog) (v : Value) (s : CloneState) :
    outcome (cloneFast plans v) s =
      let p := outcome (cloneObject plans (depthLimit s.heap) .fast v) { s with trail := {} }
      (p.1, { p.2 with trail := s.trail }) := by
  rw [cloneFast, outcome_onFreshTrail, outcome_get_bind]

end DeepCopy
