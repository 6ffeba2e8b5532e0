import DeepCopy.Proofs.Cloning.Agreement
import DeepCopy.Proofs.Cloning.Finish
import DeepCopy.Proofs.Cloning.Steady

/-!
# Nested clones

While an object is cloned its members are, and so clones are nested in each other. At every moment
of a run the clones in progress form a chain in which each was begun by the one before; the states
in which they were begun are all that a chain says about the run. In a safe clone no object is
twice in such a chain, which bounds its length whatever the cycles are.

## Main definitions

* `Call`: an operation that takes a value in hand, with the state in which it does
* `Cloning.Makes`: the calls that evaluating an accessor comes to
* `Nests`: the calls that cloning an object comes to
* `InProgress plans root calls`: `calls` are in progress, the innermost first, at some moment of
  the run that `root` begins

## Main results

* `Makes.isFrom`: a call from an accessor is on something its value reaches
* `InProgress.length_add_card_le`: every clone in progress has one object fewer left to meet
* `cloneSafe_finishes`: a safe clone ends, and its nesting never exceeds the objects it can reach
-/

namespace DeepCopy

open Cloning

/-- An operation that takes a value in hand. -/
structure Call where
  operation : Operation
  value : Value
  state : CloneState

namespace Call

/-- What becomes of the value. -/
def entry (plans : Catalog) (c : Call) : Entry :=
  plans.entry c.operation c.state.trail c.value (c.state.heap.content c.value)

/-- The value is an object, and it is not passed on as it is. -/
def Passes (c : Call) : Prop :=
  (∃ n f, c.state.heap.content c.value = .cell (.object n f)) ∧
    ¬ (c.operation = .safe ∧ c.state.trail.contains c.value)

/-- The state in which the members of the object are cloned. -/
def begun (c : Call) : CloneState :=
  { c.state with
    trail := c.operation.trail c.state.trail c.value
    calls := c.state.calls + 1 }

end Call

/-- Evaluating an accessor for a member at a value, from a state, comes to a call. All that is done
before the call succeeds. -/
inductive Cloning.Makes (call : Operation → Value → Cloning Value) (member : String) :
    Accessor → Value → CloneState → Call → Prop
  | here {work : Accessor} {v : Value} {s : CloneState} {op : Operation}
      (ha : work.action member (s.heap.content v) = .call op) :
      Makes call member work v s ⟨op, v, s⟩
  | inner {work inner : Accessor} {v : Value} {s : CloneState} {c : Call}
      (ha : work.action member (s.heap.content v) = .inner inner)
      (hc : Makes call member inner v s c) :
      Makes call member work v s c
  | item {work element : Accessor} {v w : Value} {typeName : Option String}
      {before after made : List Value} {s s' : CloneState} {c : Call}
      (ha : work.action member (s.heap.content v) =
        .items element typeName (before ++ w :: after))
      (hb : outcome (each (evaluate call member element) before) s = (.ok made, s'))
      (hc : Makes call member element w s' c) :
      Makes call member work v s c
  | key {work key value : Accessor} {v : Value} {typeName : String} {e : Value × Value}
      {before after made : List (Value × Value)} {s s' : CloneState} {c : Call}
      (ha : work.action member (s.heap.content v) =
        .entries key value typeName (before ++ e :: after))
      (hb : outcome (eachEntry (evaluate call member key) (evaluate call member value) before) s =
        (.ok made, s'))
      (hc : Makes call member key e.1 s' c) :
      Makes call member work v s c
  | value {work key value : Accessor} {v k : Value} {typeName : String} {e : Value × Value}
      {before after made : List (Value × Value)} {s s' s'' : CloneState} {c : Call}
      (ha : work.action member (s.heap.content v) =
        .entries key value typeName (before ++ e :: after))
      (hb : outcome (eachEntry (evaluate call member key) (evaluate call member value) before) s =
        (.ok made, s'))
      (hk : outcome (evaluate call member key e.1) s' = (.ok k, s''))
      (hc : Makes call member value e.2 s'' c) :
      Makes call member work v s c

/-- Cloning the object of one call comes to another call: from the accessor of a member, when the
assignments before it have succeeded. -/
inductive Nests (plans : Catalog) (c d : Call) : Prop
  | intro {depth : Nat} {typeName : String} {source made : Fields} {p : Plan}
      {before after : List Assignment} {m : ClonedMember} {s : CloneState}
      (he : c.entry plans = .entered typeName source p)
      (hp : p.assignments c.operation = before ++ .cloned m :: after)
      (hb : outcome (assign (cloneObject plans depth) source before .empty) c.begun =
        (.ok made, s))
      (hd : Makes (cloneObject plans depth) m.name m.accessor (source.get m.name) s d)

/-- Calls are in progress, the innermost first, at some moment of the run that a call begins: the
value of each has passed the check of the trail, and cloning it came to the next. -/
inductive InProgress (plans : Catalog) (root : Call) : List Call → Prop
  | root (hr : root.Passes) : InProgress plans root [root]
  | nested {c d : Call} {calls : List Call} (hc : InProgress plans root (c :: calls))
      (hn : Nests plans c d) (hd : d.Passes) : InProgress plans root (d :: c :: calls)

/-! ## The calls of accessors -/

/-- What is known of a call that an accessor comes to at a value: it is on something that the value
reaches, the heap has only grown before it, and the trail is what it was. -/
structure Call.IsFrom (h : Heap) (t : Trail) (work : Accessor) (v : Value) (c : Call) : Prop where
  reaches : h.Reaches v c.value
  state : c.state.Extends h t
  operation_eq : ∀ op, work.targets op = true → c.operation = op

variable {h : Heap} {t : Trail} {member : String} {work : Accessor} {v : Value} {c : Call}

theorem Call.IsFrom.of_task {task : Accessor × Value}
    (ht : task ∈ (work.action member (h.content v)).tasks v) (hc : c.IsFrom h t task.1 task.2) :
    c.IsFrom h t work v where
  reaches := (Accessor.reaches_of_mem_tasks ht).trans hc.reaches
  state := hc.state
  operation_eq op hop :=
    hc.operation_eq op (Accessor.targets_of_mem_parts hop (Action.mem_parts_of_mem_tasks ht))

namespace Cloning

variable {call : Operation → Value → Cloning Value}

/-- **A call from an accessor** is on something that the accessor's value reaches. -/
theorem Makes.isFrom (hh : h.Closed) (hcall : ∀ op w, Steady (call op w)) {s : CloneState}
    (hc : Makes call member work v s c) (hs : s.Extends h t) (hv : h.Holds v) :
    c.IsFrom h t work v := by
  have hwork := fun work => Steady.evaluate hcall member work
  -- What was made before the call has only added to the heap, so that the values are the source's.
  induction hc with
  | here ha =>
    exact ⟨.refl, hs, fun op hop => Accessor.eq_of_targets hop ha⟩
  | @inner work inner v _ _ ha _ ih =>
    rw [Heap.content_of_le hs.le_heap hv] at ha
    have htask : (inner, v) ∈ (work.action member (h.content v)).tasks v := by
      rw [ha]; simp [Action.tasks]
    exact .of_task htask (ih hs hv)
  | @item work element v w _ before after _ _ _ _ ha hb _ ih =>
    rw [Heap.content_of_le hs.le_heap hv] at ha
    have hs' := ((Steady.each (hwork _) _).of_run hb).trans hs
    have htask : (element, w) ∈ (work.action member (h.content v)).tasks v := by
      rw [ha]; simp [Action.tasks]
    have hw := (Accessor.reaches_of_mem_tasks htask).holds hh hv
    exact .of_task htask (ih hs' hw)
  | @key work key value v _ e before after _ _ _ _ ha hb _ ih =>
    rw [Heap.content_of_le hs.le_heap hv] at ha
    have hs' := ((Steady.eachEntry (hwork _) (hwork _) _).of_run hb).trans hs
    have htask : (key, e.1) ∈ (work.action member (h.content v)).tasks v := by
      rw [ha]; simp [Action.tasks]
    have hw := (Accessor.reaches_of_mem_tasks htask).holds hh hv
    exact .of_task htask (ih hs' hw)
  | @value work key value v _ _ e before after _ _ _ _ _ ha hb hk _ ih =>
    rw [Heap.content_of_le hs.le_heap hv] at ha
    have hs' := ((Steady.eachEntry (hwork _) (hwork _) _).of_run hb).trans hs
    have hs'' := ((hwork _ _).of_run hk).trans hs'
    have htask : (value, e.2) ∈ (work.action member (h.content v)).tasks v := by
      rw [ha]; simp [Action.tasks]
    have hw := (Accessor.reaches_of_mem_tasks htask).holds hh hv
    exact .of_task htask (ih hs'' hw)

end Cloning

/-! ## The calls of safe clones -/

variable {plans : Catalog}

/-- What holds of a safe clone with `k` clones around it in the run that `v` begins: each of them
has taken one of the objects that `v` reaches out of those that may still be met. -/
structure Call.IsSafe (h : Heap) (v : Value) (k : Nat) (c : Call) : Prop where
  operation_eq : c.operation = .safe
  le_heap : h ≤ c.state.heap
  holds : h.Holds c.value
  objects_subset : h.objectsFrom c.value ⊆ h.objectsFrom v
  card_le : k + (h.unmetFrom c.state.trail c.value).card ≤ (h.objectsFrom v).card

/-- A clone past the check of the trail has its own object left to meet. -/
theorem Call.IsSafe.lt_card {k : Nat} (hc : c.IsSafe h v k) (hp : c.Passes) :
    k < (h.objectsFrom v).card := by
  obtain ⟨⟨n, f, hcont⟩, hm⟩ := hp
  rw [Heap.content_of_le hc.le_heap hc.holds] at hcont
  obtain ⟨a, hva, ha, hat⟩ := Heap.exists_unmet hcont fun ht => hm ⟨hc.operation_eq, ht⟩
  have hmem : a ∈ h.unmetFrom c.state.trail c.value :=
    Heap.mem_unmetFrom.mpr ⟨⟨ha, hva ▸ .refl⟩, hat⟩
  have hpos := Finset.card_pos.mpr ⟨a, hmem⟩
  have hle := hc.card_le
  omega

/-- **A call nested in a safe clone** is a safe clone with one object fewer left to meet. -/
theorem Nests.isSafe (hplans : plans.IsCompiled) (hh : h.Closed) {c d : Call} {k : Nat}
    (hn : Nests plans c d) (hc : c.IsSafe h v k) : d.IsSafe h v (k + 1) := by
  obtain ⟨he, hp, hb, hd⟩ := hn
  rename_i depth n f made p before after m s
  obtain ⟨hcont, hm, hpn⟩ := Catalog.entry_eq_entered.mp he
  rw [Heap.content_of_le hc.le_heap hc.holds] at hcont
  obtain ⟨a, hva, ha, hat⟩ := Heap.exists_unmet hcont fun ht => hm ⟨hc.operation_eq, ht⟩
  have hbegun : c.begun.Extends h (c.state.trail.push (.ref a)) :=
    ⟨hc.le_heap, by rw [Call.begun, hc.operation_eq, hva]; rfl⟩
  have hget := Heap.holds_get hh hcont m.name
  have hs := (Steady.assign (Steady.cloneObject plans depth) f before .empty).of_run hb
  have hfrom := hd.isFrom hh (Steady.cloneObject plans depth) (hs.trans hbegun) hget
  have hmem : .cloned m ∈ p.assignments c.operation := by
    rw [hp]; exact List.mem_append_right _ List.mem_cons_self
  have hsub := (Heap.objectsFrom_subset_of_reaches hfrom.reaches).trans
    (Heap.objectsFrom_get_subset hcont m.name)
  refine ⟨?_, hfrom.state.le_heap, hfrom.reaches.holds hh hget, hsub.trans hc.objects_subset, ?_⟩
  · rw [hfrom.operation_eq _ ((hplans n p hpn).targets hmem), hc.operation_eq]
  · have hlt := Heap.card_unmetFrom_lt ha (hva ▸ .refl) hat hsub
    have hle := hc.card_le
    rw [hfrom.state.trail_eq]
    omega

/-- **Every clone in progress has taken an object** out of those that the root may meet. -/
theorem InProgress.isSafe (hplans : plans.IsCompiled) (hh : h.Closed) {root c : Call}
    {calls : List Call} (hr : root.IsSafe h v 0) (hc : InProgress plans root (c :: calls)) :
    c.IsSafe h v calls.length ∧ c.Passes := by
  generalize hcs : c :: calls = cs at hc
  induction hc generalizing c calls with
  | root hp =>
    cases hcs
    exact ⟨hr, hp⟩
  | nested _ hn hd ih =>
    cases hcs
    exact ⟨hn.isSafe hplans hh (ih rfl).1, hd⟩

/-- **A safe clone ends**, whatever refers to whatever: it does not exceed the bound on nested
objects, every bound that allows for the objects that can be reached gives the same outcome, and at
no moment are more clones in progress than there are such objects. -/
theorem cloneSafe_finishes {ps : List Plan} (hps : ∀ p ∈ ps, p.IsCompiled) {s : CloneState}
    (hs : s.heap.Closed) {v : Value} (hv : s.heap.Holds v) :
    (outcome (cloneSafe (.ofList ps) v) s).1 ≠ .error .exhausted ∧
      (outcome (cloneSafeIn (.ofList ps) v) s).1 ≠ .error .exhausted ∧
      (∀ t depth, (s.heap.objectsFrom v).card ≤ depth →
        outcome (cloneObject (.ofList ps) depth .safe v) { s with trail := t } =
          outcome (cloneSafeIn (.ofList ps) v) { s with trail := t }) ∧
      ∀ t calls, InProgress (.ofList ps) ⟨.safe, v, { s with trail := t }⟩ calls →
        calls.length ≤ (s.heap.objectsFrom v).card := by
  have hp := Catalog.isCompiled_ofList hps
  have hcard := fun t => s.heap.card_unmetFrom_le t v
  have hlimit := s.heap.card_objectsFrom_le_depthLimit v
  have hext : ∀ t, CloneState.Extends { s with trail := t } s.heap t := fun t => ⟨le_rfl, rfl⟩
  have hfin : ∀ t, (outcome (cloneSafeIn (.ofList ps) v) { s with trail := t }).1 ≠
      .error .exhausted := fun t => by
    rw [outcome_cloneSafeIn]
    exact (Finishes.cloneObject hp hs hv ((hcard t).trans hlimit) _ (hext t)).2
  refine ⟨?_, hfin s.trail, fun t depth hd => ?_, fun t calls hc => ?_⟩
  · rw [outcome_cloneSafe]
    exact hfin {}
  · -- Both bounds are at least the number of objects, for which the outcome is within the bound.
    have hmin := (Finishes.cloneObject hp hs hv (hcard t) _ (hext t)).2
    have hlow := (Agrees.cloneObject_of_le hs hv hd _ (hext t)).2 hmin
    have hhigh := (Agrees.cloneObject_of_le hs hv hlimit _ (hext t)).2 hmin
    rw [outcome_cloneSafeIn]
    exact hlow.trans hhigh.symm
  · -- Every call in progress has taken an object out of those that the calls inside it may meet.
    cases calls with
    | nil => exact Nat.zero_le _
    | cons c calls =>
      have hroot : Call.IsSafe s.heap v 0 ⟨.safe, v, { s with trail := t }⟩ :=
        ⟨rfl, le_rfl, hv, Finset.Subset.refl _, by rw [Nat.zero_add]; exact hcard t⟩
      obtain ⟨hsafe, hpass⟩ := hc.isSafe hp hs hroot
      exact hsafe.lt_card hpass

/-- While the first node of the ring is cloned, its second peer is. -/
theorem exists_inProgress_nodeRing :
    ∃ calls, InProgress (.ofList [nodePlan]) ⟨.safe, .ref 0, { heap := nodeRing }⟩ calls ∧
      calls.length = 2 := by
  let outer : Call := ⟨.safe, .ref 0, { heap := nodeRing }⟩
  let inner : Call := ⟨.safe, .ref 1, { heap := nodeRing, trail := ⟨[0]⟩, calls := 1 }⟩
  let source : Fields :=
    .ofList [("Label", .text "a"), ("Peers", .ref 2), ("Next", .ref 1), ("Owner", .ref 3)]
  have he : outer.entry (.ofList [nodePlan]) = .entered "Node" source nodePlan := rfl
  have hp : nodePlan.assignments .safe = [.cloned ⟨"Label", .copy⟩] ++
      .cloned ⟨"Peers", .array (.call false .safe)⟩ ::
        [.cloned ⟨"Next", .call true .safe⟩, .kept "Owner"] := rfl
  have hpeers : (Accessor.array (.call false .safe)).action "Peers"
      (inner.state.heap.content (source.get "Peers")) =
        .items (.call false .safe) none ([.ref 0] ++ .ref 1 :: []) := by decide +kernel
  -- The first peer is the node that is being cloned already.
  have hmet : outcome (each (evaluate (cloneObject (.ofList [nodePlan]) 0) "Peers"
      (.call false .safe)) [.ref 0]) inner.state = (.ok [.ref 0], inner.state) := by decide +kernel
  have hmakes : Makes (cloneObject (.ofList [nodePlan]) 0) "Peers" (.array (.call false .safe))
      (source.get "Peers") inner.state inner := .item hpeers hmet (.here (by decide +kernel))
  have hnests : Nests (.ofList [nodePlan]) outer inner := .intro he hp rfl hmakes
  have houter : outer.Passes := ⟨⟨"Node", source, rfl⟩, by decide⟩
  have hinner : inner.Passes := ⟨⟨"Node", _, rfl⟩, by decide⟩
  exact ⟨[inner, outer], .nested (.root houter) hnests hinner, rfl⟩

/-- In the ring of two nodes two clones are nested and no more, whatever is on the trail. -/
theorem cloneSafe_finishes_nodeRing :
    (∀ p ∈ [nodePlan], p.IsCompiled) ∧ nodeRing.Closed ∧ nodeRing.Holds (.ref 0) ∧
      (outcome (cloneSafe (.ofList [nodePlan]) (.ref 0)) { heap := nodeRing }).1 ≠
        .error .exhausted ∧
      (∀ t calls,
        InProgress (.ofList [nodePlan]) ⟨.safe, .ref 0, { heap := nodeRing, trail := t }⟩ calls →
        calls.length ≤ 2) ∧
      ∃ calls, InProgress (.ofList [nodePlan]) ⟨.safe, .ref 0, { heap := nodeRing }⟩ calls ∧
        calls.length = 2 := by
  have hclosed : nodeRing.Closed := by decide +kernel
  have hholds : nodeRing.Holds (.ref 0) := Heap.holds_ref.mpr (by decide)
  obtain ⟨hsafe, -, -, hlength⟩ :=
    cloneSafe_finishes isCompiled_of_mem_nodePlan (s := { heap := nodeRing }) hclosed hholds
  have hcard : (nodeRing.objectsFrom (.ref 0)).card ≤ 2 := by
    have hsub : nodeRing.objectsFrom (.ref 0) ⊆ {0, 1} := by
      intro a ha
      obtain ⟨⟨n, f, hc⟩, -⟩ := Heap.mem_objectsFrom.mp ha
      rcases a with _ | _ | _ | _ | a
      · simp
      · simp
      all_goals cases hc
    exact Finset.card_le_card hsub
  exact ⟨isCompiled_of_mem_nodePlan, hclosed, hholds, hsafe,
    fun t calls hc => (hlength t calls hc).trans hcard, exists_inProgress_nodeRing⟩

end DeepCopy
