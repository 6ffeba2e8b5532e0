import DeepCopy.Proofs.Cloning.Action
import DeepCopy.Proofs.Heap.Fields

/-!
# What a catalog finds

A catalog has two kinds of names for its plans, and they are replaced by opposite rules: a full name
goes to the plan that was added last, a simple name to the one that was added first, and only where
no plan has it as its full name. What is found under a name is told by the history of the catalog
alone.

The two names of one plan need not lead to one plan: a newer plan of a type takes over the full name
and leaves the simple one.

## Main results

* `get?_insert`: what one more plan changes
* `get?_foldl_insert`: what a history of plans changes
* `found_by_history`: what is found after a history of plans
* `found_by_fullName`: when the names of a plan lead to one plan
-/

namespace DeepCopy

namespace Catalog

/-- The last of some plans that has a full name. -/
def lastOf (ps : List Plan) (fullName : String) : Option Plan :=
  (ps.filter (·.fqn = fullName)).getLast?

/-- The first of some plans that has a simple name. -/
def firstOf (ps : List Plan) (simpleName : String) : Option Plan :=
  (ps.filter (·.typeName = simpleName)).head?

/-! ## Adding plans -/

/-- **A plan takes its full name from whatever had it**, and its simple name if nothing has it. -/
theorem get?_insert (c : Catalog) (p : Plan) (name : String) :
    (c.insert p).get? name =
      if p.fqn = name then some p
      else (c.get? name).or (if p.typeName = name then some p else none) := by
  have hfull (key : String) : ((p.fqn, p) :: c.names).lookup key =
      if p.fqn = key then some p else c.get? key := by
    rw [lookup_cons_eq_ite]
    simp only [eq_comm, get?]
  have hsimple : ((p.typeName, p) :: (p.fqn, p) :: c.names).lookup name =
      if p.typeName = name then some p else if p.fqn = name then some p else c.get? name := by
    rw [lookup_cons_eq_ite, hfull]
    simp only [eq_comm]
  rw [get?, insert]
  dsimp only
  rw [hfull, apply_ite (List.lookup name), hfull, hsimple]
  by_cases hname : p.typeName = name
  · by_cases hfqn : p.fqn = name
    · simp [hname, hfqn]
    · -- Only the simple name leads to the new plan, and only if it led nowhere before.
      cases hc : c.get? name <;> simp [hname, hfqn, hc]
  · simp [hname]

theorem get?_empty (name : String) : ({} : Catalog).get? name = none := rfl

/-- **What a history of plans changes**: a name leads to the last plan that has it as its full name,
else to where it led before, else to the first plan that has it as its simple name. -/
theorem get?_foldl_insert (c : Catalog) (ps : List Plan) (name : String) :
    (ps.foldl insert c).get? name =
      (lastOf ps name).or ((c.get? name).or (firstOf ps name)) := by
  induction ps generalizing c with
  | nil => simp [lastOf, firstOf]
  | cons p ps ih =>
    rw [List.foldl_cons, ih, get?_insert]
    by_cases hfqn : p.fqn = name
    · have hlast : lastOf (p :: ps) name = (lastOf ps name).or (some p) := by
        simp [lastOf, hfqn, List.getLast?_cons]
      rw [hlast, if_pos hfqn, Option.or_assoc]
      rfl
    · have hlast : lastOf (p :: ps) name = lastOf ps name := by
        simp [lastOf, hfqn]
      have hfirst : firstOf (p :: ps) name =
          (if p.typeName = name then some p else none).or (firstOf ps name) := by
        by_cases hname : p.typeName = name <;> simp [firstOf, hname]
      rw [hlast, hfirst, if_neg hfqn, Option.or_assoc]

theorem get?_ofList (ps : List Plan) (name : String) :
    (ofList ps).get? name = (lastOf ps name).or (firstOf ps name) := by
  rw [ofList, get?_foldl_insert, get?_empty, Option.none_or]

theorem ofList_append (ps later : List Plan) :
    ofList (ps ++ later) = later.foldl insert (ofList ps) :=
  List.foldl_append

/-- **What is found under a name is told by the history of the catalog**: the plan that was added
last under it as a full name, else the first of that simple name. Later plans take a full name over,
and never by their simple names. -/
theorem found_by_history (ps : List Plan) (name : String) :
    (ofList ps).get? name = (lastOf ps name).or (firstOf ps name) ∧
      ∀ later, (ofList (ps ++ later)).get? name =
        (lastOf later name).or (((ofList ps).get? name).or (firstOf later name)) := by
  refine ⟨get?_ofList ps name, fun later => ?_⟩
  rw [ofList_append, get?_foldl_insert]

/-! ## The two names of a plan -/

variable {ps : List Plan} {p : Plan} {name : String}

theorem lastOf_eq_some (hp : lastOf ps name = some p) : p ∈ ps ∧ p.fqn = name := by
  have hmem : p ∈ ps.filter (·.fqn = name) := List.mem_of_getLast? hp
  simpa using hmem

theorem exists_lastOf (hp : p ∈ ps) : ∃ q, lastOf ps p.fqn = some q := by
  have hmem : p ∈ ps.filter (·.fqn = p.fqn) := by simpa using hp
  exact ⟨_, List.getLast?_eq_some_getLast (List.ne_nil_of_mem hmem)⟩

/-- By a full name of a plan the last plan of that full name is found. -/
theorem get?_fqn (hp : p ∈ ps) : (ofList ps).get? p.fqn = lastOf ps p.fqn := by
  obtain ⟨q, hq⟩ := exists_lastOf hp
  rw [get?_ofList, hq, Option.some_or]

/-- A name that is the full name of a plan leads to a plan of that full name. -/
theorem fqn_eq_of_get? (hname : ∃ q ∈ ps, q.fqn = name) (hp : (ofList ps).get? name = some p) :
    p.fqn = name := by
  obtain ⟨q, hq, rfl⟩ := hname
  rw [get?_fqn hq] at hp
  exact (lastOf_eq_some hp).2

/-- **When the two names of a plan lead to one plan.** A plan that was found is found by its full
name too, unless it was found by its simple name and a newer plan has taken its full name over;
objects that name their type either way are then cloned by one plan. A newer plan of a type is found
by the full name, and by no other name that led to the older one. -/
theorem found_by_fullName (hp : (ofList ps).get? name = some p) :
    (∃ q, (ofList ps).get? p.fqn = some q ∧ lastOf ps p.fqn = some q) ∧
    ((∃ q ∈ ps, q.fqn = name) ∨ (∀ q ∈ ps, q.fqn = p.fqn → q = p) →
      (ofList ps).get? p.fqn = some p ∧
      ∀ op t v fields, ¬ (op = .safe ∧ t.contains v) → ∀ typeName ∈ [name, p.fqn],
        (ofList ps).entry op t v (.cell (.object typeName fields)) =
          .entered typeName fields p) ∧
    ∀ newer : Plan, newer.fqn = p.fqn →
      (ofList (ps ++ [newer])).get? p.fqn = some newer ∧
      (name ≠ p.fqn → (ofList (ps ++ [newer])).get? name = some p) := by
  have hmem := mem_of_get?_ofList hp
  refine ⟨?_, fun hagree => ?_, fun newer hnewer => ?_⟩
  · obtain ⟨q, hq⟩ := exists_lastOf hmem
    exact ⟨q, (get?_fqn hmem).trans hq, hq⟩
  · have hfqn : (ofList ps).get? p.fqn = some p := by
      rcases hagree with hname | honly
      · rwa [fqn_eq_of_get? hname hp]
      · obtain ⟨q, hq⟩ := exists_lastOf hmem
        obtain ⟨hqs, hqp⟩ := lastOf_eq_some hq
        rw [get?_fqn hmem, hq, honly q hqs hqp]
    refine ⟨hfqn, fun op t v fields hmet typeName htype => entry_eq_entered.mpr ⟨rfl, hmet, ?_⟩⟩
    rcases List.mem_pair.mp htype with rfl | rfl
    · exact hp
    · exact hfqn
  · rw [ofList_append, List.foldl_cons, List.foldl_nil, get?_insert, get?_insert, if_pos hnewer]
    refine ⟨rfl, fun hname => ?_⟩
    rw [if_neg fun heq => hname (heq.symm.trans hnewer), hp, Option.some_or]

/-! ## A type that is added again -/

/-- The plan of a type without members. -/
def emptyPlan (namespaceName typeName : String) (visibility : Visibility) : Plan where
  typeName := typeName
  fqn := "global::" ++ namespaceName ++ "." ++ typeName
  namespaceName := namespaceName
  visibility := visibility
  names := {}
  fast := []
  safe := []
  kept := []
  descriptorDigest := ""

/-- Two types of one simple name and a third one; the first type is added again. -/
def itemHistory : List Plan :=
  [emptyPlan "A" "Item" .exported, emptyPlan "B" "Item" .exported, emptyPlan "B" "Box" .exported,
    emptyPlan "A" "Item" .internal]

theorem get?_item : (ofList itemHistory).get? "Item" = some (emptyPlan "A" "Item" .exported) := by
  decide

theorem get?_box : (ofList itemHistory).get? "Box" = some (emptyPlan "B" "Box" .exported) := by
  decide

/-- The two names of a plan may lead to two plans. -/
theorem names_disagree_itemHistory :
    ¬ ∀ (ps : List Plan) (name : String) (p : Plan),
      (ofList ps).get? name = some p → (ofList ps).get? p.fqn = some p := by
  intro hagree
  have hitem := hagree itemHistory "Item" _ get?_item
  revert hitem
  decide

/-- Boxes are cloned by one plan under both of their names; items are not, since the first type of
that name was added again. -/
theorem found_by_fullName_itemHistory :
    (ofList itemHistory).get? "Box" = some (emptyPlan "B" "Box" .exported) ∧
    (∀ q ∈ itemHistory, q.fqn = "global::B.Box" → q = emptyPlan "B" "Box" .exported) ∧
    (∀ typeName ∈ ["Box", "global::B.Box"],
      (ofList itemHistory).entry .safe {} .null (.cell (.object typeName .empty)) =
        .entered typeName .empty (emptyPlan "B" "Box" .exported)) ∧
    (ofList itemHistory).get? "Item" = some (emptyPlan "A" "Item" .exported) ∧
    (ofList itemHistory).get? "global::A.Item" = some (emptyPlan "A" "Item" .internal) := by
  have honly : ∀ q ∈ itemHistory, q.fqn = "global::B.Box" → q = emptyPlan "B" "Box" .exported := by
    decide
  obtain ⟨-, hboxes, -⟩ := found_by_fullName get?_box
  obtain ⟨⟨q, hq, hlast⟩, -, -⟩ := found_by_fullName get?_item
  refine ⟨get?_box, honly, (hboxes (.inr honly)).2 .safe {} .null .empty (by decide), get?_item, ?_⟩
  have hnewest : lastOf itemHistory "global::A.Item" = some (emptyPlan "A" "Item" .internal) := by
    decide
  exact hq.trans (hlast.symm.trans hnewest)

end Catalog

end DeepCopy
