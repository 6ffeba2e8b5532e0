import DeepCopy.Cloning.Catalog
import DeepCopy.Heap.Basic
import DeepCopy.Proofs.Accessor.Retarget
import DeepCopy.Proofs.Descriptor.Rules
import DeepCopy.Proofs.Plan.Interleave

/-!
# Compiled plans

What clone operations rely on in a plan that was compiled: the two operations assign the same
members, each once, and every call in an operation names that operation.

## Main definitions

* `Plan.IsCompiled p`: `p` is the plan of some descriptor
* `Catalog.IsCompiled plans`: a catalog finds only compiled plans
* `Assignment.retarget`: an assignment with the calls of its accessor retargeted

## Main results

* `IsCompiled.assignments_retarget`: an operation's assignments are those of the other, retargeted
* `IsCompiled.targets`: every call in an operation names that operation
* `IsCompiled.nodup_names`: no member is assigned twice
* `IsCompiled.mem_names_iff`: the assigned members are the cloned and the kept ones
* `Catalog.mem_of_get?_ofList`: a catalog finds nothing but its plans
-/

namespace DeepCopy

/-- The assignment with the calls of its accessor naming one operation. -/
def Assignment.retarget (op : Operation) : Assignment → Assignment
  | .cloned m => .cloned { m with accessor := m.accessor.retarget op }
  | .kept name => .kept name

@[simp] theorem Assignment.retarget_retarget (o op : Operation) (a : Assignment) :
    (a.retarget o).retarget op = a.retarget op := by
  cases a <;> simp [retarget]

@[simp] theorem Assignment.name_retarget (op : Operation) (a : Assignment) :
    (a.retarget op).name = a.name := by
  cases a <;> rfl

/-! ## Members of a descriptor without flaws -/

theorem compile_of_flaws_eq_nil (settings : CompileSettings) {d : Descriptor}
    (hd : d.flaws = []) : ∃ p, compile settings d = .ok p := by
  rw [compile, hd]
  exact ⟨_, rfl⟩

theorem compile_of_flaws_ne_nil (settings : CompileSettings) {d : Descriptor}
    (hd : d.flaws ≠ []) : compile settings d = .error ⟨d.name, d.flaws⟩ := by
  rw [compile, if_neg (by simpa using hd)]

theorem map_name_filterMap_sublist (role : Member → Role) (ms : List Member) :
    ((ms.filterMap (Member.assignment role)).map Assignment.name).Sublist
      (ms.map Member.name) := by
  induction ms with
  | nil => exact .slnil
  | cons m ms ih =>
    cases hr : role m <;> simp only [List.filterMap_cons, Member.assignment, hr, List.map_cons]
    · exact ih.cons_cons _
    · exact ih.cons_cons _
    · exact ih.cons _

namespace Plan

variable {p : Plan}

/-- A plan is the plan of a descriptor. -/
def IsCompiled (p : Plan) : Prop := ∃ settings d, compile settings d = .ok p

/-- What the plan of a descriptor consists of. -/
theorem members_of_compile {settings : CompileSettings} {d : Descriptor}
    (hc : compile settings d = .ok p) :
    d.IsConsistent ∧ p.fast = clonedMembers (Member.role settings d.mark) d.members ∧
      p.safe = p.fast.map (fun m => { m with accessor := m.accessor.retarget .safe }) ∧
      p.kept = keptMembers (Member.role settings d.mark) 0 d.members := by
  rw [compile] at hc
  split at hc
  · next hf =>
    cases hc
    exact ⟨flaws_eq_nil_iff.mp (List.isEmpty_iff.mp hf), rfl, rfl, rfl⟩
  · cases hc

/-- What a compiled plan consists of. -/
theorem IsCompiled.exists_members (hp : p.IsCompiled) :
    ∃ role ms, (ms.map Member.name).Nodup ∧ p.fast = clonedMembers role ms ∧
      p.safe = p.fast.map (fun m => { m with accessor := m.accessor.retarget .safe }) ∧
      p.kept = keptMembers role 0 ms := by
  obtain ⟨settings, d, hc⟩ := hp
  obtain ⟨hconsistent, hmembers⟩ := members_of_compile hc
  exact ⟨_, d.members, hconsistent.distinct, hmembers⟩

theorem IsCompiled.assignments_safe (hp : p.IsCompiled) :
    p.assignments .safe = (p.assignments .fast).map (Assignment.retarget .safe) := by
  obtain ⟨role, ms, -, -, hs, -⟩ := hp.exists_members
  simp only [assignments, members, hs]
  rw [interleave_map]
  refine List.map_congr_left fun a _ => ?_
  cases a <;> rfl

theorem IsCompiled.retarget_fast (hp : p.IsCompiled) {a : Assignment}
    (ha : a ∈ p.assignments .fast) : a.retarget .fast = a := by
  obtain ⟨role, ms, -, hf, -, -⟩ := hp.exists_members
  rcases mem_interleave.mp ha with ⟨m, hm, rfl⟩ | ⟨k, -, rfl⟩
  · simp only [members, hf, clonedMembers, List.mem_map] at hm
    obtain ⟨n, -, rfl⟩ := hm
    simp only [Assignment.retarget, Member.accessor, retarget_synthesize]
  · rfl

/-- **An operation's assignments are those of any other**, with the calls naming it. -/
theorem IsCompiled.assignments_retarget (hp : p.IsCompiled) (o op : Operation) :
    p.assignments op = (p.assignments o).map (Assignment.retarget op) := by
  have hf : (p.assignments .fast).map (Assignment.retarget .fast) = p.assignments .fast :=
    (List.map_congr_left fun a ha => hp.retarget_fast ha).trans (List.map_id' _)
  cases o <;> cases op <;> simp [hp.assignments_safe, hf, Function.comp_def]

/-- Every call in an operation names that operation. -/
theorem IsCompiled.targets (hp : p.IsCompiled) {op : Operation} {m : ClonedMember}
    (hm : .cloned m ∈ p.assignments op) : m.accessor.targets op = true := by
  rw [hp.assignments_retarget op op] at hm
  obtain ⟨a, -, ha⟩ := List.mem_map.mp hm
  have hr : (Assignment.cloned m).retarget op = .cloned m := by
    rw [← ha, Assignment.retarget_retarget]
  rw [Assignment.retarget, Assignment.cloned.injEq] at hr
  exact Accessor.retarget_eq_self_iff.mp (congrArg ClonedMember.accessor hr)

/-- **No member is assigned twice.** -/
theorem IsCompiled.nodup_names (hp : p.IsCompiled) (op : Operation) :
    ((p.assignments op).map Assignment.name).Nodup := by
  obtain ⟨role, ms, hnd, hf, -, hk⟩ := hp.exists_members
  rw [hp.assignments_retarget .fast op, List.map_map]
  have hn : Assignment.name ∘ Assignment.retarget op = Assignment.name :=
    funext fun a => a.name_retarget op
  rw [hn, assignments, members, hf, hk, interleave_keptMembers]
  exact hnd.sublist (map_name_filterMap_sublist role ms)

/-- The members that an operation assigns are the cloned ones and the kept ones. -/
theorem mem_names_assignments {op : Operation} {name : String} :
    name ∈ (p.assignments op).map Assignment.name ↔
      name ∈ (p.members op).map ClonedMember.name ∨ name ∈ p.kept.map KeptMember.name := by
  simp only [List.mem_map, assignments, mem_interleave]
  constructor
  · rintro ⟨a, ⟨m, hm, rfl⟩ | ⟨k, hk, rfl⟩, rfl⟩
    · exact .inl ⟨m, hm, rfl⟩
    · exact .inr ⟨k, hk, rfl⟩
  · rintro (⟨m, hm, rfl⟩ | ⟨k, hk, rfl⟩)
    · exact ⟨.cloned m, .inl ⟨m, hm, rfl⟩, rfl⟩
    · exact ⟨.kept k.name, .inr ⟨k, hk, rfl⟩, rfl⟩

/-- **Both operations assign the same members**: the cloned and the kept ones. -/
theorem IsCompiled.mem_names_iff (hp : p.IsCompiled) {op : Operation} {name : String} :
    name ∈ (p.assignments op).map Assignment.name ↔
      name ∈ p.memberNames ∨ name ∈ p.kept.map KeptMember.name := by
  have hn : Assignment.name ∘ Assignment.retarget op = Assignment.name :=
    funext fun a => a.name_retarget op
  rw [hp.assignments_retarget .fast op, List.map_map, hn, mem_names_assignments]
  rfl

end Plan

/-! ## Catalogs of compiled plans -/

namespace Catalog

theorem mem_names_insert {c : Catalog} {p : Plan} {e : String × Plan}
    (he : e ∈ (c.insert p).names) : e.2 = p ∨ e ∈ c.names := by
  have hc : e ∈ (p.fqn, p) :: c.names → e.2 = p ∨ e ∈ c.names := by
    intro he
    rcases List.mem_cons.mp he with rfl | he
    · exact .inl rfl
    · exact .inr he
  unfold insert at he
  dsimp only at he
  split at he
  · exact hc he
  · rcases List.mem_cons.mp he with rfl | he
    · exact .inl rfl
    · exact hc he

theorem mem_names_foldl_insert {ps : List Plan} {c : Catalog} {e : String × Plan}
    (he : e ∈ (ps.foldl insert c).names) : e.2 ∈ ps ∨ e ∈ c.names := by
  induction ps generalizing c with
  | nil => exact .inr he
  | cons p ps ih =>
    rcases ih he with hps | hc
    · exact .inl (List.mem_cons_of_mem _ hps)
    · rcases mem_names_insert hc with rfl | hc
      · exact .inl List.mem_cons_self
      · exact .inr hc

/-- What is found in the catalog of some plans is one of them. -/
theorem mem_of_get?_ofList {ps : List Plan} {name : String} {p : Plan}
    (hp : (ofList ps).get? name = some p) : p ∈ ps := by
  obtain ⟨l₁, l₂, hl, -⟩ := List.lookup_eq_some_iff.mp hp
  have he : (name, p) ∈ (ofList ps).names := hl ▸ List.mem_append_right _ List.mem_cons_self
  rcases mem_names_foldl_insert he with hps | hc
  · exact hps
  · cases hc

/-- Whatever the catalog finds is a compiled plan. -/
def IsCompiled (plans : Catalog) : Prop := ∀ name p, plans.get? name = some p → p.IsCompiled

theorem isCompiled_ofList {ps : List Plan} (hps : ∀ p ∈ ps, p.IsCompiled) :
    (ofList ps).IsCompiled :=
  fun _ p hp => hps p (mem_of_get?_ofList hp)

end Catalog

/-! ## An example: nodes that refer to nodes -/

/-- A type with a copied member, two cloned ones, one of them through an array, and a kept one. -/
def nodeDescriptor : Descriptor where
  name := "Node"
  members := [
    { name := "Label", type := .string },
    { name := "Peers", type := .arrayOf (.marked "Node") },
    { name := "Next", type := (TypeUse.marked "Node").withNull true },
    { name := "Owner", type := .named "object", marks := { ignored := true } }]

/-- The plan of nodes. -/
def nodePlan : Plan where
  typeName := "Node"
  fqn := "global::Node"
  namespaceName := ""
  visibility := .exported
  names := {}
  fast := [⟨"Label", .copy⟩, ⟨"Peers", .array (.call false .fast)⟩, ⟨"Next", .call true .fast⟩]
  safe := [⟨"Label", .copy⟩, ⟨"Peers", .array (.call false .safe)⟩, ⟨"Next", .call true .safe⟩]
  kept := [⟨"Owner", 3⟩]
  descriptorDigest := nodeDescriptor.digest

theorem compile_nodeDescriptor : compile {} nodeDescriptor = .ok nodePlan := by
  have hflaws : nodeDescriptor.flaws = [] := by decide +kernel
  rw [compile, hflaws]
  rfl

theorem isCompiled_nodePlan : nodePlan.IsCompiled := ⟨{}, nodeDescriptor, compile_nodeDescriptor⟩

theorem isCompiled_of_mem_nodePlan : ∀ p ∈ [nodePlan], p.IsCompiled := by
  simpa using isCompiled_nodePlan

/-- A node. -/
def node (label : String) (peers next owner : Value) : Cell :=
  .object "Node"
    (.ofList [("Label", .text label), ("Peers", peers), ("Next", next), ("Owner", owner)])

/-- Two nodes that are each other's next and have both as peers; the first one has an owner. -/
def nodeRing : Heap :=
  ⟨#[node "a" (.ref 2) (.ref 1) (.ref 3), node "b" (.ref 2) (.ref 0) .null,
    .array [.ref 0, .ref 1], .array []]⟩

/-- A node without peers, and a node that has it as its next and its peer. -/
def nodeChain : Heap :=
  ⟨#[.array [], node "a" (.ref 0) .null .null, .array [.ref 1], node "b" (.ref 2) (.ref 1) .null,
    node "c" (.ref 0) .null .null]⟩

end DeepCopy
