import DeepCopy.CSharp.Expression
import DeepCopy.TypeScript.Expression
import Mathlib.Data.List.Nodup
import Mathlib.Logic.Function.Iterate

/-!
# Names and scopes in rendered expressions

The expression of a member is made of lambdas and loops, one inside another, whose variables are the
name of the member with an `x` for every layer, and behind it `Key` or `Value` for the parts of an
entry. So no variable hides another one, and none is called like anything else that an expression
speaks of. What is read or called within a binder is a variable of that binder, and the object
itself is spoken of outside of all binders only.

The names of containers are written as they are given. In C# they stand where only types are looked
up. In TypeScript they are looked up like variables, and nothing keeps them apart: a container is
rebuilt by something else exactly where the name of its type begins like what is bound around it.

## Main definitions

* `Binder`, `variablesOf`, `boundBy`: what binds names, and the names that scopes bind
* `Mention`: what an expression speaks of
* `CSharp.Expression.mentions`, `TypeScript.Expression.mentions`: all mentions with their scopes
* `variableAt`: the variable of a layer
* `Layer`, `scopeOf`: the layers of an expression, and their scope
* `Mention.Refers`, `Mention.IsHygienic`: a mention means what it is meant to mean
* `Mention.IsCaptured`: a constructor that is hidden by what is bound around it
* `Accessor.containers`, `IsHidden`: containers by their layers, and the names that layers hide

## Main results

* `isFresh_scopeOf`: the variables of a scope are distinct and not reserved
* `Accessor.csharp_hygienic`, `Accessor.typescript_hygienic`: every layer keeps this up
* `Accessor.constructorsOf_typescript`: constructors stand where the containers do
* `expressions_hygienic`: which expressions are hygienic
* `constructor_captured`: constructors that are called like variables, or like the object itself
-/

namespace DeepCopy

/-! ## Scopes -/

/-- What binds variables in an expression. -/
inductive Binder where
  | lambda (x : String)
  /-- A lambda that takes an entry apart. -/
  | entry (key value : String)
  /-- A loop in a generator. -/
  | loop (x : String)
  deriving DecidableEq

/-- The variables of a binder. -/
def Binder.variables : Binder → List String
  | .lambda x | .loop x => [x]
  | .entry k v => [k, v]

/-- The names that a binder binds: its variables, and with a loop those of the generator around it,
which has a parameter and a `this` of its own. -/
def Binder.bound : Binder → List String
  | .lambda x => [x]
  | .entry k v => [k, v]
  | .loop x => [x, "s", "this"]

/-- The variables of a scope, which is given by its binders, the innermost first. -/
def variablesOf (scope : List Binder) : List String := scope.flatMap Binder.variables

/-- All names that a scope binds. -/
def boundBy (scope : List Binder) : List String := scope.flatMap Binder.bound

/-! ## Mentions -/

/-- Something that an expression speaks of. -/
inductive Mention where
  /-- A member of the object that is cloned. -/
  | this (member : String)
  /-- A variable, or a part of what it stands for. -/
  | variable (name : String)
  /-- Something that has one name everywhere. -/
  | fixed (name : String)
  /-- A type where only types can stand. -/
  | type (name : String)
  /-- A type where variables can stand as well. -/
  | constructor (name : String)
  deriving DecidableEq

namespace CSharp

/-- What a receiver speaks of. -/
def Receiver.mention : Receiver → Mention
  | .member name => .this name
  | .variable x | .key x | .value x => .variable x

/-- What an expression in a scope speaks of, from left to right and each in its own scope. -/
def Expression.mentions (scope : List Binder) : Expression → List (List Binder × Mention)
  | .read r => [(scope, r.mention)]
  | .call r _ .fast => [(scope, r.mention)]
  | .call r _ .safe => [(scope, r.mention), (scope, .fixed "referenceChain")]
  | .unlessNull r body => (scope, r.mention) :: body.mentions scope
  | .select r _ x body => (scope, r.mention) :: body.mentions (.lambda x :: scope)
  | .toArray projection | .toList projection => projection.mentions scope
  | .toDictionary r x key value =>
    (scope, r.mention) ::
      (key.mentions (.lambda x :: scope) ++ value.mentions (.lambda x :: scope))
  | .pair keyType valueType key value =>
    (scope, .type keyType) :: (scope, .type valueType) ::
      (key.mentions scope ++ value.mentions scope)
  | .construct container argument => (scope, .type container) :: argument.mentions scope

end CSharp

namespace TypeScript

/-- What a receiver speaks of. -/
def Receiver.mention : Receiver → Mention
  | .member name => .this name
  | .variable x => .variable x

/-- What an expression in a scope speaks of, from left to right and each in its own scope. -/
def Expression.mentions (scope : List Binder) : Expression → List (List Binder × Mention)
  | .read r => [(scope, r.mention)]
  | .call r _ .fast => [(scope, r.mention)]
  | .call r _ .safe => [(scope, r.mention), (scope, .fixed "referenceChain")]
  | .unlessNull r body => (scope, r.mention) :: body.mentions scope
  | .map r _ x body => (scope, r.mention) :: body.mentions (.lambda x :: scope)
  -- The receiver is an argument of the generator and stands outside.
  | .generate r x body => body.mentions (.loop x :: scope) ++ [(scope, r.mention)]
  | .elements r x body =>
    (scope, .fixed "Array") :: (scope, r.mention) :: body.mentions (.lambda x :: scope)
  | .entries r k v key value =>
    (scope, .fixed "Array") :: (scope, r.mention) ::
      (key.mentions (.entry k v :: scope) ++ value.mentions (.entry k v :: scope))
  | .construct container argument => (scope, .constructor container) :: argument.mentions scope

end TypeScript

/-! ## The variables of layers -/

/-- What a variable stands for. -/
inductive Part where
  | element
  | key
  | value
  deriving DecidableEq

/-- What the variable ends in. -/
def Part.ending : Part → String
  | .element => ""
  | .key => "Key"
  | .value => "Value"

/-- The variable for a part of what stands some layers below a name. -/
def variableAt (name : String) (depth : Nat) (part : Part) : String :=
  lambdaVariable^[depth] name ++ part.ending

@[simp] theorem variableAt_element (name : String) (depth : Nat) :
    variableAt name depth .element = lambdaVariable^[depth] name := String.append_empty

/-- The stem of the names one layer below. -/
theorem lambdaVariable_variableAt (name : String) (depth : Nat) :
    lambdaVariable (variableAt name depth .element) = variableAt name (depth + 1) .element := by
  rw [variableAt_element, variableAt_element, Function.iterate_succ_apply']

theorem variableAt_append_key (name : String) (depth : Nat) :
    variableAt name depth .element ++ "Key" = variableAt name depth .key := by
  rw [variableAt_element]
  rfl

theorem variableAt_append_value (name : String) (depth : Nat) :
    variableAt name depth .element ++ "Value" = variableAt name depth .value := by
  rw [variableAt_element]
  rfl

theorem toList_variableAt (name : String) (depth : Nat) (part : Part) :
    (variableAt name depth part).toList =
      name.toList ++ (List.replicate depth 'x' ++ part.ending.toList) := by
  have hlayer : (lambdaVariable^[depth] name).toList = name.toList ++ List.replicate depth 'x' := by
    induction depth with
    | zero => simp
    | succ depth ih =>
      rw [Function.iterate_succ_apply', lambdaVariable, String.toList_append, ih,
        List.replicate_succ', List.append_assoc]
      rfl
  rw [variableAt, String.toList_append, hlayer, List.append_assoc]

/-- **Variables of different layers or parts are different.** -/
theorem variableAt_inj {name : String} {depth depth' : Nat} {part part' : Part} :
    variableAt name (depth + 1) part = variableAt name (depth' + 1) part' ↔
      depth = depth' ∧ part = part' := by
  refine ⟨fun h => ?_, fun ⟨hdepth, hpart⟩ => by rw [hdepth, hpart]⟩
  have hlist := congrArg String.toList h
  rw [toList_variableAt, toList_variableAt, List.append_cancel_left_eq] at hlist
  -- The last characters tell the parts apart.
  have hpart : part = part' := by
    have hlast := congrArg List.getLast? hlist
    rw [List.replicate_succ', List.replicate_succ', List.append_assoc, List.append_assoc] at hlast
    cases part <;> cases part' <;> simp [Part.ending] at hlast ⊢
  subst hpart
  rw [List.append_cancel_right_eq, List.replicate_inj] at hlist
  exact ⟨Nat.succ.inj hlist.1, rfl⟩

/-- A variable ends in an `x`, but for the ending of its part. -/
theorem suffix_variableAt (name : String) (depth : Nat) (part : Part) :
    'x' :: part.ending.toList <:+ (variableAt name (depth + 1) part).toList := by
  rw [toList_variableAt, List.replicate_succ']
  exact ⟨name.toList ++ List.replicate depth 'x', by simp⟩

/-- The names that no variable has. -/
def reserved : List String := ["clone", "referenceChain", "this", "s", "Array"]

theorem variableAt_notMem_reserved (name : String) (depth : Nat) (part : Part) :
    variableAt name (depth + 1) part ∉ reserved := by
  intro hmem
  have hsuffix := suffix_variableAt name depth part
  have hfixed : ∀ w ∈ reserved, ¬ 'x' :: part.ending.toList <:+ w.toList := by
    cases part <;> decide
  exact hfixed _ hmem hsuffix

/-! ## The scopes of layers -/

/-- A layer of an expression: a lambda for the elements of something, one for the keys and values,
or a generator with a loop for the elements. -/
inductive Layer where
  | elements
  | entries
  | generator
  deriving DecidableEq

/-- What the variables of a layer stand for. -/
def Layer.parts : Layer → List Part
  | .elements | .generator => [.element]
  | .entries => [.key, .value]

/-- The binder of a layer that is some layers below a name. -/
def Layer.binder (name : String) (depth : Nat) : Layer → Binder
  | .elements => .lambda (variableAt name depth .element)
  | .entries => .entry (variableAt name depth .key) (variableAt name depth .value)
  | .generator => .loop (variableAt name depth .element)

/-- The scope of layers below a name, the innermost first. -/
def scopeOf (name : String) : List Layer → List Binder
  | [] => []
  | layer :: outer => layer.binder name (outer.length + 1) :: scopeOf name outer

/-- A name that layers hide, the innermost of which is the first: that of the parameter of a
generator or of the object itself in it, or that of a variable of one of the layers. -/
def IsHidden (name : String) (layers : List Layer) (x : String) : Prop :=
  .generator ∈ layers ∧ (x = "s" ∨ x = "this") ∨
    ∃ inner layer outer part, layers = inner ++ layer :: outer ∧ part ∈ layer.parts ∧
      x = variableAt name (outer.length + 1) part

section Scopes

variable {name x : String} {layer : Layer} {layers : List Layer}

theorem Layer.variables_binder (name : String) (depth : Nat) (layer : Layer) :
    (layer.binder name depth).variables = layer.parts.map (variableAt name depth) := by
  cases layer <;> rfl

theorem Layer.nodup_parts (layer : Layer) : layer.parts.Nodup := by
  cases layer <;> decide

theorem Layer.mem_bound_binder_iff {depth : Nat} : x ∈ (layer.binder name depth).bound ↔
    layer = .generator ∧ (x = "s" ∨ x = "this") ∨
      ∃ part ∈ layer.parts, x = variableAt name depth part := by
  cases layer <;> simp [binder, Binder.bound, parts, or_comm]

theorem exists_variableAt (hx : x ∈ variablesOf (scopeOf name layers)) :
    ∃ depth part, depth < layers.length ∧ x = variableAt name (depth + 1) part := by
  induction layers with
  | nil => cases hx
  | cons layer outer ih =>
    rw [scopeOf, variablesOf, List.flatMap_cons, List.mem_append, layer.variables_binder] at hx
    rcases hx with hx | hx
    · obtain ⟨part, -, rfl⟩ := List.mem_map.mp hx
      exact ⟨outer.length, part, Nat.lt_succ_self _, rfl⟩
    · obtain ⟨depth, part, hdepth, rfl⟩ := ih hx
      exact ⟨depth, part, Nat.lt_succ_of_lt hdepth, rfl⟩

/-- **The variables of a scope are distinct**: those of one binder are of different parts, and those
of different binders are of different layers. -/
theorem nodup_variablesOf (name : String) (layers : List Layer) :
    (variablesOf (scopeOf name layers)).Nodup := by
  induction layers with
  | nil => exact .nil
  | cons layer outer ih =>
    rw [scopeOf, variablesOf, List.flatMap_cons, layer.variables_binder]
    -- The variables further out are of a smaller depth.
    refine (layer.nodup_parts.map fun _ _ h => (variableAt_inj.mp h).2).append ih ?_
    intro x hx houter
    obtain ⟨part, -, rfl⟩ := List.mem_map.mp hx
    obtain ⟨depth, part', hdepth, heq⟩ := exists_variableAt houter
    exact Nat.ne_of_gt hdepth (variableAt_inj.mp heq).1

/-- A layer hides names of its own, beside those that are hidden around it. -/
theorem isHidden_cons_iff : IsHidden name (layer :: layers) x ↔
    (layer = .generator ∧ (x = "s" ∨ x = "this") ∨
      ∃ part ∈ layer.parts, x = variableAt name (layers.length + 1) part) ∨
    IsHidden name layers x := by
  constructor
  · rintro (⟨hmem, hx⟩ | ⟨inner, found, outer, part, hsplit, hpart, hx⟩)
    · rcases List.mem_cons.mp hmem with heq | hmem
      · exact .inl (.inl ⟨heq.symm, hx⟩)
      · exact .inr (.inl ⟨hmem, hx⟩)
    · -- The layer with the variable is the new one, unless something stands further in.
      cases inner with
      | nil =>
        cases hsplit
        exact .inl (.inr ⟨part, hpart, hx⟩)
      | cons _ inner =>
        cases hsplit
        exact .inr (.inr ⟨inner, found, outer, part, rfl, hpart, hx⟩)
  · rintro ((⟨rfl, hx⟩ | ⟨part, hpart, hx⟩) | (⟨hmem, hx⟩ |
      ⟨inner, found, outer, part, rfl, hpart, hx⟩))
    · exact .inl ⟨List.mem_cons_self, hx⟩
    · exact .inr ⟨[], layer, layers, part, rfl, hpart, hx⟩
    · exact .inl ⟨List.mem_cons_of_mem _ hmem, hx⟩
    · exact .inr ⟨layer :: inner, found, outer, part, rfl, hpart, hx⟩

/-- **What a scope binds is what its layers hide.** -/
theorem mem_boundBy_scopeOf_iff : x ∈ boundBy (scopeOf name layers) ↔ IsHidden name layers x := by
  induction layers with
  | nil => simp [scopeOf, boundBy, IsHidden]
  | cons layer outer ih =>
    -- What the innermost binder binds is what its layer hides, and the others are further out.
    rw [scopeOf, boundBy, List.flatMap_cons, List.mem_append, Layer.mem_bound_binder_iff,
      isHidden_cons_iff, ← ih, boundBy]

instance : Decidable (IsHidden name layers x) := decidable_of_iff _ mem_boundBy_scopeOf_iff

/-- Of the reserved names a scope binds those of a generator at most. -/
theorem notMem_boundBy (hx : x ∈ reserved) (hs : x ≠ "s") (hthis : x ≠ "this") :
    x ∉ boundBy (scopeOf name layers) := by
  rw [mem_boundBy_scopeOf_iff]
  rintro (⟨-, rfl | rfl⟩ | ⟨-, -, outer, part, -, -, rfl⟩)
  · exact hs rfl
  · exact hthis rfl
  · exact variableAt_notMem_reserved name outer.length part hx

end Scopes

/-! ## What is meant -/

/-- The name by which a name with members is looked up. -/
def rootName (name : String) : String := String.ofList (name.toList.takeWhile (· ≠ '.'))

/-- What a mention in a scope of an expression refers to, which is made from the name of a member
and rebuilds containers by some types: a member of the object is that member, outside of all
binders; a variable is one of the innermost binder; what has one name everywhere is not bound; and
a constructor is that of a type, the name of which begins with nothing that is bound. -/
def Mention.Refers (name : String) (types : List String) (scope : List Binder) : Mention → Prop
  | .this member => member = name ∧ scope = []
  | .variable x => ∃ b outer, scope = b :: outer ∧ x ∈ b.variables
  | .fixed x => x ∉ boundBy scope
  | .type t => t ∈ types
  | .constructor t => t ∈ types ∧ rootName t ∉ boundBy scope

/-- The variables of a scope are distinct and not reserved. -/
structure IsFresh (scope : List Binder) : Prop where
  nodup : (variablesOf scope).Nodup
  unreserved : ∀ x ∈ variablesOf scope, x ∉ reserved

/-- The variables around a mention are fresh, and it refers to what is meant. -/
structure Mention.IsHygienic (name : String) (types : List String) (scope : List Binder)
    (m : Mention) : Prop extends IsFresh scope where
  refers : m.Refers name types scope

/-- The variables around a mention are fresh, but it is a constructor of a type that is hidden by
what is bound around it. -/
structure Mention.IsCaptured (types : List String) (scope : List Binder) (m : Mention) : Prop
    extends IsFresh scope where
  hidden : ∃ t ∈ types, m = .constructor t ∧ rootName t ∈ boundBy scope

section

variable {name : String} {types : List String} {layers : List Layer}

/-- **The scopes of layers are fresh.** -/
theorem isFresh_scopeOf (name : String) (layers : List Layer) : IsFresh (scopeOf name layers) where
  nodup := nodup_variablesOf name layers
  unreserved x hx := by
    obtain ⟨depth, part, -, rfl⟩ := exists_variableAt hx
    exact variableAt_notMem_reserved name depth part

theorem Mention.Refers.isHygienic {m : Mention} (hm : m.Refers name types (scopeOf name layers)) :
    m.IsHygienic name types (scopeOf name layers) :=
  ⟨isFresh_scopeOf name layers, hm⟩

/-- A variable of the innermost layer is meant. -/
theorem refers_variable (layer : Layer) (layers : List Layer) {part : Part}
    (hpart : part ∈ layer.parts) :
    (Mention.variable (variableAt name (layers.length + 1) part)).Refers name types
      (scopeOf name (layer :: layers)) := by
  refine ⟨_, _, rfl, ?_⟩
  rw [layer.variables_binder]
  exact List.mem_map_of_mem hpart

theorem refers_referenceChain :
    (Mention.fixed "referenceChain").Refers name types (scopeOf name layers) :=
  notMem_boundBy (by decide) (by decide) (by decide)

theorem refers_array : (Mention.fixed "Array").Refers name types (scopeOf name layers) :=
  notMem_boundBy (by decide) (by decide) (by decide)

/-- A constructor of a type is meant, or it is captured. -/
theorem isHygienic_or_isCaptured {t : String} (ht : t ∈ types) :
    (Mention.constructor t).IsHygienic name types (scopeOf name layers) ∨
      (Mention.constructor t).IsCaptured types (scopeOf name layers) := by
  by_cases hbound : rootName t ∈ boundBy (scopeOf name layers)
  · exact .inr ⟨isFresh_scopeOf name layers, t, ht, rfl, hbound⟩
  · exact .inl (Mention.Refers.isHygienic ⟨ht, hbound⟩)

end

/-- The types that an accessor rebuilds containers by. -/
def Accessor.types : Accessor → List String
  | .copy | .passOn | .call _ _ => []
  | .guarded inner | .array inner | .project inner => inner.types
  | .sequence container element _ => container :: element.types
  | .map container keyType valueType key value _ =>
    container :: keyType :: valueType :: (key.types ++ value.types)

/-- The containers that an accessor rebuilds below some layers, by their types and each with its own
layers. -/
def Accessor.containers (layers : List Layer) : Accessor → List (List Layer × String)
  | .copy | .passOn | .call _ _ => []
  | .guarded inner => inner.containers layers
  | .array element => element.containers (.elements :: layers)
  | .project element => element.containers (.generator :: layers)
  | .sequence container element _ =>
    (layers, container) :: element.containers (.elements :: layers)
  | .map container _ _ key value _ =>
    (layers, container) ::
      (key.containers (.entries :: layers) ++ value.containers (.entries :: layers))

/-- The constructors among mentions, each with its scope. -/
def constructorsOf (ms : List (List Binder × Mention)) : List (List Binder × String) :=
  ms.filterMap fun
    | (scope, .constructor t) => some (scope, t)
    | _ => none

theorem constructorsOf_append (ms ms' : List (List Binder × Mention)) :
    constructorsOf (ms ++ ms') = constructorsOf ms ++ constructorsOf ms' :=
  List.filterMap_append

theorem mem_constructorsOf_iff {ms : List (List Binder × Mention)} {scope : List Binder}
    {t : String} : (scope, t) ∈ constructorsOf ms ↔ (scope, .constructor t) ∈ ms := by
  simp only [constructorsOf, List.mem_filterMap]
  constructor
  · rintro ⟨⟨scope', m⟩, hm, heq⟩
    cases m <;> cases heq
    exact hm
  · exact fun hm => ⟨_, hm, rfl⟩

namespace Accessor

variable {name : String} {types : List String} {layers : List Layer}

section CSharp

open CSharp (Receiver Expression)

/-- What an accessor becomes on a receiver that refers to what is meant, by induction on the
accessor: every binder is one layer deeper, and its body works on its variable. -/
theorem csharp_hygienic (a : Accessor) (ht : a.types ⊆ types) {r : Receiver}
    (hr : r.mention.Refers name types (scopeOf name layers)) (test : Bool) :
    ∀ p ∈ (a.csharp r (variableAt name layers.length .element) test).mentions (scopeOf name layers),
      p.2.IsHygienic name types p.1 := by
  induction a generalizing layers r test with
  | copy | passOn => exact List.forall_mem_singleton.mpr hr.isHygienic
  | call nullable op =>
    cases op with
    | fast => exact List.forall_mem_singleton.mpr hr.isHygienic
    | safe =>
      exact List.forall_mem_cons.mpr
        ⟨hr.isHygienic, List.forall_mem_singleton.mpr refers_referenceChain.isHygienic⟩
  | guarded inner ih =>
    rw [csharp]
    split_ifs
    · exact ih ht hr true
    · exact List.forall_mem_cons.mpr ⟨hr.isHygienic, ih ht hr false⟩
  | array element ih | project element ih =>
    have hbody := ih ht (r := .variable _)
      (refers_variable .elements layers List.mem_cons_self) false
    simp only [csharp, lambdaVariable_variableAt]
    exact List.forall_mem_cons.mpr ⟨hr.isHygienic, hbody⟩
  | sequence container element strategy ih =>
    obtain ⟨hcontainer, helement⟩ := List.cons_subset.mp ht
    have hbody := ih helement (r := .variable _)
      (refers_variable .elements layers List.mem_cons_self) false
    simp only [csharp, lambdaVariable_variableAt]
    refine List.forall_mem_cons.mpr ⟨Mention.Refers.isHygienic hcontainer, ?_⟩
    split_ifs
    · exact List.forall_mem_singleton.mpr hr.isHygienic
    · exact List.forall_mem_cons.mpr ⟨hr.isHygienic, hbody⟩
    · exact List.forall_mem_cons.mpr ⟨hr.isHygienic, hbody⟩
  | map container keyType valueType key value strategy ihk ihv =>
    obtain ⟨hcontainer, ht⟩ := List.cons_subset.mp ht
    obtain ⟨hkeyType, ht⟩ := List.cons_subset.mp ht
    obtain ⟨hvalueType, ht⟩ := List.cons_subset.mp ht
    obtain ⟨hkey, hvalue⟩ := List.append_subset.mp ht
    -- The key and the value are parts of the one variable that the lambdas have.
    have hk := ihk hkey (r := .key _)
      (refers_variable .elements layers List.mem_cons_self) false
    have hv := ihv hvalue (r := .value _)
      (refers_variable .elements layers List.mem_cons_self) false
    have hinner {t : String} (ht : t ∈ types) : (Mention.type t).IsHygienic name types
        (scopeOf name (.elements :: layers)) := Mention.Refers.isHygienic ht
    simp only [csharp, lambdaVariable_variableAt]
    refine List.forall_mem_cons.mpr ⟨Mention.Refers.isHygienic hcontainer, ?_⟩
    split_ifs
    · exact List.forall_mem_singleton.mpr hr.isHygienic
    · exact List.forall_mem_cons.mpr ⟨hr.isHygienic, List.forall_mem_append.mpr ⟨hk, hv⟩⟩
    · exact List.forall_mem_cons.mpr ⟨hr.isHygienic, List.forall_mem_cons.mpr ⟨hinner hkeyType,
        List.forall_mem_cons.mpr ⟨hinner hvalueType, List.forall_mem_append.mpr ⟨hk, hv⟩⟩⟩⟩

end CSharp

section TypeScript

open TypeScript (Receiver Expression bareName)

/-- What an accessor becomes on a receiver that refers to what is meant, by induction on the
accessor: every binder is one layer deeper, and its body works on one of its variables. Only
constructors may be captured. -/
theorem typescript_hygienic (a : Accessor) (ht : a.types.map bareName ⊆ types) {r : Receiver}
    (hr : r.mention.Refers name types (scopeOf name layers)) (test : Bool) :
    ∀ p ∈ (a.typescript r (variableAt name layers.length .element) test).mentions
        (scopeOf name layers),
      p.2.IsHygienic name types p.1 ∨ p.2.IsCaptured types p.1 := by
  induction a generalizing layers r test with
  | copy | passOn => exact List.forall_mem_singleton.mpr (.inl hr.isHygienic)
  | call nullable op =>
    cases op with
    | fast => exact List.forall_mem_singleton.mpr (.inl hr.isHygienic)
    | safe =>
      exact List.forall_mem_cons.mpr ⟨.inl hr.isHygienic,
        List.forall_mem_singleton.mpr (.inl refers_referenceChain.isHygienic)⟩
  | guarded inner ih =>
    rw [typescript]
    split_ifs
    · exact ih ht hr true
    · exact List.forall_mem_cons.mpr ⟨.inl hr.isHygienic, ih ht hr false⟩
  | array element ih =>
    have hbody := ih ht (r := .variable _)
      (refers_variable .elements layers List.mem_cons_self) false
    simp only [typescript, lambdaVariable_variableAt]
    exact List.forall_mem_cons.mpr ⟨.inl hr.isHygienic, hbody⟩
  | project element ih =>
    -- The loop stands in the generator, and its source is the argument that the generator is given.
    have hbody := ih ht (r := .variable _)
      (refers_variable .generator layers List.mem_cons_self) false
    simp only [typescript, lambdaVariable_variableAt]
    exact List.forall_mem_append.mpr ⟨hbody, List.forall_mem_singleton.mpr (.inl hr.isHygienic)⟩
  | sequence container element strategy ih =>
    obtain ⟨hcontainer, helement⟩ := List.cons_subset.mp ht
    have hbody := ih helement (r := .variable _)
      (refers_variable .elements layers List.mem_cons_self) false
    simp only [typescript, lambdaVariable_variableAt]
    refine List.forall_mem_cons.mpr ⟨isHygienic_or_isCaptured hcontainer, ?_⟩
    split_ifs
    · exact List.forall_mem_singleton.mpr (.inl hr.isHygienic)
    · exact List.forall_mem_cons.mpr ⟨.inl refers_array.isHygienic,
        List.forall_mem_cons.mpr ⟨.inl hr.isHygienic, hbody⟩⟩
  | map container keyType valueType key value strategy ihk ihv =>
    simp only [Accessor.types, List.map_cons, List.map_append] at ht
    obtain ⟨hcontainer, ht⟩ := List.cons_subset.mp ht
    obtain ⟨-, ht⟩ := List.cons_subset.mp ht
    obtain ⟨-, ht⟩ := List.cons_subset.mp ht
    obtain ⟨hkey, hvalue⟩ := List.append_subset.mp ht
    -- Here the binder has two variables, one for the key and one for the value.
    have hk := ihk hkey (r := .variable _)
      (refers_variable .entries layers List.mem_cons_self) false
    have hv := ihv hvalue (r := .variable _)
      (refers_variable .entries layers (List.mem_cons_of_mem _ List.mem_cons_self)) false
    simp only [typescript, lambdaVariable_variableAt, variableAt_append_key,
      variableAt_append_value]
    refine List.forall_mem_cons.mpr ⟨isHygienic_or_isCaptured hcontainer, ?_⟩
    split_ifs
    · exact List.forall_mem_singleton.mpr (.inl hr.isHygienic)
    · exact List.forall_mem_cons.mpr ⟨.inl refers_array.isHygienic, List.forall_mem_cons.mpr
        ⟨.inl hr.isHygienic, List.forall_mem_append.mpr ⟨hk, hv⟩⟩⟩

theorem containers_eq_nil_of_isCopy {a : Accessor} (h : a.isCopy = true) (layers : List Layer) :
    a.containers layers = [] := by
  cases a <;> first | rfl | cases h

/-- **Constructors stand where the containers do**: there is one for each container, in the scope of
its layers, and there are no others. -/
theorem constructorsOf_typescript (a : Accessor) (name : String) (r : Receiver)
    (layers : List Layer) (test : Bool) :
    constructorsOf ((a.typescript r (variableAt name layers.length .element) test).mentions
        (scopeOf name layers)) =
      (a.containers layers).map fun q => (scopeOf name q.1, bareName q.2) := by
  -- Receivers are no constructors, and otherwise an expression has those of its parts.
  have hreceiver (scope : List Binder) (r : Receiver) (ms : List (List Binder × Mention)) :
      constructorsOf ((scope, r.mention) :: ms) = constructorsOf ms := by
    cases r <;> rfl
  induction a generalizing layers r test with
  | copy | passOn => exact hreceiver _ r []
  | call nullable op =>
    cases op with
    | fast => exact hreceiver _ r []
    | safe => exact hreceiver _ r _
  | guarded inner ih =>
    rw [typescript]
    split_ifs
    · exact ih r layers true
    · exact (hreceiver _ r _).trans (ih r layers false)
  | array element ih =>
    simp only [typescript, lambdaVariable_variableAt]
    exact (hreceiver _ r _).trans (ih _ (.elements :: layers) false)
  | project element ih =>
    simp only [typescript, lambdaVariable_variableAt]
    rw [Expression.mentions, constructorsOf_append, hreceiver _ r []]
    exact (List.append_nil _).trans (ih _ (.generator :: layers) false)
  | sequence container element strategy ih =>
    simp only [typescript, lambdaVariable_variableAt]
    refine congrArg (List.cons (scopeOf name layers, bareName container)) ?_
    split_ifs with hplain
    · -- What is handed over as it is has no containers in it.
      rw [containers_eq_nil_of_isCopy (Bool.and_eq_true_iff.mp hplain).2]
      exact hreceiver _ r []
    · exact (hreceiver _ r _).trans (ih _ (.elements :: layers) false)
  | map container keyType valueType key value strategy ihk ihv =>
    simp only [typescript, lambdaVariable_variableAt, variableAt_append_key,
      variableAt_append_value]
    refine congrArg (List.cons (scopeOf name layers, bareName container)) ?_
    split_ifs with hplain
    · rw [Bool.and_eq_true, Bool.and_eq_true] at hplain
      rw [containers_eq_nil_of_isCopy hplain.1.2, containers_eq_nil_of_isCopy hplain.2]
      exact hreceiver _ r []
    · rw [List.map_append]
      refine (hreceiver _ r _).trans ((constructorsOf_append _ _).trans ?_)
      exact congrArg₂ _ (ihk _ (.entries :: layers) false) (ihv _ (.entries :: layers) false)

end TypeScript

end Accessor

/-! ## Expressions of members -/

/-- **Expressions are hygienic but for constructors that are called like what is around them.** In
the expression of any member, along every chain of binders the variables are distinct and none of
them is reserved; a member of the object is spoken of outside of all binders only, every other
receiver is a variable of the innermost binder, and nothing that has one name everywhere is hidden.
In C# this is all there is to say. In TypeScript a constructor may be captured, and the whole
expression is hygienic exactly where no container of the accessor is of a type whose name begins
with a name that the layers above the container hide. -/
theorem expressions_hygienic (a : Accessor) (name : String) :
    (∀ p ∈ (a.csharp (.member name) name false).mentions [],
      p.2.IsHygienic name a.types p.1) ∧
    (∀ p ∈ (a.typescript (.member name) name false).mentions [],
      p.2.IsHygienic name (a.types.map TypeScript.bareName) p.1 ∨
        p.2.IsCaptured (a.types.map TypeScript.bareName) p.1) ∧
    ((∀ p ∈ (a.typescript (.member name) name false).mentions [],
        p.2.IsHygienic name (a.types.map TypeScript.bareName) p.1) ↔
      ∀ q ∈ a.containers [], ¬ IsHidden name q.1 (rootName (TypeScript.bareName q.2))) := by
  have hstem : variableAt name 0 .element = name := variableAt_element name 0
  have hmember (types : List String) : (Mention.this name).Refers name types (scopeOf name []) :=
    ⟨rfl, rfl⟩
  have hcsharp := a.csharp_hygienic (List.Subset.refl _) (r := .member name) (hmember _) false
  have htypescript := a.typescript_hygienic (List.Subset.refl _) (r := .member name) (hmember _)
    false
  have hconstructors := a.constructorsOf_typescript name (.member name) [] false
  rw [List.length_nil, hstem, scopeOf] at hcsharp htypescript hconstructors
  refine ⟨hcsharp, htypescript, fun hall q hq hhidden => ?_, fun hfree p hp => ?_⟩
  · -- The constructor of a hidden container is among the mentions and does not mean the type.
    have hmem : (scopeOf name q.1, TypeScript.bareName q.2) ∈ constructorsOf _ :=
      hconstructors ▸ List.mem_map_of_mem hq
    have hrefers := (hall _ (mem_constructorsOf_iff.mp hmem)).refers
    exact hrefers.2 (mem_boundBy_scopeOf_iff.mpr hhidden)
  · -- A captured mention is a constructor, which comes from some container.
    refine (htypescript p hp).resolve_right fun hcaptured => ?_
    obtain ⟨scope, m⟩ := p
    obtain ⟨t, -, rfl, hbound⟩ := hcaptured.hidden
    have hmem := mem_constructorsOf_iff.mpr hp
    rw [hconstructors] at hmem
    obtain ⟨q, hq, heq⟩ := List.mem_map.mp hmem
    cases heq
    exact hfree q hq (mem_boundBy_scopeOf_iff.mp hbound)

/-- A sequence of dictionaries, the values of which are arrays that may be missing. -/
def taggings : Accessor :=
  .project (.map "Map<Key, Tag[]>" "Key" "Tag[]" (.call false .safe)
    (.guarded (.array (.call true .safe))) .pairs)

/-- The innermost calls in both expressions; and nothing in them is captured. -/
theorem expressions_hygienic_taggings :
    (([.lambda "Tagsxxx", .lambda "Tagsxx", .lambda "Tagsx"], .fixed "referenceChain") ∈
        (taggings.csharp (.member "Tags") "Tags" false).mentions [] ∧
      (Mention.fixed "referenceChain").IsHygienic "Tags" taggings.types
        [.lambda "Tagsxxx", .lambda "Tagsxx", .lambda "Tagsx"]) ∧
    ([.lambda "Tagsxxx", .entry "TagsxxKey" "TagsxxValue", .loop "Tagsx"], .variable "Tagsxxx") ∈
        (taggings.typescript (.member "Tags") "Tags" false).mentions [] ∧
      taggings.containers [] = [([.generator], "Map<Key, Tag[]>")] ∧
      ¬ IsHidden "Tags" [.generator] "Map" ∧
      (Mention.variable "Tagsxxx").IsHygienic "Tags" (taggings.types.map TypeScript.bareName)
        [.lambda "Tagsxxx", .entry "TagsxxKey" "TagsxxValue", .loop "Tagsx"] := by
  have hcsharp : ([.lambda "Tagsxxx", .lambda "Tagsxx", .lambda "Tagsx"],
      .fixed "referenceChain") ∈ (taggings.csharp (.member "Tags") "Tags" false).mentions [] := by
    decide +kernel
  have htypescript : ([.lambda "Tagsxxx", .entry "TagsxxKey" "TagsxxValue", .loop "Tagsx"],
      .variable "Tagsxxx") ∈ (taggings.typescript (.member "Tags") "Tags" false).mentions [] := by
    decide +kernel
  have hcontainers : taggings.containers [] = [([.generator], "Map<Key, Tag[]>")] := rfl
  have hfree : ¬ IsHidden "Tags" [.generator] "Map" := by decide +kernel
  obtain ⟨hall, -, hiff⟩ := expressions_hygienic taggings "Tags"
  refine ⟨⟨hcsharp, hall _ hcsharp⟩, htypescript, hcontainers, hfree,
    hiff.mpr ?_ _ htypescript⟩
  rw [hcontainers]
  exact List.forall_mem_singleton.mpr hfree

/-- An array of boxes of items. -/
def boxes : Accessor := .array (.sequence "Box<Item>" (.call false .fast) .elements)

/-- A sequence of boxes, the type of which is called like a member of the object itself. -/
def ownBoxes : Accessor := .project (.sequence "this.Box<Item>" (.call false .fast) .elements)

/-- **Constructors are not kept apart from variables.** Where a member called `Bo` holds boxes, the
variable of the lambda is called like their type, so that what is called as a constructor is the box
that is cloned; and in a generator a constructor that is written as a member of the object does not
speak of the object that is cloned. -/
theorem constructor_captured :
    ((boxes.typescript (.member "Bo") "Bo" false).text {} =
        "this.Bo.map((Box) => new Box(Array.from(Box, (Boxx) => Boxx.clone())))" ∧
      boxes.containers [] = [([.elements], "Box<Item>")] ∧ IsHidden "Bo" [.elements] "Box" ∧
      ([.lambda "Box"], .constructor "Box") ∈
        (boxes.typescript (.member "Bo") "Bo" false).mentions [] ∧
      ¬ (Mention.constructor "Box").Refers "Bo" ["Box"] [.lambda "Box"]) ∧
    ((ownBoxes.typescript (.member "B") "B" false).text {} =
        "(function* (s) \x7b for (const Bx of s) yield new this.Box(Array.from(Bx, " ++
          "(Bxx) => Bxx.clone())); \x7d)(this.B)" ∧
      ownBoxes.containers [] = [([.generator], "this.Box<Item>")] ∧
      IsHidden "B" [.generator] (rootName "this.Box") ∧
      ([.loop "Bx"], .constructor "this.Box") ∈
        (ownBoxes.typescript (.member "B") "B" false).mentions [] ∧
      ¬ (Mention.constructor "this.Box").Refers "B" ["this.Box"] [.loop "Bx"]) := by
  refine ⟨⟨by decide +kernel, rfl, by decide +kernel, by decide +kernel, ?_⟩,
    by decide +kernel, rfl, by decide +kernel, by decide +kernel, ?_⟩
  · exact fun h => h.2 (by decide +kernel)
  · exact fun h => h.2 (by decide +kernel)

end DeepCopy
