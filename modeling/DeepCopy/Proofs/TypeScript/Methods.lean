import DeepCopy.Plan.Compile
import DeepCopy.Proofs.Text.Case
import DeepCopy.Proofs.TypeScript.Layout

/-!
# The methods of a module

A module puts the functions of both operations on the prototype of its class, under the names of
the operations in camel case, and calls are by these names. A function that is put there under a
name takes the place of the one that had it before: the methods of the two operations are found
where the names in camel case differ, and otherwise both names lead to the safe one.

## Main definitions

* `TypeScript.method`: the name of an operation's method
* `TypeScript.definitions`: the functions that a module puts on the prototype
* `TypeScript.prototype`: what is found there when functions have been put there in order

## Main results

* `TypeScript.prototype_eq_iff`: every function is found where their names differ, and only there
* `Module.text_eq_definitions`: the text of a module by its definitions
* `operations_apart`: when the operations of a module are kept apart
* `operations_mixed`: operations of different names with one method
-/

namespace DeepCopy

namespace TypeScript

/-! ## Prototypes -/

/-- The name of an operation's method. -/
def method (names : OperationNames) (op : Operation) : String := Text.camelCase (names.of op)

/-- The functions that a module puts on the prototype, by the names of their methods. -/
def definitions (names : OperationNames) : List (String × Operation) :=
  [.fast, .safe].map fun op => (method names op, op)

/-- What is found on a prototype by a name when functions have been put there one after the
other. -/
def prototype (ds : List (String × Operation)) : String → Option Operation :=
  ds.foldl (fun found d => Function.update found d.1 (some d.2)) fun _ => none

section Prototype

variable {ds : List (String × Operation)} {d : String × Operation}

/-- The function that was put there last is found by its name. -/
theorem prototype_concat (ds : List (String × Operation)) (d : String × Operation) :
    prototype (ds ++ [d]) = Function.update (prototype ds) d.1 (some d.2) := by
  rw [prototype, List.foldl_append]
  rfl

/-- A function is found where no other one has its name. -/
theorem prototype_of_nodup (hds : (ds.map Prod.fst).Nodup) (hd : d ∈ ds) :
    prototype ds d.1 = some d.2 := by
  induction ds using List.reverseRecOn with
  | nil => cases hd
  | append_singleton ds last ih =>
    rw [List.map_append, List.map_singleton, List.nodup_append_comm, List.singleton_append,
      List.nodup_cons] at hds
    rw [prototype_concat]
    rcases List.mem_append.mp hd with hd | hd
    · have hne : d.1 ≠ last.1 := fun heq => hds.1 (heq ▸ List.mem_map_of_mem hd)
      rw [Function.update_of_ne hne, ih hds.2 hd]
    · rw [List.mem_singleton.mp hd, Function.update_self]

/-- **Every function is found where their names differ, and only there.** -/
theorem prototype_eq_iff (hds : (ds.map Prod.snd).Nodup) :
    (∀ d ∈ ds, prototype ds d.1 = some d.2) ↔ (ds.map Prod.fst).Nodup := by
  refine ⟨fun hfound => ?_, fun hnodup d => prototype_of_nodup hnodup⟩
  rw [List.Nodup, List.pairwise_map] at hds ⊢
  refine hds.imp_of_mem fun {d d'} hd hd' hne heq => hne ?_
  have hsame := hfound d hd
  rw [heq, hfound d' hd'] at hsame
  exact (Option.some.inj hsame).symm

end Prototype

/-! ## Operations -/

/-- What the method of an operation is called with. -/
def parameters : Operation → String
  | .fast => ""
  | .safe => "referenceChain?: object[]"

/-- What a call of an operation passes on. -/
def arguments : Operation → String
  | .fast => ""
  | .safe => "referenceChain"

/-- Calls are by the names of methods. -/
theorem callText_eq (names : OperationNames) (op : Operation) :
    callText names op = method names op ++ "(" ++ arguments op ++ ")" := by
  cases op <;> simp [callText, method, arguments, OperationNames.of, String.append_assoc]

namespace Module

variable (m : Module)

/-- The line that declares the method of an operation. -/
def declarationLine (op : Operation) : String :=
  "        " ++ method m.names op ++ "(" ++ parameters op ++ "): " ++ m.typeName ++ ";"

theorem declarationLine_mem (op : Operation) : m.declarationLine op ∈ m.declarationLines := by
  cases op <;>
    simp [declarationLines, declarationLine, parameters, method, OperationNames.of,
      String.append_assoc]

/-- The first line of a function, which puts it on the prototype. -/
def definitionLine (d : String × Operation) : String :=
  m.typeName ++ ".prototype." ++ d.1 ++ " = function (this: " ++ m.typeName ++
    (match d.2 with | .fast => "" | .safe => ", " ++ parameters .safe) ++ "): " ++ m.typeName ++
      " \x7b"

/-- The lines of the function of an operation behind the first one. -/
def bodyLines (op : Operation) : List String :=
  (match op with | .fast => [] | .safe => enteringLines) ++
  ["    const clone = Object.create(" ++ m.typeName ++ ".prototype) as " ++ m.typeName ++ ";"] ++
  (match op with | .fast => m.fast | .safe => m.safe).map assignmentLine ++
  (match op with | .fast => [] | .safe => leavingLines) ++ ["    return clone;", "\x7d;"]

/-- **The text of a module by its definitions**: behind the header and the declarations stand the
functions that are put on the prototype, with a blank line between them. -/
theorem text_eq_definitions : m.text = "\n".intercalate (m.headerLines ++ m.declarationLines ++
    [""].intercalate
      ((definitions m.names).map fun d => m.definitionLine d :: m.bodyLines d.2)) := by
  have hfast : m.functionLines m.names.fast "" m.fast [] [] =
      m.definitionLine (method m.names .fast, .fast) :: m.bodyLines .fast := by
    simp [functionLines, openingLines, definitionLine, bodyLines, method, OperationNames.of]
  have hsafe : m.functionLines m.names.safe ", referenceChain?: object[]" m.safe enteringLines
      leavingLines = m.definitionLine (method m.names .safe, .safe) :: m.bodyLines .safe := by
    simp [functionLines, openingLines, definitionLine, bodyLines, method, OperationNames.of,
      parameters]
  rw [text, hfast, hsafe]
  simp [definitions, List.intercalate]

end Module

/-- **The methods of the operations are found where their names differ**, and only there. -/
theorem prototype_definitions_iff (names : OperationNames) :
    (∀ op, prototype (definitions names) (method names op) = some op) ↔
      method names .fast ≠ method names .safe := by
  have hsnd : ((definitions names).map Prod.snd).Nodup := by
    simp [definitions]
  have hfst : ((definitions names).map Prod.fst).Nodup ↔
      method names .fast ≠ method names .safe := by
    simp [definitions]
  rw [← hfst, ← prototype_eq_iff hsnd, definitions, List.forall_mem_map]
  exact ⟨fun h op _ => h op, fun h op => h op (by cases op <;> simp)⟩

/-- Where both methods have one name, the safe operation is found by it. -/
theorem prototype_definitions_of_eq {names : OperationNames}
    (h : method names .fast = method names .safe) (op : Operation) :
    prototype (definitions names) (method names op) = some .safe := by
  have hname : method names op = method names .safe := by cases op <;> simp [h]
  have hlast : definitions names =
      [(method names .fast, .fast)] ++ [(method names .safe, .safe)] := rfl
  rw [hname, hlast, prototype_concat, Function.update_self]

end TypeScript

open TypeScript (Module arguments callText definitions method prototype)

/-- **The operations of a module are kept apart where their names differ in camel case**, and only
there. By the standard template a module declares a method for each operation and puts their
functions on the prototype, the fast one before the safe one, all by the names of the operations in
camel case, by which the operations are called as well. Each operation is found by the name of its
method exactly where these names differ; otherwise calls of both run the safe one. Names in ASCII
that differ in more than case and underscores have different methods. -/
theorem operations_apart (p : Plan) (options : RenderOptions) :
    (∃ m : Module, p.typescript options none = .ok m.text ∧ m.names = p.names ∧
      (∀ op, m.declarationLine op ∈ m.declarationLines) ∧
      m.text = "\n".intercalate (m.headerLines ++ m.declarationLines ++
        [""].intercalate
          ((definitions p.names).map fun d => m.definitionLine d :: m.bodyLines d.2))) ∧
    (∀ op, callText p.names op = method p.names op ++ "(" ++ arguments op ++ ")") ∧
    ((∀ op, prototype (definitions p.names) (method p.names op) = some op) ↔
      method p.names .fast ≠ method p.names .safe) ∧
    (method p.names .fast = method p.names .safe →
      ∀ op, prototype (definitions p.names) (method p.names op) = some .safe) ∧
    (Text.IsAscii p.names.fast.toList → Text.IsAscii p.names.safe.toList →
      Text.bare p.names.fast.toList ≠ Text.bare p.names.safe.toList →
      method p.names .fast ≠ method p.names .safe) :=
  ⟨⟨p.typescriptModule options, p.typescript_none options, rfl, Module.declarationLine_mem _,
    Module.text_eq_definitions _⟩, TypeScript.callText_eq p.names,
    TypeScript.prototype_definitions_iff p.names, TypeScript.prototype_definitions_of_eq,
    Text.camelCase_ne_of_bare_ne⟩

/-- The names that operations have unless they are given others differ in more than case, and each
operation is found. -/
theorem operations_apart_default : ∃ p, compile {} { name := "X" } = .ok p ∧
    method p.names .fast = "clone" ∧ method p.names .safe = "cloneSafe" ∧
      ∀ op, prototype (definitions p.names) (method p.names op) = some op := by
  obtain ⟨p, hp, hnames⟩ : ∃ p, compile {} { name := "X" } = .ok p ∧ p.names = {} :=
    ⟨_, rfl, rfl⟩
  obtain ⟨-, -, hfound, -, hbare⟩ := operations_apart p {}
  refine ⟨p, hp, ?_⟩
  rw [hnames] at hfound hbare ⊢
  exact ⟨rfl, rfl,
    hfound.mpr (hbare (by simp [Text.IsAscii]) (by simp [Text.IsAscii]) (by decide))⟩

/-- **Operations of different names may have one method**: then the fast one is not found. -/
theorem operations_mixed : ∃ p,
    compile { names := { fast := "clone_all", safe := "CloneAll" } } { name := "X" } = .ok p ∧
      p.names.fast ≠ p.names.safe ∧ method p.names .fast = "cloneAll" ∧
      method p.names .safe = "cloneAll" ∧
      prototype (definitions p.names) (method p.names .fast) = some .safe := by
  obtain ⟨p, hp, hnames⟩ : ∃ p,
      compile { names := { fast := "clone_all", safe := "CloneAll" } } { name := "X" } = .ok p ∧
        p.names = { fast := "clone_all", safe := "CloneAll" } :=
    ⟨_, rfl, rfl⟩
  have hfast : method p.names .fast = "cloneAll" := by rw [hnames]; rfl
  have hsafe : method p.names .safe = "cloneAll" := by rw [hnames]; rfl
  exact ⟨p, hp, by rw [hnames]; decide, hfast, hsafe,
    TypeScript.prototype_definitions_of_eq (hfast.trans hsafe.symm) .fast⟩

end DeepCopy
