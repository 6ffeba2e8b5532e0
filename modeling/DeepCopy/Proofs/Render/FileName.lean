import DeepCopy.Proofs.Files.Tree
import DeepCopy.Proofs.Project.Acceptance
import DeepCopy.Render.Unit

/-!
# Names of rendered files

The file of a C# unit is called by the namespace and the name of its type, that of a TypeScript
module by the name alone. A type that is compiled has an identifier as its name, without dots, so
the last dot of a C# stem tells namespace and name apart.

## Main definitions

* `Plan.stem`: what the name of a plan's file begins with

## Main results

* `fileName_ne_of_target_ne`: files of different targets never have one name
* `csharp_fileName_inj`, `typescript_fileName_inj`: what plans with one file name have in common
* `isName_fileName_iff`, `isName_fileName_of_compile`: when the name of a plan's file names a file
  in a directory
* `map_fileName_of_unitsOf`: the units of plans have the names of their plans' files
* `nodup_csharp_fileName`, `nodup_typescript_fileName_iff`: when the files of compiled types have
  different names
-/

namespace DeepCopy

open Text (IsIdentifier isWordPart)

/-! ## Lists -/

/-- Lists whose entries agree in pairs have the same images. -/
theorem map_eq_map_of_forall₂ {α β γ : Type} {f : α → γ} {g : β → γ} {as : List α} {bs : List β}
    (hall : List.Forall₂ (fun a b => f a = g b) as bs) : as.map f = bs.map g := by
  rwa [← List.forall₂_eq_eq_eq, List.forall₂_map_left_iff, List.forall₂_map_right_iff]

/-- The last separator of a list tells what is before it and what is behind it. -/
theorem append_cons_inj_of_notMem_right {α : Type} {sep : α} {xs ys us vs : List α}
    (hus : sep ∉ us) (hvs : sep ∉ vs) (heq : xs ++ sep :: us = ys ++ sep :: vs) :
    xs = ys ∧ us = vs := by
  rcases List.append_eq_append_iff.mp heq with ⟨between, hys, htail⟩ | ⟨between, hxs, htail⟩
  · cases between with
    | nil => exact ⟨by simp [hys], (List.cons.inj htail).2⟩
    | cons c between =>
      rw [(List.cons.inj htail).2] at hus
      exact absurd (List.mem_append_right _ List.mem_cons_self) hus
  · cases between with
    | nil => exact ⟨by simp [hxs], (List.cons.inj htail).2.symm⟩
    | cons c between =>
      rw [(List.cons.inj htail).2] at hvs
      exact absurd (List.mem_append_right _ List.mem_cons_self) hvs

/-! ## Characters of identifiers -/

/-- An identifier has no character that words do not have, but for the mark in front. -/
theorem notMem_of_isIdentifier {name : String} (hname : IsIdentifier name) {c : Char}
    (hc : isWordPart c = false) (hmark : c ≠ '@') : c ∉ name.toList := by
  obtain ⟨mark, start, rest, hlist, hmarks, hstart, hrest⟩ := hname
  intro hmem
  rw [hlist, List.mem_append, List.mem_cons] at hmem
  rcases hmem with hmem | rfl | hmem
  · rcases hmarks with rfl | rfl
    · cases hmem
    · exact hmark (List.mem_singleton.mp hmem)
  · rw [Text.isWordPart_of_isWordStart hstart] at hc
    cases hc
  · rw [hrest c hmem] at hc
    cases hc

theorem dot_notMem_of_isIdentifier {name : String} (hname : IsIdentifier name) :
    '.' ∉ name.toList :=
  notMem_of_isIdentifier hname (by decide) (by decide)

theorem slash_notMem_of_isIdentifier {name : String} (hname : IsIdentifier name) :
    '/' ∉ name.toList :=
  notMem_of_isIdentifier hname (by decide) (by decide)

namespace Plan

/-! ## Stems -/

/-- What the name of a plan's file begins with. -/
def stem (p : Plan) : Target → String
  | .csharp => if p.namespaceName.isEmpty then p.typeName else p.namespaceName ++ "." ++ p.typeName
  | .typescript => p.typeName

/-- What the names of a target's files end with. -/
def ending (target : Target) : String := ".cloneable.g." ++ target.extension

theorem fileName_eq (p : Plan) (target : Target) :
    p.fileName target = p.stem target ++ ending target := by
  cases target <;> exact String.append_assoc

variable {p q : Plan}

/-- **Files of different targets never have one name.** -/
theorem fileName_ne_of_target_ne {target other : Target} (hne : target ≠ other) :
    p.fileName target ≠ q.fileName other := by
  intro heq
  have hlist := congrArg String.toList heq
  rw [fileName_eq, fileName_eq, String.toList_append, String.toList_append] at hlist
  -- The endings are of one length, so names that are equal end alike.
  have hlength : (ending target).toList.length = (ending other).toList.length := by
    cases target <;> cases other <;> decide
  have hending := (List.append_inj' hlist hlength).2
  revert hending hne
  cases target <;> cases other <;> decide

theorem stem_eq_of_fileName_eq {target : Target} (heq : p.fileName target = q.fileName target) :
    p.stem target = q.stem target := by
  have hlist := congrArg String.toList heq
  simp only [fileName_eq, String.toList_append, List.append_left_inj] at hlist
  exact String.toList_injective hlist

/-- The stem of a C# file in a namespace: the last dot stands before the name of the type. -/
theorem toList_stem_csharp (hp : p.namespaceName ≠ "") :
    (p.stem .csharp).toList = p.namespaceName.toList ++ '.' :: p.typeName.toList := by
  rw [stem, if_neg (mt String.isEmpty_iff.mp hp), String.toList_append, String.toList_append,
    List.append_assoc]
  rfl

theorem stem_csharp_of_empty (hp : p.namespaceName = "") : p.stem .csharp = p.typeName := by
  rw [stem, if_pos (String.isEmpty_iff.mpr hp)]

/-- A stem with a namespace has a dot, a name alone has none. -/
theorem stem_csharp_ne (hp : p.namespaceName = "") (hq : q.namespaceName ≠ "")
    (hdot : '.' ∉ p.typeName.toList) : p.stem .csharp ≠ q.stem .csharp := by
  intro heq
  rw [← stem_csharp_of_empty hp, heq, toList_stem_csharp hq] at hdot
  exact hdot (List.mem_append_right _ List.mem_cons_self)

/-- **C# files of one name are those of one namespace and one type.** -/
theorem csharp_fileName_inj (hp : '.' ∉ p.typeName.toList) (hq : '.' ∉ q.typeName.toList)
    (heq : p.fileName .csharp = q.fileName .csharp) :
    p.namespaceName = q.namespaceName ∧ p.typeName = q.typeName := by
  have hstem := stem_eq_of_fileName_eq heq
  -- A stem without a namespace has no dot, so both or neither of the plans have one.
  by_cases hpn : p.namespaceName = "" <;> by_cases hqn : q.namespaceName = ""
  · rw [stem_csharp_of_empty hpn, stem_csharp_of_empty hqn] at hstem
    exact ⟨hpn.trans hqn.symm, hstem⟩
  · exact absurd hstem (stem_csharp_ne hpn hqn hp)
  · exact absurd hstem.symm (stem_csharp_ne hqn hpn hq)
  · have hlist := congrArg String.toList hstem
    rw [toList_stem_csharp hpn, toList_stem_csharp hqn] at hlist
    obtain ⟨hspace, hname⟩ := append_cons_inj_of_notMem_right hp hq hlist
    exact ⟨String.toList_injective hspace, String.toList_injective hname⟩

/-- **TypeScript files of one name are those of types of one name**, in whatever namespaces. -/
theorem typescript_fileName_inj :
    p.fileName .typescript = q.fileName .typescript ↔ p.typeName = q.typeName := by
  refine ⟨stem_eq_of_fileName_eq, fun heq => ?_⟩
  rw [fileName_eq, fileName_eq, stem, stem, heq]

/-! ## Names in a directory -/

/-- The name of a plan's file names a file in a directory, if its stem has no slash. -/
theorem isName_fileName {target : Target} (hp : '/' ∉ (p.stem target).toList) :
    Path.IsName (p.fileName target) := by
  have hlength : 3 ≤ (p.fileName target).toList.length := by
    rw [fileName_eq, String.toList_append, List.length_append]
    cases target <;> exact Nat.le_add_left_of_le (by decide)
  refine ⟨?_, ?_, ?_, ?_⟩
  · rw [fileName_eq, String.toList_append, List.mem_append, not_or]
    exact ⟨hp, by cases target <;> decide⟩
  all_goals
    intro heq
    rw [heq] at hlength
    revert hlength
    decide

/-- The name of a plan's file is a name where its stem has no slash, and only there. -/
theorem isName_fileName_iff {target : Target} :
    Path.IsName (p.fileName target) ↔ '/' ∉ (p.stem target).toList := by
  refine ⟨fun h hslash => h.slash_notMem ?_, isName_fileName⟩
  rw [fileName_eq, String.toList_append]
  exact List.mem_append_left _ hslash

end Plan

/-! ## Units -/

section Units

variable {target : Target} {options : RenderOptions} {template : Option String}

/-- A unit has the name of its plan's file and the plan's content. -/
theorem Plan.of_unit {p : Plan} {u : RenderedUnit} (hu : p.unit target options template = .ok u) :
    u.fileName = p.fileName target ∧ p.content target options template = .ok u.content := by
  rw [unit] at hu
  cases hcontent : p.content target options template with
  | error e =>
    rw [hcontent] at hu
    cases hu
  | ok content =>
    rw [hcontent] at hu
    cases hu
    exact ⟨rfl, rfl⟩

/-- Plans that are rendered have one unit each, in order. -/
theorem forall₂_of_unitsOf {ps : List Plan} {us : List RenderedUnit}
    (hus : unitsOf target options template ps = .ok us) :
    List.Forall₂ (fun p u => p.unit target options template = .ok u) ps us := by
  induction ps generalizing us with
  | nil =>
    cases hus
    exact .nil
  | cons p ps ih =>
    rw [unitsOf] at hus
    cases hunit : p.unit target options template with
    | error e =>
      rw [hunit] at hus
      cases hus
    | ok u =>
      rw [hunit] at hus
      cases hrest : unitsOf target options template ps with
      | error e =>
        rw [hrest] at hus
        cases hus
      | ok rest =>
        rw [hrest] at hus
        cases hus
        exact .cons hunit (ih hrest)

/-- **The units of plans have the names of their plans' files.** -/
theorem map_fileName_of_unitsOf {ps : List Plan} {us : List RenderedUnit}
    (hus : unitsOf target options template ps = .ok us) :
    us.map RenderedUnit.fileName = ps.map (Plan.fileName · target) := by
  have hall := (forall₂_of_unitsOf hus).imp fun p u hu => (Plan.of_unit hu).1.symm
  exact (map_eq_map_of_forall₂ hall).symm

end Units

/-! ## Plans of descriptors -/

/-- The plan of a descriptor is for its type, which has an identifier as its name. -/
theorem names_of_compile {settings : CompileSettings} {d : Descriptor} {p : Plan}
    (hp : compile settings d = .ok p) :
    p.namespaceName = d.namespaceName ∧ p.typeName = d.name ∧ IsIdentifier d.name := by
  have hname := (Plan.members_of_compile hp).1.identifier
  rw [compile] at hp
  split at hp
  · cases hp
    exact ⟨rfl, rfl, hname⟩
  · cases hp

/-- **The TypeScript file of a type that is compiled has a name, and its C# file has one where the
namespace has no slash.** -/
theorem isName_fileName_of_compile {settings : CompileSettings} {d : Descriptor} {p : Plan}
    (hp : compile settings d = .ok p) :
    Path.IsName (p.fileName .typescript) ∧
      (Path.IsName (p.fileName .csharp) ↔ '/' ∉ d.namespaceName.toList) := by
  obtain ⟨hspace, htype, hname⟩ := names_of_compile hp
  rw [← htype] at hname
  have hslash := slash_notMem_of_isIdentifier hname
  refine ⟨Plan.isName_fileName hslash, ?_⟩
  rw [Plan.isName_fileName_iff, ← hspace]
  by_cases hempty : p.namespaceName = ""
  · rw [Plan.stem_csharp_of_empty hempty, hempty]
    exact iff_of_true hslash List.not_mem_nil
  · rw [Plan.toList_stem_csharp hempty, List.mem_append, List.mem_cons, not_or, not_or]
    exact and_iff_left ⟨by decide, hslash⟩

section Plans

variable {settings : CompileSettings} {ds : List Descriptor} {ps : List Plan}

/-- The plans of descriptors are for their types, in order. -/
theorem map_names_of_compileAll (hps : compileAll settings ds = .ok ps) :
    ps.map (fun p => (p.namespaceName, p.typeName)) =
      ds.map (fun d => (d.namespaceName, d.name)) := by
  refine (map_eq_map_of_forall₂ ((forall₂_of_compileAll hps).imp fun d p hp => ?_)).symm
  obtain ⟨hspace, hname, -⟩ := names_of_compile hp
  exact Prod.ext hspace.symm hname.symm

/-- A plan is that of one of the descriptors. -/
theorem exists_of_mem_compileAll (hps : compileAll settings ds = .ok ps) {p : Plan} (hp : p ∈ ps) :
    ∃ d ∈ ds, compile settings d = .ok p := by
  have hall := forall₂_of_compileAll hps
  clear hps
  induction hall with
  | nil => cases hp
  | cons hq _ ih =>
    rcases List.mem_cons.mp hp with rfl | hp
    · exact ⟨_, List.mem_cons_self, hq⟩
    · obtain ⟨d, hd, hcompile⟩ := ih hp
      exact ⟨d, List.mem_cons_of_mem _ hd, hcompile⟩

theorem isIdentifier_of_compileAll (hps : compileAll settings ds = .ok ps) {p : Plan}
    (hp : p ∈ ps) : IsIdentifier p.typeName := by
  obtain ⟨d, -, hcompile⟩ := exists_of_mem_compileAll hps hp
  obtain ⟨-, hname, hvalid⟩ := names_of_compile hcompile
  rwa [hname]

/-- The file of a compiled type is in the directory itself, unless a namespace has a slash. -/
theorem isName_of_compileAll (hps : compileAll settings ds = .ok ps) {target : Target}
    (hds : target = .csharp → ∀ d ∈ ds, '/' ∉ d.namespaceName.toList) {p : Plan} (hp : p ∈ ps) :
    Path.IsName (p.fileName target) := by
  obtain ⟨d, hd, hcompile⟩ := exists_of_mem_compileAll hps hp
  obtain ⟨htypescript, hcsharp⟩ := isName_fileName_of_compile hcompile
  cases target with
  | typescript => exact htypescript
  | csharp => exact hcsharp.mpr (hds rfl d hd)

/-- **Compiled types with different names have C# files with different names.** -/
theorem nodup_csharp_fileName (hps : compileAll settings ds = .ok ps)
    (hds : (ds.map fun d => (d.namespaceName, d.name)).Nodup) :
    (ps.map (Plan.fileName · .csharp)).Nodup := by
  rw [← map_names_of_compileAll hps, List.nodup_iff_pairwise_ne, List.pairwise_map] at hds
  rw [List.nodup_iff_pairwise_ne, List.pairwise_map]
  refine hds.imp_of_mem fun {p q} hp hq hne heq => hne ?_
  obtain ⟨hspace, hname⟩ := Plan.csharp_fileName_inj
    (dot_notMem_of_isIdentifier (isIdentifier_of_compileAll hps hp))
    (dot_notMem_of_isIdentifier (isIdentifier_of_compileAll hps hq)) heq
  exact Prod.ext hspace hname

/-- **TypeScript files have different names where the types have.** -/
theorem nodup_typescript_fileName_iff (hps : compileAll settings ds = .ok ps) :
    (ps.map (Plan.fileName · .typescript)).Nodup ↔ (ds.map Descriptor.name).Nodup := by
  have hnames : ps.map Plan.typeName = ds.map Descriptor.name := by
    have hmap := congrArg (List.map Prod.snd) (map_names_of_compileAll hps)
    rwa [List.map_map, List.map_map] at hmap
  rw [← hnames, List.nodup_iff_pairwise_ne, List.nodup_iff_pairwise_ne, List.pairwise_map,
    List.pairwise_map]
  simp only [ne_eq, Plan.typescript_fileName_inj]

end Plans

end DeepCopy
