import DeepCopy.Proofs.Command.Check
import DeepCopy.Proofs.Plan.Compiled
import DeepCopy.Proofs.TypeScript.Layout
import Mathlib

/-!
# Which documents are accepted

Checking, compiling and rendering come to validation by different ways. They agree on every
document that can be read: a check ends well exactly when every descriptor has a plan, and then
every plan has a unit for every target, since rendering by the standard templates never fails.
Where a descriptor is not fit, compiling stops at the first type that a check complains about, with
the same complaints.

## Main results

* `compileAll_ok_iff`, `exists_issue_of_compileAll`: compiling by the issues of a check
* `exists_unitsOf`: plans have units by the standard templates
* `unitsOfText_ok_iff`, `unitsOfText_of_rejected`: the units of a document by its descriptors
* `documents_accepted`: checking, compiling and rendering accept the same documents
-/

namespace DeepCopy

open Command (Issue issues)

/-! ## Compiling -/

theorem issues_cons_of_flaws_eq_nil {d : Descriptor} (hd : d.flaws = []) (ds : List Descriptor) :
    issues (d :: ds) = issues ds := by
  simp [issues, hd]

theorem issues_cons_of_flaws_ne_nil {d : Descriptor} (hd : d.flaws ≠ []) (ds : List Descriptor) :
    issues (d :: ds) = ⟨d.name, d.flaws⟩ :: issues ds := by
  simp [issues, hd]

/-- **Descriptors without issues have one plan each, in order.** -/
theorem compileAll_of_issues_eq_nil (settings : CompileSettings) {ds : List Descriptor}
    (hds : issues ds = []) : ∃ ps, compileAll settings ds = .ok ps ∧
      List.Forall₂ (fun d p => compile settings d = .ok p) ds ps := by
  induction ds with
  | nil => exact ⟨[], rfl, .nil⟩
  | cons d ds ih =>
    by_cases hd : d.flaws = []
    · rw [issues_cons_of_flaws_eq_nil hd] at hds
      obtain ⟨p, hp⟩ := compile_of_flaws_eq_nil settings hd
      obtain ⟨ps, hps, hall⟩ := ih hds
      refine ⟨p :: ps, ?_, .cons hp hall⟩
      rw [compileAll, hp, hps]
      rfl
    · rw [issues_cons_of_flaws_ne_nil hd] at hds
      cases hds

/-- **Compiling stops at the first issue of a check.** -/
theorem compileAll_of_issues_eq_cons (settings : CompileSettings) {ds : List Descriptor}
    {i : Issue} {is : List Issue} (hds : issues ds = i :: is) :
    compileAll settings ds = .error ⟨i.typeName, i.flaws⟩ := by
  induction ds with
  | nil => cases hds
  | cons d ds ih =>
    by_cases hd : d.flaws = []
    · rw [issues_cons_of_flaws_eq_nil hd] at hds
      obtain ⟨p, hp⟩ := compile_of_flaws_eq_nil settings hd
      rw [compileAll, hp, ih hds]
      rfl
    · rw [issues_cons_of_flaws_ne_nil hd] at hds
      cases hds
      rw [compileAll, compile_of_flaws_ne_nil settings hd]
      rfl

section

variable {settings : CompileSettings} {ds : List Descriptor}

/-- Descriptors are compiled where a check has no issues, and only there. -/
theorem compileAll_ok_iff : (∃ ps, compileAll settings ds = .ok ps) ↔ issues ds = [] := by
  constructor
  · rintro ⟨ps, hps⟩
    cases hissues : issues ds with
    | nil => rfl
    | cons i is =>
      rw [compileAll_of_issues_eq_cons settings hissues] at hps
      cases hps
  · intro hissues
    obtain ⟨ps, hps, -⟩ := compileAll_of_issues_eq_nil settings hissues
    exact ⟨ps, hps⟩

/-- Compiled descriptors have one plan each, in order. -/
theorem forall₂_of_compileAll {ps : List Plan} (hps : compileAll settings ds = .ok ps) :
    List.Forall₂ (fun d p => compile settings d = .ok p) ds ps := by
  obtain ⟨qs, hqs, hall⟩ := compileAll_of_issues_eq_nil settings (compileAll_ok_iff.mp ⟨ps, hps⟩)
  rw [hps] at hqs
  cases hqs
  exact hall

/-- A rejection is that of the first issue. -/
theorem exists_issue_of_compileAll {r : Rejection} (hr : compileAll settings ds = .error r) :
    ∃ i is, issues ds = i :: is ∧ r = ⟨i.typeName, i.flaws⟩ := by
  cases hissues : issues ds with
  | nil =>
    obtain ⟨ps, hps, -⟩ := compileAll_of_issues_eq_nil settings hissues
    rw [hr] at hps
    cases hps
  | cons i is =>
    rw [compileAll_of_issues_eq_cons settings hissues] at hr
    cases hr
    exact ⟨i, is, rfl, rfl⟩

end

/-! ## Rendering -/

/-- A plan has a unit for every target, by the standard template where there is one. -/
theorem Plan.exists_unit (p : Plan) (target : Target) (options : RenderOptions) :
    ∃ u, p.unit target options none = .ok u := by
  cases target with
  | csharp => exact ⟨_, rfl⟩
  | typescript =>
    refine ⟨⟨p.fileName .typescript, (p.typescriptModule options).text⟩, ?_⟩
    rw [unit, content, p.typescript_none options]
    rfl

/-- **Plans have one unit each, in order.** -/
theorem exists_unitsOf (target : Target) (options : RenderOptions) (ps : List Plan) :
    ∃ us, unitsOf target options none ps = .ok us ∧
      List.Forall₂ (fun p u => p.unit target options none = .ok u) ps us := by
  induction ps with
  | nil => exact ⟨[], rfl, .nil⟩
  | cons p ps ih =>
    obtain ⟨u, hu⟩ := p.exists_unit target options
    obtain ⟨us, hus, hall⟩ := ih
    refine ⟨u :: us, ?_, .cons hu hall⟩
    rw [unitsOf, hu, hus]
    rfl

/-- Without a directory of templates a configuration renders by the standard ones. -/
theorem Config.units_of_templateDir_eq_none {m : Type → Type} [Monad m] [LawfulMonad m]
    {c : Config} (hc : c.render.templateDir = none) (files : Files m) (now : String)
    (target : Target) (ps : List Plan) :
    c.units files now target ps =
      pure ((unitsOf target (c.render.options now) none ps).mapError .template) := by
  have htemplate : c.template files target = pure (.ok none) := by
    rw [template, hc]
  cases ps with
  | nil => rfl
  | cons p ps =>
    rw [units, htemplate, pure_bind]
    rfl

/-! ## Documents -/

section

variable {text : String} {ds : List Descriptor} (hread : Descriptor.readAll text = .ok ds)
  (settings : CompileSettings) (options : RenderOptions) (target : Target)
include hread

omit options target in
/-- The plans of a document are those of its descriptors. -/
theorem plansOf_eq : plansOf settings text = (compileAll settings ds).mapError .rejected := by
  rw [plansOf, hread]
  rfl

/-- A document without issues has the units of its plans. -/
theorem exists_unitsOfText {ps : List Plan} (hps : compileAll settings ds = .ok ps) :
    ∃ us, unitsOfText settings options target text = .ok us ∧
      List.Forall₂ (fun p u => p.unit target options none = .ok u) ps us := by
  obtain ⟨us, hus, hall⟩ := exists_unitsOf target options ps
  refine ⟨us, ?_, hall⟩
  rw [unitsOfText, plansOf_eq hread, hps]
  change (unitsOf target options none ps).mapError Failure.template = _
  rw [hus]
  rfl

/-- A document that is rejected has no units, for the same reason. -/
theorem unitsOfText_of_rejected {r : Rejection} (hr : compileAll settings ds = .error r) :
    unitsOfText settings options target text = .error (.rejected r) := by
  rw [unitsOfText, plansOf_eq hread, hr]
  rfl

/-- A document has units for a target where its descriptors are compiled, and only there. -/
theorem unitsOfText_ok_iff :
    (∃ us, unitsOfText settings options target text = .ok us) ↔
      ∃ ps, compileAll settings ds = .ok ps := by
  constructor
  · rintro ⟨us, hus⟩
    cases hcompile : compileAll settings ds with
    | ok ps => exact ⟨ps, rfl⟩
    | error r =>
      rw [unitsOfText_of_rejected hread settings options target hcompile] at hus
      cases hus
  · rintro ⟨ps, hps⟩
    obtain ⟨us, hus, -⟩ := exists_unitsOfText hread settings options target hps
    exact ⟨us, hus⟩

end

/-- **Checking, compiling and rendering accept the same documents.** An accepted document has one
plan and one unit for each of its descriptors, in order; a document that is not accepted is rejected
for its first issue. -/
theorem documents_accepted {text : String} {ds : List Descriptor}
    (hread : Descriptor.readAll text = .ok ds) {home : List String} {tree : FileTree}
    {path : String} (hfile : tree.find home path = .ok (.file text))
    (hpath : path.toList.head? ≠ some '-') (now : String) (args : List String)
    (settings : CompileSettings) (options : RenderOptions) :
    List.TFAE [
      (StateT.run (Command.run (FileTree.files home) now ("check" :: path :: args)) tree).1.status =
        0,
      ∃ ps, compileAll settings ds = .ok ps,
      ∃ us, unitsOfText settings options .csharp text = .ok us,
      ∃ us, unitsOfText settings options .typescript text = .ok us] ∧
    (∀ ps, compileAll settings ds = .ok ps →
      List.Forall₂ (fun d p => compile settings d = .ok p) ds ps ∧
      ∀ target, ∃ us, unitsOfText settings options target text = .ok us ∧
        List.Forall₂ (fun p u => p.unit target options none = .ok u) ps us) ∧
    (∀ r, compileAll settings ds = .error r →
      ∃ i is, issues ds = i :: is ∧ r = ⟨i.typeName, i.flaws⟩ ∧
        r.message = "Invalid descriptor for `" ++ i.typeName ++ "`: " ++
          "; ".intercalate (i.flaws.map Flaw.message)) := by
  refine ⟨?_, fun ps hps => ⟨forall₂_of_compileAll hps, ?_⟩, fun r hr => ?_⟩
  · have hcheck := Command.status_run_check hfile hpath hread now args
    have hunits := unitsOfText_ok_iff hread settings options
    tfae_have 1 ↔ 2 := hcheck.trans compileAll_ok_iff.symm
    tfae_have 3 ↔ 2 := hunits .csharp
    tfae_have 4 ↔ 2 := hunits .typescript
    tfae_finish
  · exact fun target => exists_unitsOfText hread settings options target hps
  · obtain ⟨i, is, hissues, rfl⟩ := exists_issue_of_compileAll hr
    exact ⟨i, is, hissues, rfl, rfl⟩

/-! ## A document with two types -/

/-- A document with two types. -/
def pairText : String := "'types':\n- 'name': 'A'\n  'namespace': 'N'\n- 'name': 'B'\n"

/-- The types of the document. -/
def pairDescriptors : List Descriptor := [{ name := "A", namespaceName := "N" }, { name := "B" }]

/-- A directory with the document. -/
def pairTree : FileTree := .directory [("types.yaml", .file pairText)]

theorem readAll_pairText : Descriptor.readAll pairText = .ok pairDescriptors := by
  rw [pairText, pairDescriptors]
  cbv

/-- The document with two types is accepted, and rendered as two units. -/
theorem documents_accepted_pairText :
    Descriptor.readAll pairText = .ok pairDescriptors ∧
      pairTree.find [] "types.yaml" = .ok (.file pairText) ∧
      "types.yaml".toList.head? ≠ some '-' ∧
      (StateT.run (Command.run (FileTree.files []) "" ["check", "types.yaml"]) pairTree).1.status =
        0 ∧
      ∃ us, unitsOfText {} {} .typescript pairText = .ok us ∧ us.length = 2 := by
  have hfile : pairTree.find [] "types.yaml" = .ok (.file pairText) := by
    rfl
  have hpath : "types.yaml".toList.head? ≠ some '-' := by decide
  have hissues : issues pairDescriptors = [] := by decide +kernel
  obtain ⟨ps, hps, -⟩ := compileAll_of_issues_eq_nil {} hissues
  have haccepted := documents_accepted readAll_pairText hfile hpath "" [] {} {}
  obtain ⟨hplans, hunits⟩ := haccepted.2.1 ps hps
  obtain ⟨us, hus, hall⟩ := hunits .typescript
  refine ⟨readAll_pairText, hfile, hpath, ?_, us, hus, ?_⟩
  · have hstatus := haccepted.1.out 1 0
    exact hstatus.mp ⟨ps, hps⟩
  rw [← hall.length_eq, ← hplans.length_eq]
  rfl

end DeepCopy
