import DeepCopy.Proofs.Command.Ending
import DeepCopy.Proofs.Files.Directory
import DeepCopy.Proofs.Render.FileName

/-!
# What rendering leaves in a directory

A rendering that ends well has made the output directory and written every unit into it, one after
the other. A unit's file stays as it was written while units of other names are, so that where the
names differ all of them are there at the end.

## Main definitions

* `Command.deliverAll`, `Command.renderFor`, `Command.renderAll`: the loops of a rendering
* `Command.RendersInto`: what the arguments of a rendering come down to

## Main results

* `Command.hasFile_of_deliverAll`: delivered units of different names are all there
* `Command.hasFile_of_renderAll`: and so for every target
* `Command.RendersInto.status_run`: a rendering ends well where its directory admits the files
* `units_kept_apart`: which units have names of their own, and what is left of them in a directory
-/

namespace DeepCopy

open FileTree (files)

namespace Command

/-! ## Units -/

/-- Puts units in the output directory, one after the other. -/
def deliverAll {m : Type → Type} [Monad m] (files : Files m) (dir : String)
    (us : List RenderedUnit) : Session m Unit :=
  us.forM (deliver files (some dir))

section Units

variable {home : List String} {dir name text : String} {u : RenderedUnit} {us : List RenderedUnit}
  {before after : Transcript × FileTree}

theorem run_writeText_iff {path : String} {tree tree' : FileTree} :
    StateT.run ((files home).writeText path text) tree = (.ok (), tree') ↔
      tree.write home path text = .ok tree' := by
  cases hwrite : tree.write home path text with
  | error e =>
    simp only [files, StateT.run_bind, StateT.run_get, pure_bind, hwrite]
    constructor <;>
      intro h <;>
      cases h
  | ok written =>
    simp only [files, StateT.run_bind, StateT.run_get, pure_bind, hwrite]
    constructor <;>
      intro h <;>
      cases h <;>
      rfl

/-- A unit that is delivered is written in a tree with the output directory. -/
theorem exists_of_deliver (h : (deliver (files home) (some dir) u).ComesTo before () after) :
    ∃ tree, FileTree.Extends [] before.2 tree ∧
      tree.write home (Path.join dir u.fileName) u.content = .ok after.2 := by
  obtain ⟨⟨⟩, mid, hmake, h⟩ := h.exists_of_bind
  obtain ⟨⟨⟩, mid', hwrite, hnote⟩ := h.exists_of_bind
  have hmake : FileTree.makeDirectories home dir before.2 = (.ok (), mid.2) :=
    comesTo_ask_mapError hmake
  have htree := FileTree.extends_makeDirectories home dir before.2
  rw [hmake] at htree
  rw [comesTo_note hnote]
  exact ⟨mid.2, htree, run_writeText_iff.mp (comesTo_ask_mapError hwrite)⟩

/-- **A unit that is delivered has its file.** -/
theorem hasFile_of_deliver (hname : Path.IsName u.fileName)
    (h : (deliver (files home) (some dir) u).ComesTo before () after) :
    after.2.HasFile home dir u.fileName u.content := by
  obtain ⟨tree, -, hwrite⟩ := exists_of_deliver h
  exact FileTree.hasFile_of_write hname hwrite

/-- **A file stays there** while a unit of another name is delivered. -/
theorem hasFile_deliver_of_ne (hname : Path.IsName u.fileName) (hne : name ≠ u.fileName)
    (h : (deliver (files home) (some dir) u).ComesTo before () after)
    (hfile : before.2.HasFile home dir name text) : after.2.HasFile home dir name text := by
  obtain ⟨tree, hmake, hwrite⟩ := exists_of_deliver h
  exact (hfile.of_extends hmake fun _ _ => List.not_mem_nil).write_of_ne hname hne hwrite

/-- Files stay there while units of other names are delivered. -/
theorem hasFile_deliverAll_of_notMem (hnames : ∀ u ∈ us, Path.IsName u.fileName)
    (hname : name ∉ us.map RenderedUnit.fileName)
    (h : (deliverAll (files home) dir us).ComesTo before () after)
    (hfile : before.2.HasFile home dir name text) : after.2.HasFile home dir name text := by
  induction us generalizing before with
  | nil =>
    rw [(comesTo_done h).2]
    exact hfile
  | cons u us ih =>
    obtain ⟨⟨⟩, mid, hu, hus⟩ := h.exists_of_bind
    rw [List.map_cons, List.mem_cons, not_or] at hname
    exact ih (fun v hv => hnames v (List.mem_cons_of_mem _ hv)) hname.2 hus
      (hasFile_deliver_of_ne (hnames u List.mem_cons_self) hname.1 hu hfile)

/-- **Delivered units of different names are all there.** -/
theorem hasFile_of_deliverAll (hnames : ∀ u ∈ us, Path.IsName u.fileName)
    (hus : (us.map RenderedUnit.fileName).Nodup)
    (h : (deliverAll (files home) dir us).ComesTo before () after) :
    ∀ u ∈ us, after.2.HasFile home dir u.fileName u.content := by
  induction us generalizing before with
  | nil => exact fun u hu => by cases hu
  | cons u us ih =>
    obtain ⟨⟨⟩, mid, hfirst, hrest⟩ := h.exists_of_bind
    -- The file of the first unit is there in between, and no later unit has its name.
    rw [List.map_cons, List.nodup_cons] at hus
    rw [List.forall_mem_cons] at hnames ⊢
    exact ⟨hasFile_deliverAll_of_notMem hnames.2 hus.1 hrest (hasFile_of_deliver hnames.1 hfirst),
      ih hnames.2 hus.2 hrest⟩

end Units

/-! ## Targets -/

/-- Puts the units of plans for a target in the output directory. -/
def renderFor {m : Type → Type} [Monad m] (files : Files m) (now : String) (c : Config)
    (dir : String) (ps : List Plan) (target : Target) : Session m Unit := do
  let us ← ask (c.units files now target ps)
  deliverAll files dir us

/-- Puts the units of plans for one target after the other in the output directory. -/
def renderAll {m : Type → Type} [Monad m] (files : Files m) (now : String) (c : Config)
    (dir : String) (ps : List Plan) (targets : List Target) : Session m Unit :=
  targets.forM (renderFor files now c dir ps)

section Targets

variable {home : List String} {now dir : String} {c : Config} {ps : List Plan}
  {target : Target} {targets : List Target} {before after : Transcript × FileTree}

/-- The units that a configuration gives are those by some template. -/
theorem exists_unitsOf_of_run_units {us : List RenderedUnit}
    {tree tree' : FileTree}
    (h : StateT.run (c.units (files home) now target ps) tree = (.ok us, tree')) :
    ∃ template, unitsOf target (c.render.options now) template ps = .ok us := by
  cases ps with
  | nil =>
    -- No template is read where there is nothing to write; any will do.
    cases h
    exact ⟨none, rfl⟩
  | cons p ps =>
    rw [Config.units, if_neg (by simp), StateT.run_bind] at h
    cases htemplate : StateT.run (c.template (files home) target) tree with
    | mk r tree =>
      rw [htemplate] at h
      cases r with
      | error e => cases h
      | ok template =>
        refine ⟨template, ?_⟩
        obtain ⟨hus, -⟩ := Prod.mk.inj h
        cases hunits : unitsOf target (c.render.options now) template (p :: ps) with
        | error e =>
          rw [hunits] at hus
          cases hus
        | ok vs =>
          rw [hunits] at hus
          cases hus
          rfl

/-- The units of a target are found out, and then delivered. -/
theorem exists_of_renderFor
    (h : (renderFor (files home) now c dir ps target).ComesTo before () after) :
    ∃ us, StateT.run (c.units (files home) now target ps) before.2 = (.ok us, before.2) ∧
      us.map RenderedUnit.fileName = ps.map (Plan.fileName · target) ∧
      (deliverAll (files home) dir us).ComesTo before () after := by
  obtain ⟨us, found, hunits, hdeliver⟩ := h.exists_of_bind
  obtain rfl := eq_of_comesTo_ask (c.readOnly_units now target ps) hunits
  obtain ⟨hrun, -⟩ := comesTo_ask hunits
  obtain ⟨template, hus⟩ := exists_unitsOf_of_run_units hrun
  exact ⟨us, hrun, map_fileName_of_unitsOf hus, hdeliver⟩

/-- Units have the names of their plans' files. -/
theorem forall_unit_of_forall_plan {us : List RenderedUnit} {P : String → Prop}
    (hus : us.map RenderedUnit.fileName = ps.map (Plan.fileName · target))
    (hps : ∀ p ∈ ps, P (p.fileName target)) : ∀ u ∈ us, P u.fileName := by
  intro u hu
  have hname := List.mem_map_of_mem (f := RenderedUnit.fileName) hu
  rw [hus] at hname
  obtain ⟨p, hp, hname⟩ := List.mem_map.mp hname
  rw [← hname]
  exact hps p hp

/-- Files stay there while units of other names are rendered. -/
theorem hasFile_renderAll_of_notMem {name text : String}
    (hnames : ∀ t ∈ targets, ∀ p ∈ ps, Path.IsName (p.fileName t))
    (hname : ∀ t ∈ targets, name ∉ ps.map (Plan.fileName · t))
    (h : (renderAll (files home) now c dir ps targets).ComesTo before () after)
    (hfile : before.2.HasFile home dir name text) : after.2.HasFile home dir name text := by
  induction targets generalizing before with
  | nil =>
    rw [(comesTo_done h).2]
    exact hfile
  | cons t ts ih =>
    obtain ⟨⟨⟩, mid, hfirst, hrest⟩ := h.exists_of_bind
    obtain ⟨us, -, hus, hdeliver⟩ := exists_of_renderFor hfirst
    rw [List.forall_mem_cons] at hnames hname
    refine ih hnames.2 hname.2 hrest (hasFile_deliverAll_of_notMem ?_ ?_ hdeliver hfile)
    · exact forall_unit_of_forall_plan hus hnames.1
    · rw [hus]
      exact hname.1

/-- **Units of different names are all there, for every target.** They are those that the
configuration gives when the targets before are rendered. -/
theorem hasFile_of_renderAll
    (hnames : ∀ t ∈ targets, ∀ p ∈ ps, Path.IsName (p.fileName t))
    (hnodup : ∀ t ∈ targets, (ps.map (Plan.fileName · t)).Nodup)
    (h : (renderAll (files home) now c dir ps targets).ComesTo before () after) :
    ∀ t ∈ targets, ∃ earlier later mid us, targets = earlier ++ t :: later ∧
      (renderAll (files home) now c dir ps earlier).ComesTo before () mid ∧
      StateT.run (c.units (files home) now t ps) mid.2 = (.ok us, mid.2) ∧
      us.map RenderedUnit.fileName = ps.map (Plan.fileName · t) ∧
      ∀ u ∈ us, after.2.HasFile home dir u.fileName u.content := by
  induction targets generalizing before with
  | nil => exact fun t ht => by cases ht
  | cons t₀ ts ih =>
    intro t ht
    obtain ⟨⟨⟩, mid, hfirst, hrest⟩ := h.exists_of_bind
    rw [List.forall_mem_cons] at hnames hnodup
    by_cases hmem : t ∈ ts
    · -- The target is rendered again: what counts is the last time.
      obtain ⟨earlier, later, found, us, hts, hearlier, hlast⟩ :=
        ih hnames.2 hnodup.2 hrest t hmem
      refine ⟨t₀ :: earlier, later, found, us, ?_, hfirst.bind hearlier, hlast⟩
      rw [hts, List.cons_append]
    · -- Its units are delivered now, and the units of what follows have other names.
      obtain rfl : t = t₀ := (List.mem_cons.mp ht).resolve_right hmem
      obtain ⟨us, hunits, hus, hdeliver⟩ := exists_of_renderFor hfirst
      refine ⟨[], ts, before, us, rfl, rfl, hunits, hus, fun u hu => ?_⟩
      have hthere := hasFile_of_deliverAll (forall_unit_of_forall_plan hus hnames.1)
        (by rw [hus]; exact hnodup.1) hdeliver u hu
      refine hasFile_renderAll_of_notMem hnames.2 (fun t' ht' => ?_) hrest hthere
      have hne : t ≠ t' := fun heq => hmem (heq ▸ ht')
      refine forall_unit_of_forall_plan hus (P := (· ∉ ps.map (Plan.fileName · t'))) ?_ u hu
      intro p _ hp
      obtain ⟨q, -, heq⟩ := List.mem_map.mp hp
      exact Plan.fileName_ne_of_target_ne hne heq.symm

end Targets

/-! ## Arguments -/

/-- What the arguments of a rendering come down to: descriptors, a configuration, targets, and a
directory to put the units in. -/
structure RendersInto (home : List String) (tree : FileTree) (args : List String)
    (ds : List Descriptor) (c : Config) (targets : List Target) (dir : String) : Prop where
  document : ∃ path rest text, args = path :: rest ∧ path.toList.head? ≠ some '-' ∧
    tree.find home path = .ok (.file text) ∧ Descriptor.readAll text = .ok ds
  configuration :
    (StateT.run ((Command.configuration (files home) args).play {}) tree).1.1 = .ok c
  targets : (targetOption args).map (·.elim c.render.targets ([·])) = .ok targets
  output : option? "--output" "-o" args = some dir

section Arguments

variable {home : List String} {tree : FileTree} {args : List String} {ds : List Descriptor}
  {c : Config} {targets : List Target} {dir : String} {ps : List Plan}

/-- The document is that of the file which the first argument leads to. -/
theorem comesTo_input {path text : String} (hfile : tree.find home path = .ok (.file text))
    (hpath : path.toList.head? ≠ some '-') (usage : String) (rest : List String) (t : Transcript) :
    (input (files home) usage (path :: rest)).ComesTo (t, tree) text (t, tree) :=
  run_play_input hfile hpath usage rest t

/-- The configuration is found out by reading. -/
theorem exists_configuration_eq (home args : List String) :
    ∃ r, configuration (files home) args = ask r ∧ ReadOnly r := by
  rw [configuration]
  split
  · exact ⟨_, rfl, (Config.readOnly_load _).bind fun _ => .pure _⟩
  · refine ⟨_, rfl, (Config.readOnly_discover _).bind fun r => ?_⟩
    cases r <;> exact .pure _

theorem comesTo_configuration {t : Transcript}
    (h : (StateT.run ((configuration (files home) args).play t) tree).1.1 = .ok c) :
    (configuration (files home) args).ComesTo (t, tree) c (t, tree) := by
  obtain ⟨r, hr, hread⟩ := exists_configuration_eq home args
  rw [hr] at h ⊢
  exact comesTo_ask_of_readOnly hread h

/-- **A rendering comes down to its loops.** -/
theorem RendersInto.comesTo_iff (h : RendersInto home tree args ds c targets dir)
    (hps : compileAll c.compile ds = .ok ps) {now : String} {after : Transcript × FileTree} :
    (render (files home) now args).ComesTo ({}, tree) () after ↔
      (renderAll (files home) now c dir ps targets).ComesTo ({}, tree) () after := by
  obtain ⟨path, rest, text, rfl, hpath, hfile, hread⟩ := h.document
  obtain ⟨target?, hoption, rfl⟩ : ∃ target?, targetOption (path :: rest) = .ok target? ∧
      target?.elim c.render.targets ([·]) = targets := by
    have htargets := h.targets
    cases hoption : targetOption (path :: rest) with
    | error e =>
      rw [hoption] at htargets
      cases htargets
    | ok target? =>
      rw [hoption] at htargets
      exact ⟨target?, rfl, Except.ok.inj htargets⟩
  -- Up to its loops the rendering changes nothing, so each part begins where the first one did.
  have htarget : (done (targetOption (path :: rest)) :
      Session (StateM FileTree) _).ComesTo ({}, tree) target? ({}, tree) := by
    rw [hoption]
    exact rfl
  have hplans : (done (plansOf c.compile text)).ComesTo ({}, tree) ps ({}, tree) := by
    rw [plansOf_eq hread, hps]
    exact rfl
  rw [render, (comesTo_input hfile hpath _ rest {}).bind_iff,
    (comesTo_configuration h.configuration).bind_iff, htarget.bind_iff]
  cases target? with
  | none => rw [hplans.bind_iff, h.output]; exact Iff.rfl
  | some t => rw [hplans.bind_iff, h.output]; exact Iff.rfl

end Arguments

/-! ## Renderings that end well -/

section Success

variable {home : List String} {tree : FileTree} {dir : String} {names : List String}
  {u : RenderedUnit} {us : List RenderedUnit} {before : Transcript × FileTree}

/-- A unit is delivered where the directory can be made and the file can be written. -/
theorem comesTo_deliver {made tree : FileTree}
    (hmake : FileTree.makeDirectories home dir before.2 = (.ok (), made))
    (hwrite : made.write home (Path.join dir u.fileName) u.content = .ok tree) :
    ∃ printed, (deliver (files home) (some dir) u).ComesTo before () (printed, tree) := by
  obtain ⟨printed, hnote⟩ := exists_comesTo_note ("Written to: " ++ Path.join dir u.fileName)
    (before.1, tree)
  have hmakeAsk : (ask do
      return (← (files home).makeDirectories dir).mapError
        .file).ComesTo before () (before.1, made) :=
    comesTo_ask_mapError_of_run hmake
  have hwriteAsk : (ask do
      return (← (files home).writeText (Path.join dir u.fileName) u.content).mapError
        .file).ComesTo (before.1, made) () (before.1, tree) :=
    comesTo_ask_mapError_of_run (run_writeText_iff.mpr hwrite)
  exact ⟨printed, hmakeAsk.bind (hwriteAsk.bind hnote)⟩

/-- A unit can be delivered into a directory that admits it, and then others can. -/
theorem exists_comesTo_deliver (h : before.2.Admits home dir names)
    (hnames : ∀ name ∈ names, Path.IsName name) (hu : u.fileName ∈ names) :
    ∃ after, (deliver (files home) (some dir) u).ComesTo before () after ∧
      after.2.Admits home dir names := by
  obtain ⟨made, tree, hmake, hwrite, htree⟩ := h.exists_write hnames hu u.content
  obtain ⟨printed, hdeliver⟩ := comesTo_deliver hmake hwrite
  exact ⟨(printed, tree), hdeliver, htree⟩

theorem exists_comesTo_deliverAll (h : before.2.Admits home dir names)
    (hnames : ∀ name ∈ names, Path.IsName name) (hus : ∀ u ∈ us, u.fileName ∈ names) :
    ∃ after, (deliverAll (files home) dir us).ComesTo before () after ∧
      after.2.Admits home dir names := by
  induction us generalizing before with
  | nil => exact ⟨before, rfl, h⟩
  | cons u us ih =>
    rw [List.forall_mem_cons] at hus
    obtain ⟨mid, hfirst, hmid⟩ := exists_comesTo_deliver h hnames hus.1
    obtain ⟨after, hrest, hafter⟩ := ih hmid hus.2
    exact ⟨after, hfirst.bind hrest, hafter⟩

/-- By the standard templates the units of plans are there to be delivered. -/
theorem comesTo_units {c : Config} (hc : c.render.templateDir = none) {now : String}
    {ps : List Plan} {target : Target}
    (hus : unitsOf target (c.render.options now) none ps = .ok us) :
    (ask (c.units (files home) now target ps)).ComesTo before us before := by
  rw [Config.units_of_templateDir_eq_none hc, hus]
  exact rfl

/-- By the standard templates the units of a target can be delivered. -/
theorem exists_comesTo_renderFor {c : Config} (hc : c.render.templateDir = none) {now : String}
    {ps : List Plan} {target : Target} (h : before.2.Admits home dir names)
    (hnames : ∀ name ∈ names, Path.IsName name) (hps : ∀ p ∈ ps, p.fileName target ∈ names) :
    ∃ after, (renderFor (files home) now c dir ps target).ComesTo before () after ∧
      after.2.Admits home dir names := by
  obtain ⟨us, hus, -⟩ := exists_unitsOf target (c.render.options now) ps
  obtain ⟨after, hdeliver, hafter⟩ := exists_comesTo_deliverAll h hnames
    (forall_unit_of_forall_plan (map_fileName_of_unitsOf hus) hps)
  exact ⟨after, (comesTo_units hc hus).bind hdeliver, hafter⟩

theorem exists_comesTo_renderAll {c : Config} (hc : c.render.templateDir = none) {now : String}
    {ps : List Plan} {targets : List Target} (h : before.2.Admits home dir names)
    (hnames : ∀ name ∈ names, Path.IsName name)
    (hps : ∀ t ∈ targets, ∀ p ∈ ps, p.fileName t ∈ names) :
    ∃ after, (renderAll (files home) now c dir ps targets).ComesTo before () after ∧
      after.2.Admits home dir names := by
  induction targets generalizing before with
  | nil => exact ⟨before, rfl, h⟩
  | cons t ts ih =>
    rw [List.forall_mem_cons] at hps
    obtain ⟨mid, hfirst, hmid⟩ := exists_comesTo_renderFor hc h hnames hps.1
    obtain ⟨after, hrest, hafter⟩ := ih hmid hps.2
    exact ⟨after, hfirst.bind hrest, hafter⟩

end Success

/-! ## What is left of a rendering -/

section Left

variable {home : List String} {tree : FileTree} {args : List String} {ds : List Descriptor}
  {c : Config} {targets : List Target} {dir : String} {ps : List Plan}

/-- **By the standard templates a rendering into a directory that admits the files ends well.** -/
theorem RendersInto.status_run (h : RendersInto home tree args ds c targets dir)
    (hps : compileAll c.compile ds = .ok ps)
    (hds : .csharp ∈ targets → ∀ d ∈ ds, '/' ∉ d.namespaceName.toList)
    (hc : c.render.templateDir = none)
    (hadmits : tree.Admits home dir (targets.flatMap fun t => ps.map (Plan.fileName · t)))
    (now : String) : (StateT.run (run (files home) now ("render" :: args)) tree).1.status = 0 := by
  have hnames : ∀ name ∈ targets.flatMap fun t => ps.map (Plan.fileName · t),
      Path.IsName name := by
    intro name hname
    obtain ⟨t, ht, hname⟩ := List.mem_flatMap.mp hname
    obtain ⟨p, hp, rfl⟩ := List.mem_map.mp hname
    exact isName_of_compileAll hps (fun heq => hds (heq ▸ ht)) hp
  have hmem : ∀ t ∈ targets, ∀ p ∈ ps,
      p.fileName t ∈ targets.flatMap fun t => ps.map (Plan.fileName · t) := fun t ht p hp =>
    List.mem_flatMap.mpr ⟨t, ht, List.mem_map_of_mem hp⟩
  obtain ⟨after, hall, -⟩ : ∃ after, (renderAll (files home) now c dir ps targets).ComesTo
      ({}, tree) () after ∧ after.2.Admits home dir _ :=
    exists_comesTo_renderAll hc hadmits hnames hmem
  exact status_of_comesTo ((h.comesTo_iff hps).mpr hall)

/-- **A rendering that ends well leaves the units of every target.** -/
theorem RendersInto.find_run (h : RendersInto home tree args ds c targets dir)
    (hps : compileAll c.compile ds = .ok ps)
    (hds : .csharp ∈ targets → ∀ d ∈ ds, '/' ∉ d.namespaceName.toList)
    (hnodup : ∀ t ∈ targets, (ps.map (Plan.fileName · t)).Nodup) {now : String}
    (hstatus : (StateT.run (run (files home) now ("render" :: args)) tree).1.status = 0) :
    ∀ t ∈ targets, ∃ earlier later mid us, targets = earlier ++ t :: later ∧
      (renderAll (files home) now c dir ps earlier).ComesTo ({}, tree) () mid ∧
      StateT.run (c.units (files home) now t ps) mid.2 = (.ok us, mid.2) ∧
      us.map RenderedUnit.fileName = ps.map (Plan.fileName · t) ∧
      ∀ u ∈ us, (StateT.run (run (files home) now ("render" :: args)) tree).2.find home
        (Path.join dir u.fileName) = .ok (.file u.content) := by
  have hnames : ∀ t ∈ targets, ∀ p ∈ ps, Path.IsName (p.fileName t) := fun t ht p hp =>
    isName_of_compileAll hps (fun heq => hds (heq ▸ ht)) hp
  -- A command that ends well has come to the end of its session, so that all loops were run.
  obtain ⟨printed, hrender⟩ := exists_of_status hstatus
  have hall := (h.comesTo_iff hps).mp hrender
  intro t ht
  obtain ⟨earlier, later, mid, us, htargets, hearlier, hunits, hus, hfiles⟩ :=
    hasFile_of_renderAll hnames hnodup hall t ht
  refine ⟨earlier, later, mid, us, htargets, hearlier, hunits, hus, fun u hu => ?_⟩
  exact (hfiles u hu).find (forall_unit_of_forall_plan hus (hnames t ht) u hu)

end Left

end Command

open Command (RendersInto renderAll)

/-- **No unit takes the place of another one**, as far as its name tells it apart. The C# units of
compiled types with different names, namespaces included, have different file names, and no other
target's unit has one of these. The TypeScript units, whose file names leave the namespaces out,
have different names where the types have. By the standard templates, where the system takes the
paths that are read, a rendering into a directory that admits the files ends well; one that ends
well leaves there, for every target and every plan, the unit that the configuration gives when the
target is rendered. -/
theorem units_kept_apart {settings : CompileSettings} {ds : List Descriptor} {ps : List Plan}
    (hps : compileAll settings ds = .ok ps)
    (hds : (ds.map fun d => (d.namespaceName, d.name)).Nodup) :
    (∀ options template us, unitsOf .csharp options template ps = .ok us →
      (us.map RenderedUnit.fileName).Nodup) ∧
    (∀ options template us, unitsOf .typescript options template ps = .ok us →
      ((us.map RenderedUnit.fileName).Nodup ↔ (ds.map Descriptor.name).Nodup)) ∧
    (∀ p ∈ ps, ∀ q ∈ ps, ∀ target other, target ≠ other → p.fileName target ≠ q.fileName other) ∧
    ∀ home tree now args c targets dir, c.compile = settings →
      RendersInto home tree args ds c targets dir →
      (.csharp ∈ targets → ∀ d ∈ ds, '/' ∉ d.namespaceName.toList) →
      (c.render.templateDir = none →
        (∀ path ∈ Config.pathIn home :: args, Path.refusal? path = none) →
        tree.Admits home dir (targets.flatMap fun t => ps.map (Plan.fileName · t)) →
        (StateT.run (Command.run (files home) now ("render" :: args)) tree).1.status = 0) ∧
      ((.typescript ∈ targets → (ds.map Descriptor.name).Nodup) →
        (StateT.run (Command.run (files home) now ("render" :: args)) tree).1.status = 0 →
        ∀ t ∈ targets, ∃ earlier later mid us, targets = earlier ++ t :: later ∧
          (renderAll (files home) now c dir ps earlier).ComesTo ({}, tree) () mid ∧
          StateT.run (c.units (files home) now t ps) mid.2 = (.ok us, mid.2) ∧
          us.map RenderedUnit.fileName = ps.map (Plan.fileName · t) ∧
          ∀ u ∈ us, (StateT.run (Command.run (files home) now ("render" :: args)) tree).2.find home
            (Path.join dir u.fileName) = .ok (.file u.content)) := by
  have hcsharp := nodup_csharp_fileName hps hds
  have htypescript := nodup_typescript_fileName_iff hps
  refine ⟨fun options template us hus => ?_, fun options template us hus => ?_,
    fun p _ q _ target other hne => Plan.fileName_ne_of_target_ne hne, ?_⟩
  · rwa [map_fileName_of_unitsOf hus]
  · rwa [map_fileName_of_unitsOf hus]
  · -- What is left of a rendering: names that are told apart within a target keep its files apart.
    rintro home tree now args c targets dir rfl hinto hspaces
    -- In a tree reading goes by what is there, so that nothing more is needed of the paths.
    refine ⟨fun hc _ hadmits => hinto.status_run hps hspaces hc hadmits now,
      fun hnames hstatus => ?_⟩
    refine hinto.find_run hps hspaces (fun t ht => ?_) hstatus
    cases t with
    | csharp => exact hcsharp
    | typescript => exact htypescript.mpr (hnames ht)

/-- The document with two types is rendered into a new directory, and both units are there. -/
theorem units_kept_apart_pairText :
    RendersInto [] pairTree ["types.yaml", "--output", "out"] pairDescriptors {} [.csharp] "out" ∧
      (StateT.run (Command.run (files []) "" ["render", "types.yaml", "--output", "out"])
        pairTree).1.status = 0 ∧
      ∃ us : List RenderedUnit,
        us.map RenderedUnit.fileName = ["N.A.cloneable.g.cs", "B.cloneable.g.cs"] ∧
        ∀ u ∈ us, (StateT.run (Command.run (files []) "" ["render", "types.yaml", "--output",
          "out"]) pairTree).2.find [] (Path.join "out" u.fileName) = .ok (.file u.content) := by
  have hinto : RendersInto [] pairTree ["types.yaml", "--output", "out"] pairDescriptors {}
      [.csharp] "out" :=
    ⟨⟨"types.yaml", _, pairText, rfl, by decide, rfl, readAll_pairText⟩, rfl, rfl, rfl⟩
  obtain ⟨ps, hps, hnames⟩ : ∃ ps, compileAll {} pairDescriptors = .ok ps ∧
      ps.map (Plan.fileName · .csharp) = ["N.A.cloneable.g.cs", "B.cloneable.g.cs"] :=
    ⟨_, rfl, rfl⟩
  have hadmits : pairTree.Admits [] "out" ["N.A.cloneable.g.cs", "B.cloneable.g.cs"] := by
    refine ⟨rfl, rfl, fun name hname => ?_, fun name hname => ?_⟩
    · fin_cases hname <;> exact ⟨by decide +kernel, by decide +kernel⟩
    · fin_cases hname <;> rfl
  have hpaths : ∀ path ∈ [Config.pathIn [], "types.yaml", "--output", "out"],
      Path.refusal? path = none := by
    decide +kernel
  obtain ⟨-, -, -, hrun⟩ := units_kept_apart hps (by decide)
  obtain ⟨hends, hleaves⟩ := hrun [] pairTree "" _ {} _ _ rfl hinto (fun _ => by decide)
  have hstatus := hends rfl hpaths (by simpa [hnames] using hadmits)
  obtain ⟨-, -, -, us, -, -, -, hus, hfind⟩ := hleaves (fun h => absurd h (by decide)) hstatus
    .csharp List.mem_cons_self
  exact ⟨hinto, hstatus, us, hus.trans hnames, hfind⟩

/-- Two types of one name, in the namespace `A` and in another one. -/
def namesakes (space : String) : List Descriptor :=
  [{ name := "Item", namespaceName := "A" }, { name := "Item", namespaceName := space }]

/-- TypeScript units of types of one name have one file name, whatever the namespaces. C# units
whose namespaces differ by an idle part of a path have different file names for one file. -/
theorem namesakes_in_one_file :
    (((namesakes "B").map fun d => (d.namespaceName, d.name)).Nodup ∧
      ∃ ps us, compileAll {} (namesakes "B") = .ok ps ∧ unitsOf .typescript {} none ps = .ok us ∧
        us.map RenderedUnit.fileName = ["Item.cloneable.g.ts", "Item.cloneable.g.ts"] ∧
        ¬ (us.map RenderedUnit.fileName).Nodup) ∧
    (((namesakes "./A").map fun d => (d.namespaceName, d.name)).Nodup ∧
      ∃ p q, compileAll {} (namesakes "./A") = .ok [p, q] ∧
        p.fileName .csharp ≠ q.fileName .csharp ∧
        ∀ tree : FileTree, tree.find [] (Path.join "out" (p.fileName .csharp)) =
          tree.find [] (Path.join "out" (q.fileName .csharp))) := by
  refine ⟨⟨by decide, ?_⟩, by decide, ?_⟩
  · obtain ⟨ps, hps, hnames⟩ : ∃ ps, compileAll {} (namesakes "B") = .ok ps ∧
        ps.map (Plan.fileName · .typescript) = ["Item.cloneable.g.ts", "Item.cloneable.g.ts"] :=
      ⟨_, rfl, rfl⟩
    obtain ⟨us, hus, -⟩ := exists_unitsOf .typescript {} ps
    have hfiles := (map_fileName_of_unitsOf hus).trans hnames
    exact ⟨ps, us, hps, hus, hfiles, by rw [hfiles]; decide⟩
  · obtain ⟨p, q, hpq, hp, hq⟩ : ∃ p q, compileAll {} (namesakes "./A") = .ok [p, q] ∧
        p.fileName .csharp = "A.Item.cloneable.g.cs" ∧
        q.fileName .csharp = "./A.Item.cloneable.g.cs" :=
      ⟨_, _, rfl, rfl, rfl⟩
    refine ⟨p, q, hpq, by rw [hp, hq]; decide, fun tree => ?_⟩
    have hlocate : tree.locate [] (Path.join "out" "A.Item.cloneable.g.cs") =
        tree.locate [] (Path.join "out" "./A.Item.cloneable.g.cs") :=
      (tree.follow_append_dot [] ["out"] "A.Item.cloneable.g.cs" []).symm
    rw [hp, hq, FileTree.find, hlocate, FileTree.find]

end DeepCopy
