import DeepCopy.Proofs.Command.Delivery
import DeepCopy.Proofs.Files.Changes

/-!
# Renderings stay in their directory

A rendering changes files in the directory that its arguments name and nowhere else, as long as
the file names of its units are names. A unit's file name begins with the name of its type, which
is an identifier, but in C# with its namespace, which may be any text: with a slash in it the file
name is a path, and the file is where that leads.

Nothing is assumed of how a rendering ends: what one that fails has written is in the directory as
well.

## Main definitions

* `Command.Session.ChangesIn`: whatever a session comes to, it changes files in a directory only

## Main results

* `Command.changesIn_deliver`: delivering a unit changes files in the directory only
* `Command.changesIn_render`: and so does rendering a document
* `output_confined`: output stays in its directory
* `output_escapes`: a namespace that leads out of it
-/

namespace DeepCopy

open FileTree (files)

namespace Command

/-! ## Sessions -/

/-- Whatever a session comes to, it changes files in the directory of a path only. -/
def Session.ChangesIn {α : Type} (s : Session (StateM FileTree) α) (home : List String)
    (dir : String) (before : Transcript × FileTree) : Prop :=
  FileTree.ChangesIn home dir before.2 (StateT.run (s.play before.1) before.2).2

section Session

variable {α β : Type} {home : List String} {dir : String} {before : Transcript × FileTree}

/-- A session is followed to the end of its first part, and on from there where that ends well. -/
theorem Session.ChangesIn.bind {s : Session (StateM FileTree) α}
    {f : α → Session (StateM FileTree) β} (hs : s.ChangesIn home dir before)
    (hf : ∀ a after, s.ComesTo before a after → (f a).ChangesIn home dir after) :
    (s >>= f).ChangesIn home dir before := by
  rw [ChangesIn] at hs ⊢
  rw [play_bind, StateT.run_bind]
  cases hrun : StateT.run (s.play before.1) before.2 with
  | mk p tree =>
    rw [hrun] at hs
    rcases p with ⟨e | a, t⟩
    · exact hs
    · exact hs.trans (hf a (t, tree) hrun)

/-- What is done for one thing only. -/
theorem comesTo_forM_singleton {a : α} {f : α → Session (StateM FileTree) Unit}
    {after : Transcript × FileTree} (h : (f a).ComesTo before () after) :
    ([a].forM f).ComesTo before () after :=
  h.bind rfl

/-- Parts that are done one after the other. -/
theorem changesIn_forM {as : List α} {f : α → Session (StateM FileTree) Unit}
    (hf : ∀ a ∈ as, ∀ before, (f a).ChangesIn home dir before) :
    ∀ before, (as.forM f).ChangesIn home dir before := by
  induction as with
  | nil => exact fun before => .refl _
  | cons a as ih =>
    rw [List.forall_mem_cons] at hf
    exact fun before => (hf.1 before).bind fun _ after _ => ih hf.2 after

/-- What is asked for changes the files that change with the answer. -/
theorem changesIn_ask {r : StateM FileTree (Except Failure α)}
    (hr : FileTree.ChangesIn home dir before.2 (StateT.run r before.2).2) :
    (ask r).ChangesIn home dir before := hr

/-- An answer comes with the same files, whatever its failures are called. -/
theorem changesIn_ask_mapError {ε : Type} {r : StateM FileTree (Except ε α)} {f : ε → Failure}
    (hr : FileTree.ChangesIn home dir before.2 (StateT.run r before.2).2) :
    (ask do return (← r).mapError f).ChangesIn home dir before := by
  refine changesIn_ask ?_
  rw [StateT.run_bind]
  exact hr

theorem changesIn_ask_of_readOnly {r : StateM FileTree (Except Failure α)} (hr : ReadOnly r) :
    (ask r).ChangesIn home dir before := by
  refine changesIn_ask ?_
  rw [hr before.2]
  exact .refl _

theorem not_comesTo_throw {e : Failure} {a : α} {after : Transcript × FileTree} :
    ¬ (throw e : Session (StateM FileTree) α).ComesTo before a after := by
  intro h
  have herror : Except.error e = Except.ok a := congrArg (fun p => p.1.1) h
  cases herror

theorem changesIn_done (r : Except Failure α) : (done r).ChangesIn home dir before :=
  FileTree.ChangesIn.refl _

end Session

/-! ## Units -/

section Units

variable {home : List String} {dir now : String} {c : Config} {ps : List Plan}

theorem changesIn_writeText {name text : String} (hname : Path.IsName name) (tree : FileTree) :
    FileTree.ChangesIn home dir tree
      (StateT.run ((files home).writeText (Path.join dir name) text) tree).2 := by
  simp only [files, StateT.run_bind, StateT.run_get, pure_bind]
  cases hwrite : tree.write home (Path.join dir name) text with
  | error e => exact .refl _
  | ok written => exact FileTree.changesIn_write hname hwrite

/-- **Delivering a unit changes files in the directory only**, also where it fails. -/
theorem changesIn_deliver {u : RenderedUnit} (hu : Path.IsName u.fileName)
    (before : Transcript × FileTree) :
    (deliver (files home) (some dir) u).ChangesIn home dir before := by
  rw [deliver]
  refine (changesIn_ask_mapError (FileTree.changesIn_makeDirectories dir before.2)).bind
    fun _ made _ => ?_
  refine (changesIn_ask_mapError (changesIn_writeText hu made.2)).bind fun _ written _ => ?_
  exact .refl written.2

/-- So does rendering for one target. -/
theorem changesIn_renderFor {target : Target} (hps : ∀ p ∈ ps, Path.IsName (p.fileName target))
    (before : Transcript × FileTree) :
    (renderFor (files home) now c dir ps target).ChangesIn home dir before := by
  rw [renderFor]
  refine (changesIn_ask_of_readOnly (c.readOnly_units now target ps)).bind fun us after hus => ?_
  obtain ⟨template, hus⟩ := exists_unitsOf_of_run_units (comesTo_ask hus).1
  exact changesIn_forM (fun u hu => changesIn_deliver
    (forall_unit_of_forall_plan (map_fileName_of_unitsOf hus) hps u hu)) after

theorem changesIn_renderAll {targets : List Target}
    (hps : ∀ t ∈ targets, ∀ p ∈ ps, Path.IsName (p.fileName t)) (before : Transcript × FileTree) :
    (renderAll (files home) now c dir ps targets).ChangesIn home dir before :=
  changesIn_forM (fun t ht => changesIn_renderFor (hps t ht)) before

end Units

/-! ## Renderings -/

section Renderings

variable {home : List String} {tree : FileTree} {args : List String} {dir : String}

/-- The document that is read is that of a file which the first argument leads to. -/
theorem exists_of_input {usage text : String} {before after : Transcript × FileTree}
    (h : (input (files home) usage args).ComesTo before text after) :
    after = before ∧ ∃ path rest, args = path :: rest ∧ path.toList.head? ≠ some '-' ∧
      before.2.find home path = .ok (.file text) := by
  cases args with
  | nil => exact absurd h not_comesTo_throw
  | cons path rest =>
    rw [input] at h
    split at h
    · exact absurd h not_comesTo_throw
    · next hpath =>
      have hread : ReadOnly do
          return (← (files home).readText path).mapError Failure.file :=
        (readOnly_readText path).bind fun _ => .pure _
      obtain rfl := eq_of_comesTo_ask hread h
      refine ⟨rfl, path, rest, rfl, hpath, ?_⟩
      have hrun := comesTo_ask_mapError h
      simp only [files, StateT.run_bind, StateT.run_get, pure_bind] at hrun
      split at hrun <;> cases (Prod.mk.inj hrun).1
      assumption

/-- Reading the document changes no files. -/
theorem changesIn_input (usage : String) (before : Transcript × FileTree) :
    (input (files home) usage args).ChangesIn home dir before := by
  cases args with
  | nil => exact .refl _
  | cons path rest =>
    rw [input]
    split
    · exact .refl _
    · refine changesIn_ask_of_readOnly ((readOnly_readText path).bind fun r => ?_)
      exact .pure _

/-- Plans of a document are those of its descriptors. -/
theorem exists_of_plansOf {settings : CompileSettings} {text : String} {ps : List Plan}
    (h : plansOf settings text = .ok ps) :
    ∃ ds, Descriptor.readAll text = .ok ds ∧ compileAll settings ds = .ok ps := by
  cases hread : Descriptor.readAll text with
  | error e =>
    rw [plansOf, hread] at h
    cases h
  | ok ds =>
    rw [plansOf_eq hread] at h
    cases hps : compileAll settings ds with
    | error e =>
      rw [hps] at h
      cases h
    | ok qs =>
      rw [hps] at h
      cases h
      exact ⟨ds, rfl, hps⟩

/-- **Rendering a document changes files in the directory only**, where its units' file names are
names. -/
theorem changesIn_render (hdir : option? "--output" "-o" args = some dir)
    (hnames : ∀ ds c targets ps, RendersInto home tree args ds c targets dir →
      compileAll c.compile ds = .ok ps → ∀ t ∈ targets, ∀ p ∈ ps, Path.IsName (p.fileName t))
    (now : String) : (render (files home) now args).ChangesIn home dir ({}, tree) := by
  obtain ⟨r, hconfiguration, hr⟩ := exists_configuration_eq home args
  rw [render]
  -- Up to its loops the rendering only reads; what was read shows what it comes down to.
  refine (changesIn_input _ _).bind fun text after hinput => ?_
  obtain ⟨rfl, path, rest, hargs, hpath, hfile⟩ := exists_of_input hinput
  rw [hconfiguration]
  refine (changesIn_ask_of_readOnly hr).bind fun c after hc => ?_
  have hrun := (comesTo_ask hc).1
  obtain rfl := eq_of_comesTo_ask hr hc
  refine (changesIn_done _).bind fun target? after hdone => ?_
  obtain ⟨htarget, rfl⟩ := comesTo_done hdone
  refine (changesIn_done _).bind fun ps after hdone => ?_
  obtain ⟨hplans, rfl⟩ := comesTo_done hdone
  obtain ⟨ds, hread, hps⟩ := exists_of_plansOf hplans
  have hinto : RendersInto home tree args ds c (target?.elim c.render.targets ([·])) dir := by
    refine ⟨⟨path, rest, text, hargs, hpath, hfile, hread⟩, ?_, ?_, hdir⟩
    · rw [hconfiguration, Session.play_ask, StateT.run_bind, hrun]
      rfl
    · rw [htarget]
      rfl
  have hall : (renderAll (files home) now c dir ps _).ChangesIn home dir ({}, tree) :=
    changesIn_renderAll (hnames ds c _ ps hinto hps) ({}, tree)
  rw [hdir]
  cases target? with
  | none => exact hall
  | some t => exact hall

/-- What is left of a session are the files it left. -/
theorem run_outcome_snd (s : Session (StateM FileTree) Unit) (tree : FileTree) :
    (StateT.run s.outcome tree).2 = (StateT.run (s.play {}) tree).2 := by
  rw [Session.outcome_eq, StateT.run_bind]
  rcases StateT.run (s.play {}) tree with ⟨⟨e | u, t⟩, after⟩ <;> rfl

theorem run_outcome_snd_of_comesTo {s : Session (StateM FileTree) Unit}
    {after : Transcript × FileTree} (h : s.ComesTo ({}, tree) () after) :
    (StateT.run s.outcome tree).2 = after.2 := by
  rw [run_outcome_snd]
  exact congrArg Prod.snd h

end Renderings

end Command

open Command (RendersInto option?)

/-- **Output stays in its directory** where no namespace that a C# file is called by has a slash in
it. The TypeScript file of a compiled type has a name in a directory, whatever its namespace, and
its C# file has one exactly where the namespace has no slash. Where this is so for all the types of
a document that is rendered for C#, a rendering, whether it ends well or not, changes files in the
output directory itself and nowhere else. -/
theorem output_confined (home : List String) (tree : FileTree) (now : String) (args : List String)
    (dir : String) :
    (∀ settings d p, compile settings d = .ok p →
      Path.IsName (p.fileName .typescript) ∧
        (Path.IsName (p.fileName .csharp) ↔ '/' ∉ d.namespaceName.toList)) ∧
    (option? "--output" "-o" args = some dir →
      (∀ ds c targets, RendersInto home tree args ds c targets dir → .csharp ∈ targets →
        ∀ d ∈ ds, '/' ∉ d.namespaceName.toList) →
      FileTree.ChangesIn home dir tree
        (StateT.run (Command.run (files home) now ("render" :: args)) tree).2) := by
  refine ⟨fun settings d p => isName_fileName_of_compile, ?_⟩
  intro hdir hspaces
  have hchanges : FileTree.ChangesIn home dir tree
      (StateT.run ((Command.render (files home) now args).play {}) tree).2 :=
    Command.changesIn_render hdir (fun ds c targets ps hinto hps t ht p hp =>
      isName_of_compileAll hps (fun heq => hspaces ds c targets hinto (heq ▸ ht)) hp) now
  exact Command.run_outcome_snd _ tree ▸ hchanges

/-- The namespaces of the document with two types have no slash, so that rendering it changes files
in the output directory only. -/
theorem output_confined_pairText :
    (∀ d ∈ pairDescriptors, ∃ p, compile {} d = .ok p ∧ Path.IsName (p.fileName .csharp)) ∧
      FileTree.ChangesIn [] "out" pairTree
        (StateT.run (Command.run (files []) "" ["render", "types.yaml", "--output", "out"])
          pairTree).2 := by
  have hspaces : ∀ d ∈ pairDescriptors, '/' ∉ d.namespaceName.toList := by decide
  obtain ⟨hnames, hchanges⟩ :=
    output_confined [] pairTree "" ["types.yaml", "--output", "out"] "out"
  refine ⟨fun d hd => ?_, hchanges rfl ?_⟩
  · obtain ⟨p, hp⟩ : ∃ p, compile {} d = .ok p := by
      fin_cases hd <;> exact ⟨_, rfl⟩
    exact ⟨p, hp, (hnames {} d p hp).2.mpr (hspaces d hd)⟩
  · rintro ds c targets hinto -
    obtain ⟨path, rest, text, hargs, -, hfile, hread⟩ := hinto.document
    cases hargs
    have hthere : pairTree.find [] "types.yaml" = .ok (.file pairText) := rfl
    rw [hthere] at hfile
    cases hfile
    rw [readAll_pairText] at hread
    cases hread
    exact hspaces

/-- A document with one type, whose namespace leads out of a directory. -/
def strayText : String := "'name': 'X'\n'namespace': '../up'\n"

/-- The type of the document. -/
def strayDescriptor : Descriptor := { name := "X", namespaceName := "../up" }

/-- A directory with the document. -/
def strayTree : FileTree := .directory [("types.yaml", .file strayText)]

theorem readAll_strayText : Descriptor.readAll strayText = .ok [strayDescriptor] := by
  rw [strayText, strayDescriptor]
  cbv

/-- **A namespace that leads out of the output directory** takes the file of its type along: the
rendering ends well, with nothing in the output directory and the file beside it. -/
theorem output_escapes :
    ∃ p, compile {} strayDescriptor = .ok p ∧ p.fileName .csharp = "../up.X.cloneable.g.cs" ∧
      ¬ Path.IsName (p.fileName .csharp) ∧
      (StateT.run (Command.run (files []) "" ["render", "types.yaml", "--output", "out"])
        strayTree).1.status = 0 ∧
      ∃ content,
        (StateT.run (Command.run (files []) "" ["render", "types.yaml", "--output", "out"])
          strayTree).2 = .directory [("types.yaml", .file strayText), ("out", .directory []),
            ("up.X.cloneable.g.cs", .file content)] := by
  obtain ⟨p, hp, hps, hname⟩ : ∃ p, compile {} strayDescriptor = .ok p ∧
      compileAll {} [strayDescriptor] = .ok [p] ∧ p.fileName .csharp = "../up.X.cloneable.g.cs" :=
    ⟨_, rfl, rfl, rfl⟩
  obtain ⟨us, hus, -⟩ := exists_unitsOf .csharp (({} : Config).render.options "") [p]
  obtain ⟨u, rfl, hu⟩ : ∃ u, us = [u] ∧ u.fileName = "../up.X.cloneable.g.cs" := by
    have hfiles := map_fileName_of_unitsOf hus
    rwa [List.map_singleton, hname, List.map_eq_singleton_iff] at hfiles
  -- The content does not matter: the file is written into the place that its name leads to.
  have hmake : FileTree.makeDirectories [] "out" strayTree =
      (.ok (), .directory [("types.yaml", .file strayText), ("out", .directory [])]) := rfl
  have hwrite : (FileTree.directory [("types.yaml", .file strayText), ("out", .directory [])]).write
      [] (Path.join "out" u.fileName) u.content =
        .ok (.directory [("types.yaml", .file strayText), ("out", .directory []),
          ("up.X.cloneable.g.cs", .file u.content)]) := by
    rw [hu]
    rfl
  obtain ⟨printed, hdeliver⟩ : ∃ printed, (Command.deliver (files []) (some "out") u).ComesTo
      ({}, strayTree) () (printed, _) :=
    Command.comesTo_deliver hmake hwrite
  have hinto : RendersInto [] strayTree ["types.yaml", "--output", "out"] [strayDescriptor] {}
      [.csharp] "out" :=
    ⟨⟨"types.yaml", _, strayText, rfl, by decide, rfl, readAll_strayText⟩, rfl, rfl, rfl⟩
  have hall : (Command.renderAll (files []) "" {} "out" [p] [.csharp]).ComesTo ({}, strayTree) ()
      (printed, _) :=
    Command.comesTo_forM_singleton
      ((Command.comesTo_units rfl hus).bind (Command.comesTo_forM_singleton hdeliver))
  have hrender := (hinto.comesTo_iff hps).mpr hall
  refine ⟨p, hp, hname, ?_, Command.status_of_comesTo hrender, u.content, ?_⟩
  · rw [(isName_fileName_of_compile hp).2]
    decide
  · exact Command.run_outcome_snd_of_comesTo hrender

end DeepCopy
