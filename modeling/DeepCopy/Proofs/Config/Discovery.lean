import DeepCopy.Config.Discovery
import DeepCopy.Proofs.Files.Root

/-!
# The configuration that counts

The search for a configuration looks into a directory and, where there is none, goes one directory
up, until it has looked into the root. What it finds is the file of the deepest directory, and no
other file is read: whatever becomes of that one is the answer.

## Main definitions

* `FileTree.filesBy`: access to the files of a tree by any way of reading them
* `Config.IsNearest`: a directory has the configuration that counts in a place
* `Config.resolvedIn`: a configuration as it counts when its file is in some directory

## Main results

* `Config.lineage_ofParts`: going up visits the directories above a place, up to the root
* `Config.exists_isNearest_of_find?`: the first directory with a configuration has the nearest one
* `Config.run_firstWith`: the search finds the first directory with a configuration
* `nearest_configuration_counts`: the configuration that is found, and what it is read as
-/

namespace DeepCopy

/-- Access to the files of a tree by some way of reading them, which may fail. -/
def FileTree.filesBy (home : List String)
    (reading : String → StateM FileTree (Except FileError String)) : Files (StateM FileTree) :=
  { FileTree.files home with readText := reading }

namespace Config

/-! ## Going up -/

theorem ancestors_nil : ancestors [] = [[]] := rfl

theorem ancestors_concat (place : List String) (name : String) :
    ancestors (place ++ [name]) = (place ++ [name]) :: ancestors place := by
  have htake : ∀ n ∈ List.range (place.length + 1), (place ++ [name]).take n = place.take n :=
    fun n hn => List.take_append_of_le_length (Nat.le_of_lt_succ (List.mem_range.mp hn))
  rw [ancestors, ancestors, List.length_append, List.length_singleton, List.range_succ,
    List.reverse_concat, List.map_cons, List.map_reverse, List.map_reverse,
    List.map_congr_left htake, List.take_of_length_le (by simp)]

/-- The directories at or above a place. -/
theorem mem_ancestors_iff {place dir : List String} : dir ∈ ancestors place ↔ dir <+: place := by
  induction place using List.reverseRecOn with
  | nil => rw [ancestors_nil, List.mem_singleton, List.prefix_nil]
  | append_singleton place name ih =>
    rw [ancestors_concat, List.mem_cons, ih, List.prefix_concat_iff]

/-- **Going up visits the directories above a place, up to the root**, one by one: their paths are
those that are left when the last part is dropped again and again. -/
theorem lineage_ofParts {place : List String} (hplace : ∀ name ∈ place, Path.IsName name)
    {fuel : Nat} (hfuel : place.length ≤ fuel) :
    Path.lineage fuel (Path.ofParts place) = (ancestors place).map Path.ofParts := by
  induction place using List.reverseRecOn generalizing fuel with
  | nil => cases fuel <;> rfl
  | append_singleton place name ih =>
    rw [List.forall_mem_append, List.forall_mem_singleton] at hplace
    cases fuel with
    | zero => simp at hfuel
    | succ fuel =>
      rw [List.length_append, List.length_singleton] at hfuel
      rw [Path.lineage, Path.parent?_ofParts_concat hplace.1 hplace.2, ancestors_concat,
        List.map_cons]
      exact congrArg _ (ih hplace.1 (Nat.le_of_succ_le_succ hfuel))

/-! ## The nearest configuration -/

/-- A directory has a configuration: a file of the right name. -/
def IsIn (tree : FileTree) (dir : List String) : Prop :=
  ∃ text, tree.get? (dir ++ [fileName]) = some (.file text)

instance (tree : FileTree) (dir : List String) : Decidable (IsIn tree dir) :=
  match h : tree.get? (dir ++ [fileName]) with
  | some (.file text) => isTrue ⟨text, h⟩
  | some (.directory _) => isFalse fun ⟨_, htext⟩ => nomatch h.symm.trans htext
  | none => isFalse fun ⟨_, htext⟩ => nomatch h.symm.trans htext

/-- Among a place and the directories above it, a directory is the deepest one that has a
configuration, which has some text. -/
structure IsNearest (tree : FileTree) (place dir : List String) (text : String) : Prop where
  isPrefix : dir <+: place
  get?_eq : tree.get? (dir ++ [fileName]) = some (.file text)
  length_le : ∀ other, other <+: place → IsIn tree other → other.length ≤ dir.length

theorem isName_fileName : Path.IsName fileName := ⟨by decide, by decide, by decide, by decide⟩

section

variable {tree : FileTree} {place dir dir' : List String} {text text' : String}

/-- There is one nearest configuration. -/
theorem IsNearest.unique (h : IsNearest tree place dir text)
    (h' : IsNearest tree place dir' text') : dir = dir' ∧ text = text' := by
  have hlength : dir.length = dir'.length := Nat.le_antisymm
    (h'.length_le dir h.isPrefix ⟨text, h.get?_eq⟩)
    (h.length_le dir' h'.isPrefix ⟨text', h'.get?_eq⟩)
  obtain rfl : dir = dir' :=
    (List.prefix_of_prefix_length_le h.isPrefix h'.isPrefix hlength.le).eq_of_length hlength
  have htext := h.get?_eq.symm.trans h'.get?_eq
  cases htext
  exact ⟨rfl, rfl⟩

/-- A directory that has a configuration is nearest to itself. -/
theorem isNearest_self (h : tree.get? (dir ++ [fileName]) = some (.file text)) :
    IsNearest tree dir dir text :=
  ⟨List.prefix_rfl, h, fun _ hother _ => hother.length_le⟩

/-- Without a configuration in a directory, what is nearest is so for the directory above. -/
theorem IsNearest.concat {name : String} (h : IsNearest tree place dir text)
    (hnone : ¬ IsIn tree (place ++ [name])) : IsNearest tree (place ++ [name]) dir text := by
  refine ⟨h.isPrefix.trans (List.prefix_append _ _), h.get?_eq, fun other hother hin => ?_⟩
  rcases List.prefix_concat_iff.mp hother with rfl | hother
  · exact absurd hin hnone
  · exact h.length_le other hother hin

/-- **The first directory on the way up that has a configuration has the nearest one**: by
induction on the place from its end. -/
theorem exists_isNearest_of_find? (h : (ancestors place).find? (IsIn tree ·) = some dir) :
    ∃ text, IsNearest tree place dir text := by
  induction place using List.reverseRecOn with
  | nil =>
    obtain ⟨text, htext⟩ : IsIn tree dir := by simpa using List.find?_some h
    obtain rfl := List.prefix_nil.mp (mem_ancestors_iff.mp (List.mem_of_find?_eq_some h))
    exact ⟨text, isNearest_self htext⟩
  | append_singleton place name ih =>
    rw [ancestors_concat] at h
    by_cases hin : IsIn tree (place ++ [name])
    · rw [List.find?_cons_of_pos (by simpa using hin)] at h
      cases h
      obtain ⟨text, htext⟩ := hin
      exact ⟨text, isNearest_self htext⟩
    · rw [List.find?_cons_of_neg (by simpa using hin)] at h
      obtain ⟨text, hnearest⟩ := ih h
      exact ⟨text, hnearest.concat hin⟩

theorem find?_ancestors_eq_none_iff :
    (ancestors place).find? (IsIn tree ·) = none ↔ ∀ dir, dir <+: place → ¬ IsIn tree dir := by
  simp only [List.find?_eq_none, mem_ancestors_iff, decide_eq_true_eq]

/-- There is a nearest configuration where there is any. -/
theorem exists_isNearest_iff :
    (∃ dir text, IsNearest tree place dir text) ↔ ∃ dir, dir <+: place ∧ IsIn tree dir := by
  constructor
  · rintro ⟨dir, text, h⟩
    exact ⟨dir, h.isPrefix, text, h.get?_eq⟩
  · rintro ⟨dir, hdir, hin⟩
    cases hfind : (ancestors place).find? (IsIn tree ·) with
    | none => exact absurd hin (find?_ancestors_eq_none_iff.mp hfind dir hdir)
    | some found => exact ⟨found, exists_isNearest_of_find? hfind⟩

theorem IsNearest.find?_ancestors (h : IsNearest tree place dir text) :
    (ancestors place).find? (IsIn tree ·) = some dir := by
  cases hfind : (ancestors place).find? (IsIn tree ·) with
  | none => exact absurd ⟨text, h.get?_eq⟩ (find?_ancestors_eq_none_iff.mp hfind dir h.isPrefix)
  | some found =>
    obtain ⟨text', hfound⟩ := exists_isNearest_of_find? hfind
    rw [(h.unique hfound).1]

end

/-! ## The search -/

section Search

variable {home : List String} {reading : String → StateM FileTree (Except FileError String)}
  {tree : FileTree} {place dir : List String} {dirs : List (List String)}

/-- The path of the configuration in a directory. -/
theorem pathIn_eq (hdir : ∀ name ∈ dir, Path.IsName name) :
    pathIn dir = Path.ofParts (dir ++ [fileName]) :=
  Path.join_ofParts hdir isName_fileName

theorem isName_concat_fileName (hdir : ∀ name ∈ dir, Path.IsName name) :
    ∀ name ∈ dir ++ [fileName], Path.IsName name :=
  List.forall_mem_append.mpr ⟨hdir, List.forall_mem_singleton.mpr isName_fileName⟩

theorem find_pathIn_iff (hdir : ∀ name ∈ dir, Path.IsName name) {u : FileTree} :
    tree.find home (pathIn dir) = .ok u ↔ tree.get? (dir ++ [fileName]) = some u := by
  rw [pathIn_eq hdir]
  exact FileTree.find_ofParts_iff (by simp) (isName_concat_fileName hdir)

/-- A step of the search looks for a configuration. -/
theorem run_isFile_pathIn (hdir : ∀ name ∈ dir, Path.IsName name) :
    StateT.run ((FileTree.filesBy home reading).isFile (pathIn dir)) tree =
      (decide (IsIn tree dir), tree) := by
  simp only [FileTree.filesBy, FileTree.files, StateT.run_bind, StateT.run_get, pure_bind]
  split
  · next text hfile =>
    rw [decide_eq_true ⟨text, (find_pathIn_iff hdir).mp hfile⟩]
    rfl
  · next hfile =>
    rw [decide_eq_false fun ⟨text, htext⟩ => hfile text ((find_pathIn_iff hdir).mpr htext)]
    rfl

/-- **The search finds the first directory that has a configuration**, by induction on the
directories that are left. -/
theorem run_firstWith (hdirs : ∀ dir ∈ dirs, ∀ name ∈ dir, Path.IsName name) :
    StateT.run (firstWith (FileTree.filesBy home reading) dirs) tree =
      ((dirs.find? (IsIn tree ·)).map fun dir => Path.ofParts (dir ++ [fileName]), tree) := by
  induction dirs with
  | nil => rfl
  | cons dir dirs ih =>
    rw [List.forall_mem_cons] at hdirs
    rw [firstWith, StateT.run_bind, run_isFile_pathIn hdirs.1, List.find?_cons]
    by_cases hin : IsIn tree dir
    · rw [decide_eq_true hin, pathIn_eq hdirs.1]
      rfl
    · rw [decide_eq_false hin]
      exact ih hdirs.2

/-- The search begins in the place that a path leads to. -/
theorem run_find {start : String} (hstart : tree.locate home start = .ok place)
    (hplace : ∀ name ∈ place, Path.IsName name) :
    StateT.run (find (FileTree.filesBy home reading) start) tree =
      (.ok (((ancestors place).find? (IsIn tree ·)).map fun dir =>
        Path.ofParts (dir ++ [fileName])), tree) := by
  have hlocate : StateT.run ((FileTree.filesBy home reading).locate start) tree =
      (.ok place, tree) := by
    change ((tree.locate home start).mapError (Path.failure start), tree) = _
    rw [hstart]
    rfl
  rw [find, StateT.run_bind, hlocate]
  change StateT.run (firstWith _ _ >>= _) tree = _
  rw [StateT.run_bind, run_firstWith fun dir hdir name hname =>
    hplace name ((mem_ancestors_iff.mp hdir).subset hname)]
  rfl

end Search

/-! ## What is found -/

/-- A configuration as it counts when its file is in some directory, below which a relative template
directory is. -/
def resolvedIn (dir : List String) (c : Config) : Config :=
  { c with render := { c.render with
      templateDir := c.render.templateDir.map fun path =>
        if Path.isAbsolute path then path else Path.join (Path.ofParts dir) path } }

/-- The answer where the text in the file of a directory says something. -/
def answerOf (dir : List String) : Except ConfigFault Config → Except ConfigError (Option Config)
  | .error fault => .error (.fault fault)
  | .ok c => .ok (some (c.resolvedIn dir))

/-- The answer where the file of a directory is read with some result. -/
def answerIn (dir : List String) : Except FileError String → Except ConfigError (Option Config)
  | .error e => .error (.file e)
  | .ok text => answerOf dir (read text)

section Found

variable {home : List String} {reading : String → StateM FileTree (Except FileError String)}
  {tree : FileTree} {dir : List String}

theorem below_ofParts (hdir : ∀ name ∈ dir, Path.IsName name) (c : Config) :
    below (Path.ofParts (dir ++ [fileName])) c = c.resolvedIn dir := by
  obtain ⟨version, compile, targets, provenance, timestamp, comments, path⟩ := c
  rw [below, Path.parent?_ofParts_concat hdir isName_fileName, resolvedIn]
  cases path with
  | none => rfl
  | some path =>
    simp only [Option.map_some]
    split_ifs <;> rfl

theorem answerOf_eq (hdir : ∀ name ∈ dir, Path.IsName name) (r : Except ConfigFault Config) :
    answerOf dir r =
      ((r.mapError .fault).map (below (Path.ofParts (dir ++ [fileName])))).map some := by
  cases r with
  | error fault => rfl
  | ok c => exact congrArg (fun c => Except.ok (some c)) (below_ofParts hdir c).symm

/-- The file that is found is read, and nothing else. -/
theorem run_discover {start : String} (hdir : ∀ name ∈ dir, Path.IsName name)
    (hfind : StateT.run (find (FileTree.filesBy home reading) start) tree =
      (.ok (some (Path.ofParts (dir ++ [fileName]))), tree)) :
    StateT.run (discover (FileTree.filesBy home reading) start) tree =
      (answerIn dir (StateT.run (reading (Path.ofParts (dir ++ [fileName]))) tree).1,
        (StateT.run (reading (Path.ofParts (dir ++ [fileName]))) tree).2) := by
  rw [discover, StateT.run_bind, hfind]
  change StateT.run (load _ _ >>= _) tree = _
  rw [StateT.run_bind, load, StateT.run_bind]
  change (StateT.run (reading _) tree >>= _) >>= _ = _
  rcases StateT.run (reading (Path.ofParts (dir ++ [fileName]))) tree with ⟨e | text, after⟩
  · rfl
  · exact congrArg (·, after) (answerOf_eq hdir (read text)).symm

theorem run_discover_of_none {start : String}
    (hfind : StateT.run (find (FileTree.filesBy home reading) start) tree = (.ok none, tree)) :
    StateT.run (discover (FileTree.filesBy home reading) start) tree = (.ok none, tree) := by
  rw [discover, StateT.run_bind, hfind]
  rfl

end Found

end Config

open Config (IsIn IsNearest answerIn)

/-- **The nearest configuration counts.** From a place that is there, the search goes through the
directories at or above it, whose paths are those that are left when the last part of a path is
dropped again and again, up to the root. Where one of them has a configuration, the path of that in
the deepest one is found; where none has, none is found. What is found is read, however that is
done, and nothing else: a failure or a fault of it is the answer, and so is its configuration, in
which a relative template directory is below the directory of the file and leads where it leads from
there, and an absolute one is as it was. -/
theorem nearest_configuration_counts {home : List String}
    (hhome : ∀ name ∈ home, Path.IsName name) {tree : FileTree} {start : String}
    {place : List String} (hstart : tree.locate home start = .ok place)
    (reading : String → StateM FileTree (Except FileError String)) :
    (∀ fuel, place.length ≤ fuel →
      Path.lineage fuel (Path.ofParts place) = (Config.ancestors place).map Path.ofParts) ∧
    ((∃ dir text, IsNearest tree place dir text) ↔ ∃ dir, dir <+: place ∧ IsIn tree dir) ∧
    (∀ dir text, IsNearest tree place dir text →
      let path := Path.ofParts (dir ++ [Config.fileName])
      tree.find home path = .ok (.file text) ∧
      StateT.run (Config.find (FileTree.filesBy home reading) start) tree =
        (.ok (some path), tree) ∧
      StateT.run (Config.discover (FileTree.filesBy home reading) start) tree =
        (answerIn dir (StateT.run (reading path) tree).1, (StateT.run (reading path) tree).2) ∧
      StateT.run (Config.discover (FileTree.files home) start) tree =
        (answerIn dir (.ok text), tree) ∧
      ∀ templates, templates ≠ "" → Path.isAbsolute templates = false →
        tree.locate home (Path.join (Path.ofParts dir) templates) =
          tree.locate dir templates) ∧
    ((∀ dir, dir <+: place → ¬ IsIn tree dir) →
      StateT.run (Config.find (FileTree.filesBy home reading) start) tree = (.ok none, tree) ∧
      StateT.run (Config.discover (FileTree.filesBy home reading) start) tree =
        (.ok none, tree)) := by
  have hplace := FileTree.isName_of_locate hhome hstart
  refine ⟨fun _ => Config.lineage_ofParts hplace, Config.exists_isNearest_iff,
    fun dir text hnearest => ?_, fun hnone => ?_⟩
  · -- The parts of the directory are names, so that its path leads to it from everywhere.
    have hdir : ∀ name ∈ dir, Path.IsName name :=
      fun name hname => hplace name (hnearest.isPrefix.subset hname)
    have hfile : tree.find home (Path.ofParts (dir ++ [Config.fileName])) = .ok (.file text) := by
      rw [← Config.pathIn_eq hdir]
      exact (Config.find_pathIn_iff hdir).mpr hnearest.get?_eq
    have hfind (reading) : StateT.run (Config.find (FileTree.filesBy home reading) start) tree =
        (.ok (some (Path.ofParts (dir ++ [Config.fileName]))), tree) := by
      rw [Config.run_find hstart hplace, hnearest.find?_ancestors]
      rfl
    -- Reading in the ordinary way is one of the ways, and gives the text that is there.
    have hread : StateT.run ((FileTree.files home).readText
        (Path.ofParts (dir ++ [Config.fileName]))) tree = (.ok text, tree) := by
      simp only [FileTree.files, StateT.run_bind, StateT.run_get, pure_bind, hfile]
      rfl
    have hdiscover := Config.run_discover hdir (hfind (FileTree.files home).readText)
    rw [hread] at hdiscover
    exact ⟨hfile, hfind reading, Config.run_discover hdir (hfind reading), hdiscover,
      fun templates => FileTree.locate_join_ofParts
        (FileTree.isDirectoryAt_of_get?_concat hnearest.get?_eq) hdir⟩
  · have hfind : StateT.run (Config.find (FileTree.filesBy home reading) start) tree =
        (.ok none, tree) := by
      rw [Config.run_find hstart hplace, Config.find?_ancestors_eq_none_iff.mpr hnone]
      rfl
    exact ⟨hfind, Config.run_discover_of_none hfind⟩

/-- A tree with two configurations, of which the one above is of a version that is not read; and in
the directory of the sources, a directory has the name of configurations. -/
def workTree : FileTree :=
  .directory [
    (".cloneplan.yaml", .file "version: 2\n"),
    ("work", .directory [
      (".cloneplan.yaml", .file "version: 1\nrender:\n  template_dir: own\n"),
      ("src", .directory [(".cloneplan.yaml", .directory []), ("lib", .directory [])])])]

/-- From two directories below, the configuration of the work is found, with its templates in the
work, or what keeps it from being read; and in a tree without files there is none. -/
theorem nearest_configuration_counts_workTree :
    (∀ name ∈ ["work"], Path.IsName name) ∧
    workTree.locate ["work"] "src/lib" = .ok ["work", "src", "lib"] ∧
    IsNearest workTree ["work", "src", "lib"] ["work"]
      "version: 1\nrender:\n  template_dir: own\n" ∧
    StateT.run (Config.find (FileTree.files ["work"]) "src/lib") workTree =
      (.ok (some "/work/.cloneplan.yaml"), workTree) ∧
    StateT.run (Config.discover (FileTree.files ["work"]) "src/lib") workTree =
      (.ok (some { render := { templateDir := some "/work/own" } }), workTree) ∧
    StateT.run (Config.discover
      (FileTree.filesBy ["work"] fun _ => pure (.error (.other "invalid"))) "src/lib") workTree =
        (.error (.file (.other "invalid")), workTree) ∧
    StateT.run (Config.discover (FileTree.files []) ".") (.directory []) =
      (.ok none, .directory []) := by
  have hhome : ∀ name ∈ ["work"], Path.IsName name :=
    List.forall_mem_singleton.mpr ⟨by decide, by decide, by decide, by decide⟩
  have hstart : workTree.locate ["work"] "src/lib" = .ok ["work", "src", "lib"] := rfl
  have hdepth : ∀ other ∈ Config.ancestors ["work", "src", "lib"], IsIn workTree other →
      other.length ≤ 1 := by
    decide +kernel
  have hnearest : IsNearest workTree ["work", "src", "lib"] ["work"]
      "version: 1\nrender:\n  template_dir: own\n" :=
    ⟨⟨["src", "lib"], rfl⟩, rfl,
      fun other hother => hdepth other (Config.mem_ancestors_iff.mpr hother)⟩
  obtain ⟨-, -, hread, -⟩ := nearest_configuration_counts hhome hstart
    (FileTree.files ["work"]).readText
  obtain ⟨-, hfind, -, hdiscover, -⟩ := hread _ _ hnearest
  obtain ⟨-, -, hunread, -⟩ := nearest_configuration_counts hhome hstart
    fun _ => pure (.error (.other "invalid"))
  obtain ⟨-, -, hfailed, -⟩ := hunread _ _ hnearest
  have hempty : (FileTree.directory []).locate [] "." = .ok [] := rfl
  obtain ⟨-, -, -, hnone⟩ := nearest_configuration_counts (List.forall_mem_nil _) hempty
    (FileTree.files []).readText
  refine ⟨hhome, hstart, hnearest, hfind.trans ?_, hdiscover.trans ?_, hfailed, (hnone ?_).2⟩
  · rfl
  · rfl
  · intro dir hdir
    rw [List.prefix_nil.mp hdir]
    decide +kernel

end DeepCopy
