import DeepCopy.Proofs.Files.Tree

/-!
# Directories that take files

A directory that is there is not made again, and a file can be written into it under every name that
the system takes and no directory in it has. Writing one file leaves the directory as ready for the
others as it was.

## Main definitions

* `FileTree.Takes`: a directory is there and takes files of some names
* `FileTree.Admits`: a directory is there or can be made, and then takes files of some names

## Main results

* `FileTree.makeDirectories_of_isDirectory`: a directory that is there is not made again
* `FileTree.Takes.exists_write`: a directory takes one file after the other
* `FileTree.Admits.exists_write`: and so when it is made first, each time
-/

namespace DeepCopy

namespace FileTree

/-! ## Paths that lead somewhere -/

section Follow

variable {t : FileTree} {place found : List String} {parts : List String}

/-- A path starts where there is something. -/
theorem isSome_of_follow (h : t.follow place parts = .ok found) : (t.get? place).isSome := by
  cases parts with
  | nil =>
    rw [follow] at h
    split at h
    · assumption
    · cases h
  | cons part parts =>
    rw [follow] at h
    split at h
    · cases h
    · cases h
    · next hes => rw [hes]; rfl

/-- Parts that are followed lead from a directory. -/
theorem isDirectoryAt_of_follow_cons {part : String}
    (h : t.follow place (part :: parts) = .ok found) : t.isDirectoryAt place := by
  rw [follow] at h
  split at h
  · cases h
  · cases h
  · next es hes => exact isDirectoryAt_iff.mpr ⟨es, hes⟩

/-- A part that is a name leads on to what is of that name. -/
theorem follow_of_follow_cons {part : String} (hempty : part ≠ "") (hdot : part ≠ ".")
    (hdots : part ≠ "..") (h : t.follow place (part :: parts) = .ok found) :
    t.follow (place ++ [part]) parts = .ok found := by
  obtain ⟨es, hes⟩ := isDirectoryAt_iff.mp (isDirectoryAt_of_follow_cons h)
  rw [follow, hes] at h
  simpa [hempty, hdot, hdots] using h

/-- A path that leads somewhere leads to its parts on the way. -/
theorem exists_of_follow_append {front rest : List String}
    (h : t.follow place (front ++ rest) = .ok found) :
    ∃ mid, t.follow place front = .ok mid ∧ t.follow mid rest = .ok found := by
  induction front generalizing place with
  | nil =>
    refine ⟨place, ?_, h⟩
    rw [follow, if_pos (isSome_of_follow h)]
  | cons part front ih =>
    rw [List.cons_append, follow] at h
    rw [follow]
    split at h
    · cases h
    · cases h
    · split_ifs at h ⊢
      · exact ih h
      · exact ih h
      · exact ih h

/-- A dot on the way of a path leads nowhere else. -/
theorem follow_append_dot (t : FileTree) (place front : List String) (part : String)
    (rest : List String) :
    t.follow place (front ++ "." :: part :: rest) = t.follow place (front ++ part :: rest) := by
  induction front generalizing place with
  | nil =>
    rw [List.nil_append, List.nil_append, follow]
    split
    · next hplace => rw [follow, hplace]
    · next hplace => rw [follow, hplace]
    · rfl
  | cons next front ih =>
    rw [List.cons_append, List.cons_append, follow, follow]
    simp only [ih]

/-- A path leads to a directory where its parts do, if the system takes it. -/
theorem isDirectory_iff {home : List String} {path : String} :
    t.isDirectory home path = true ↔ Path.refusal? path = none ∧ path.isEmpty = false ∧
      ∃ place, t.follow (origin home path) (Path.parts path) = .ok place ∧
        t.isDirectoryAt place := by
  rw [isDirectory, Bool.and_eq_true, Option.isNone_iff_eq_none, and_congr_right_iff]
  rintro -
  -- Whether the path is taken is settled; what is left is where it leads.
  constructor
  · intro h
    split at h
    · next es hfind =>
      rw [find] at hfind
      cases hlocate : t.locate home path with
      | error e =>
        rw [hlocate] at hfind
        cases hfind
      | ok place =>
        simp only [hlocate, bind, Except.bind] at hfind
        have hdir : t.isDirectoryAt place := by
          rw [isDirectoryAt]
          cases hget : t.get? place with
          | none =>
            rw [hget] at hfind
            cases hfind
          | some u =>
            rw [hget] at hfind
            cases hfind
            rfl
        rw [locate] at hlocate
        split_ifs at hlocate with hempty
        exact ⟨Bool.eq_false_of_not_eq_true hempty, place, hlocate, hdir⟩
    · cases h
  · rintro ⟨hpath, place, hplace, hdir⟩
    obtain ⟨es, hes⟩ := isDirectoryAt_iff.mp hdir
    rw [find_of_follow hpath hplace hes]

end Follow

/-! ## Directories that are there -/

section Directories

variable {t : FileTree} {home : List String} {dir name text : String}

/-- A directory has the place that the paths of its files lead through. -/
theorem exists_of_isDirectory_stem (h : t.isDirectory home dir = true) :
    ∃ place, t.follow (origin home dir) (Path.stem dir) = .ok place ∧ t.isDirectoryAt place := by
  obtain ⟨-, hpath, place, hplace, hdir⟩ := isDirectory_iff.mp h
  rw [Path.stem, hpath, Bool.false_or]
  by_cases hlast : dir.toList.getLast? = some '/'
  · -- The path ends with a slash, and its last part is empty.
    obtain ⟨front, hparts⟩ : ∃ front, Path.parts dir = front ++ [""] := by
      obtain ⟨front, hfront⟩ := List.getLast?_eq_some_iff.mp hlast
      refine ⟨(Path.partsFrom front).map String.ofList, ?_⟩
      rw [Path.parts, hfront, Path.partsFrom_append_slash, List.map_append]
      rfl
    rw [hparts] at hplace
    obtain ⟨mid, hmid, hend⟩ := exists_of_follow_append hplace
    rw [if_pos (decide_eq_true hlast), hparts, List.dropLast_concat]
    exact ⟨mid, hmid, isDirectoryAt_of_follow_cons hend⟩
  · rw [if_neg (by simpa using hlast)]
    exact ⟨place, hplace, hdir⟩

/-- Empty parts at the end are all that is dropped of a path. -/
theorem exists_eq_dropEmptyEnd_append (parts : List String) :
    ∃ rest, parts = dropEmptyEnd parts ++ rest := by
  refine ⟨(parts.reverse.takeWhile (· = "")).reverse, ?_⟩
  rw [dropEmptyEnd, ← List.reverse_append, List.takeWhile_append_dropWhile, List.reverse_reverse]

theorem getLast?_dropEmptyEnd_ne {parts : List String} {last : String}
    (h : (dropEmptyEnd parts).getLast? = some last) : last ≠ "" := by
  rw [dropEmptyEnd, List.getLast?_reverse] at h
  have hhead := List.head?_dropWhile_not (fun part : String => decide (part = "")) parts.reverse
  rw [h] at hhead
  exact of_decide_eq_false hhead

theorem makeDirectory_of_isDirectory (h : t.isDirectory home dir = true) :
    t.makeDirectory home dir = .error .taken := by
  -- The path without its empty end is followed on the way of the whole path.
  obtain ⟨htaken, hpath, place, hplace, -⟩ := isDirectory_iff.mp h
  obtain ⟨rest, hparts⟩ := exists_eq_dropEmptyEnd_append (Path.parts dir)
  rw [makeDirectory, slot, htaken]
  dsimp only
  cases hlast : (dropEmptyEnd (Path.parts dir)).getLast? with
  | none =>
    dsimp only
    rw [hpath]
    rfl
  | some last =>
    -- The parts before the last lead to a directory, where the last one is taken: by something of
    -- that name, or because it is `.` or `..`, of which no directory is made.
    obtain ⟨front, hfront⟩ := List.getLast?_eq_some_iff.mp hlast
    rw [hparts, hfront, List.append_assoc] at hplace
    obtain ⟨mid, hmid, hend⟩ := exists_of_follow_append hplace
    have hdir : t.isDirectoryAt mid := isDirectoryAt_of_follow_cons hend
    rw [hfront, List.dropLast_concat]
    change ((t.follow (origin home dir) front >>= fun place =>
      if t.isDirectoryAt place then
        pure (place, if last = "." || last = ".." then none else some last)
      else throw .notDirectory) >>= fun found : List String × Option String => _) = _
    rw [hmid]
    change ((if t.isDirectoryAt mid then _ else _ : Except FileError _) >>= _) = _
    rw [if_pos hdir, pure_bind]
    by_cases hidle : last = "." || last = ".."
    · rw [if_pos hidle]
      rfl
    · rw [if_neg hidle]
      rw [Bool.or_eq_true, decide_eq_true_eq, decide_eq_true_eq, not_or] at hidle
      have htaken : (t.get? (mid ++ [last])).isSome :=
        isSome_of_follow
          (follow_of_follow_cons (getLast?_dropEmptyEnd_ne hlast) hidle.1 hidle.2 hend)
      change (if (t.get? (mid ++ [last])).isSome then _ else _) = _
      rw [if_pos htaken]
      rfl

/-- **A directory that is there is not made again.** -/
theorem makeDirectories_of_isDirectory (h : t.isDirectory home dir = true) :
    makeDirectories home dir t = (.ok (), t) := by
  obtain ⟨above, hlineage⟩ : ∃ above, Path.lineage dir.length dir = dir :: above := by
    cases dir.length with
    | zero => exact ⟨[], rfl⟩
    | succ n =>
      rw [Path.lineage]
      split
      · exact ⟨_, rfl⟩
      · exact ⟨[], rfl⟩
  rw [makeDirectories, hlineage, makeLineage, makeDirectory_of_isDirectory h, h]
  rw [(isDirectory_iff.mp h).2.1]
  rfl

/-! ## Writing -/

/-- What is put into a directory leaves what is of other names. -/
theorem get?_put_of_name_ne {place : List String} {other : String} (hplace : t.isDirectoryAt place)
    (hne : other ≠ name) (new : FileTree) :
    (put new (place ++ [name]) t).get? (place ++ [other]) = t.get? (place ++ [other]) := by
  induction place generalizing t with
  | nil =>
    obtain ⟨es, rfl⟩ := exists_of_isDirectoryAt_nil hplace
    rw [List.nil_append, List.nil_append, get?_put_cons, if_neg hne]
  | cons part place ih =>
    obtain ⟨es, u, rfl, hu, hplace⟩ := exists_of_isDirectoryAt_cons hplace
    rw [List.cons_append, List.cons_append, get?_put_cons, if_pos rfl, hu, Option.getD_some,
      ih hplace, get?, hu, Option.bind_some]

theorem Extends.isDirectory {t' : FileTree} {lost : List (List String)} (h : Extends lost t t')
    (hdir : t.isDirectory home dir = true) : t'.isDirectory home dir = true := by
  obtain ⟨htaken, hpath, place, hplace, hdir⟩ := isDirectory_iff.mp hdir
  exact isDirectory_iff.mpr
    ⟨htaken, hpath, place, h.follow hplace hdir, h.isDirectoryAt hdir⟩

/-- The path of a name in a directory leads to a directory where there is one of that name, if the
system takes it. -/
theorem isDirectory_join_iff {place : List String} (hname : Path.IsName name)
    (hpath : Path.refusal? (Path.join dir name) = none)
    (hplace : t.follow (origin home dir) (Path.stem dir) = .ok place)
    (hdir : t.isDirectoryAt place) :
    t.isDirectory home (Path.join dir name) = true ↔ t.isDirectoryAt (place ++ [name]) := by
  have hparts := follow_parts_join hname hplace
  constructor
  · intro h
    obtain ⟨-, -, found, hfound, hthere⟩ := isDirectory_iff.mp h
    rw [hparts] at hfound
    have hnext := follow_of_follow_cons hname.ne_empty hname.ne_dot hname.ne_dots hfound
    rw [follow] at hnext
    split at hnext <;> cases hnext
    exact hthere
  · intro hthere
    obtain ⟨es, hes⟩ := isDirectoryAt_iff.mp hthere
    exact isDirectory_iff.mpr ⟨hpath, Path.isEmpty_join hname, place ++ [name],
      hparts.trans (follow_name hname hdir hes), hthere⟩

/-- A directory is there, the system takes some names in it, and there are no directories of these
names. -/
structure Takes (t : FileTree) (home : List String) (dir : String) (names : List String) :
    Prop where
  isDirectory : t.isDirectory home dir = true
  fits : ∀ name ∈ names, Path.Fits dir name
  isDirectory_join : ∀ name ∈ names, t.isDirectory home (Path.join dir name) = false

/-- **A directory takes one file after the other.** -/
theorem Takes.exists_write {names : List String} (h : t.Takes home dir names)
    (hnames : ∀ name ∈ names, Path.IsName name) (hname : name ∈ names) (text : String) :
    ∃ t', t.write home (Path.join dir name) text = .ok t' ∧ t'.Takes home dir names := by
  obtain ⟨place, hplace, hdir⟩ := exists_of_isDirectory_stem h.isDirectory
  have hfree : ∀ other ∈ names, ¬ t.isDirectoryAt (place ++ [other]) := fun other hother =>
    mt (isDirectory_join_iff (hnames other hother) (h.fits other hother).refusal? hplace hdir).mpr
      (Bool.eq_false_iff.mp (h.isDirectory_join other hother))
  have hput := extends_put hdir (hfree name hname) (.file text)
  have hwrite : t.write home (Path.join dir name) text = .ok _ :=
    (write_eq_ok_iff (hnames name hname)).mpr
      ⟨h.fits name hname, place, hplace, hdir, hfree name hname, rfl⟩
  refine ⟨_, hwrite, hput.isDirectory h.isDirectory, h.fits, fun other hother => ?_⟩
  -- What is of another name is as before; of the written name there is a file.
  rw [Bool.eq_false_iff, ne_eq, isDirectory_join_iff (hnames other hother)
    (h.fits other hother).refusal? (hput.follow hplace hdir) (hput.isDirectoryAt hdir),
    isDirectoryAt]
  by_cases heq : other = name
  · rw [heq, get?_put hdir]
    exact Bool.false_ne_true
  · rw [get?_put_of_name_ne hdir heq]
    exact hfree other hother

/-- A directory is there or can be made, and then takes files of some names. -/
structure Admits (t : FileTree) (home : List String) (dir : String) (names : List String) :
    Prop where
  makeDirectories : (makeDirectories home dir t).1 = .ok ()
  takes : (FileTree.makeDirectories home dir t).2.Takes home dir names

/-- **A directory that is made first admits one file after the other.** -/
theorem Admits.exists_write {names : List String} (h : t.Admits home dir names)
    (hnames : ∀ name ∈ names, Path.IsName name) (hname : name ∈ names) (text : String) :
    ∃ made t', FileTree.makeDirectories home dir t = (.ok (), made) ∧
      made.write home (Path.join dir name) text = .ok t' ∧ t'.Admits home dir names := by
  obtain ⟨t', hwrite, ht'⟩ := h.takes.exists_write hnames hname text
  refine ⟨_, t', Prod.ext h.makeDirectories rfl, hwrite, ?_⟩
  have hagain := makeDirectories_of_isDirectory ht'.isDirectory
  exact ⟨by rw [hagain], by rw [hagain]; exact ht'⟩

end Directories

end FileTree

end DeepCopy
