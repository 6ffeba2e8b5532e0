import DeepCopy.Files.Tree
import DeepCopy.Proofs.Heap.Fields
import Mathlib.Data.List.Basic

/-!
# Files in a directory

A file is written into a directory by a path that is the directory's, a slash and the file's name.
The directory is found as it was for every other file in it, so that what is written under one name
leaves the files of the other names as they are. Making a directory that is there already changes
nothing, and making a missing one takes nothing away.

## Main definitions

* `Path.IsName`, `Path.Fits`: a text that names a file in a directory, and one that the system takes
* `FileTree.Extends`: a tree keeps what another one has, up to some places
* `FileTree.HasFile`: a directory has a file of a name with a text

## Main results

* `Path.parts_join`: the parts of a file's path are those of its directory and its name
* `FileTree.extends_makeDirectories`: making directories keeps everything
* `FileTree.write_eq_ok_iff`: when a file is written, and what that does
* `FileTree.hasFile_of_write`: a file that is written is there
* `FileTree.HasFile.write_of_ne`: and stays there while files of other names are written
-/

namespace DeepCopy

namespace Path

/-! ## Paths of files in a directory -/

/-- A text that names a file in a directory. -/
structure IsName (name : String) : Prop where
  slash_notMem : '/' ∉ name.toList
  ne_empty : name ≠ ""
  ne_dot : name ≠ "."
  ne_dots : name ≠ ".."

/-- The system takes a name, and the path of that name in a directory. -/
structure Fits (dir name : String) : Prop where
  isLong : isLong name = false
  refusal? : refusal? (join dir name) = none

theorem partsFrom_ne_nil (cs : List Char) : partsFrom cs ≠ [] := by
  cases cs with
  | nil => exact List.cons_ne_nil _ _
  | cons c cs =>
    rw [partsFrom]
    split
    · exact List.cons_ne_nil _ _
    · split <;> exact List.cons_ne_nil _ _

theorem partsFrom_slash (cs : List Char) : partsFrom ('/' :: cs) = [] :: partsFrom cs := by
  obtain ⟨part, parts, hparts⟩ := List.exists_cons_of_ne_nil (partsFrom_ne_nil cs)
  rw [partsFrom, hparts]
  rfl

/-- A slash separates the parts before it from the parts after it. -/
theorem partsFrom_append_slash (cs ds : List Char) :
    partsFrom (cs ++ '/' :: ds) = partsFrom cs ++ partsFrom ds := by
  induction cs with
  | nil => exact partsFrom_slash ds
  | cons c cs ih =>
    by_cases hc : c = '/'
    · rw [hc, List.cons_append, partsFrom_slash, partsFrom_slash, ih, List.cons_append]
    · obtain ⟨part, parts, hparts⟩ := List.exists_cons_of_ne_nil (partsFrom_ne_nil cs)
      rw [List.cons_append, partsFrom, partsFrom, ih, hparts]
      simp [hc]

theorem partsFrom_of_notMem {cs : List Char} (hcs : '/' ∉ cs) : partsFrom cs = [cs] := by
  induction cs with
  | nil => rfl
  | cons c cs ih =>
    obtain ⟨hc, hcs⟩ := List.ne_and_not_mem_of_not_mem_cons hcs
    rw [partsFrom, ih hcs]
    simp [Ne.symm hc]

/-- The parts of a directory's path that stand before the name of a file in it. -/
def stem (dir : String) : List String :=
  if dir.isEmpty || dir.toList.getLast? = some '/' then (parts dir).dropLast else parts dir

variable {dir name : String}

theorem IsName.isAbsolute_eq_false (hname : IsName name) : isAbsolute name = false := by
  refine decide_eq_false fun hhead => hname.slash_notMem ?_
  exact List.mem_of_head? hhead

/-- A file's path is its name alone in the directory of the empty path, and else its name behind a
slash, which may be the last character of the directory's path. -/
theorem join_cases (hname : IsName name) (dir : String) :
    dir = "" ∧ join dir name = name ∨
      dir ≠ "" ∧ ∃ front, (join dir name).toList = front ++ '/' :: name.toList ∧
        (dir.toList.getLast? = some '/' ∧ dir.toList = front ++ ['/'] ∨
          dir.toList.getLast? ≠ some '/' ∧ dir.toList = front) := by
  rw [join, hname.isAbsolute_eq_false, Bool.false_or]
  by_cases hdir : dir = ""
  · exact .inl ⟨hdir, if_pos (String.isEmpty_iff.mpr hdir)⟩
  · rw [if_neg (mt String.isEmpty_iff.mp hdir)]
    refine .inr ⟨hdir, ?_⟩
    by_cases hlast : dir.toList.getLast? = some '/'
    · obtain ⟨front, hfront⟩ := List.getLast?_eq_some_iff.mp hlast
      refine ⟨front, ?_, .inl ⟨hlast, hfront⟩⟩
      rw [if_pos hlast, String.toList_append, hfront, List.append_assoc, List.singleton_append]
    · refine ⟨dir.toList, ?_, .inr ⟨hlast, rfl⟩⟩
      rw [if_neg hlast, String.toList_append, String.toList_append, List.append_assoc]
      rfl

theorem isEmpty_join (hname : IsName name) : (join dir name).isEmpty = false := by
  rw [← Bool.not_eq_true, String.isEmpty_iff]
  rcases join_cases hname dir with ⟨-, hjoin⟩ | ⟨-, front, hjoin, -⟩
  · rw [hjoin]
    exact hname.ne_empty
  · intro hempty
    rw [hempty] at hjoin
    simp at hjoin

/-- A file's path is absolute where that of its directory is. -/
theorem isAbsolute_join (hname : IsName name) : isAbsolute (join dir name) = isAbsolute dir := by
  rcases join_cases hname dir with ⟨rfl, hjoin⟩ | ⟨hdir, front, hjoin, hfront⟩
  · rw [hjoin, hname.isAbsolute_eq_false]
    rfl
  · have hhead : (join dir name).toList.head? = dir.toList.head? := by
      rcases hfront with ⟨-, hfront⟩ | ⟨-, hfront⟩
      · rw [hjoin, hfront]
        cases front <;> rfl
      · have hne : front ≠ [] := hfront ▸ mt String.toList_eq_nil_iff.mp hdir
        rw [hjoin, hfront, List.head?_append_of_ne_nil _ hne]
    rw [isAbsolute, hhead, isAbsolute]

/-- **The parts of a file's path** are those of its directory and its name. -/
theorem parts_join (hname : IsName name) : parts (join dir name) = stem dir ++ [name] := by
  have hparts : partsFrom name.toList = [name.toList] := partsFrom_of_notMem hname.slash_notMem
  have hofList : String.ofList name.toList = name := String.ofList_toList
  rcases join_cases hname dir with ⟨rfl, hjoin⟩ | ⟨hdir, front, hjoin, hfront⟩
  · rw [hjoin, parts, hparts, List.map_singleton, hofList]
    rfl
  · have hempty : dir.isEmpty = false := by
      rw [← Bool.not_eq_true, String.isEmpty_iff]
      exact hdir
    have hjoined : parts (join dir name) = (partsFrom front).map String.ofList ++ [name] := by
      rw [parts, hjoin, partsFrom_append_slash, hparts, List.map_append, List.map_singleton,
        hofList]
    rw [hjoined, stem, hempty, Bool.false_or]
    rcases hfront with ⟨hlast, hfront⟩ | ⟨hlast, hfront⟩
    · -- The path of the directory ends with the slash: its last part is empty.
      have hdirParts : parts dir = (partsFrom front).map String.ofList ++ [""] := by
        rw [parts, hfront, partsFrom_append_slash, List.map_append]
        rfl
      rw [if_pos (decide_eq_true hlast), hdirParts, List.dropLast_concat]
    · rw [if_neg (by simpa using hlast), parts, hfront]

end Path

namespace FileTree

/-! ## What a tree keeps -/

theorem isDirectoryAt_iff {t : FileTree} {names : List String} :
    t.isDirectoryAt names ↔ ∃ es, t.get? names = some (.directory es) := by
  rw [isDirectoryAt]
  split
  · next es hes => simp [hes]
  · next hne => simpa using fun es => hne es

theorem lookup_setEntry (name key : String) (t : FileTree) (es : List (String × FileTree)) :
    (setEntry name t es).lookup key = if key = name then some t else es.lookup key := by
  induction es with
  | nil => rw [setEntry, lookup_cons_eq_ite]
  | cons e es ih =>
    rw [setEntry]
    split
    · next he =>
      rw [lookup_cons_eq_ite, lookup_cons_eq_ite, he]
      split_ifs <;> rfl
    · next he =>
      rw [lookup_cons_eq_ite, lookup_cons_eq_ite, ih]
      by_cases hkey : key = name
      · rw [if_neg (hkey ▸ Ne.symm he), if_pos hkey, if_pos hkey]
      · rw [if_neg hkey, if_neg hkey]

theorem get?_put_cons (name : String) (names : List String) (new : FileTree)
    (es : List (String × FileTree)) (key : String) (keys : List String) :
    get? (key :: keys) (put new (name :: names) (.directory es)) =
      if key = name then
        get? keys (put new names ((es.lookup name).getD (.directory [])))
      else get? (key :: keys) (.directory es) := by
  rw [put, get?, lookup_setEntry]
  split_ifs with hkey
  · rfl
  · rw [get?]

/-- A tree keeps what another one has, up to some places: directories stay directories, and files
keep their texts. -/
structure Extends (lost : List (List String)) (t t' : FileTree) : Prop where
  isDirectoryAt {names : List String} : t.isDirectoryAt names → t'.isDirectoryAt names
  get?_file {names : List String} {text : String} :
    names ∉ lost → t.get? names = some (.file text) → t'.get? names = some (.file text)

namespace Extends

variable {lost : List (List String)} {t t' t'' : FileTree}

protected theorem refl (t : FileTree) : Extends [] t t := ⟨id, fun _ => id⟩

protected theorem trans (h : Extends [] t t') (h' : Extends lost t' t'') : Extends lost t t'' where
  isDirectoryAt hdir := h'.isDirectoryAt (h.isDirectoryAt hdir)
  get?_file hlost hfile := h'.get?_file hlost (h.get?_file List.not_mem_nil hfile)

end Extends

section Put

variable {t : FileTree} {place : List String} {name : String}

theorem exists_of_isDirectoryAt_nil (ht : t.isDirectoryAt []) : ∃ es, t = .directory es := by
  obtain ⟨es, hes⟩ := isDirectoryAt_iff.mp ht
  exact ⟨es, Option.some.inj hes⟩

/-- What is below a name is in what the directory has under it. -/
theorem exists_of_get?_cons {u : FileTree} (hu : t.get? (name :: place) = some u) :
    ∃ es w, t = .directory es ∧ es.lookup name = some w ∧ w.get? place = some u := by
  cases t with
  | file text => cases hu
  | directory es =>
    obtain ⟨w, hw, hu⟩ := Option.bind_eq_some_iff.mp hu
    exact ⟨es, w, rfl, hw, hu⟩

theorem exists_of_isDirectoryAt_cons (ht : t.isDirectoryAt (name :: place)) :
    ∃ es u, t = .directory es ∧ es.lookup name = some u ∧ u.isDirectoryAt place := by
  obtain ⟨found, hfound⟩ := isDirectoryAt_iff.mp ht
  obtain ⟨es, u, rfl, hu, hfound⟩ := exists_of_get?_cons hfound
  exact ⟨es, u, rfl, hu, isDirectoryAt_iff.mpr ⟨found, hfound⟩⟩

/-- What is put into a directory is there. -/
theorem get?_put (hplace : t.isDirectoryAt place) (new : FileTree) :
    (put new (place ++ [name]) t).get? (place ++ [name]) = some new := by
  induction place generalizing t with
  | nil =>
    obtain ⟨es, rfl⟩ := exists_of_isDirectoryAt_nil hplace
    rw [List.nil_append, get?_put_cons, if_pos rfl, put, get?]
  | cons part place ih =>
    obtain ⟨es, u, rfl, hu, hplace⟩ := exists_of_isDirectoryAt_cons hplace
    rw [List.cons_append, get?_put_cons, if_pos rfl, hu, Option.getD_some, ih hplace]

/-- What is in another place than the one where something is put stays there, or is a directory and
stays one. -/
theorem get?_put_of_ne (hplace : t.isDirectoryAt place)
    (hname : ¬ t.isDirectoryAt (place ++ [name])) (new : FileTree) {names : List String}
    (hnames : names ≠ place ++ [name]) {u : FileTree} (hu : t.get? names = some u) :
    (put new (place ++ [name]) t).get? names = some u ∨
      t.isDirectoryAt names ∧ (put new (place ++ [name]) t).isDirectoryAt names := by
  induction place generalizing t names with
  | nil =>
    obtain ⟨es, rfl⟩ := exists_of_isDirectoryAt_nil hplace
    cases names with
    | nil => exact .inr ⟨rfl, rfl⟩
    | cons key keys =>
      left
      rw [List.nil_append, get?_put_cons]
      split_ifs with hkey
      · -- What is below the name is in a directory of that name, and there is none.
        obtain ⟨_, w, heq, hw, hu⟩ := exists_of_get?_cons hu
        cases heq
        cases keys with
        | nil => exact absurd (congrArg (fun n => [n]) hkey) hnames
        | cons next rest =>
          obtain ⟨below, _, rfl, -⟩ := exists_of_get?_cons hu
          have hdir : get? [name] (.directory es) = some (.directory below) := by
            rw [get?, ← hkey, hw]
            rfl
          exact absurd (isDirectoryAt_iff.mpr ⟨below, hdir⟩) hname
      · exact hu
  | cons part place ih =>
    obtain ⟨es, w, rfl, hw, hbelow⟩ := exists_of_isDirectoryAt_cons hplace
    cases names with
    | nil => exact .inr ⟨rfl, rfl⟩
    | cons key keys =>
      by_cases hkey : key = part
      · -- Both places are below one entry, so that everything is said of that entry.
        subst hkey
        have hget (keys : List String) : get? (key :: keys) (.directory es) = w.get? keys := by
          rw [get?, hw, Option.bind_some]
        have hput (keys : List String) :
            get? (key :: keys) (put new (key :: (place ++ [name])) (.directory es)) =
              (put new (place ++ [name]) w).get? keys := by
          rw [get?_put_cons, if_pos rfl, hw, Option.getD_some]
        rw [hget] at hu
        simp only [List.cons_append, isDirectoryAt, hget, hput] at hname ⊢
        exact ih hbelow hname (fun heq => hnames (congrArg _ heq)) hu
      · rw [List.cons_append, get?_put_cons, if_neg hkey]
        exact .inl hu

/-- **Putting something into a directory**, where there is no directory of its name, keeps
everything else. -/
theorem extends_put (hplace : t.isDirectoryAt place) (hname : ¬ t.isDirectoryAt (place ++ [name]))
    (new : FileTree) : Extends [place ++ [name]] t (put new (place ++ [name]) t) where
  isDirectoryAt {names} hdir := by
    obtain ⟨es, hes⟩ := isDirectoryAt_iff.mp hdir
    have hnames : names ≠ place ++ [name] := fun heq => hname (heq ▸ hdir)
    rcases get?_put_of_ne hplace hname new hnames hes with hput | ⟨-, hput⟩
    · exact isDirectoryAt_iff.mpr ⟨es, hput⟩
    · exact hput
  get?_file {names text} hnames hfile := by
    rcases get?_put_of_ne hplace hname new (by simpa using hnames) hfile with hput | ⟨hdir, -⟩
    · exact hput
    · obtain ⟨es, hes⟩ := isDirectoryAt_iff.mp hdir
      rw [hfile] at hes
      cases hes

end Put

/-! ## Following paths -/

section Follow

variable {t t' : FileTree} {place found : List String} {parts : List String}

/-- A path that leads to a directory leads there in every tree that keeps the directories. -/
theorem follow_of_isDirectoryAt (h : ∀ {names}, t.isDirectoryAt names → t'.isDirectoryAt names)
    (hfound : t.follow place parts = .ok found) (hdir : t.isDirectoryAt found) :
    t'.follow place parts = .ok found := by
  induction parts generalizing place with
  | nil =>
    rw [follow] at hfound ⊢
    split at hfound
    · cases hfound
      obtain ⟨es, hes⟩ := isDirectoryAt_iff.mp (h hdir)
      rw [hes]
      rfl
    · cases hfound
  | cons part parts ih =>
    rw [follow] at hfound ⊢
    split at hfound
    · cases hfound
    · cases hfound
    · next es hes =>
      obtain ⟨es', hes'⟩ := isDirectoryAt_iff.mp (h (isDirectoryAt_iff.mpr ⟨es, hes⟩))
      rw [hes']
      dsimp only
      split_ifs at hfound ⊢
      · exact ih hfound
      · exact ih hfound
      · exact ih hfound

theorem Extends.follow {lost : List (List String)} (h : Extends lost t t')
    (hfound : t.follow place parts = .ok found) (hdir : t.isDirectoryAt found) :
    t'.follow place parts = .ok found :=
  follow_of_isDirectoryAt h.isDirectoryAt hfound hdir

/-- A path is followed part by part. -/
theorem follow_append (hfound : t.follow place parts = .ok found) (more : List String) :
    t.follow place (parts ++ more) = t.follow found more := by
  induction parts generalizing place with
  | nil =>
    rw [FileTree.follow] at hfound
    split at hfound <;> cases hfound
    rfl
  | cons part parts ih =>
    rw [FileTree.follow] at hfound
    rw [List.cons_append, FileTree.follow]
    split at hfound
    · cases hfound
    · cases hfound
    · split_ifs at hfound ⊢
      · exact ih hfound
      · exact ih hfound
      · exact ih hfound

/-- The name of a file leads from its directory to the file. -/
theorem follow_name {name : String} (hname : Path.IsName name) (hplace : t.isDirectoryAt place)
    {u : FileTree} (hu : t.get? (place ++ [name]) = some u) :
    t.follow place [name] = .ok (place ++ [name]) := by
  obtain ⟨es, hes⟩ := isDirectoryAt_iff.mp hplace
  rw [follow, hes]
  simp [hname.ne_empty, hname.ne_dot, hname.ne_dots, follow, hu]

end Follow

/-! ## Files in a directory -/

/-- The directory of a path has a file of a name, with a text. -/
def HasFile (t : FileTree) (home : List String) (dir name text : String) : Prop :=
  ∃ place, t.follow (origin home dir) (Path.stem dir) = .ok place ∧ t.isDirectoryAt place ∧
    t.get? (place ++ [name]) = some (.file text)

section Files

variable {t t' : FileTree} {home : List String} {dir name text : String}

/-- A path leads to what is where its parts lead. -/
theorem find_of_follow {path : String} {place : List String} {u : FileTree}
    (hpath : path.isEmpty = false)
    (hplace : t.follow (origin home path) (Path.parts path) = .ok place)
    (hu : t.get? place = some u) : t.find home path = .ok u := by
  have hlocate : t.locate home path = .ok place := by
    rw [locate, hpath]
    exact hplace
  simp only [FileTree.find, hlocate, bind, Except.bind, hu]
  rfl

/-- The path of a file goes on from its directory. -/
theorem follow_parts_join {place : List String} (hname : Path.IsName name)
    (hplace : t.follow (origin home dir) (Path.stem dir) = .ok place) :
    t.follow (origin home (Path.join dir name)) (Path.parts (Path.join dir name)) =
      t.follow place [name] := by
  rw [origin, Path.isAbsolute_join hname, Path.parts_join hname]
  exact follow_append hplace [name]

/-- The path of a file in a directory leads to it. -/
theorem HasFile.find (hname : Path.IsName name) (h : t.HasFile home dir name text) :
    t.find home (Path.join dir name) = .ok (.file text) := by
  obtain ⟨place, hplace, hdir, hfile⟩ := h
  refine find_of_follow (Path.isEmpty_join hname) ?_ hfile
  exact (follow_parts_join hname hplace).trans (follow_name hname hdir hfile)

/-- A file stays where it is in a tree that keeps it. -/
theorem HasFile.of_extends {lost : List (List String)} (h : t.HasFile home dir name text)
    (ht : Extends lost t t')
    (hlost : ∀ place, t.follow (origin home dir) (Path.stem dir) = .ok place →
      place ++ [name] ∉ lost) : t'.HasFile home dir name text := by
  obtain ⟨place, hplace, hdir, hfile⟩ := h
  exact ⟨place, ht.follow hplace hdir, ht.isDirectoryAt hdir,
    ht.get?_file (hlost place hplace) hfile⟩

/-- What a path leads to has its place in a directory. -/
theorem isDirectoryAt_of_slot {path : String} {place : List String}
    (hslot : t.slot home path = .ok (place, some name)) : t.isDirectoryAt place := by
  rw [slot] at hslot
  split at hslot
  · cases hslot
  dsimp only at hslot
  split at hslot
  · split_ifs at hslot
    cases hslot
  · next last hlast =>
    cases hfollow : t.follow (origin home path) (dropEmptyEnd (Path.parts path)).dropLast with
    | error e =>
      rw [hfollow] at hslot
      cases hslot
    | ok found =>
      rw [hfollow] at hslot
      change (if t.isDirectoryAt found then _ else _) = _ at hslot
      by_cases hdir : t.isDirectoryAt found
      · rw [if_pos hdir] at hslot
        obtain ⟨rfl, -⟩ := Prod.mk.inj (Except.ok.inj hslot)
        exact hdir
      · rw [if_neg hdir] at hslot
        cases hslot

/-- A file's place is its name in the directory, if the system takes its path. -/
theorem slot_join (hname : Path.IsName name) (hpath : Path.refusal? (Path.join dir name) = none) :
    t.slot home (Path.join dir name) =
      (t.follow (origin home dir) (Path.stem dir)).bind fun place =>
        if t.isDirectoryAt place then .ok (place, some name) else .error .notDirectory := by
  have hparts : dropEmptyEnd (Path.parts (Path.join dir name)) = Path.stem dir ++ [name] := by
    rw [Path.parts_join hname, dropEmptyEnd, List.reverse_concat,
      List.dropWhile_cons_of_neg (by simpa using hname.ne_empty), List.reverse_cons,
      List.reverse_reverse]
  have horigin : origin home (Path.join dir name) = origin home dir := by
    rw [origin, Path.isAbsolute_join hname, origin]
  rw [slot, hpath, hparts, horigin]
  simp only [List.getLast?_concat, List.dropLast_concat, hname.ne_dot, hname.ne_dots, decide_false]
  rfl

/-- A file is written into its directory under a name that is not too long, unless there is a
directory of its name. -/
theorem write_join (hname : Path.IsName name) (hpath : Path.refusal? (Path.join dir name) = none) :
    t.write home (Path.join dir name) text =
      (t.follow (origin home dir) (Path.stem dir)).bind fun place =>
        if t.isDirectoryAt place then
          if t.isDirectoryAt (place ++ [name]) then .error .isDirectory
          else if Path.isLong name then .error .tooLong
          else .ok (put (.file text) (place ++ [name]) t)
        else .error .notDirectory := by
  have hlast : ¬ (Path.parts (Path.join dir name)).getLast? = some "" := by
    rw [Path.parts_join hname, List.getLast?_concat, Option.some.injEq]
    exact hname.ne_empty
  rw [write, slot_join hname hpath]
  cases t.follow (origin home dir) (Path.stem dir) with
  | error e => rfl
  | ok place =>
    rw [Except.bind, Except.bind]
    split
    · change (if t.isDirectoryAt (place ++ [name]) ||
        (Path.parts (Path.join dir name)).getLast? = some "" then _ else _) = _
      rw [decide_eq_false hlast, Bool.or_false]
      rfl
    · rfl

/-- Nothing is written by a path that the system does not take. -/
theorem write_of_refusal? {path : String} {e : FileError} (hpath : Path.refusal? path = some e) :
    t.write home path text = .error e := by
  rw [write, slot, hpath]
  rfl

/-- **A file is written into a directory** exactly where the directory is there, the system takes
the name in it, and there is no directory of that name. -/
theorem write_eq_ok_iff (hname : Path.IsName name) :
    t.write home (Path.join dir name) text = .ok t' ↔ Path.Fits dir name ∧
      ∃ place, t.follow (origin home dir) (Path.stem dir) = .ok place ∧ t.isDirectoryAt place ∧
        ¬ t.isDirectoryAt (place ++ [name]) ∧ t' = put (.file text) (place ++ [name]) t := by
  -- A path that is refused is not followed; otherwise what decides is where the directory leads.
  cases hpath : Path.refusal? (Path.join dir name) with
  | some e =>
    rw [write_of_refusal? hpath]
    constructor
    · exact nofun
    · rintro ⟨hfits, -⟩
      rw [hfits.refusal?] at hpath
      cases hpath
  | none =>
    rw [write_join hname hpath]
    constructor
    · intro hwrite
      cases hfollow : t.follow (origin home dir) (Path.stem dir) with
      | error e =>
        rw [hfollow] at hwrite
        cases hwrite
      | ok place =>
        rw [hfollow, Except.bind] at hwrite
        split_ifs at hwrite with hdir hfree hlong
        cases hwrite
        exact ⟨⟨Bool.eq_false_of_not_eq_true hlong, hpath⟩, place, rfl, hdir, hfree, rfl⟩
    · rintro ⟨hfits, place, hplace, hdir, hfree, rfl⟩
      rw [hplace, Except.bind, if_pos hdir, if_neg hfree, hfits.isLong]
      rfl

/-- **A file that is written is there.** -/
theorem hasFile_of_write (hname : Path.IsName name)
    (hwrite : t.write home (Path.join dir name) text = .ok t') : t'.HasFile home dir name text := by
  obtain ⟨-, place, hplace, hdir, hfree, rfl⟩ := (write_eq_ok_iff hname).mp hwrite
  have hput := extends_put hdir hfree (.file text)
  exact ⟨place, hput.follow hplace hdir, hput.isDirectoryAt hdir, get?_put hdir _⟩

/-- **A file stays there** while a file of another name is written. -/
theorem HasFile.write_of_ne {other otherText : String} (h : t.HasFile home dir name text)
    (hother : Path.IsName other) (hne : name ≠ other)
    (hwrite : t.write home (Path.join dir other) otherText = .ok t') :
    t'.HasFile home dir name text := by
  obtain ⟨-, place, hplace, hdir, hfree, rfl⟩ := (write_eq_ok_iff hother).mp hwrite
  refine h.of_extends (extends_put hdir hfree _) fun place' hplace' => ?_
  rw [hplace] at hplace'
  cases hplace'
  simpa using hne

/-! ## Making directories -/

/-- What making a directory does. -/
theorem exists_of_makeDirectory {path : String} (hmake : t.makeDirectory home path = .ok t') :
    ∃ place name, t.isDirectoryAt place ∧ t.get? (place ++ [name]) = none ∧
      t' = put (.directory []) (place ++ [name]) t := by
  rw [makeDirectory] at hmake
  cases hslot : t.slot home path with
  | error e =>
    rw [hslot] at hmake
    cases hmake
  | ok found =>
    rw [hslot] at hmake
    obtain ⟨place, _ | last⟩ := found
    · cases hmake
    · change (if (t.get? (place ++ [last])).isSome then Except.error FileError.taken
        else if Path.isLong last then .error .tooLong else .ok _) = .ok t' at hmake
      split_ifs at hmake with htaken
      cases hmake
      exact ⟨place, last, isDirectoryAt_of_slot hslot, Option.not_isSome_iff_eq_none.mp htaken, rfl⟩

theorem extends_makeDirectory {path : String} (hmake : t.makeDirectory home path = .ok t') :
    Extends [] t t' := by
  obtain ⟨place, last, hdir, hnone, rfl⟩ := exists_of_makeDirectory hmake
  have hfree : ¬ t.isDirectoryAt (place ++ [last]) := by simp [isDirectoryAt, hnone]
  have hput := extends_put hdir hfree (.directory [])
  refine ⟨hput.isDirectoryAt, fun {names text} _ hfile => hput.get?_file ?_ hfile⟩
  -- There was nothing in the place of the new directory, so no file is lost.
  intro hlost
  rw [List.mem_singleton.mp hlost, hnone] at hfile
  cases hfile

/-- Directories on the way are made one by one, so that they change a tree as making one does. -/
theorem makeLineage_of_makeDirectory {R : FileTree → FileTree → Prop} (hrefl : ∀ t, R t t)
    (htrans : ∀ {t t' t''}, R t t' → R t' t'' → R t t'')
    (hmake : ∀ {path t t'}, t.makeDirectory home path = .ok t' → R t t') (paths : List String)
    (t : FileTree) : R t (makeLineage home paths t).2 := by
  induction paths generalizing t with
  | nil => exact hrefl t
  | cons path above ih =>
    have habove := ih t
    rw [makeLineage]
    split
    · exact hrefl t
    · split
      · next hfirst => exact hmake hfirst
      · split
        · next heq => exact heq ▸ habove
        · next t' heq =>
          rw [heq] at habove
          split
          · next hagain => exact htrans habove (hmake hagain)
          · exact habove
      · exact hrefl t

/-- **Making directories keeps everything.** -/
theorem extends_makeDirectories (home : List String) (path : String) (t : FileTree) :
    Extends [] t (makeDirectories home path t).2 :=
  makeLineage_of_makeDirectory .refl .trans extends_makeDirectory _ t

end Files

end FileTree

end DeepCopy
