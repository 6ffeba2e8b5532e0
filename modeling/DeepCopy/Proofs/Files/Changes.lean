import DeepCopy.Proofs.Files.Tree

/-!
# Where files change

Making directories changes no files, and writing a file into a directory changes that one. A tree
that comes from another one by such steps has the same files as before outside of the directory,
whatever became of the steps.

## Main definitions

* `FileTree.IsIn`: names lead to a place in a directory
* `FileTree.ChangesIn`: a tree comes from another one by changes in a directory

## Main results

* `FileTree.get?_put_file`: the files of a tree into which something is put
* `FileTree.changesIn_makeDirectories`, `FileTree.changesIn_write`: what the steps change
-/

namespace DeepCopy

namespace FileTree

section Put

variable {t new : FileTree} {place : List String} {name : String}

/-- Where something is put into a directory, every file was there or came with what is put. -/
theorem get?_put_file (hplace : t.isDirectoryAt place) {names : List String} {text : String}
    (hfile : (put new (place ++ [name]) t).get? names = some (.file text)) :
    t.get? names = some (.file text) ∨
      ∃ rest, names = place ++ name :: rest ∧ new.get? rest = some (.file text) := by
  induction place generalizing t names with
  | nil =>
    obtain ⟨es, rfl⟩ := exists_of_isDirectoryAt_nil hplace
    cases names with
    | nil => cases hfile
    | cons key keys =>
      rw [List.nil_append, get?_put_cons] at hfile
      split_ifs at hfile with hkey
      · exact .inr ⟨keys, by rw [hkey, List.nil_append], hfile⟩
      · exact .inl hfile
  | cons part place ih =>
    obtain ⟨es, u, rfl, hu, hplace⟩ := exists_of_isDirectoryAt_cons hplace
    cases names with
    | nil => cases hfile
    | cons key keys =>
      rw [List.cons_append, get?_put_cons] at hfile
      split_ifs at hfile with hkey
      · rw [hu, Option.getD_some] at hfile
        rw [hkey, get?, hu, Option.bind_some]
        rcases ih hplace hfile with hthere | ⟨rest, hkeys, hnew⟩
        · exact .inl hthere
        · exact .inr ⟨rest, by rw [hkeys, List.cons_append], hnew⟩
      · exact .inl hfile

/-- A new directory has no files. -/
theorem get?_directory_nil_ne (names : List String) (text : String) :
    (directory []).get? names ≠ some (.file text) := by
  cases names <;> exact nofun

/-- A file has nothing below it. -/
theorem eq_nil_of_get?_file {text : String} {names : List String} {u : FileTree}
    (h : (file text).get? names = some u) : names = [] := by
  cases names with
  | nil => rfl
  | cons name names => cases h

end Put

/-- Names lead to a place in the directory of a path, which has a name there. -/
def IsIn (t : FileTree) (home : List String) (dir : String) (names : List String) : Prop :=
  ∃ place name, names = place ++ [name] ∧ Path.IsName name ∧
    t.follow (origin home dir) (Path.stem dir) = .ok place ∧ t.isDirectoryAt place

/-- A tree comes from another one by changes in the directory of a path: directories stay
directories, and outside of that directory there are the same files. -/
structure ChangesIn (home : List String) (dir : String) (t t' : FileTree) : Prop where
  isDirectoryAt {names : List String} : t.isDirectoryAt names → t'.isDirectoryAt names
  get?_file_iff {names : List String} {text : String} : ¬ t'.IsIn home dir names →
    (t'.get? names = some (.file text) ↔ t.get? names = some (.file text))

section ChangesIn

variable {home names : List String} {dir : String} {t t' t'' : FileTree}

/-- What is in a directory is in it in every tree that keeps the directories. -/
theorem IsIn.of_isDirectoryAt (h : t.IsIn home dir names)
    (ht : ∀ {names}, t.isDirectoryAt names → t'.isDirectoryAt names) : t'.IsIn home dir names := by
  obtain ⟨place, name, hnames, hname, hplace, hdir⟩ := h
  exact ⟨place, name, hnames, hname, follow_of_isDirectoryAt ht hplace hdir, ht hdir⟩

protected theorem ChangesIn.refl (t : FileTree) : ChangesIn home dir t t := ⟨id, fun _ => Iff.rfl⟩

protected theorem ChangesIn.trans (h : ChangesIn home dir t t') (h' : ChangesIn home dir t' t'') :
    ChangesIn home dir t t'' where
  isDirectoryAt hdir := h'.isDirectoryAt (h.isDirectoryAt hdir)
  get?_file_iff hnames :=
    (h'.get?_file_iff hnames).trans
      (h.get?_file_iff fun hin => hnames (hin.of_isDirectoryAt h'.isDirectoryAt))

theorem changesIn_makeDirectory {path : String} (hmake : t.makeDirectory home path = .ok t') :
    ChangesIn home dir t t' := by
  have hextends := extends_makeDirectory hmake
  refine ⟨hextends.isDirectoryAt, fun _ => ⟨fun hfile => ?_, hextends.get?_file List.not_mem_nil⟩⟩
  obtain ⟨place, name, hdir, -, rfl⟩ := exists_of_makeDirectory hmake
  refine (get?_put_file hdir hfile).resolve_right ?_
  rintro ⟨rest, -, hnew⟩
  exact get?_directory_nil_ne _ _ hnew

/-- **Making directories changes no files.** -/
theorem changesIn_makeDirectories (path : String) (t : FileTree) :
    ChangesIn home dir t (makeDirectories home path t).2 :=
  makeLineage_of_makeDirectory .refl .trans changesIn_makeDirectory _ t

/-- **A file that is written into a directory is all that changes.** -/
theorem changesIn_write {name text : String} (hname : Path.IsName name)
    (hwrite : t.write home (Path.join dir name) text = .ok t') : ChangesIn home dir t t' := by
  obtain ⟨-, place, hplace, hdir, hfree, rfl⟩ := (write_eq_ok_iff hname).mp hwrite
  have hput := extends_put hdir hfree (.file text)
  have hin : IsIn _ home dir (place ++ [name]) :=
    ⟨place, name, rfl, hname, hput.follow hplace hdir, hput.isDirectoryAt hdir⟩
  refine ⟨hput.isDirectoryAt, fun hnames => ⟨fun hfile => ?_, hput.get?_file ?_⟩⟩
  · refine (get?_put_file hdir hfile).resolve_right ?_
    rintro ⟨rest, rfl, hnew⟩
    rw [eq_nil_of_get?_file hnew] at hnames
    exact hnames hin
  · rw [List.mem_singleton]
    rintro rfl
    exact hnames hin

end ChangesIn

end FileTree

end DeepCopy
