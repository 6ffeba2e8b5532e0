import DeepCopy.Proofs.Files.Directory
import Mathlib.Data.List.Induction

/-!
# Paths from the root

The path from the root along some names leads to what is in the place of these names, wherever it is
followed from. Without its last part it is the path along all names but the last, so that the paths
which are left part by part are those of the directories above the place, up to the root.

## Main results

* `Path.parts_join_ofParts`: the parts of a path that goes on from names
* `Path.parent?_ofParts_concat`: a path along names without its last part
* `FileTree.find_ofParts_iff`: what a path along names leads to
* `FileTree.locate_join_ofParts`: a path below a directory leads where it leads from the directory
* `FileTree.isName_of_locate`: paths lead along names
-/

namespace DeepCopy

namespace Path

/-! ## Paths along names -/

variable {names : List String} {name path : String}

theorem ofParts_concat (hne : names ≠ []) (name : String) :
    ofParts (names ++ [name]) = ofParts names ++ "/" ++ name := by
  rw [ofParts, String.intercalate_append_of_ne_nil hne (List.cons_ne_nil _ _),
    String.intercalate_singleton, ofParts]
  simp only [String.append_assoc]

/-- In a path along names a slash is in front of each. -/
theorem toList_ofParts (hne : names ≠ []) :
    (ofParts names).toList = names.flatMap fun name => '/' :: name.toList := by
  induction names using List.reverseRecOn with
  | nil => exact absurd rfl hne
  | append_singleton front last ih =>
    rw [List.flatMap_append, List.flatMap_singleton]
    by_cases hfront : front = []
    · rw [hfront, ofParts, List.nil_append, String.intercalate_singleton, String.toList_append]
      rfl
    · rw [ofParts_concat hfront, String.toList_append, String.toList_append, ih hfront,
        List.append_assoc]
      rfl

theorem isEmpty_eq_false_of_isAbsolute (hpath : isAbsolute path = true) : path.isEmpty = false := by
  rw [← Bool.not_eq_true, String.isEmpty_iff]
  rintro rfl
  cases hpath

theorem isAbsolute_ofParts (names : List String) : isAbsolute (ofParts names) = true := by
  rw [isAbsolute, ofParts, String.toList_append]
  rfl

/-- A path along names does not end with a slash, but that of the root does. -/
theorem getLast?_ofParts_ne (hne : names ≠ []) (hnames : ∀ name ∈ names, IsName name) :
    (ofParts names).toList.getLast? ≠ some '/' := by
  have hlast := hnames _ (List.getLast_mem hne)
  have hnonempty := mt String.toList_eq_nil_iff.mp hlast.ne_empty
  intro hslash
  rw [toList_ofParts hne, ← List.dropLast_append_getLast hne, List.flatMap_append,
    List.flatMap_singleton, List.append_cons, List.getLast?_append_of_ne_nil _ hnonempty] at hslash
  exact hlast.slash_notMem (List.mem_of_getLast? hslash)

/-- A path goes on from the names behind a slash. -/
theorem toList_join_ofParts (hnames : ∀ name ∈ names, IsName name)
    (hpath : isAbsolute path = false) :
    (join (ofParts names) path).toList =
      (names.flatMap fun name => '/' :: name.toList) ++ '/' :: path.toList := by
  rw [join, hpath, isEmpty_eq_false_of_isAbsolute (isAbsolute_ofParts names)]
  by_cases hne : names = []
  · rw [hne]
    exact String.toList_append
  · rw [if_neg (getLast?_ofParts_ne hne hnames), ← toList_ofParts hne]
    simp only [Bool.or_self, Bool.false_eq_true, if_false, String.toList_append, List.append_assoc]
    rfl

/-- The path of a name in a directory is the path along the names and this one. -/
theorem join_ofParts (hnames : ∀ name ∈ names, IsName name) (hname : IsName name) :
    join (ofParts names) name = ofParts (names ++ [name]) := by
  rw [← String.toList_inj, toList_join_ofParts hnames hname.isAbsolute_eq_false,
    toList_ofParts (List.append_ne_nil_of_right_ne_nil _ (List.cons_ne_nil _ _)),
    List.flatMap_append, List.flatMap_singleton]

theorem isAbsolute_join_ofParts (hnames : ∀ name ∈ names, IsName name)
    (hpath : isAbsolute path = false) : isAbsolute (join (ofParts names) path) = true := by
  rw [isAbsolute, toList_join_ofParts hnames hpath]
  cases names <;> rfl

/-! ## Their parts -/

/-- Names behind slashes are parts, by induction on the names. -/
theorem exists_partsFrom_flatMap (hnames : ∀ name ∈ names, IsName name) (cs : List Char) :
    ∃ rest, (names.flatMap fun name => '/' :: name.toList) ++ '/' :: cs = '/' :: rest ∧
      partsFrom rest = names.map String.toList ++ partsFrom cs := by
  induction names with
  | nil => exact ⟨cs, rfl, rfl⟩
  | cons name names ih =>
    rw [List.forall_mem_cons] at hnames
    obtain ⟨rest, hrest, hparts⟩ := ih hnames.2
    refine ⟨name.toList ++ '/' :: rest, ?_, ?_⟩
    · rw [List.flatMap_cons, List.append_assoc, hrest, List.cons_append]
    · rw [partsFrom_append_slash, hparts, partsFrom_of_notMem hnames.1.slash_notMem]
      rfl

/-- **The parts of a path that goes on from names**: the first one is empty. -/
theorem parts_join_ofParts (hnames : ∀ name ∈ names, IsName name)
    (hpath : isAbsolute path = false) :
    parts (join (ofParts names) path) = "" :: (names ++ parts path) := by
  obtain ⟨rest, hrest, hparts⟩ := exists_partsFrom_flatMap hnames path.toList
  rw [parts, toList_join_ofParts hnames hpath, hrest, partsFrom_slash, hparts, List.map_cons,
    List.map_append, List.map_map, parts]
  refine congrArg₂ _ rfl (congrArg (· ++ _) ?_)
  exact (List.map_congr_left fun _ _ => String.ofList_toList).trans (List.map_id _)

theorem parts_ofParts (hne : names ≠ []) (hnames : ∀ name ∈ names, IsName name) :
    parts (ofParts names) = "" :: names := by
  obtain rfl | ⟨front, last, rfl⟩ := List.eq_nil_or_concat' names
  · exact absurd rfl hne
  · rw [List.forall_mem_append, List.forall_mem_singleton] at hnames
    have hlast : parts last = [last] := by
      rw [parts, partsFrom_of_notMem hnames.2.slash_notMem, List.map_singleton,
        String.ofList_toList]
    rw [← join_ofParts hnames.1 hnames.2,
      parts_join_ofParts hnames.1 hnames.2.isAbsolute_eq_false, hlast]

/-- No part has a slash in it. -/
theorem slash_notMem_of_mem_partsFrom {cs : List Char} : ∀ part ∈ partsFrom cs, '/' ∉ part := by
  induction cs with
  | nil => exact List.forall_mem_singleton.mpr List.not_mem_nil
  | cons c cs ih =>
    obtain ⟨part, parts, hparts⟩ := List.exists_cons_of_ne_nil (partsFrom_ne_nil cs)
    rw [hparts, List.forall_mem_cons] at ih
    rw [partsFrom, hparts]
    dsimp only
    split_ifs with hc
    · exact List.forall_mem_cons.mpr ⟨List.not_mem_nil, List.forall_mem_cons.mpr ih⟩
    · exact List.forall_mem_cons.mpr
        ⟨List.not_mem_cons_of_ne_of_not_mem (Ne.symm hc) ih.1, ih.2⟩

theorem slash_notMem_of_mem_parts {part : String} (hpart : part ∈ parts path) :
    '/' ∉ part.toList := by
  obtain ⟨cs, hcs, rfl⟩ := List.mem_map.mp hpart
  rw [String.toList_ofList]
  exact slash_notMem_of_mem_partsFrom cs hcs

/-! ## Without the last part -/

/-- A name at the end of a path counts. -/
theorem dropIdle_append (hname : IsName name) (cs : List Char) :
    dropIdle (name.toList.reverse ++ '/' :: cs) = name.toList.reverse ++ '/' :: cs := by
  have hslash : '/' ∉ name.toList.reverse := mt List.mem_reverse.mp hname.slash_notMem
  obtain ⟨last, rest, hlist⟩ := List.exists_cons_of_ne_nil
    (mt (List.reverse_eq_nil_iff.trans String.toList_eq_nil_iff).mp hname.ne_empty)
  rw [hlist] at hslash ⊢
  rw [List.mem_cons, not_or] at hslash
  rw [List.cons_append]
  unfold dropIdle
  split
  · next heq => exact absurd (List.cons.inj heq).1.symm hslash.1
  · next heq =>
    -- A dot in front of the slash is all there is of the name.
    obtain ⟨rfl, hrest⟩ := List.cons.inj heq
    cases rest with
    | nil =>
      refine absurd ?_ hname.ne_dot
      rw [← String.toList_inj, ← List.reverse_inj, hlist]
      rfl
    | cons c rest =>
      exact absurd (List.mem_cons.mpr (.inl (List.cons.inj hrest).1.symm)) hslash.2
  · rfl

/-- A path that ends with a name behind a slash, without its last part: what is in front of the
slash, as far as it counts. -/
theorem parent?_of_toList {front : List Char} (hname : IsName name)
    (hpath : path.toList = front ++ '/' :: name.toList) :
    parent? path = match dropIdle front.reverse with
      | [] => some (if isAbsolute path then "/" else "")
      | cs => some (String.ofList cs.reverse) := by
  have hreverse : path.toList.reverse = name.toList.reverse ++ '/' :: front.reverse := by
    simp [hpath]
  have hslash : '/' ∉ name.toList.reverse := mt List.mem_reverse.mp hname.slash_notMem
  have hdrop : (name.toList.reverse ++ '/' :: front.reverse).dropWhile (· ≠ '/') =
      '/' :: front.reverse := by
    rw [List.dropWhile_append_of_pos fun c hc => decide_eq_true (ne_of_mem_of_not_mem hc hslash)]
    rfl
  rw [parent?, hreverse, dropIdle_append hname]
  split
  · next hnil => simp at hnil
  · rw [hdrop]
    rfl

/-- **The path along names without its last part** is that along all names but the last. -/
theorem parent?_ofParts_concat (hnames : ∀ name ∈ names, IsName name) (hname : IsName name) :
    parent? (ofParts (names ++ [name])) = some (ofParts names) := by
  have hpath := toList_join_ofParts hnames hname.isAbsolute_eq_false
  rw [join_ofParts hnames hname] at hpath
  rw [parent?_of_toList hname hpath]
  rcases List.eq_nil_or_concat' names with rfl | ⟨front, last, rfl⟩
  · rw [isAbsolute_ofParts]
    rfl
  · have hlast : IsName last := hnames last List.mem_concat_self
    have hlist : (ofParts (front ++ [last])).toList.reverse =
        last.toList.reverse ++ '/' :: (front.flatMap fun name => '/' :: name.toList).reverse := by
      rw [toList_ofParts (List.append_ne_nil_of_right_ne_nil _ (List.cons_ne_nil _ _))]
      simp
    rw [← toList_ofParts (List.append_ne_nil_of_right_ne_nil _ (List.cons_ne_nil _ _)), hlist,
      dropIdle_append hlast, ← hlist]
    split
    · next hnil => simp [toList_ofParts] at hnil
    · rw [List.reverse_reverse, String.ofList_toList]

end Path

namespace FileTree

/-! ## What is in the place of names -/

variable {t u : FileTree} {home dir names found : List String} {path : String}

theorem get?_append (t : FileTree) (names more : List String) :
    t.get? (names ++ more) = (t.get? names).bind (get? more) := by
  induction names generalizing t with
  | nil => rfl
  | cons name names ih =>
    cases t with
    | file text => rfl
    | directory es =>
      rw [List.cons_append, get?, get?, Option.bind_assoc]
      exact Option.bind_congr fun _ _ => ih _

/-- What has something below it is a directory. -/
theorem isDirectoryAt_of_get?_concat {name : String} (hu : t.get? (names ++ [name]) = some u) :
    t.isDirectoryAt names := by
  rw [get?_append] at hu
  obtain ⟨v, hv, hbelow⟩ := Option.bind_eq_some_iff.mp hu
  cases v with
  | file text => cases hbelow
  | directory es => exact isDirectoryAt_iff.mpr ⟨es, hv⟩

/-- Names are followed to what is in their place. -/
theorem follow_eq_ok_iff {place : List String} (hnames : ∀ name ∈ names, Path.IsName name) :
    t.follow place names = .ok found ↔
      found = place ++ names ∧ (t.get? (place ++ names)).isSome := by
  induction names generalizing place with
  | nil =>
    rw [follow, List.append_nil]
    split_ifs with hplace
    · simp [hplace, eq_comm]
    · simp [hplace]
  | cons name names ih =>
    rw [List.forall_mem_cons] at hnames
    rw [follow, get?_append]
    cases hplace : t.get? place with
    | none => simp
    | some found =>
      cases found with
      | file text => simp [get?]
      | directory es =>
        have hskip : ¬ (name = "" ∨ name = ".") := by
          simp [hnames.1.ne_empty, hnames.1.ne_dot]
        simp only [hskip, hnames.1.ne_dots, Bool.or_eq_true, decide_eq_true_eq, if_false]
        rw [ih hnames.2, List.append_assoc, List.singleton_append, get?_append, hplace]

/-- An empty part leads nowhere else. -/
theorem follow_empty {place parts : List String} (hplace : t.isDirectoryAt place) :
    t.follow place ("" :: parts) = t.follow place parts := by
  obtain ⟨es, hes⟩ := isDirectoryAt_iff.mp hplace
  rw [follow, hes]
  rfl

theorem find_eq_ok_iff :
    t.find home path = .ok u ↔ ∃ place, t.locate home path = .ok place ∧ t.get? place = some u := by
  rw [FileTree.find]
  cases t.locate home path with
  | error e =>
    constructor
    · intro h
      cases h
    · rintro ⟨_, h, -⟩
      cases h
  | ok place => cases hplace : t.get? place <;> simp [bind, Except.bind, pure, Except.pure, hplace]

/-- **A path along names** leads to what is in their place, wherever it is followed from. -/
theorem find_ofParts_iff (hne : names ≠ []) (hnames : ∀ name ∈ names, Path.IsName name) :
    t.find home (Path.ofParts names) = .ok u ↔ t.get? names = some u := by
  have hlocate : t.locate home (Path.ofParts names) = t.follow [] ("" :: names) := by
    have habsolute := Path.isAbsolute_ofParts names
    rw [locate, Path.isEmpty_eq_false_of_isAbsolute habsolute, origin, habsolute,
      Path.parts_ofParts hne hnames]
    rfl
  rw [find_eq_ok_iff, hlocate]
  cases t with
  | file text =>
    -- Nothing is below a file.
    obtain ⟨name, rest, rfl⟩ := List.exists_cons_of_ne_nil hne
    constructor
    · rintro ⟨_, h, -⟩
      cases h
    · intro h
      cases h
  | directory es =>
    rw [follow_empty rfl]
    simp only [follow_eq_ok_iff hnames, List.nil_append]
    constructor
    · rintro ⟨_, ⟨rfl, -⟩, hu⟩
      exact hu
    · exact fun hu => ⟨names, ⟨rfl, Option.isSome_of_mem hu⟩, hu⟩

/-- **A path below a directory** leads where it leads from the directory. -/
theorem locate_join_ofParts (hdir : t.isDirectoryAt dir) (hnames : ∀ name ∈ dir, Path.IsName name)
    (hne : path ≠ "") (hpath : Path.isAbsolute path = false) :
    t.locate home (Path.join (Path.ofParts dir) path) = t.locate dir path := by
  have hroot : t.isDirectoryAt [] := by
    cases t with
    | file text => cases dir <;> exact hdir
    | directory es => rfl
  have hfollow : t.follow [] dir = .ok dir := by
    obtain ⟨es, hes⟩ := isDirectoryAt_iff.mp hdir
    exact (follow_eq_ok_iff hnames).mpr ⟨rfl, Option.isSome_of_mem hes⟩
  have habsolute := Path.isAbsolute_join_ofParts hnames hpath
  have hleft : t.locate home (Path.join (Path.ofParts dir) path) =
      t.follow [] ("" :: (dir ++ Path.parts path)) := by
    rw [locate, Path.isEmpty_eq_false_of_isAbsolute habsolute, origin, habsolute,
      Path.parts_join_ofParts hnames hpath]
    rfl
  rw [hleft, follow_empty hroot, follow_append hfollow, locate,
    if_neg (mt String.isEmpty_iff.mp hne), origin, hpath]
  rfl

/-! ## Places that paths lead to -/

theorem isName_of_follow {place parts : List String} (hplace : ∀ name ∈ place, Path.IsName name)
    (hparts : ∀ part ∈ parts, '/' ∉ part.toList) (h : t.follow place parts = .ok found) :
    ∀ name ∈ found, Path.IsName name := by
  induction parts generalizing place with
  | nil =>
    rw [follow] at h
    split_ifs at h
    cases h
    exact hplace
  | cons part parts ih =>
    rw [List.forall_mem_cons] at hparts
    rw [follow] at h
    split at h
    · cases h
    · cases h
    · split_ifs at h with hskip hup
      · exact ih hplace hparts.2 h
      · exact ih (fun name hname => hplace name (List.dropLast_subset _ hname)) hparts.2 h
      · simp only [Bool.or_eq_true, decide_eq_true_eq, not_or] at hskip
        refine ih (List.forall_mem_append.mpr ⟨hplace, List.forall_mem_singleton.mpr ?_⟩) hparts.2 h
        exact ⟨hparts.1, hskip.1, hskip.2, hup⟩

/-- **Paths lead along names**, where the names of the working directory are names. -/
theorem isName_of_locate (hhome : ∀ name ∈ home, Path.IsName name)
    (h : t.locate home path = .ok found) : ∀ name ∈ found, Path.IsName name := by
  rw [locate] at h
  split_ifs at h
  refine isName_of_follow ?_ (fun _ => Path.slash_notMem_of_mem_parts) h
  rw [origin]
  split_ifs
  · exact List.forall_mem_nil _
  · exact hhome

end FileTree

end DeepCopy
