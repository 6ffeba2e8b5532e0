import DeepCopy.Document.Text
import DeepCopy.Proofs.Json.Tree

/-!
# Reading what was written

The laws by which a type is read back from its tree. A record is read field by field in the order in
which its fields are declared: a field that is written is taken, and a field that is left out must
be one whose default says the same. A variant is read from what is kept back, which for a written
tree is the tree itself.

## Main definitions

* `Tree.ReadsAs`: a tree within some depth is read as a value
* `Fills`: fields of a record, as far as they are written, turn one record into another

## Main results

* `Tree.ReadsAs.option`, `Tree.readsAs_list`, `Tree.readsAs_choice`: the laws of the basic readers
* `Fills.readsAs`: a record is read back
* `Tree.readsAs_keep`: a written tree that is kept back stays as it is
* `Tree.readsAs_variant`, `Fills.readsAs_variant`: a record that names its variant is read back
* `fromValue_toNode`: a value is read back, however deep it is
* `readJson_pretty`: a JSON text is read back, as far as JSON nests
-/

namespace DeepCopy.Document

variable {α σ : Type} {src : Source} {depth : Nat}

/-- A tree that nests at most `depth` containers is read as a value. -/
def Tree.ReadsAs (t : Tree) (depth : Nat) (read : Reader α) (a : α) : Prop :=
  t.depth ≤ depth → read t.toNode = .ok a

namespace Tree

/-- A reader that serves for some depth serves for less. -/
theorem ReadsAs.mono {t : Tree} {read : Reader α} {a : α} {depth' : Nat}
    (h : t.ReadsAs depth read a) (hd : depth' ≤ depth) : t.ReadsAs depth' read a :=
  fun ht => h (Nat.le_trans ht hd)

/-! ## Basic readers -/

theorem readsAs_text (s expected : String) :
    (Tree.text s).ReadsAs depth (readText src expected) s :=
  fun _ => rfl

theorem readsAs_bool (b : Bool) : (Tree.bool b).ReadsAs depth (readBool src) b :=
  fun _ => rfl

/-- A number is read back if it fits its type, which is at most a word. -/
theorem readsAs_word {n bound : Nat} (hbound : bound ≤ Number.twoTo 64) (hn : n < bound)
    (expected : String) : (Tree.integer n).ReadsAs depth (readWord src bound expected) n := by
  intro _
  have hfits : fitsWord n = true :=
    Json.fitsWord_natCast.mpr (Nat.le_pred_of_lt (hn.trans_le hbound))
  have hlower : (0 : Int) ≤ n := Int.natCast_nonneg n
  have hupper : (n : Int) < bound := Int.ofNat_lt.mpr hn
  have hread : readWord src bound expected (Tree.integer n).toNode =
      if !fitsWord n then .error (.wrongType (.integer n) expected)
      else if 0 ≤ (n : Int) && (n : Int) < bound then .ok (n : Int).toNat
      else .error (.wrongValue (.integer n) expected) := rfl
  rw [hread, hfits, if_neg (by decide), if_pos (by simp [hlower, hupper]), Int.toNat_natCast]

/-- An optional content is read as a content that is there, unless it is null. -/
theorem ReadsAs.option {t : Tree} {read : Reader α} {a : α} (h : t.ReadsAs depth read a)
    (ht : t ≠ .null) : t.ReadsAs depth (readOption src read) (some a) := by
  intro hd
  have hread := h hd
  cases t with
  | null => exact absurd rfl ht
  | _ =>
    change some <$> read _ = _
    rw [hread]
    rfl

/-- The names of choices are read back wherever a scalar has a type. -/
theorem readsAs_choice (hsrc : src.stage ≠ .yaml) {cs : Choices α} {name : String} {a : α}
    (h : cs.lookup name = some a) (n : Nat) :
    (Tree.text name).ReadsAs depth (readChoice src n cs) a := by
  intro _
  have hpick : cs.pick name = .ok a := by
    rw [Choices.pick, h]
  obtain ⟨stage, anchors⟩ := src
  cases stage with
  | yaml => exact absurd rfl hsrc
  | _ => exact hpick

theorem readItems_map {read : Reader α} {tree : α → Tree} {as : List α}
    (h : ∀ a ∈ as, (tree a).ReadsAs depth read a) (hd : depthList (as.map tree) ≤ depth) :
    readItems read (toNodes (as.map tree)) = .ok as := by
  induction as with
  | nil => rfl
  | cons a as ih =>
    rw [List.map_cons, depthList, Nat.max_le] at hd
    have hread := h a List.mem_cons_self hd.1
    have hrest := ih (fun b hb => h b (List.mem_cons_of_mem a hb)) hd.2
    rw [List.map_cons, toNodes, readItems, hread, hrest]
    rfl

/-- The list of some values' trees is read back as the values. -/
theorem readsAs_list {read : Reader α} {tree : α → Tree} {as : List α}
    (h : ∀ a ∈ as, (tree a).ReadsAs (depth - 1) read a) :
    (Tree.list (as.map tree)).ReadsAs depth (readList src depth read) as := by
  intro hd
  rw [Tree.depth] at hd
  have hitems := readItems_map h (by omega)
  change (if depth = 0 then _ else readItems read (toNodes (as.map tree))) = _
  rw [if_neg (by omega), hitems]

end Tree

/-! ## Records -/

open DeepCopy.Document.Tree (depthFields toEntries)

/-- Fields, as far as they are written, turn a record into another; a field that is not written
must be one that may be left out. -/
inductive Fills (depth : Nat) : List (FieldReader σ) → List (String × Tree) → σ → σ → Prop
  | nil (s : σ) : Fills depth [] [] s s
  | skip {f : FieldReader σ} {fs : List (FieldReader σ)} {es : List (String × Tree)} {s s' : σ}
      (hf : f.required = false) (h : Fills depth fs es s s') : Fills depth (f :: fs) es s s'
  | take {f : FieldReader σ} {fs : List (FieldReader σ)} {es : List (String × Tree)} {s s' : σ}
      {t : Tree} {put : σ → σ} (ht : t.ReadsAs depth f.read put) (h : Fills depth fs es (put s) s') :
      Fills depth (f :: fs) ((f.name, t) :: es) s s'

namespace Fills

variable {fs : List (FieldReader σ)} {es : List (String × Tree)} {s s' : σ} {name : String}
  {read : Reader α} {put : α → σ → σ} {a : α}

/-- A field that must be there is written. -/
theorem must {t : Tree} (ht : t.ReadsAs depth read a) (h : Fills depth fs es (put a s) s') :
    Fills depth (.must name read put :: fs) ((name, t) :: es) s s' := by
  have hread : t.ReadsAs depth (FieldReader.must name read put).read (put a) := by
    intro hd
    change put <$> read _ = _
    rw [ht hd]
    rfl
  exact .take hread h

/-- A field that may be left out is written. -/
theorem may {t : Tree} (ht : t.ReadsAs depth read a) (h : Fills depth fs es (put a s) s') :
    Fills depth (.may name read put :: fs) ((name, t) :: es) s s' := by
  have hread : t.ReadsAs depth (FieldReader.may name read put).read (put a) := by
    intro hd
    change put <$> read _ = _
    rw [ht hd]
    rfl
  exact .take hread h

/-- A field is written on a condition, without which the record has its content already. -/
theorem whenever {c : Bool} {t : Tree} (ht : c = true → t.ReadsAs depth read a)
    (hs : c = false → put a s = s) (h : Fills depth fs es (put a s) s') :
    Fills depth (.may name read put :: fs) (Tree.whenever c name t ++ es) s s' := by
  cases c with
  | true => exact .may (ht rfl) h
  | false =>
    rw [hs rfl] at h
    exact .skip rfl h

/-- A mark is written where it is set. -/
theorem flag {b : Bool} {put : Bool → σ → σ} (hs : put false s = s)
    (h : Fills depth fs es (put b s) s') :
    Fills depth (.may name (readBool src) put :: fs) (Tree.whenever b name (.bool true) ++ es) s
      s' := by
  cases b with
  | true => exact .may (Tree.readsAs_bool true) h
  | false =>
    rw [hs] at h
    exact .skip rfl h

/-- A list is written where it is not empty. -/
theorem list {bs : List α} {tree : α → Tree} {read : Reader α} {put : List α → σ → σ}
    (hbs : ∀ b ∈ bs, (tree b).ReadsAs (depth - 1) read b) (hs : put [] s = s)
    (h : Fills depth fs es (put bs s) s') :
    Fills depth (.may name (readList src depth read) put :: fs)
      (Tree.whenever (!bs.isEmpty) name (.list (bs.map tree)) ++ es) s s' := by
  cases bs with
  | nil =>
    rw [hs] at h
    exact .skip rfl h
  | cons b bs => exact .may (Tree.readsAs_list hbs) h

/-- A field is written where there is something to write. -/
theorem optional {β : Type} {o : Option β} {tree : β → Tree} {read : Reader (Option β)}
    {put : Option β → σ → σ} (ht : ∀ b, o = some b → (tree b).ReadsAs depth read (some b))
    (hs : put none s = s) (h : Fills depth fs es (put o s) s') :
    Fills depth (.may name read put :: fs) (Tree.optional name (o.map tree) ++ es) s s' := by
  cases o with
  | some b => exact .may (ht b rfl) h
  | none =>
    rw [hs] at h
    exact .skip rfl h

/-- Among fields with different names a field is found by its name. -/
theorem find?_name {earlier : List (FieldReader σ)} {f : FieldReader σ}
    (hf : f.name ∉ earlier.map (·.name)) :
    (earlier ++ f :: fs).find? (fun g => some g.name == some f.name) = some f := by
  have hearlier : earlier.find? (fun g => some g.name == some f.name) = none := by
    rw [List.find?_eq_none]
    intro g hg heq
    rw [beq_iff_eq, Option.some.injEq] at heq
    exact hf (heq ▸ List.mem_map_of_mem hg)
  rw [List.find?_append, hearlier, Option.none_or]
  exact List.find?_cons_of_pos (beq_self_eq_true (some f.name))

/-- An entry is read as the field of its name, which must be new. -/
theorem readEntries_field {earlier : List (FieldReader σ)} {f : FieldReader σ} {met : List String}
    {n : Node} {put : σ → σ} (hf : f.name ∉ earlier.map (·.name)) (hmet : f.name ∉ met)
    (hn : f.read n = .ok put) (entries : List (Node × Node)) :
    readEntries src (earlier ++ f :: fs) ((.text f.name, n) :: entries) met s =
      readEntries src (earlier ++ f :: fs) entries (f.name :: met) (put s) := by
  have hkey : readKey src ((earlier ++ f :: fs).map (·.name)) "field identifier"
      (.text f.name) = .ok (some f.name) := rfl
  have hnew : met.contains f.name = false := by
    rwa [Bool.eq_false_iff, ne_eq, List.contains_iff_mem]
  simp only [readEntries, hkey, bind, Except.bind, find?_name hf, hnew, hn]
  rfl

/-- Entries are read one by one: after some fields the rest of the entries is read as the rest of
the fields says. -/
theorem readEntries_toEntries (h : Fills depth fs es s s') (hd : depthFields es ≤ depth)
    (earlier : List (FieldReader σ)) (hnodup : ((earlier ++ fs).map (·.name)).Nodup)
    (met : List String) (hmet : ∀ name ∈ met, name ∈ earlier.map (·.name))
    (hrequired : ∀ f ∈ earlier, f.required = true → f.name ∈ met) :
    ∃ met', readEntries src (earlier ++ fs) (toEntries es) met s = .ok (met', s') ∧
      ∀ f ∈ earlier ++ fs, f.required = true → f.name ∈ met' := by
  -- What is kept is that only fields passed have been met, and all of these that are required.
  induction h generalizing earlier met with
  | nil s => exact ⟨met, rfl, by simpa using hrequired⟩
  | @skip f fs es s s' hf h ih =>
    rw [List.append_cons] at hnodup ⊢
    refine ih hd (earlier ++ [f]) hnodup met (fun name hname => ?_) fun g hg hreq => ?_
    · rw [List.map_append]
      exact List.mem_append_left _ (hmet name hname)
    · rcases List.mem_append.mp hg with hg | hg
      · exact hrequired g hg hreq
      · rw [List.mem_singleton.mp hg, hf] at hreq
        cases hreq
  | @take f fs es s s' t put ht h ih =>
    rw [depthFields, Nat.max_le] at hd
    -- The name is that of no field passed, so that the entry is neither theirs nor a second one.
    have hf : f.name ∉ earlier.map (·.name) := by
      intro hf
      rw [List.map_append, List.nodup_append] at hnodup
      exact hnodup.2.2 _ hf _ List.mem_cons_self rfl
    have hmet' : ∀ name ∈ f.name :: met, name ∈ (earlier ++ [f]).map (·.name) := by
      intro name hname
      rw [List.map_append]
      rcases List.mem_cons.mp hname with rfl | hname
      · exact List.mem_append_right _ List.mem_cons_self
      · exact List.mem_append_left _ (hmet name hname)
    have hrequired' : ∀ g ∈ earlier ++ [f], g.required = true → g.name ∈ f.name :: met := by
      intro g hg hreq
      rcases List.mem_append.mp hg with hg | hg
      · exact List.mem_cons_of_mem _ (hrequired g hg hreq)
      · rw [List.mem_singleton.mp hg]
        exact List.mem_cons_self
    rw [toEntries, readEntries_field hf (fun hmem => hf (hmet _ hmem)) (ht hd.1)]
    rw [List.append_cons] at hnodup ⊢
    exact ih hd.2 (earlier ++ [f]) hnodup (f.name :: met) hmet' hrequired'

theorem readRecord_toNode {fields : List (FieldReader σ)} (h : Fills depth fields es s s')
    (hnodup : (fields.map (·.name)).Nodup) (hd : depthFields es ≤ depth) {n : Nat} (hn : n ≠ 0)
    (title : String) :
    readRecord src n title fields s (Tree.record es).toNode = .ok s' := by
  have hentries : ∃ met, readEntries src fields (toEntries es) [] s = .ok (met, s') ∧
      ∀ f ∈ fields, f.required = true → f.name ∈ met :=
    h.readEntries_toEntries hd [] hnodup [] (by simp) (by simp)
  obtain ⟨met, hread, hrequired⟩ := hentries
  have hmissing : missing? fields met = none := by
    rw [missing?, List.find?_eq_none]
    intro f hf hmiss
    rw [Bool.and_eq_true, Bool.not_eq_true', Bool.eq_false_iff, ne_eq, List.contains_iff_mem] at hmiss
    exact hmiss.2 (hrequired f hf hmiss.1)
  have hnamed : readNamed src fields s (toEntries es) = .ok s' := by
    simp only [readNamed, hread, bind, Except.bind, hmissing]
    rfl
  change (if n = 0 then _ else readNamed src fields s (toEntries es)) = _
  rw [if_neg hn, hnamed]

/-- **A record is read back**, whatever fields of it are left out. -/
theorem readsAs {n : Nat} {fields : List (FieldReader σ)} (h : Fills (n - 1) fields es s s')
    (hnodup : (fields.map (·.name)).Nodup) (title : String) :
    (Tree.record es).ReadsAs n (readRecord src n title fields s) s' := by
  intro hd
  rw [Tree.depth] at hd
  exact h.readRecord_toNode hnodup (by omega) (by omega) title

end Fills

/-! ## Variants -/

theorem keep_text (s : String) : keep src depth (.text s) = .ok (.text s) := by
  cases depth <;> rfl

mutual

/-- **A written tree that is kept back** stays as it is. -/
theorem Tree.readsAs_keep : ∀ (t : Tree) (depth : Nat), t.ReadsAs depth (keep src depth) t.toNode
  | .null, depth, _ => by cases depth <;> rfl
  | .bool _, depth, _ => by cases depth <;> rfl
  | .integer _, depth, _ => by cases depth <;> rfl
  | .text _, depth, _ => by cases depth <;> rfl
  | .list items, depth, hd => by
    rw [Tree.depth] at hd
    obtain ⟨depth, rfl⟩ := Nat.exists_eq_add_one.mpr (Nat.zero_lt_of_lt hd)
    have hitems := readItems_keep items depth (by omega)
    change Node.list <$> readItems (keep src depth) (Tree.toNodes items) = _
    rw [hitems]
    rfl
  | .record fields, depth, hd => by
    rw [Tree.depth] at hd
    obtain ⟨depth, rfl⟩ := Nat.exists_eq_add_one.mpr (Nat.zero_lt_of_lt hd)
    have hfields := mapEntries_keep fields depth (by omega)
    change Node.record <$> mapEntries (keep src depth) (toEntries fields) = _
    rw [hfields]
    rfl

theorem readItems_keep : ∀ (ts : List Tree) (depth : Nat), Tree.depthList ts ≤ depth →
    readItems (keep src depth) (Tree.toNodes ts) = .ok (Tree.toNodes ts)
  | [], _, _ => rfl
  | t :: ts, depth, hd => by
    rw [Tree.depthList, Nat.max_le] at hd
    rw [Tree.toNodes, readItems, Tree.readsAs_keep t depth hd.1, readItems_keep ts depth hd.2]
    rfl

theorem mapEntries_keep : ∀ (fs : List (String × Tree)) (depth : Nat), depthFields fs ≤ depth →
    mapEntries (keep src depth) (toEntries fs) = .ok (toEntries fs)
  | [], _, _ => rfl
  | (name, t) :: fs, depth, hd => by
    rw [depthFields, Nat.max_le] at hd
    rw [toEntries, mapEntries, keep_text, Tree.readsAs_keep t depth hd.1,
      mapEntries_keep fs depth hd.2]
    rfl

end

section

variable {tag : String} {variants : Variants α} {es : List (String × Tree)}

/-- Entries that do not name the variant are kept back in order. -/
theorem splitTag_toEntries (hd : depthFields es ≤ depth) (htag : ∀ e ∈ es, e.1 ≠ tag)
    (found : Option (Reader α)) (others : List (Node × Node)) :
    splitTag src depth tag variants (toEntries es) found others =
      .ok (found, others.reverse ++ toEntries es) := by
  induction es generalizing others with
  | nil =>
    rw [toEntries, splitTag, List.append_nil]
  | cons e es ih =>
    obtain ⟨name, t⟩ := e
    rw [depthFields, Nat.max_le] at hd
    have hname : name ≠ tag := htag (name, t) List.mem_cons_self
    have hrest := ih hd.2 (fun e he => htag e (List.mem_cons_of_mem _ he))
      ((.text name, t.toNode) :: others)
    rw [List.reverse_cons, List.append_assoc, List.singleton_append] at hrest
    simp only [toEntries, splitTag, keep_text, bind, Except.bind, if_neg hname,
      Tree.readsAs_keep t depth hd.1]
    exact hrest

/-- **A record that names its variant first** is read back as the variant says. -/
theorem Tree.readsAs_variant {name : String} {read : Reader α} {a : α}
    (hvariant : variants.lookup name = some read) (htag : ∀ e ∈ es, e.1 ≠ tag)
    (hread : depthFields es ≤ depth - 1 → read (Tree.record es).toNode = .ok a) (title : String) :
    (Tree.record ((tag, .text name) :: es)).ReadsAs depth
      (readVariant src depth title tag variants) a := by
  intro hd
  rw [Tree.depth, depthFields] at hd
  have hdepth : depthFields es ≤ depth - 1 := by omega
  have hpick : Choices.read variants src (.text name) = .ok read := by
    change variants.pick name = _
    rw [Choices.pick, hvariant]
  have hsplit : splitTag src (depth - 1) tag variants (toEntries ((tag, .text name) :: es)) none [] =
      .ok (some read, toEntries es) := by
    simp only [toEntries, splitTag, keep_text, bind, Except.bind, Tree.toNode, if_true, hpick]
    exact splitTag_toEntries hdepth htag (some read) []
  have hpositive : ¬depth = 0 := by omega
  simp only [Tree.toNode, readVariant, Source.follow, if_neg hpositive, bind, Except.bind, hsplit]
  exact hread hdepth

/-- A record that does nothing but name a variant without content. -/
theorem Tree.readsAs_unitVariant {name : String} {a : α}
    (hvariant : variants.lookup name = some (unitVariant a)) (title : String) :
    (Tree.record [(tag, .text name)]).ReadsAs depth (readVariant src depth title tag variants) a :=
  Tree.readsAs_variant hvariant (by simp) (fun _ => rfl) title

/-- **A record that names its variant first** and holds the variant's fields is read back. -/
theorem Fills.readsAs_variant {name title' : String} {fields : List (FieldReader σ)} {s s' : σ}
    {build : σ → α} {a : α} (hvariant : variants.lookup name =
      some fun n => build <$> readRecord .kept 1 title' fields s n)
    (h : Fills (depth - 1) fields es s s') (ha : build s' = a)
    (hnodup : (fields.map (·.name)).Nodup) (htag : ∀ e ∈ es, e.1 ≠ tag) (title : String) :
    (Tree.record ((tag, .text name) :: es)).ReadsAs depth
      (readVariant src depth title tag variants) a := by
  refine Tree.readsAs_variant hvariant htag (fun hd => ?_) title
  rw [h.readRecord_toNode hnodup hd Nat.one_ne_zero, ← ha]
  rfl

/-- A record that names its variant and holds the variant's sole content is read back. -/
theorem Tree.readsAs_soleVariant {β : Type} {name field title' : String} {read : Reader β}
    {blank b : β} {build : β → α} {t : Tree} (hvariant : variants.lookup name =
      some fun n => build <$> readRecord .kept 1 title' [.must field read fun b _ => b] blank n)
    (ht : t.ReadsAs (depth - 1) read b) (htag : field ≠ tag) (title : String) :
    (Tree.record [(tag, .text name), (field, t)]).ReadsAs depth
      (readVariant src depth title tag variants) (build b) := by
  refine Fills.readsAs_variant hvariant (.must ht (.nil b)) rfl (by simp) ?_ title
  intro e he
  rw [List.mem_singleton.mp he]
  exact htag

end

/-! ## Values and texts -/

mutual

/-- What is read back nests as many containers as what is written. -/
theorem Tree.depth_toNode : ∀ t : Tree, t.toNode.depth = t.depth
  | .null | .bool _ | .integer _ | .text _ => rfl
  | .list items => by
    rw [Tree.toNode, Node.depth, Tree.depth, depthList_toNodes items]
  | .record fields => by
    rw [Tree.toNode, Node.depth, Tree.depth, depthEntries_toEntries fields]

theorem depthList_toNodes : ∀ ts : List Tree,
    Node.depthList (Tree.toNodes ts) = Tree.depthList ts
  | [] => rfl
  | t :: ts => by
    rw [Tree.toNodes, Node.depthList, Tree.depthList, t.depth_toNode, depthList_toNodes ts]

theorem depthEntries_toEntries : ∀ fs : List (String × Tree),
    Node.depthEntries (toEntries fs) = depthFields fs
  | [] => rfl
  | (name, t) :: fs => by
    have hname : (Node.text name).depth = 0 := rfl
    rw [toEntries, Node.depthEntries, depthFields, t.depth_toNode, depthEntries_toEntries fs,
      hname, Nat.zero_max]

end

/-- A value is read back, however many containers it nests. -/
theorem fromValue_toNode {format : Format α} {t : Tree} {a : α}
    (h : ∀ depth, t.ReadsAs depth (format depth .typed) a) : fromValue format t.toNode = .ok a := by
  rw [fromValue, t.depth_toNode]
  exact h t.depth (Nat.le_refl _)

/-- A JSON text is read back, as far as JSON nests. -/
theorem readJson_pretty {format : Format α} {t : Tree} {a : α} (ht : t.FitsWords)
    (h : t.ReadsAs jsonDepth (format jsonDepth .json) a) (hd : t.depth ≤ jsonDepth) :
    readJson format (Json.pretty 0 t) = .ok a := by
  rw [readJson, Json.read_pretty ht, fromJson, h hd]
  rfl

end DeepCopy.Document
