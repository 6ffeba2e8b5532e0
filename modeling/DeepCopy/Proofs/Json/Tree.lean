import DeepCopy.Proofs.Json.Scalar
import Mathlib.Data.List.DropRight

/-!
# Trees in JSON

A tree that is written with one item per line is read back as it was, with nothing left over, as
long as its integers fit a word. The reader takes a container item by item, so the claim is made for
a content, for the rest of a list and for the rest of a record at once, with anything behind them
that ends a content.

## Main definitions

* `Tree.FitsWords`: every integer of a tree fits a word
* `IsReadBack`: a tree that is written inside some containers is read back, whatever follows it

## Main results

* `isReadBack`, `itemsAreReadBack`, `fieldsAreReadBack`: what is written is read back
* `read_pretty`: a text that is nothing but a written tree is read back as the tree
-/

namespace DeepCopy.Document.Tree

mutual

/-- Every integer of a tree fits a word. -/
def FitsWords : Tree → Prop
  | .integer i => fitsWord i
  | .list items => ListFitsWords items
  | .record fields => FieldsFitWords fields
  | _ => True

/-- Every integer of the items of a list fits a word. -/
def ListFitsWords : List Tree → Prop
  | [] => True
  | t :: ts => FitsWords t ∧ ListFitsWords ts

/-- Every integer of the contents of fields fits a word. -/
def FieldsFitWords : List (String × Tree) → Prop
  | [] => True
  | (_, t) :: fs => FitsWords t ∧ FieldsFitWords fs

end

theorem fieldsFitWords_append {fs gs : List (String × Tree)} :
    FieldsFitWords (fs ++ gs) ↔ FieldsFitWords fs ∧ FieldsFitWords gs := by
  induction fs with
  | nil => simp [FieldsFitWords]
  | cons f fs ih => rw [List.cons_append, FieldsFitWords, FieldsFitWords, ih, and_assoc]

theorem fieldsFitWords_optional {α : Type} {name : String} {tree : α → Tree} {o : Option α}
    (h : ∀ a, (tree a).FitsWords) : FieldsFitWords (optional name (o.map tree)) := by
  cases o with
  | none => trivial
  | some a => exact ⟨h a, trivial⟩

theorem fieldsFitWords_whenever {c : Bool} {name : String} {t : Tree} :
    FieldsFitWords (whenever c name t) ↔ (c = true → t.FitsWords) := by
  cases c <;> simp [whenever, FieldsFitWords]

theorem listFitsWords_iff {ts : List Tree} : ListFitsWords ts ↔ ∀ t ∈ ts, t.FitsWords := by
  induction ts with
  | nil => simp [ListFitsWords]
  | cons t ts ih => rw [ListFitsWords, ih, List.forall_mem_cons]

theorem listFitsWords_map {α : Type} {tree : α → Tree} {as : List α}
    (h : ∀ a, (tree a).FitsWords) : ListFitsWords (as.map tree) :=
  listFitsWords_iff.mpr (List.forall_mem_map.mpr fun a _ => h a)

end DeepCopy.Document.Tree

namespace DeepCopy.Json

open Document (Node Tree)

/-! ## Blanks -/

theorem skipBlanks_append {ws : List Char} (hws : ∀ c ∈ ws, isBlank c = true) (cs : List Char) :
    skipBlanks (ws ++ cs) = skipBlanks cs := by
  rw [skipBlanks, List.dropWhile_append_of_pos hws, skipBlanks]

theorem skipBlanks_cons {c : Char} (hc : isBlank c = false) (cs : List Char) :
    skipBlanks (c :: cs) = c :: cs := by
  simp [skipBlanks, hc]

theorem skipBlanks_skipBlanks (cs : List Char) : skipBlanks (skipBlanks cs) = skipBlanks cs :=
  List.dropWhile_idempotent _ _

theorem toList_pushn_empty (c : Char) (n : Nat) :
    ("".pushn c n).toList = List.replicate n c := by
  rw [String.pushn_eq_repeat_push]
  induction n with
  | zero => rfl
  | succ n ih => rw [Nat.repeat, String.toList_push, ih, List.replicate_succ']

/-- A new line at a depth is a line break with blanks after it. -/
theorem toList_newline (depth : Nat) :
    (newline depth).toList = '\n' :: List.replicate (2 * depth) ' ' := by
  rw [newline, String.toList_append, toList_pushn_empty]
  rfl

theorem isBlank_of_mem_newline {depth : Nat} {c : Char} (hc : c ∈ (newline depth).toList) :
    isBlank c = true := by
  rw [toList_newline, List.mem_cons, List.mem_replicate] at hc
  rcases hc with rfl | ⟨-, rfl⟩ <;> rfl

theorem skipBlanks_newline (depth : Nat) {c : Char} (hc : isBlank c = false) (cs : List Char) :
    skipBlanks ((newline depth).toList ++ c :: cs) = c :: cs := by
  rw [skipBlanks_append fun _ => isBlank_of_mem_newline, skipBlanks_cons hc]

theorem ends_newline (depth : Nat) (cs : List Char) : Ends ((newline depth).toList ++ cs) := by
  rw [toList_newline]
  intro c hc
  cases hc
  decide

/-- Blanks in front of a content are passed over. -/
theorem content_skipBlanks (fuel : Nat) (cs : List Char) :
    content fuel (skipBlanks cs) = content fuel cs := by
  cases fuel with
  | zero => rfl
  | succ fuel => rw [content, skipBlanks_skipBlanks, content]

theorem items_skipBlanks (fuel : Nat) (cs : List Char) :
    items fuel (skipBlanks cs) = items fuel cs := by
  cases fuel with
  | zero => rfl
  | succ fuel => rw [items, content_skipBlanks, items]

theorem entries_skipBlanks (fuel : Nat) (cs : List Char) :
    entries fuel (skipBlanks cs) = entries fuel cs := by
  cases fuel with
  | zero => rfl
  | succ fuel => rw [entries, skipBlanks_skipBlanks, entries]

theorem content_newline (fuel depth : Nat) (cs : List Char) :
    content fuel ((newline depth).toList ++ cs) = content fuel cs := by
  rw [← content_skipBlanks, skipBlanks_append fun _ => isBlank_of_mem_newline, content_skipBlanks]

theorem content_blank (fuel : Nat) (cs : List Char) :
    content fuel (' ' :: cs) = content fuel cs := by
  rw [← content_skipBlanks, ← content_skipBlanks fuel cs]
  rfl

theorem ends_comma (cs : List Char) : Ends (',' :: cs) := by
  intro c hc
  cases hc
  decide

/-! ## Contents -/

/-- Whether a character starts a content that is not a container. -/
def StartsSimple (c : Char) : Prop := isBlank c = false ∧ c ≠ '[' ∧ c ≠ ']' ∧ c ≠ '\x7b'

instance (c : Char) : Decidable (StartsSimple c) := by
  unfold StartsSimple
  infer_instance

/-- A content that is not a container. -/
theorem content_of_simple {fuel : Nat} {c : Char} {cs rest : List Char} {n : Node}
    (hc : StartsSimple c) (h : simple? (c :: cs) = some (n, rest)) :
    content (fuel + 1) (c :: cs) = (n, some rest) := by
  obtain ⟨hblank, hlist, -, hrecord⟩ := hc
  rw [content, skipBlanks_cons hblank]
  split
  · rename_i heq
    cases heq
    exact absurd rfl hlist
  · rename_i heq
    cases heq
    exact absurd rfl hrecord
  · rw [h]

/-- A list that is not empty is read item by item. -/
theorem content_list {fuel : Nat} {c : Char} {rest cs : List Char} (h : skipBlanks rest = c :: cs)
    (hc : c ≠ ']') :
    content (fuel + 1) ('[' :: rest) = (.list (items fuel rest).1, (items fuel rest).2) := by
  rw [content, skipBlanks_cons (by decide)]
  simp only [← items_skipBlanks fuel rest]
  rw [h]
  split
  · rename_i heq
    cases heq
    exact absurd rfl hc
  · rfl

/-- A record that is not empty is read entry by entry. -/
theorem content_record {fuel : Nat} {c : Char} {rest cs : List Char}
    (h : skipBlanks rest = c :: cs) (hc : c ≠ '\x7d') :
    content (fuel + 1) ('\x7b' :: rest) =
      (.record (entries fuel rest).1, (entries fuel rest).2) := by
  rw [content, skipBlanks_cons (by decide)]
  simp only [← entries_skipBlanks fuel rest]
  rw [h]
  split
  · rename_i heq
    cases heq
    exact absurd rfl hc
  · rfl

/-! ## Written trees -/

theorem startsSimple_of_isDigit {c : Char} (hc : c.isDigit = true) : StartsSimple c := by
  refine ⟨?_, ?_, ?_, ?_⟩
  · rw [Bool.eq_false_iff]
    intro hblank
    simp only [isBlank, Bool.or_eq_true, beq_iff_eq] at hblank
    rcases hblank with ((rfl | rfl) | rfl) | rfl <;> cases hc
  all_goals
    rintro rfl
    cases hc

/-- A written content that is not a container. -/
theorem exists_simple_pretty {t : Tree} (hsimple : t.depth = 0) (ht : t.FitsWords) (depth : Nat) :
    ∃ c cs, (pretty depth t).toList = c :: cs ∧ StartsSimple c ∧
      ∀ rest, Ends rest → simple? (c :: (cs ++ rest)) = some (t.toNode, rest) := by
  cases t with
  | null => exact ⟨'n', ['u', 'l', 'l'], by simp [pretty], by decide, fun _ _ => rfl⟩
  | bool b =>
    cases b with
    | true => exact ⟨'t', ['r', 'u', 'e'], by simp [pretty], by decide, fun _ _ => rfl⟩
    | false => exact ⟨'f', ['a', 'l', 's', 'e'], by simp [pretty], by decide, fun _ _ => rfl⟩
  | integer i =>
    obtain ⟨c, cs, hi, hc⟩ := exists_toString_eq_cons i
    refine ⟨c, cs, hi, ?_, fun rest hrest => ?_⟩
    · rcases hc with rfl | hc
      · decide
      · exact startsSimple_of_isDigit hc
    · have hread := simple?_integer ht hrest
      rwa [hi] at hread
  | text s =>
    refine ⟨'"', s.toList.flatMap escape ++ ['"'], toList_quote s, by decide, fun rest _ => ?_⟩
    rw [List.append_assoc]
    exact text?_quoted s rest
  | list ts => cases hsimple
  | record fs => cases hsimple

theorem toList_pretty_list (depth : Nat) (t : Tree) (ts : List Tree) :
    (pretty depth (.list (t :: ts))).toList =
      '[' :: ((prettyItems (depth + 1) (t :: ts)).toList ++ ((newline depth).toList ++ [']'])) := by
  simp [pretty]

theorem toList_pretty_record (depth : Nat) (f : String × Tree) (fs : List (String × Tree)) :
    (pretty depth (.record (f :: fs))).toList =
      '\x7b' ::
        ((prettyFields (depth + 1) (f :: fs)).toList ++ ((newline depth).toList ++ ['\x7d'])) := by
  simp [pretty]

theorem toList_prettyItems_cons (depth : Nat) (t t' : Tree) (ts : List Tree) :
    (prettyItems depth (t :: t' :: ts)).toList =
      (newline depth).toList ++
        ((pretty depth t).toList ++ ',' :: (prettyItems depth (t' :: ts)).toList) := by
  simp [prettyItems]

theorem toList_prettyFields_singleton (depth : Nat) (name : String) (t : Tree) :
    (prettyFields depth [(name, t)]).toList =
      (newline depth).toList ++
        '"' :: (name.toList.flatMap escape ++ '"' :: ':' :: ' ' :: (pretty depth t).toList) := by
  simp [prettyFields, toList_quote]

theorem toList_prettyFields_cons (depth : Nat) (name : String) (t : Tree) (f : String × Tree)
    (fs : List (String × Tree)) :
    (prettyFields depth ((name, t) :: f :: fs)).toList =
      (newline depth).toList ++
        '"' :: (name.toList.flatMap escape ++ '"' :: ':' :: ' ' ::
          ((pretty depth t).toList ++ ',' :: (prettyFields depth (f :: fs)).toList)) := by
  simp [prettyFields, toList_quote]

/-- A written tree starts with a character that is neither blank nor a closing bracket. -/
theorem exists_pretty_eq_cons {t : Tree} (ht : t.FitsWords) (depth : Nat) :
    ∃ c cs, (pretty depth t).toList = c :: cs ∧ isBlank c = false ∧ c ≠ ']' := by
  by_cases hsimple : t.depth = 0
  · obtain ⟨c, cs, ht, hc, -⟩ := exists_simple_pretty hsimple ht depth
    exact ⟨c, cs, ht, hc.1, hc.2.2.1⟩
  · match t with
    | .null | .bool _ | .integer _ | .text _ => exact absurd rfl hsimple
    | .list [] => exact ⟨'[', [']'], by simp [pretty], by decide, by decide⟩
    | .list (t :: ts) => exact ⟨'[', _, toList_pretty_list depth t ts, by decide, by decide⟩
    | .record [] => exact ⟨'\x7b', ['\x7d'], by simp [pretty], by decide, by decide⟩
    | .record (f :: fs) => exact ⟨'\x7b', _, toList_pretty_record depth f fs, by decide, by decide⟩

/-- Written items start on a new line, and then with no closing bracket. -/
theorem exists_skipBlanks_prettyItems {t : Tree} (ht : t.FitsWords) (ts : List Tree)
    (depth : Nat) (rest : List Char) :
    ∃ c cs, skipBlanks ((prettyItems depth (t :: ts)).toList ++ rest) = c :: cs ∧ c ≠ ']' := by
  have hitems : ∃ more, (prettyItems depth (t :: ts)).toList =
      (newline depth).toList ++ ((pretty depth t).toList ++ more) := by
    cases ts with
    | nil => exact ⟨[], by simp [prettyItems]⟩
    | cons t' ts => exact ⟨_, toList_prettyItems_cons depth t t' ts⟩
  obtain ⟨more, hmore⟩ := hitems
  obtain ⟨c, cs, hc, hblank, hne⟩ := exists_pretty_eq_cons ht depth
  refine ⟨c, cs ++ (more ++ rest), ?_, hne⟩
  rw [hmore, hc, List.append_assoc, List.append_assoc, List.cons_append,
    skipBlanks_newline depth hblank]

/-- Written fields start on a new line, and then with a quote. -/
theorem exists_skipBlanks_prettyFields (f : String × Tree) (fs : List (String × Tree))
    (depth : Nat) (rest : List Char) :
    ∃ cs, skipBlanks ((prettyFields depth (f :: fs)).toList ++ rest) = '"' :: cs := by
  obtain ⟨name, t⟩ := f
  have hfields : ∃ more, (prettyFields depth ((name, t) :: fs)).toList =
      (newline depth).toList ++ '"' :: more := by
    cases fs with
    | nil => exact ⟨_, toList_prettyFields_singleton depth name t⟩
    | cons f fs => exact ⟨_, toList_prettyFields_cons depth name t f fs⟩
  obtain ⟨more, hmore⟩ := hfields
  refine ⟨more ++ rest, ?_⟩
  rw [hmore, List.append_assoc, List.cons_append, skipBlanks_newline depth (by decide)]

/-! ## Reading written trees

The reader may take as many steps as there are characters, which is more than enough: every step
takes a character at least. -/

/-- A tree written inside `depth` containers is read back. -/
def IsReadBack (depth : Nat) (t : Tree) : Prop :=
  ∀ fuel rest, (pretty depth t).toList.length < fuel → Ends rest →
    content fuel ((pretty depth t).toList ++ rest) = (t.toNode, some rest)

/-- Items written inside `depth + 1` containers are read back up to the end of their list. -/
def ItemsAreReadBack (depth : Nat) (ts : List Tree) : Prop :=
  ∀ fuel rest, (prettyItems (depth + 1) ts).toList.length < fuel →
    items fuel ((prettyItems (depth + 1) ts).toList ++ ((newline depth).toList ++ ']' :: rest)) =
      (Tree.toNodes ts, some rest)

/-- Fields written inside `depth + 1` containers are read back up to the end of their record. -/
def FieldsAreReadBack (depth : Nat) (fs : List (String × Tree)) : Prop :=
  ∀ fuel rest, (prettyFields (depth + 1) fs).toList.length < fuel →
    entries fuel
        ((prettyFields (depth + 1) fs).toList ++ ((newline depth).toList ++ '\x7d' :: rest)) =
      (Tree.toEntries fs, some rest)

section

variable {depth : Nat} {t : Tree} {ts : List Tree} {fs : List (String × Tree)}

theorem IsReadBack.simple (hsimple : t.depth = 0) (ht : t.FitsWords) : IsReadBack depth t := by
  intro fuel rest hfuel hrest
  obtain ⟨fuel, rfl⟩ := Nat.exists_eq_add_one.mpr (Nat.zero_lt_of_lt hfuel)
  obtain ⟨c, cs, hpretty, hc, hread⟩ := exists_simple_pretty hsimple ht depth
  rw [hpretty]
  exact content_of_simple hc (hread rest hrest)

theorem IsReadBack.emptyList : IsReadBack depth (.list []) := by
  intro fuel rest hfuel _
  obtain ⟨fuel, rfl⟩ := Nat.exists_eq_add_one.mpr (Nat.zero_lt_of_lt hfuel)
  have hpretty : (pretty depth (.list [])).toList = ['[', ']'] := by simp [pretty]
  rw [hpretty]
  rfl

theorem IsReadBack.emptyRecord : IsReadBack depth (.record []) := by
  intro fuel rest hfuel _
  obtain ⟨fuel, rfl⟩ := Nat.exists_eq_add_one.mpr (Nat.zero_lt_of_lt hfuel)
  have hpretty : (pretty depth (.record [])).toList = ['\x7b', '\x7d'] := by simp [pretty]
  rw [hpretty]
  rfl

theorem IsReadBack.list (ht : t.FitsWords) (hitems : ItemsAreReadBack depth (t :: ts)) :
    IsReadBack depth (.list (t :: ts)) := by
  intro fuel rest hfuel _
  obtain ⟨fuel, rfl⟩ := Nat.exists_eq_add_one.mpr (Nat.zero_lt_of_lt hfuel)
  obtain ⟨c, cs, hc, hne⟩ := exists_skipBlanks_prettyItems ht ts (depth + 1)
    ((newline depth).toList ++ ']' :: rest)
  rw [toList_pretty_list] at hfuel ⊢
  simp only [List.length_cons, List.length_append] at hfuel
  rw [List.cons_append, List.append_assoc, List.append_assoc, List.singleton_append,
    content_list hc hne, hitems fuel rest (by omega)]
  rfl

theorem IsReadBack.record {f : String × Tree} (hfields : FieldsAreReadBack depth (f :: fs)) :
    IsReadBack depth (.record (f :: fs)) := by
  intro fuel rest hfuel _
  obtain ⟨fuel, rfl⟩ := Nat.exists_eq_add_one.mpr (Nat.zero_lt_of_lt hfuel)
  obtain ⟨cs, hc⟩ := exists_skipBlanks_prettyFields f fs (depth + 1)
    ((newline depth).toList ++ '\x7d' :: rest)
  rw [toList_pretty_record] at hfuel ⊢
  simp only [List.length_cons, List.length_append] at hfuel
  rw [List.cons_append, List.append_assoc, List.append_assoc, List.singleton_append,
    content_record hc (by decide), hfields fuel rest (by omega)]
  rfl

theorem ItemsAreReadBack.last (ht : IsReadBack (depth + 1) t) : ItemsAreReadBack depth [t] := by
  intro fuel rest hfuel
  obtain ⟨fuel, rfl⟩ := Nat.exists_eq_add_one.mpr (Nat.zero_lt_of_lt hfuel)
  rw [prettyItems, String.toList_append] at hfuel ⊢
  have hlength : (pretty (depth + 1) t).toList.length < fuel := by
    rw [List.length_append, toList_newline, List.length_cons] at hfuel
    omega
  rw [items, List.append_assoc, content_newline, ht fuel _ hlength (ends_newline depth _)]
  simp only [skipBlanks_newline depth (show isBlank ']' = false by decide)]
  rfl

theorem ItemsAreReadBack.cons {t' : Tree} (ht : IsReadBack (depth + 1) t)
    (hts : ItemsAreReadBack depth (t' :: ts)) : ItemsAreReadBack depth (t :: t' :: ts) := by
  intro fuel rest hfuel
  obtain ⟨fuel, rfl⟩ := Nat.exists_eq_add_one.mpr (Nat.zero_lt_of_lt hfuel)
  rw [toList_prettyItems_cons] at hfuel ⊢
  simp only [List.length_append, List.length_cons] at hfuel
  rw [items, List.append_assoc, List.append_assoc, List.cons_append, content_newline,
    ht fuel _ (by omega) (ends_comma _)]
  simp only [skipBlanks_cons (show isBlank ',' = false by decide)]
  rw [hts fuel rest (by omega)]
  rfl

section

variable {fuel : Nat} {name : String} {n : Node} {cs more rest : List Char}

/-- The name of the last field is read before its content and the end of the record. -/
theorem entries_last (hn : content fuel cs = (n, some more))
    (hmore : skipBlanks more = '\x7d' :: rest) :
    entries (fuel + 1) ((newline (depth + 1)).toList ++
        '"' :: (name.toList.flatMap escape ++ '"' :: ':' :: ' ' :: cs)) =
      ([(.text name, n)], some rest) := by
  rw [← content_blank] at hn
  rw [entries, skipBlanks_newline (depth + 1) (by decide)]
  simp only [text?_quoted, skipBlanks_cons (show isBlank ':' = false by decide), hn, hmore]

/-- The name of a field is read before its content and the fields after it. -/
theorem entries_next (hn : content fuel cs = (n, some more))
    (hmore : skipBlanks more = ',' :: rest) :
    entries (fuel + 1) ((newline (depth + 1)).toList ++
        '"' :: (name.toList.flatMap escape ++ '"' :: ':' :: ' ' :: cs)) =
      ((.text name, n) :: (entries fuel rest).1, (entries fuel rest).2) := by
  rw [← content_blank] at hn
  rw [entries, skipBlanks_newline (depth + 1) (by decide)]
  simp only [text?_quoted, skipBlanks_cons (show isBlank ':' = false by decide), hn, hmore]

end

theorem FieldsAreReadBack.last {name : String} (ht : IsReadBack (depth + 1) t) :
    FieldsAreReadBack depth [(name, t)] := by
  intro fuel rest hfuel
  obtain ⟨fuel, rfl⟩ := Nat.exists_eq_add_one.mpr (Nat.zero_lt_of_lt hfuel)
  rw [toList_prettyFields_singleton] at hfuel ⊢
  simp only [List.length_append, List.length_cons] at hfuel
  simp only [List.append_assoc, List.cons_append]
  exact entries_last (ht fuel _ (by omega) (ends_newline depth _))
    (skipBlanks_newline depth (by decide) rest)

theorem FieldsAreReadBack.cons {name : String} {f : String × Tree} (ht : IsReadBack (depth + 1) t)
    (hfs : FieldsAreReadBack depth (f :: fs)) : FieldsAreReadBack depth ((name, t) :: f :: fs) := by
  intro fuel rest hfuel
  obtain ⟨fuel, rfl⟩ := Nat.exists_eq_add_one.mpr (Nat.zero_lt_of_lt hfuel)
  rw [toList_prettyFields_cons] at hfuel ⊢
  simp only [List.length_append, List.length_cons] at hfuel
  simp only [List.append_assoc, List.cons_append]
  rw [entries_next (ht fuel _ (by omega) (ends_comma _)) (skipBlanks_cons (by decide) _),
    hfs fuel rest (by omega)]
  rfl

end

mutual

/-- **A written tree is read back.** -/
theorem isReadBack : ∀ (depth : Nat) (t : Tree), t.FitsWords → IsReadBack depth t
  | _, .null, ht => .simple rfl ht
  | _, .bool _, ht => .simple rfl ht
  | _, .integer _, ht => .simple rfl ht
  | _, .text _, ht => .simple rfl ht
  | _, .list [], _ => .emptyList
  | depth, .list (t :: ts), ht => .list ht.1 (itemsAreReadBack depth (t :: ts) ht (by simp))
  | _, .record [], _ => .emptyRecord
  | depth, .record (f :: fs), ht => .record (fieldsAreReadBack depth (f :: fs) ht (by simp))

/-- The items of a written list are read back. -/
theorem itemsAreReadBack : ∀ (depth : Nat) (ts : List Tree), Tree.ListFitsWords ts → ts ≠ [] →
    ItemsAreReadBack depth ts
  | _, [], _, hne => absurd rfl hne
  | depth, [t], ht, _ => .last (isReadBack (depth + 1) t ht.1)
  | depth, t :: t' :: ts, ht, _ =>
    .cons (isReadBack (depth + 1) t ht.1) (itemsAreReadBack depth (t' :: ts) ht.2 (by simp))

/-- The fields of a written record are read back. -/
theorem fieldsAreReadBack : ∀ (depth : Nat) (fs : List (String × Tree)),
    Tree.FieldsFitWords fs → fs ≠ [] → FieldsAreReadBack depth fs
  | _, [], _, hne => absurd rfl hne
  | depth, [(_, t)], ht, _ => .last (isReadBack (depth + 1) t ht.1)
  | depth, (_, t) :: f :: fs, ht, _ =>
    .cons (isReadBack (depth + 1) t ht.1) (fieldsAreReadBack depth (f :: fs) ht.2 (by simp))

end

/-- **A text that is nothing but a written tree** is read back as the tree. -/
theorem read_pretty {t : Tree} (ht : t.FitsWords) :
    read (pretty 0 t) = ⟨t.toNode, [], true⟩ := by
  have hread := isReadBack 0 t ht ((pretty 0 t).toList.length + 1) [] (Nat.lt_succ_self _)
    (fun c hc => by cases hc)
  rw [List.append_nil] at hread
  simp only [read, hread]
  rfl

end DeepCopy.Json
