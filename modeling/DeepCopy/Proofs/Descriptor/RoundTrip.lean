import DeepCopy.Descriptor.Format
import DeepCopy.Descriptor.Tree
import DeepCopy.Proofs.Document.RoundTrip

/-!
# The descriptor format loses nothing

Every type of a descriptor is read back from its tree, the types inside it first. A field that is
left out is one whose default is what the record holds already, so each proof goes through the
fields in the order in which they are declared.

## Main results

* `CloneMark.readsAs`, `TypeUse.readsAs`, `Member.readsAs`, `Descriptor.readsAs`: every type is read
  back from its tree, as far as it nests
* `Descriptor.fitsWords`: no integer of a descriptor's tree is too great for JSON
* `descriptor_recovered`: descriptors are recovered from JSON texts, from values and from documents
-/

namespace DeepCopy

open Document
open Document.Tree (optional whenever)

variable {src : Source} {depth : Nat}

/-! ## Marks and constructors -/

theorem CloneMark.readsAs (m : CloneMark) :
    m.tree.ReadsAs depth (CloneMark.format depth src) m := by
  rw [tree, ← List.append_nil (optional _ _)]
  refine Fills.readsAs ?_ (by simp [FieldReader.may]) _
  refine .may (Tree.readsAs_bool m.explicit) ?_
  exact .optional (fun b _ => (Tree.readsAs_bool b).option (by simp)) rfl (.nil m)

theorem MemberMarks.readsAs (m : MemberMarks) :
    m.tree.ReadsAs depth (MemberMarks.format depth src) m := by
  rw [tree, ← List.append_nil (optional _ _)]
  refine Fills.readsAs ?_ (by simp [FieldReader.may]) _
  refine .may (Tree.readsAs_bool m.ignored) (.may (Tree.readsAs_bool m.included) ?_)
  exact .optional (fun b _ => (Tree.readsAs_bool b).option (by simp)) rfl (.nil m)

theorem Parameter.readsAs (p : Parameter) :
    p.tree.ReadsAs depth (Parameter.format depth src) p := by
  cases p with
  | ownInterface => exact Tree.readsAs_unitVariant rfl _
  | sequence element =>
    apply Fills.readsAs_variant
    · rfl
    · exact .must (Tree.readsAs_text element _) (.nil _)
    · rfl
    · simp [FieldReader.must]
    · simp
  | pairs key value =>
    apply Fills.readsAs_variant
    · rfl
    · exact .must (Tree.readsAs_text key _) (.must (Tree.readsAs_text value _) (.nil _))
    · rfl
    · simp [FieldReader.must]
    · simp
  | other name =>
    apply Fills.readsAs_variant
    · rfl
    · exact .must (Tree.readsAs_text name _) (.nil _)
    · rfl
    · simp [FieldReader.must]
    · simp

theorem Constructor.readsAs (c : Constructor) :
    c.tree.ReadsAs depth (Constructor.format depth src) c := by
  refine Fills.readsAs (.may (Tree.readsAs_list fun p _ => ?_) (.nil c)) (by simp) _
  exact p.readsAs

/-! ## Types -/

theorem Category.lookup_choices (c : Category) : Category.choices.lookup c.name = some c := by
  cases c <;> rfl

theorem TypeUse.elementField_eq (element : Option TypeUse) :
    TypeUse.elementField element = optional "element" (element.map TypeUse.tree) := by
  cases element <;> rfl

theorem Interface.trees_eq_map (is : List Interface) : Interface.trees is = is.map tree := by
  induction is with
  | nil => rfl
  | cons i is ih => rw [trees, ih, List.map_cons]

/-- An interface is read back where the types in it are. -/
theorem Interface.readsAs {inside : Reader TypeUse}
    (hinside : ∀ t : TypeUse, t.tree.ReadsAs depth inside t) (i : Interface) :
    i.tree.ReadsAs depth (readVariant src depth "InterfaceRef" "kind" (Interface.variants inside))
      i := by
  have hpart := fun t => (hinside t).mono (Nat.sub_le depth 1)
  cases i with
  | sequence element =>
    apply Fills.readsAs_variant
    · rfl
    · exact .must (hpart element) (.nil _)
    · rfl
    · simp [FieldReader.must]
    · simp
  | mapping key value =>
    apply Fills.readsAs_variant
    · rfl
    · exact .must (hpart key) (.must (hpart value) (.nil _))
    · rfl
    · simp [FieldReader.must]
    · simp

theorem TypeUse.tree_ne_null (t : TypeUse) : t.tree ≠ .null := by
  cases t
  simp [tree]

/-- The fields of a type use are read back where the types in it are. -/
theorem TypeUse.fills (hsrc : src.stage ≠ .yaml) {element inside : Reader TypeUse}
    (helement : ∀ t : TypeUse, t.tree.ReadsAs depth element t)
    (hinside : ∀ t : TypeUse, t.tree.ReadsAs depth inside t) (t : TypeUse) :
    ∃ es, t.tree = .record es ∧
      Fills depth (TypeUse.fields src depth element inside) es default t := by
  obtain ⟨name, category, nullable, cloneable, elem, interfaces, isSequence, constructors⟩ := t
  refine ⟨_, tree.eq_1 .., ?_⟩
  rw [elementField_eq, Interface.trees_eq_map, ← List.append_nil (whenever (!constructors.isEmpty) _ _)]
  simp only [List.append_assoc, List.cons_append, List.nil_append]
  refine .must (Tree.readsAs_text name _) ?_
  refine .may (Tree.readsAs_choice hsrc (Category.lookup_choices category) _) ?_
  refine .flag rfl ?_
  refine .optional (fun m _ => m.readsAs.option (by simp [CloneMark.tree])) rfl ?_
  refine .optional (fun t _ => (helement t).option t.tree_ne_null) rfl ?_
  refine .list (fun i _ => i.readsAs fun t => ?_) rfl ?_
  · exact (hinside t).mono (Nat.sub_le depth 1)
  refine .flag rfl ?_
  exact .list (fun c _ => c.readsAs) rfl (.nil _)

/-- **A type use is read back**, by induction on how many containers may be entered. -/
theorem TypeUse.readsAs (hsrc : src.stage ≠ .yaml) (t : TypeUse) :
    t.tree.ReadsAs depth (TypeUse.format depth src) t := by
  induction depth generalizing src t with
  | zero =>
    intro hd
    cases t
    rw [tree, Document.Tree.depth] at hd
    omega
  | succ depth ih =>
    have hkept : Source.kept.stage ≠ .yaml := by decide
    obtain ⟨es, htree, hfills⟩ := t.fills hsrc (ih hsrc) (ih hkept)
    rw [htree]
    have hnames : ((fields src depth (format depth src) (format depth .kept)).map (·.name)).Nodup :=
      by simp [fields, FieldReader.must, FieldReader.may]
    exact Fills.readsAs (n := depth + 1) hfills hnames _

/-! ## Members and descriptors -/

theorem Member.readsAs (hsrc : src.stage ≠ .yaml) (m : Member) :
    m.tree.ReadsAs depth (Member.format depth src) m := by
  rw [tree, ← List.append_nil (whenever (m.marks ≠ {}) _ _), List.append_assoc]
  refine Fills.readsAs ?_ (by simp [FieldReader.must, FieldReader.may]) _
  refine .must (Tree.readsAs_text m.name _) (.must (m.type.readsAs hsrc) ?_)
  refine .flag rfl (.whenever (fun _ => m.marks.readsAs) (fun h => ?_) (.nil m))
  have hmarks : m.marks = {} := by simpa using h
  rw [hmarks]

theorem Visibility.lookup_choices (v : Visibility) :
    Visibility.choices.lookup v.keyword = some v := by
  cases v <;> rfl

namespace Descriptor

/-- **A descriptor is read back.** -/
theorem readsAs (hsrc : src.stage ≠ .yaml) (d : Descriptor) :
    d.tree.ReadsAs depth (format depth src) d := by
  rw [tree]
  simp only [List.append_assoc, List.cons_append, List.nil_append]
  refine Fills.readsAs ?_ (by simp [FieldReader.must, FieldReader.may]) _
  refine .must (Tree.readsAs_text d.name _) ?_
  refine .optional (fun s _ => (Tree.readsAs_text s _).option (by simp)) rfl ?_
  refine .may (Tree.readsAs_text d.namespaceName _) ?_
  refine .may (Tree.readsAs_choice hsrc (Visibility.lookup_choices d.visibility) _) ?_
  refine .whenever (fun _ => d.mark.readsAs) (fun h => ?_) ?_
  · have hmark : d.mark = {} := by simpa using h
    rw [hmark]
  · exact .may (Tree.readsAs_list fun m _ => m.readsAs hsrc) (.nil d)

/-- **A list of descriptors is read back.** -/
theorem readsAs_list (hsrc : src.stage ≠ .yaml) (ds : List Descriptor) :
    (Tree.record [("types", .list (ds.map tree))]).ReadsAs depth (listFormat depth src) ds := by
  refine Fills.readsAs ?_ (by simp) _
  exact .must (Tree.readsAs_list fun d _ => d.readsAs hsrc) (.nil ds)

end Descriptor

/-! ## Integers -/

open Document.Tree (FieldsFitWords ListFitsWords fieldsFitWords_append fieldsFitWords_optional
  fieldsFitWords_whenever listFitsWords_map)

theorem CloneMark.fitsWords (m : CloneMark) : m.tree.FitsWords :=
  ⟨trivial, fieldsFitWords_optional fun _ => trivial⟩

theorem MemberMarks.fitsWords (m : MemberMarks) : m.tree.FitsWords :=
  ⟨trivial, trivial, fieldsFitWords_optional fun _ => trivial⟩

theorem Parameter.fitsWords (p : Parameter) : p.tree.FitsWords := by
  cases p <;> simp [tree, Document.Tree.FitsWords, FieldsFitWords]

theorem Constructor.fitsWords (c : Constructor) : c.tree.FitsWords :=
  ⟨listFitsWords_map Parameter.fitsWords, trivial⟩

mutual

theorem TypeUse.fitsWords : ∀ t : TypeUse, t.tree.FitsWords
  | ⟨_, _, _, _, element, interfaces, _, _⟩ => by
    have helement := TypeUse.fitsWords_elementField element
    have hinterfaces := Interface.listFitsWords_trees interfaces
    simp [TypeUse.tree, Document.Tree.FitsWords, FieldsFitWords, fieldsFitWords_append,
      fieldsFitWords_whenever, fieldsFitWords_optional CloneMark.fitsWords, helement, hinterfaces,
      listFitsWords_map Constructor.fitsWords]

theorem TypeUse.fitsWords_elementField :
    ∀ o : Option TypeUse, FieldsFitWords (TypeUse.elementField o)
  | none => trivial
  | some t => ⟨t.fitsWords, trivial⟩

theorem Interface.fitsWords : ∀ i : Interface, i.tree.FitsWords
  | .sequence element => ⟨trivial, element.fitsWords, trivial⟩
  | .mapping key value => ⟨trivial, key.fitsWords, value.fitsWords, trivial⟩

theorem Interface.listFitsWords_trees :
    ∀ is : List Interface, ListFitsWords (Interface.trees is)
  | [] => trivial
  | i :: is => ⟨i.fitsWords, Interface.listFitsWords_trees is⟩

end

theorem Member.fitsWords (m : Member) : m.tree.FitsWords := by
  simp [tree, Document.Tree.FitsWords, FieldsFitWords, fieldsFitWords_append,
    fieldsFitWords_whenever, m.type.fitsWords, m.marks.fitsWords]

namespace Descriptor

theorem fitsWords (d : Descriptor) : d.tree.FitsWords := by
  have hfqn : FieldsFitWords (optional "fqn" (d.fqn.map .text)) :=
    fieldsFitWords_optional fun _ => trivial
  simp [tree, Document.Tree.FitsWords, FieldsFitWords, fieldsFitWords_append,
    fieldsFitWords_whenever, hfqn, d.mark.fitsWords, Visibility.tree,
    listFitsWords_map Member.fitsWords]

/-! ## Documents -/

/-- **A descriptor is read back from its JSON text**, as far as JSON nests. -/
theorem readJson_json (d : Descriptor) (hd : d.tree.depth ≤ jsonDepth) :
    readJson format d.json = .ok d :=
  readJson_pretty d.fitsWords (d.readsAs (by decide)) hd

/-- **A descriptor is read back from its value.** -/
theorem fromValue_tree (d : Descriptor) : fromValue format d.tree.toNode = .ok d :=
  fromValue_toNode fun _ => d.readsAs (by decide)

theorem hasKey_record (name : String) (es : List (String × Document.Tree)) :
    hasKey name (Document.Tree.record es).toNode = es.any fun e => e.1 == name := by
  change ((Document.Tree.toEntries es).any fun e => sameKey e.1 (.text name)) = _
  induction es with
  | nil => rfl
  | cons e es ih =>
    rw [Document.Tree.toEntries, List.any_cons, List.any_cons, ih, sameKey]

/-- No field of a descriptor is taken for a list of descriptors. -/
theorem hasKey_types_tree (d : Descriptor) : hasKey "types" d.tree.toNode = false := by
  rw [tree, hasKey_record]
  cases d.fqn <;> cases decide (d.mark ≠ {}) <;> rfl

/-- **Descriptors are read back from a document**, a single one or a list of any length. -/
theorem listOf_tree (d : Descriptor) : listOf d.tree.toNode = .ok [d] := by
  rw [listOf, d.hasKey_types_tree, if_neg (by decide), d.fromValue_tree]
  rfl

theorem listOf_types (ds : List Descriptor) :
    listOf (Document.Tree.record [("types", .list (ds.map tree))]).toNode = .ok ds := by
  have htypes : hasKey "types" (Document.Tree.record [("types", .list (ds.map tree))]).toNode =
      true := hasKey_record "types" _
  rw [listOf, if_pos htypes]
  exact fromValue_toNode fun _ => readsAs_list (by decide) ds

end Descriptor

/-- **The descriptor format loses nothing.** -/
theorem descriptor_recovered :
    (∀ d : Descriptor, d.tree.depth ≤ jsonDepth → readJson Descriptor.format d.json = .ok d) ∧
    (∀ d : Descriptor, fromValue Descriptor.format d.tree.toNode = .ok d ∧
      Descriptor.listOf d.tree.toNode = .ok [d]) ∧
    ∀ ds : List Descriptor,
      Descriptor.listOf (Document.Tree.record [("types", .list (ds.map Descriptor.tree))]).toNode =
        .ok ds :=
  ⟨Descriptor.readJson_json, fun d => ⟨d.fromValue_tree, d.listOf_tree⟩, Descriptor.listOf_types⟩

/-- A type with a member whose type uses every part of the format. -/
def shelfDescriptor : Descriptor where
  name := "Shelf"
  fqn := some "Shop.Shelf"
  mark := { shallow := some false }
  members := [{
    name := "Prices"
    type := {
      name := "Book[]"
      category := .array
      nullable := true
      element := some (.marked "Book")
      interfaces := [.sequence .string, .mapping .string (.value "int")]
      constructors := [⟨[.pairs "string" "int", .ownInterface]⟩] }
    readOnly := true
    marks := { shallow := some false } }]

/-- The descriptor of a shelf is recovered. -/
theorem descriptor_recovered_shelfDescriptor :
    shelfDescriptor.tree.depth ≤ jsonDepth ∧
      readJson Descriptor.format shelfDescriptor.json = .ok shelfDescriptor :=
  ⟨by decide, descriptor_recovered.1 shelfDescriptor (by decide)⟩

end DeepCopy
