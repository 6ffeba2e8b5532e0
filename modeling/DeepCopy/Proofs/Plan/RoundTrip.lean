import DeepCopy.Plan.Format
import DeepCopy.Proofs.Descriptor.RoundTrip
import DeepCopy.Shape.Format

/-!
# The plan format loses nothing

Shapes and accessors are trees whose nodes name their variant, so they are read back variant by
variant, by induction on how many containers may be entered. A plan is a record of accessors. Its
only numbers are the positions of kept members, which are read back as far as a word goes.

## Main results

* `Shape.readsAs`, `Accessor.readsAs`, `Plan.readsAs`: every type is read back from its tree
* `Plan.fitsWords`: no position of a plan is too great for JSON
* `plan_recovered`: plans, shapes and accessors are recovered from what is written
-/

namespace DeepCopy

open Document
open Document.Tree (FieldsFitWords ListFitsWords)

variable {src : Source} {depth : Nat}

theorem Strategy.lookup_choices (s : Strategy) : Strategy.choices.lookup s.name = some s := by
  cases s <;> rfl

theorem Strategy.readsAs (s : Strategy) : (Tree.text s.name).ReadsAs depth Strategy.format s :=
  Tree.readsAs_choice (by decide) s.lookup_choices 1

/-! ## Shapes -/

namespace Shape

theorem depth_pos (s : Shape) : 0 < s.tree.depth := by
  cases s <;> simp [tree, Tree.depth]

/-- A shape is read back where the shapes in it are. -/
theorem readsAs_variant {inside : Reader Shape}
    (hinside : ∀ s : Shape, s.tree.ReadsAs depth inside s) (s : Shape) :
    s.tree.ReadsAs (depth + 1)
      (readVariant src (depth + 1) "TypeShape" "shape" (variants inside)) s := by
  -- Every variant is written as it is read: its name alone, one value, or its fields in order.
  cases s with
  | scalar => exact Tree.readsAs_unitVariant rfl _
  | nullable inner => exact Tree.readsAs_soleVariant rfl (hinside inner) (by decide) _
  | cloneable name => exact Tree.readsAs_soleVariant rfl (Tree.readsAs_text name _) (by decide) _
  | array element => exact Tree.readsAs_soleVariant rfl (hinside element) (by decide) _
  | sequence container element strategy =>
    apply Fills.readsAs_variant
    · rfl
    · exact .must (Tree.readsAs_text container _) <| .must (hinside element) <|
        .must strategy.readsAs <| .nil _
    · rfl
    · simp [FieldReader.must]
    · simp
  | map container keyType valueType key value strategy =>
    apply Fills.readsAs_variant
    · rfl
    · exact .must (Tree.readsAs_text container _) <| .must (Tree.readsAs_text keyType _) <|
        .must (Tree.readsAs_text valueType _) <| .must (hinside key) <| .must (hinside value) <|
          .must strategy.readsAs <| .nil _
    · rfl
    · simp [FieldReader.must]
    · simp
  | enumerable element => exact Tree.readsAs_soleVariant rfl (hinside element) (by decide) _
  | unknown name => exact Tree.readsAs_soleVariant rfl (Tree.readsAs_text name _) (by decide) _

/-- **A shape is read back**, whatever source it is read from. -/
theorem readsAs (s : Shape) : s.tree.ReadsAs depth (format depth src) s := by
  induction depth generalizing src s with
  | zero =>
    -- A shape is a record, so that nothing is read where no container may be entered.
    intro hd
    exact absurd s.depth_pos (by omega)
  | succ depth ih => exact readsAs_variant ih s

theorem fitsWords (s : Shape) : s.tree.FitsWords := by
  induction s with
  | scalar | cloneable | unknown => simp [tree, Tree.FitsWords, FieldsFitWords]
  | nullable _ ih | array _ ih | sequence _ _ _ ih | enumerable _ ih =>
    simp [tree, Tree.FitsWords, FieldsFitWords, ih]
  | map _ _ _ _ _ _ ihk ihv => simp [tree, Tree.FitsWords, FieldsFitWords, ihk, ihv]

/-- **A shape is read back from its JSON text**, as far as JSON nests. -/
theorem readJson_pretty (s : Shape) (hd : s.tree.depth ≤ jsonDepth) :
    readJson format (Json.pretty 0 s.tree) = .ok s :=
  Document.readJson_pretty s.fitsWords s.readsAs hd

end Shape

/-! ## Accessors -/

theorem Operation.lookup_choices (op : Operation) :
    Operation.choices.lookup op.name = some op := by
  cases op <;> rfl

namespace Accessor

theorem depth_pos (a : Accessor) : 0 < a.tree.depth := by
  cases a <;> simp [tree, Tree.depth]

/-- An accessor is read back where the accessors in it are. -/
theorem readsAs_variant {inside : Reader Accessor}
    (hinside : ∀ a : Accessor, a.tree.ReadsAs depth inside a) (a : Accessor) :
    a.tree.ReadsAs (depth + 1)
      (readVariant src (depth + 1) "AccessorPlan" "step" (variants inside)) a := by
  -- Every variant is written as it is read: its name alone, one value, or its fields in order.
  cases a with
  | copy | passOn => exact Tree.readsAs_unitVariant rfl _
  | call nullable op =>
    apply Fills.readsAs_variant
    · rfl
    · exact .must (Tree.readsAs_bool nullable) <|
        .must (Tree.readsAs_choice (by decide) op.lookup_choices 1) <| .nil _
    · rfl
    · simp [FieldReader.must]
    · simp
  | guarded inner => exact Tree.readsAs_soleVariant rfl (hinside inner) (by decide) _
  | array element | project element =>
    exact Tree.readsAs_soleVariant rfl (hinside element) (by decide) _
  | sequence container element strategy =>
    apply Fills.readsAs_variant
    · rfl
    · exact .must (Tree.readsAs_text container _) <| .must (hinside element) <|
        .must strategy.readsAs <| .nil _
    · rfl
    · simp [FieldReader.must]
    · simp
  | map container keyType valueType key value strategy =>
    apply Fills.readsAs_variant
    · rfl
    · exact .must (Tree.readsAs_text container _) <| .must (Tree.readsAs_text keyType _) <|
        .must (Tree.readsAs_text valueType _) <| .must (hinside key) <| .must (hinside value) <|
          .must strategy.readsAs <| .nil _
    · rfl
    · simp [FieldReader.must]
    · simp

/-- **An accessor is read back**, whatever source it is read from. -/
theorem readsAs (a : Accessor) : a.tree.ReadsAs depth (format depth src) a := by
  induction depth generalizing src a with
  | zero =>
    intro hd
    exact absurd a.depth_pos (by omega)
  | succ depth ih => exact readsAs_variant ih a

theorem fitsWords (a : Accessor) : a.tree.FitsWords := by
  induction a with
  | copy | passOn | call => simp [tree, Tree.FitsWords, FieldsFitWords]
  | guarded _ ih | array _ ih | sequence _ _ _ ih | project _ ih =>
    simp [tree, Tree.FitsWords, FieldsFitWords, ih]
  | map _ _ _ _ _ _ ihk ihv => simp [tree, Tree.FitsWords, FieldsFitWords, ihk, ihv]

/-- **An accessor is read back from its JSON text**, as far as JSON nests. -/
theorem readJson_pretty (a : Accessor) (hd : a.tree.depth ≤ jsonDepth) :
    readJson format (Json.pretty 0 a.tree) = .ok a :=
  Document.readJson_pretty a.fitsWords a.readsAs hd

end Accessor

/-! ## Members and plans -/

theorem OperationNames.readsAs (names : OperationNames) :
    names.tree.ReadsAs depth (OperationNames.format depth src) names := by
  refine Fills.readsAs ?_ (by simp [FieldReader.may]) _
  exact .may (Tree.readsAs_text names.fast _) (.may (Tree.readsAs_text names.safe _) (.nil names))

theorem ClonedMember.readsAs (m : ClonedMember) :
    m.tree.ReadsAs depth (ClonedMember.format depth src) m := by
  refine Fills.readsAs ?_ (by simp [FieldReader.must]) _
  exact .must (Tree.readsAs_text m.name _) (.must m.accessor.readsAs (.nil m))

theorem KeptMember.readsAs {m : KeptMember} (hm : m.position < Number.twoTo 64) :
    m.tree.ReadsAs depth (KeptMember.format depth src) m := by
  refine Fills.readsAs ?_ (by simp [FieldReader.must]) _
  exact .must (Tree.readsAs_text m.name _) (.must (Tree.readsAs_word (Nat.le_refl _) hm _) (.nil m))

namespace Plan

/-- **A plan is read back** if its positions are words. -/
theorem readsAs (hsrc : src.stage ≠ .yaml) {p : Plan}
    (hp : ∀ k ∈ p.kept, k.position < Number.twoTo 64) :
    p.tree.ReadsAs depth (format depth src) p := by
  rw [tree]
  simp only [List.cons_append, List.nil_append]
  refine Fills.readsAs ?_ (by simp [FieldReader.must, FieldReader.may]) _
  refine .must (Tree.readsAs_text p.typeName _) (.must (Tree.readsAs_text p.fqn _) ?_)
  refine .must (Tree.readsAs_text p.namespaceName _) ?_
  refine .must (Tree.readsAs_choice hsrc p.visibility.lookup_choices _) ?_
  refine .must p.names.readsAs ?_
  refine .must (Tree.readsAs_list fun m _ => m.readsAs) ?_
  refine .must (Tree.readsAs_list fun m _ => m.readsAs) ?_
  -- The list of kept members is left out where it is empty, and read as empty where it is missing.
  refine .list (fun k hk => KeptMember.readsAs (hp k hk)) rfl ?_
  exact .must (Tree.readsAs_text p.descriptorDigest _) (.nil p)

theorem fitsWords {p : Plan} (hp : ∀ k ∈ p.kept, k.position < Number.twoTo 64) :
    p.tree.FitsWords := by
  have hmembers : ∀ ms : List ClonedMember, ListFitsWords (ms.map ClonedMember.tree) :=
    fun ms => Tree.listFitsWords_map fun m => ⟨trivial, m.accessor.fitsWords, trivial⟩
  have hkept : ListFitsWords (p.kept.map KeptMember.tree) :=
    Tree.listFitsWords_iff.mpr <| List.forall_mem_map.mpr fun k hk =>
      ⟨trivial, Json.fitsWord_natCast.mpr (Nat.le_pred_of_lt (hp k hk)), trivial⟩
  simp [tree, Tree.FitsWords, FieldsFitWords, Tree.fieldsFitWords_append,
    Tree.fieldsFitWords_whenever, OperationNames.tree, Visibility.tree, hmembers, hkept]

/-- **A plan is read back from its JSON text**, as far as JSON nests. -/
theorem readJson_json {p : Plan} (hp : ∀ k ∈ p.kept, k.position < Number.twoTo 64)
    (hd : p.tree.depth ≤ jsonDepth) : readJson format p.json = .ok p :=
  readJson_pretty (fitsWords hp) (readsAs (by decide) hp) hd

end Plan

/-- **The plan format loses nothing**: neither do those of the shapes and the accessors in it, and
these are recovered from values of every source as well, however deep they are. -/
theorem plan_recovered :
    (∀ p : Plan, (∀ k ∈ p.kept, k.position < Number.twoTo 64) → p.tree.depth ≤ jsonDepth →
      readJson Plan.format p.json = .ok p) ∧
    (∀ s : Shape, (∀ src, Shape.format s.tree.depth src s.tree.toNode = .ok s) ∧
      (s.tree.depth ≤ jsonDepth → readJson Shape.format (Json.pretty 0 s.tree) = .ok s)) ∧
    ∀ a : Accessor, (∀ src, Accessor.format a.tree.depth src a.tree.toNode = .ok a) ∧
      (a.tree.depth ≤ jsonDepth → readJson Accessor.format (Json.pretty 0 a.tree) = .ok a) := by
  refine ⟨fun p => Plan.readJson_json, fun s => ⟨fun src => ?_, s.readJson_pretty⟩,
    fun a => ⟨fun src => ?_, a.readJson_pretty⟩⟩
  · exact s.readsAs (Nat.le_refl _)
  · exact a.readsAs (Nat.le_refl _)

/-- A plan whose two operations differ in everything, with a member kept at the last position. -/
def ledgerPlan : Plan where
  typeName := "Ledger"
  fqn := "Bank.Ledger"
  namespaceName := "Bank"
  visibility := .internal
  names := { fast := "Copy" }
  fast := [
    ⟨"Lines", .guarded (.map "Map<Account, Line[]>" "Account" "Line[]" (.call false .fast)
      (.array (.call true .safe)) .pairs)⟩,
    ⟨"Notes", .sequence "List<string>" .copy .elements⟩]
  safe := [⟨"Total", .project .passOn⟩]
  kept := [⟨"Owner", 18446744073709551615⟩]
  descriptorDigest := "sha256:00"

/-- The plan of a ledger is recovered. -/
theorem plan_recovered_ledgerPlan :
    (∀ k ∈ ledgerPlan.kept, k.position < Number.twoTo 64) ∧ ledgerPlan.tree.depth ≤ jsonDepth ∧
      readJson Plan.format ledgerPlan.json = .ok ledgerPlan :=
  ⟨by decide, by decide, plan_recovered.1 ledgerPlan (by decide) (by decide)⟩

end DeepCopy
