import DeepCopy.CSharp.Expression
import DeepCopy.Proofs.Accessor.Retarget
import DeepCopy.TypeScript.Expression

/-!
# Call sites in rendered expressions

The expression of an accessor is a text with a gap for every call of the accessor. What stands
around the gaps depends neither on the operation that the calls name nor on the names of the
operations, so the fast and the safe operation are the same text but for the calls in the gaps.

A rendered expression is a text for every naming and every operation at once. Such a family of texts
`HasCalls` if it is the call between fixed fragments; the family of a composed expression is
composed of the families of its parts.

## Main definitions

* `HasCalls`: a family of texts is a number of calls between fixed fragments

## Main results

* `HasCalls.append`: the calls of two texts one behind the other
* `Accessor.csharp_hasCalls`, `Accessor.typescript_hasCalls`: an expression has the calls of its
  accessor, in both targets
* `expressions_differ_at_calls`: the fast and the safe expression differ at the calls only
-/

namespace DeepCopy

/-! ## Fragments -/

/-- Fragments with a separator between them, one list after another: the last fragment of the first
list and the first fragment of the second one become one. -/
theorem exists_intercalate_append {fs gs : List String} (hfs : fs ≠ []) (hgs : gs ≠ []) :
    ∃ hs : List String, hs.length + 1 = fs.length + gs.length ∧
      ∀ sep : String, sep.intercalate hs = sep.intercalate fs ++ sep.intercalate gs := by
  induction fs with
  | nil => exact absurd rfl hfs
  | cons f fs ih =>
    cases fs with
    | nil =>
      -- The last fragment of the first list, where the two fragments become one.
      obtain ⟨g, gs, rfl⟩ := List.exists_cons_of_ne_nil hgs
      refine ⟨(f ++ g) :: gs, by simp [Nat.add_comm], fun sep => ?_⟩
      rw [String.intercalate_cons_append, String.intercalate_singleton]
    | cons f' fs =>
      obtain ⟨hs, hlength, hsep⟩ := ih (List.cons_ne_nil _ _)
      have hne : hs ≠ [] := by
        rintro rfl
        have hpos : 0 < gs.length := List.length_pos_iff.mpr hgs
        simp only [List.length_nil, List.length_cons] at hlength
        omega
      refine ⟨f :: hs, by simp only [List.length_cons] at hlength ⊢; omega, fun sep => ?_⟩
      rw [String.intercalate_cons_of_ne_nil hne, hsep, String.intercalate_cons_cons,
        String.append_assoc, String.append_assoc, String.append_assoc]

section

variable {ι : Type} {call s t : ι → String} {j k : Nat}

/-- A family of texts is `k` calls between fixed fragments. -/
def HasCalls (call : ι → String) (k : Nat) (text : ι → String) : Prop :=
  ∃ fragments : List String, fragments.length = k + 1 ∧
    ∀ i, text i = (call i).intercalate fragments

namespace HasCalls

/-- A fixed text has no calls. -/
theorem fixed (s : String) : HasCalls call 0 fun _ => s :=
  ⟨[s], rfl, fun _ => String.intercalate_singleton.symm⟩

/-- The call itself. -/
theorem self : HasCalls call 1 call := by
  refine ⟨["", ""], rfl, fun i => ?_⟩
  rw [String.intercalate_cons_cons, String.intercalate_singleton, String.append_empty,
    String.empty_append]

/-- The calls of two texts one behind the other. -/
theorem append (hs : HasCalls call j s) (ht : HasCalls call k t) :
    HasCalls call (j + k) fun i => s i ++ t i := by
  obtain ⟨fs, hfs, hs⟩ := hs
  obtain ⟨gs, hgs, ht⟩ := ht
  have hfs' : fs ≠ [] := List.ne_nil_of_length_eq_add_one hfs
  have hgs' : gs ≠ [] := List.ne_nil_of_length_eq_add_one hgs
  obtain ⟨hs', hlength, hsep⟩ := exists_intercalate_append hfs' hgs'
  refine ⟨hs', by omega, fun i => ?_⟩
  show s i ++ t i = _
  rw [hs, ht, hsep]

/-- A fixed text in front adds no call. -/
theorem prepend (s : String) (ht : HasCalls call k t) : HasCalls call k fun i => s ++ t i := by
  have hs : HasCalls call 0 fun _ => s := fixed s
  have h := hs.append ht
  rwa [Nat.zero_add] at h

/-- A fixed text behind adds no call. -/
theorem followed (hs : HasCalls call k s) (t : String) : HasCalls call k fun i => s i ++ t :=
  hs.append (fixed t)

end HasCalls

end

/-! ## Expressions of accessors -/

namespace Accessor

theorem isChain_retarget (op : Operation) (a : Accessor) :
    (a.retarget op).isChain = a.isChain := by
  cases a <;> rfl

theorem isArray_retarget (op : Operation) (a : Accessor) :
    (a.retarget op).isArray = a.isArray := by
  cases a <;> rfl

/-- What is left out where the value itself is the result holds no calls. -/
theorem callSites_of_isCopy {a : Accessor} (ha : a.isCopy = true) : a.callSites = 0 := by
  cases a with
  | copy | passOn => rfl
  | _ => cases ha

/-- **A C# expression has the calls of its accessor**, by induction on the accessor: a shortcut is
taken only around accessors without calls. -/
theorem csharp_hasCalls (a : Accessor) (r : CSharp.Receiver) (name : String) (test : Bool) :
    HasCalls (fun i : OperationNames × Operation => CSharp.callText i.1 i.2) a.callSites
      fun i => ((a.retarget i.2).csharp r name test).text i.1 := by
  open CSharp.Expression in
  induction a generalizing r name test with
  | copy | passOn => exact .fixed _
  | call nullable op => exact .prepend _ .self
  | guarded inner ih =>
    simp only [retarget, csharp, isChain_retarget, callSites]
    -- The question mark of a chain belongs to the fragment in front of the call.
    by_cases hinner : inner.isChain = true
    · simp only [if_pos hinner]
      exact ih r name true
    · simp only [if_neg hinner, text_unlessNull]
      exact .prepend _ (ih r name false)
  | array element ih =>
    simp only [retarget, csharp, callSites, text_toArray, text_select]
    exact .followed (.followed (.prepend _ (ih _ _ _)) _) _
  | project element ih =>
    simp only [retarget, csharp, callSites, text_select]
    exact .followed (.prepend _ (ih _ _ _)) _
  | sequence container element strategy ih =>
    simp only [retarget, csharp, isCopy_retarget, callSites, text_construct]
    apply HasCalls.followed
    by_cases hown : strategy = .ownInterface
    · by_cases hcopy : element.isCopy = true
      · -- The container is made of the receiver as it stands.
        simp only [if_pos hown, if_pos hcopy, callSites_of_isCopy hcopy, text_read]
        exact .fixed _
      · simp only [if_pos hown, if_neg hcopy, text_toList, text_select]
        exact .prepend _ (.followed (.followed (.prepend _ (ih _ _ _)) _) _)
    · simp only [if_neg hown, text_select]
      exact .prepend _ (.followed (.prepend _ (ih _ _ _)) _)
  | map container keyType valueType key value strategy ihk ihv =>
    simp only [retarget, csharp, isCopy_retarget, callSites, text_construct]
    apply HasCalls.followed
    by_cases hown : strategy = .ownInterface
    · by_cases hcopy : (key.isCopy && value.isCopy) = true
      · obtain ⟨hkey, hvalue⟩ := Bool.and_eq_true_iff.mp hcopy
        simp only [if_pos hown, if_pos hcopy, callSites_of_isCopy hkey,
          callSites_of_isCopy hvalue, text_read]
        exact .fixed _
      · simp only [if_pos hown, if_neg hcopy, text_toDictionary]
        refine .prepend _ (.followed (.append ?_ (ihv _ _ _)) _)
        exact .followed (.followed (.followed (.prepend _ (ihk _ _ _)) _) _) _
    · simp only [if_neg hown, text_select, text_pair]
      refine .prepend _ (.followed (.prepend _ (.followed (.append ?_ (ihv _ _ _)) _)) _)
      exact .followed (.prepend _ (ihk _ _ _)) _

/-- **A TypeScript expression has the calls of its accessor.** -/
theorem typescript_hasCalls (a : Accessor) (r : TypeScript.Receiver) (name : String) (test : Bool) :
    HasCalls (fun i : OperationNames × Operation => TypeScript.callText i.1 i.2) a.callSites
      fun i => ((a.retarget i.2).typescript r name test).text i.1 := by
  open TypeScript.Expression in
  induction a generalizing r name test with
  | copy | passOn => exact .fixed _
  | call nullable op => exact .prepend _ .self
  | guarded inner ih =>
    simp only [retarget, typescript, isArray_retarget, callSites]
    by_cases hinner : inner.isArray = true
    · simp only [if_pos hinner]
      exact ih r name true
    · simp only [if_neg hinner, text_unlessNull]
      exact .prepend _ (ih r name false)
  | array element ih =>
    simp only [retarget, typescript, callSites, text_map]
    exact .followed (.prepend _ (ih _ _ _)) _
  | project element ih =>
    simp only [retarget, typescript, callSites, text_generate]
    exact .followed (.followed (.followed (.prepend _ (ih _ _ _)) _) _) _
  | sequence container element strategy ih =>
    simp only [retarget, typescript, isCopy_retarget, callSites, text_construct]
    apply HasCalls.followed
    by_cases hcopy : (strategy = .ownInterface && element.isCopy) = true
    · have helement : element.isCopy = true := (Bool.and_eq_true_iff.mp hcopy).2
      simp only [if_pos hcopy, callSites_of_isCopy helement, text_read]
      exact .fixed _
    · simp only [if_neg hcopy, text_elements]
      exact .prepend _ (.followed (.prepend _ (ih _ _ _)) _)
  | map container keyType valueType key value strategy ihk ihv =>
    simp only [retarget, typescript, isCopy_retarget, callSites, text_construct]
    apply HasCalls.followed
    by_cases hcopy : (strategy = .ownInterface && key.isCopy && value.isCopy) = true
    · obtain ⟨hcopy', hvalue⟩ := Bool.and_eq_true_iff.mp hcopy
      have hkey : key.isCopy = true := (Bool.and_eq_true_iff.mp hcopy').2
      simp only [if_pos hcopy, callSites_of_isCopy hkey, callSites_of_isCopy hvalue, text_read]
      exact .fixed _
    · simp only [if_neg hcopy, text_entries]
      refine .prepend _ (.followed (.append ?_ (ihv _ _ _)) _)
      exact .followed (.prepend _ (ihk _ _ _)) _

end Accessor

/-- **The fast and the safe expression of an accessor differ at the calls only**: in both targets
they are the same fragments, one more than the accessor has calls, with the fast call or the safe
one, which passes the chain on, between any two of them. -/
theorem expressions_differ_at_calls (a : Accessor) (name : String) (test : Bool) :
    (∀ r : CSharp.Receiver, ∃ fragments : List String, fragments.length = a.callSites + 1 ∧
      ∀ names : OperationNames,
        ((a.retarget .fast).csharp r name test).text names =
            (names.fast ++ "()").intercalate fragments ∧
          ((a.retarget .safe).csharp r name test).text names =
            (names.safe ++ "(referenceChain)").intercalate fragments) ∧
    ∀ r : TypeScript.Receiver, ∃ fragments : List String, fragments.length = a.callSites + 1 ∧
      ∀ names : OperationNames,
        ((a.retarget .fast).typescript r name test).text names =
            (Text.camelCase names.fast ++ "()").intercalate fragments ∧
          ((a.retarget .safe).typescript r name test).text names =
            (Text.camelCase names.safe ++ "(referenceChain)").intercalate fragments := by
  constructor
  · intro r
    obtain ⟨fragments, hlength, htext⟩ := a.csharp_hasCalls r name test
    exact ⟨fragments, hlength, fun names => ⟨htext (names, .fast), htext (names, .safe)⟩⟩
  · intro r
    obtain ⟨fragments, hlength, htext⟩ := a.typescript_hasCalls r name test
    exact ⟨fragments, hlength, fun names => ⟨htext (names, .fast), htext (names, .safe)⟩⟩

end DeepCopy
