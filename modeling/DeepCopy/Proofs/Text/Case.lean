import DeepCopy.Text.Case
import Mathlib

/-!
# What is left of a name in another spelling

The two spellings of an operation name differ from the name in the case of characters and in
underscores only. Without these, a name in ASCII and its spellings are the same, so that names which
differ in more than case and underscores are spelt differently.

## Main definitions

* `Text.IsAscii`, `Text.bare`: characters in ASCII, and what is left of characters without their
  case and without underscores

## Main results

* `Text.bare_pascalCase`, `Text.bare_camelCase`: what is left of the spellings
* `Text.camelCase_ne_of_bare_ne`: names that differ in more than case and underscores are spelt
  differently
-/

namespace DeepCopy.Text

/-- Characters in ASCII. -/
def IsAscii (cs : List Char) : Prop := ∀ c ∈ cs, c.toNat < 0x80

/-- What is left of characters without their case and without underscores. -/
def bare (cs : List Char) : List Char := (cs.map Char.toLower).filter (· ≠ '_')

section Characters

variable {c : Char} {cs ds : List Char}

theorem isAscii_append : IsAscii (cs ++ ds) ↔ IsAscii cs ∧ IsAscii ds := List.forall_mem_append

theorem isAscii_cons : IsAscii (c :: cs) ↔ c.toNat < 0x80 ∧ IsAscii cs := List.forall_mem_cons

theorem bare_append (cs ds : List Char) : bare (cs ++ ds) = bare cs ++ bare ds := by
  rw [bare, List.map_append, List.filter_append, bare, bare]

theorem bare_cons (c : Char) (cs : List Char) : bare (c :: cs) = bare [c] ++ bare cs :=
  bare_append [c] cs

theorem bare_toUpper (c : Char) : bare [c.toUpper] = bare [c] := by
  rw [bare, List.map_singleton, Char.toLower_toUpper_eq_toLower, bare, List.map_singleton]

theorem bare_toLower (c : Char) : bare [c.toLower] = bare [c] := by
  rw [bare, List.map_singleton, Char.toLower_toLower_eq_toLower, bare, List.map_singleton]

/-- No character but the underscore has the underscore as its lower case. -/
theorem toLower_eq_underscore_iff : c.toLower = '_' ↔ c = '_' := by
  refine ⟨fun h => ?_, fun h => by rw [h]; rfl⟩
  have hcase : c.isAlpha = false := by
    rw [← Char.isAlpha_toLower_eq_isAlpha, h]
    rfl
  rw [Char.isAlpha, Bool.or_eq_false_iff] at hcase
  rwa [Char.toLower_eq_of_not_isUpper (Bool.eq_false_iff.mp hcase.1)] at h

theorem bare_filter (cs : List Char) : bare (cs.filter (· ≠ '_')) = bare cs := by
  simp [bare, List.filter_map, Function.comp_def, toLower_eq_underscore_iff]

theorem toNat_toUpper_le (c : Char) : c.toUpper.toNat ≤ c.toNat := by
  by_cases hc : c.isLower
  · rw [Char.toUpper_eq_of_isLower hc, Char.toNat_ofNat]
    split <;> omega
  · rw [Char.toUpper_eq_of_not_isLower hc]

theorem upper_of_lt (hc : c.toNat < 0x80) : upper c = [c.toUpper] := if_pos hc

theorem lower_of_lt (hc : c.toNat < 0x80) : lower c = [c.toLower] := if_pos hc

/-! ## Spellings -/

/-- A word in ASCII is capitalised in ASCII, and only its case changes. -/
theorem capitalize_ascii (hcs : IsAscii cs) :
    IsAscii (capitalize cs) ∧ bare (capitalize cs) = bare cs := by
  cases cs with
  | nil => exact ⟨hcs, rfl⟩
  | cons c cs =>
    obtain ⟨hc, hcs⟩ := isAscii_cons.mp hcs
    rw [capitalize, upper_of_lt hc, List.singleton_append, bare_cons, bare_toUpper, ← bare_cons]
    exact ⟨isAscii_cons.mpr ⟨(toNat_toUpper_le c).trans_lt hc, hcs⟩, rfl⟩

theorem bare_uncapitalize (hcs : IsAscii cs) : bare (uncapitalize cs) = bare cs := by
  cases cs with
  | nil => rfl
  | cons c cs =>
    rw [uncapitalize, lower_of_lt (isAscii_cons.mp hcs).1, List.singleton_append, bare_cons,
      bare_toLower, ← bare_cons]

/-- The words of a text, joined, are the text without its underscores. -/
theorem flatten_words (cs : List Char) : (words cs).flatten = cs.filter (· ≠ '_') := by
  induction cs with
  | nil => rfl
  | cons c cs ih =>
    obtain ⟨w, ws, hws⟩ := List.exists_cons_of_ne_nil (words_ne_nil cs)
    rw [hws] at ih
    rw [words, hws, List.filter_cons, ← ih]
    by_cases hc : c = '_' <;> simp [hc]

theorem isAscii_of_mem_words {w : List Char} (hcs : IsAscii cs) (hw : w ∈ words cs) :
    IsAscii w := by
  intro c hc
  have hmem : c ∈ (words cs).flatten := List.mem_flatten.mpr ⟨w, hw, hc⟩
  rw [flatten_words] at hmem
  exact hcs c (List.mem_of_mem_filter hmem)

theorem flatMap_capitalize_ascii {ws : List (List Char)} (hws : ∀ w ∈ ws, IsAscii w) :
    IsAscii (ws.flatMap capitalize) ∧ bare (ws.flatMap capitalize) = bare ws.flatten := by
  induction ws with
  | nil => exact ⟨List.forall_mem_nil _, rfl⟩
  | cons w ws ih =>
    rw [List.forall_mem_cons] at hws
    obtain ⟨hword, hbare⟩ := capitalize_ascii hws.1
    obtain ⟨hwords, hrest⟩ := ih hws.2
    rw [List.flatMap_cons, List.flatten_cons, bare_append, bare_append, hbare, hrest]
    exact ⟨isAscii_append.mpr ⟨hword, hwords⟩, rfl⟩

end Characters

section Names

variable {a b : String}

/-- **A name in ASCII in Pascal case** differs in case and underscores only. -/
theorem bare_pascalCase (ha : IsAscii a.toList) :
    IsAscii (pascalCase a).toList ∧ bare (pascalCase a).toList = bare a.toList := by
  obtain ⟨hascii, hbare⟩ := flatMap_capitalize_ascii fun w hw => isAscii_of_mem_words ha hw
  rw [pascalCase, String.toList_ofList, hbare, flatten_words, bare_filter]
  exact ⟨hascii, rfl⟩

/-- **A name in ASCII in camel case** differs in case and underscores only. -/
theorem bare_camelCase (ha : IsAscii a.toList) :
    bare (camelCase a).toList = bare a.toList := by
  obtain ⟨hascii, hbare⟩ := bare_pascalCase ha
  rw [camelCase, String.toList_ofList, bare_uncapitalize hascii, hbare]

/-- **Names in ASCII that differ in more than case and underscores are spelt differently.** -/
theorem camelCase_ne_of_bare_ne (ha : IsAscii a.toList) (hb : IsAscii b.toList)
    (hne : bare a.toList ≠ bare b.toList) : camelCase a ≠ camelCase b := by
  intro heq
  rw [← bare_camelCase ha, heq, bare_camelCase hb] at hne
  exact hne rfl

end Names

end DeepCopy.Text
