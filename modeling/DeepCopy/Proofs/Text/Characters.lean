import DeepCopy.Text.Letters

/-!
# Characters of identifiers

Identifiers have letters, digits, marks and connectors, and some characters besides that languages
differ about: format characters, and those that Unicode adds to the categories by name.

## Main definitions

* `Text.formats`, `Text.otherStarts`, `Text.otherParts`: characters of identifiers outside of the
  general categories

## Main results

* `Text.CharSet.has_eq_false_of_isApart`: sets of which no ranges meet have nothing in common
* `Text.eq_joiner_of_has`: the format characters that are added by name
-/

namespace DeepCopy

namespace Text

/-- The format characters (`Cf`). -/
def formats : CharSet where
  ranges := [(0xAD, 0xAD), (0x600, 0x605), (0x61C, 0x61C), (0x6DD, 0x6DD), (0x70F, 0x70F),
    (0x890, 0x891), (0x8E2, 0x8E2), (0x180E, 0x180E), (0x200B, 0x200F), (0x202A, 0x202E),
    (0x2060, 0x2064), (0x2066, 0x206F), (0xFEFF, 0xFEFF), (0xFFF9, 0xFFFB), (0x110BD, 0x110BD),
    (0x110CD, 0x110CD), (0x13430, 0x1343F), (0x1BCA0, 0x1BCA3), (0x1D173, 0x1D17A),
    (0xE0001, 0xE0001), (0xE0020, 0xE007F)]

/-- The characters that are no letters and may start identifiers all the same
(`Other_ID_Start`). -/
def otherStarts : CharSet where
  ranges := [(0x1885, 0x1886), (0x2118, 0x2118), (0x212E, 0x212E), (0x309B, 0x309C)]

/-- The characters of other categories that may continue identifiers (`Other_ID_Continue`). -/
def otherParts : CharSet where
  ranges := [(0xB7, 0xB7), (0x387, 0x387), (0x1369, 0x1371), (0x19DA, 0x19DA), (0x200C, 0x200D),
    (0x30FB, 0x30FB), (0xFF65, 0xFF65)]

/-- Whether no range of a set meets a range of another one. -/
def CharSet.isApart (s t : CharSet) : Bool :=
  s.ranges.all fun r => t.ranges.all fun u => r.2 < u.1 || u.2 < r.1

theorem CharSet.has_eq_false_of_isApart {s t : CharSet} (hst : s.isApart t = true) {c : Char}
    (hc : s.has c = true) : t.has c = false := by
  rw [← Bool.not_eq_true, has_iff]
  rintro ⟨u, hu, hlow, hhigh⟩
  obtain ⟨r, hr, hlow', hhigh'⟩ := has_iff.mp hc
  have hru := List.all_eq_true.mp (List.all_eq_true.mp hst r hr) u hu
  simp only [Bool.or_eq_true, decide_eq_true_eq] at hru
  omega

theorem isApart_letters_formats : letters.isApart formats = true := by
  decide +kernel

theorem isApart_otherStarts_formats : otherStarts.isApart formats = true := by
  decide +kernel

/-- No format character is in ASCII. -/
theorem formats_of_lt {c : Char} (hc : c.toNat < 0x80) : formats.has c = false :=
  CharSet.has_eq_false_of_isApart (s := ⟨[(0, 0x7F)]⟩) (by decide)
    (CharSet.has_iff.mpr ⟨_, List.mem_singleton_self _, Nat.zero_le _, Nat.le_of_lt_succ hc⟩)

/-- The format characters that may continue identifiers all the same are the two joiners. -/
theorem eq_joiner_of_has {c : Char} (hformat : formats.has c = true)
    (hother : otherParts.has c = true) : c = '\u200C' ∨ c = '\u200D' := by
  obtain ⟨r, hr, hlow, hhigh⟩ := CharSet.has_iff.mp hother
  by_cases hjoiner : r = (0x200C, 0x200D)
  · rw [← Char.ofNat_toNat c]
    rw [hjoiner] at hlow hhigh
    obtain hc | hc : c.toNat = 0x200C ∨ c.toNat = 0x200D := by grind
    · exact .inl (by rw [hc])
    · exact .inr (by rw [hc])
  · -- No other range meets the format characters.
    have hapart : ∀ r ∈ otherParts.ranges, r ≠ (0x200C, 0x200D) →
        CharSet.isApart ⟨[r]⟩ formats = true := by
      decide +kernel
    have hc := CharSet.has_eq_false_of_isApart (hapart r hr hjoiner) (c := c)
      (by simp [CharSet.has, hlow, hhigh])
    rw [hc] at hformat
    cases hformat

end Text

end DeepCopy
