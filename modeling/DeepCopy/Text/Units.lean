/-!
# Text in units of sixteen bits

Escapes with four hexadecimal digits give a text unit by unit: a character beyond sixteen bits is
a pair of halves, the high one first. `joinUnits?` puts such a text together.
-/

namespace DeepCopy.Text

/-- A unit of a text: a character, or half of a surrogate pair. -/
inductive TextUnit where
  | char (c : Char)
  | half (n : Nat)

/-- The unit that a number of sixteen bits stands for. -/
def TextUnit.ofNat (n : Nat) : TextUnit :=
  if 0xD800 ≤ n && n < 0xE000 then .half n else .char (Char.ofNat n)

/-- The characters of some units, the halves of surrogate pairs joined; none where a half is
alone. -/
def joinUnits? : List TextUnit → Option (List Char)
  | [] => some []
  | .char c :: us => (c :: ·) <$> joinUnits? us
  | .half high :: .half low :: us =>
    if high < 0xDC00 && 0xDC00 ≤ low then
      (Char.ofNat (0x10000 + (high - 0xD800) * 0x400 + (low - 0xDC00)) :: ·) <$> joinUnits? us
    else none
  | .half _ :: _ => none

theorem joinUnits?_map_char (cs : List Char) : joinUnits? (cs.map .char) = some cs := by
  induction cs with
  | nil => rfl
  | cons c cs ih => simp [joinUnits?, ih]

end DeepCopy.Text
