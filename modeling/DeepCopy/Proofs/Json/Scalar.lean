import DeepCopy.Document.Fault
import DeepCopy.Json.Reader
import DeepCopy.Json.Writer
import Mathlib.Data.Char
import Mathlib.Data.Nat.Digits.Defs

/-!
# Texts and integers in JSON

What the writer puts down for a text or an integer is read back as that text or integer, wherever it
stands. The characters of a text are written one by one, so one character is enough; an integer ends
where no digit, point or exponent follows.

## Main definitions

* `Ends`: what follows a content in a written text

## Main results

* `text?_quote`: a text between quotes is read back
* `number?_toDigits`, `number?_negative`: an integer within a word is read back
-/

namespace DeepCopy.Json

open Document (Node)
open Text (TextUnit hexNumber? joinUnits?)
open Number (twoTo)

/-! ## Texts -/

theorem hexNumber?_control : ∀ n < 0x20,
    hexNumber? ['0', '0', Nat.digitChar (n / 16), Nat.digitChar (n % 16)] = some n := by
  decide

/-- A character that is neither a quote nor a backslash nor a control character stands for
itself. -/
theorem units?_cons {c : Char} (hquote : c ≠ '"') (hslash : c ≠ '\\') (hc : ¬c.toNat < 0x20)
    (cs : List Char) :
    units? (c :: cs) = (units? cs).map fun p => (.char c :: p.1, p.2) := by
  rw [units?.eq_def]
  split
  · rename_i h
    cases h
  · rename_i h
    cases h
    exact absurd rfl hquote
  · rename_i h
    cases h
    exact absurd rfl hslash
  · rename_i h
    cases h
    exact absurd rfl hslash
  · rename_i h
    cases h
    rw [if_neg (by simp [hc, hslash])]
    cases units? cs <;> rfl

/-- A short escape stands for one character. -/
theorem units?_short {e c : Char} (he : e ≠ 'u') (hc : shortEscape? e = some c) (cs : List Char) :
    units? ('\\' :: e :: cs) = (units? cs).map fun p => (.char c :: p.1, p.2) := by
  rw [units?.eq_def]
  split
  · rename_i h
    cases h
  · rename_i h
    cases h
  · rename_i h
    cases h
    exact absurd rfl he
  · rename_i h
    cases h
    rw [hc]
    cases units? cs <;> rfl
  · rename_i hshort h
    cases h
    exact absurd rfl (hshort e cs rfl)

/-- A character that has no short escape and stands before the blank is written by its number. -/
theorem units?_control {c : Char} (hc : c.toNat < 0x20) (cs : List Char) :
    units? ('\\' :: 'u' :: '0' :: '0' :: Nat.digitChar (c.toNat / 16) ::
      Nat.digitChar (c.toNat % 16) :: cs) = (units? cs).map fun p => (.char c :: p.1, p.2) := by
  have hunit : TextUnit.ofNat c.toNat = .char c := by
    rw [TextUnit.ofNat, if_neg (by simp; omega), Char.ofNat_toNat]
  rw [units?, hexNumber?_control c.toNat hc]
  simp only [Option.bind_eq_bind, Option.bind_some, hunit]
  cases units? cs <;> rfl

/-- The unit of an escaped character is the character. -/
theorem units?_escape (c : Char) (cs : List Char) :
    units? (escape c ++ cs) = (units? cs).map fun p => (.char c :: p.1, p.2) := by
  rw [escape.eq_def]
  split
  case h_8 hquote hslash _ _ _ _ _ =>
    by_cases hc : c.toNat < 0x20
    · rw [if_pos hc]
      exact units?_control hc cs
    · rw [if_neg hc]
      exact units?_cons hquote hslash hc cs
  all_goals exact units?_short (by decide) rfl cs

/-- The characters of a text between quotes. -/
theorem units?_quoted (cs rest : List Char) :
    units? (cs.flatMap escape ++ '"' :: rest) = some (cs.map .char, rest) := by
  induction cs with
  | nil => rfl
  | cons c cs ih =>
    rw [List.flatMap_cons, List.append_assoc, units?_escape, ih]
    rfl

theorem toList_quote (s : String) : (quote s).toList = '"' :: s.toList.flatMap escape ++ ['"'] := by
  simp [quote]

/-- **A text between quotes is read back.** -/
theorem text?_quoted (s : String) (rest : List Char) :
    text? (s.toList.flatMap escape ++ '"' :: rest) = some (.text s, rest) := by
  simp only [text?, units?_quoted, Option.bind_eq_bind, Option.bind_some,
    Text.joinUnits?_map_char, String.ofList_toList]
  rfl

/-! ## Integers -/

/-- What follows a content in a written text: nothing, or a character that ends it. -/
def Ends (rest : List Char) : Prop := ∀ c ∈ rest.head?, c ∈ [',', '\n', ']', '\x7d']

theorem Ends.eq_or {c : Char} {cs : List Char} (h : Ends (c :: cs)) :
    c = ',' ∨ c = '\n' ∨ c = ']' ∨ c = '\x7d' := by
  simpa using h c rfl

/-- A digit does not end a content. -/
theorem Ends.isDigit_eq_false {c : Char} {cs : List Char} (h : Ends (c :: cs)) :
    c.isDigit = false := by
  rcases h.eq_or with rfl | rfl | rfl | rfl <;> rfl

theorem digits?_append {ds rest : List Char} (hne : ds ≠ []) (hds : ∀ c ∈ ds, c.isDigit = true)
    (hrest : Ends rest) : digits? (ds ++ rest) = some (ds, rest) := by
  have hstop : rest.takeWhile Char.isDigit = [] ∧ rest.dropWhile Char.isDigit = rest := by
    cases rest with
    | nil => exact ⟨rfl, rfl⟩
    | cons c cs => simp [hrest.isDigit_eq_false]
  rw [digits?, List.takeWhile_append_of_pos hds, List.dropWhile_append_of_pos hds, hstop.1,
    hstop.2, List.append_nil]
  exact if_neg (by simpa using hne)

/-- Further digits make no number smaller. -/
theorem le_ofDigitChars (n : Nat) (cs : List Char) : n ≤ Nat.ofDigitChars 10 cs n := by
  induction cs generalizing n with
  | nil => exact le_rfl
  | cons c cs ih =>
    rw [Nat.ofDigitChars_cons]
    have := ih (10 * n + (c.toNat - '0'.toNat))
    omega

/-- The number of digits that stay within a word is built up from all of them. -/
theorem absorb_eq (n taken : Nat) (cs : List Char)
    (h : Nat.ofDigitChars 10 cs n ≤ wordMax) :
    absorb n taken cs = (Nat.ofDigitChars 10 cs n, taken + cs.length, []) := by
  induction cs generalizing n taken with
  | nil => rfl
  | cons c cs ih =>
    rw [Nat.ofDigitChars_cons] at h ⊢
    have hle := le_ofDigitChars (10 * n + (c.toNat - '0'.toNat)) cs
    have hm : n * 10 + (c.toNat - '0'.toNat) ≤ wordMax := by omega
    rw [absorb, if_pos hm, Nat.mul_comm n 10, ih _ _ h, List.length_cons, Nat.add_right_comm]
    rfl

theorem digitChar_ne_zero : ∀ n < 10, 0 < n → Nat.digitChar n ≠ '0' := by
  decide

/-- A number other than zero does not start with a zero. -/
theorem head?_toDigits_ne {n : Nat} (hn : 0 < n) : (Nat.toDigits 10 n).head? ≠ some '0' := by
  induction n using Nat.strongRecOn with
  | ind n ih =>
    rw [Nat.toDigits_eq_if (by decide)]
    by_cases hlt : n < 10
    · rw [if_pos hlt, List.head?_cons, ne_eq, Option.some.injEq]
      exact digitChar_ne_zero n hlt hn
    · have hhead := ih (n / 10) (by omega) (by omega)
      rw [if_neg hlt]
      cases hds : Nat.toDigits 10 (n / 10) with
      | nil => exact absurd hds Nat.toDigits_ne_nil
      | cons d ds =>
        rw [hds] at hhead
        exact hhead

/-- A number without a point and an exponent. -/
theorem number?_toDigits (negative : Bool) (n : Nat) {rest : List Char} (hrest : Ends rest) :
    number? negative (Nat.toDigits 10 n ++ rest) =
      some (Literal.node ⟨negative, Nat.toDigits 10 n, none, none⟩, rest) := by
  have hdigits : digits? (Nat.toDigits 10 n ++ rest) = some (Nat.toDigits 10 n, rest) :=
    digits?_append Nat.toDigits_ne_nil
      (fun c hc => Nat.isDigit_of_mem_toDigits (by decide) (by decide) hc) hrest
  have hzero : ¬((Nat.toDigits 10 n).head? = some '0' && (Nat.toDigits 10 n).length ≠ 1) := by
    cases n with
    | zero => decide
    | succ n => simp [head?_toDigits_ne (Nat.succ_pos n)]
  rw [number?, hdigits]
  simp only [Option.bind_eq_bind, Option.bind_some, hzero]
  cases rest with
  | nil => rfl
  | cons c cs => rcases hrest.eq_or with rfl | rfl | rfl | rfl <;> rfl

/-- The number that the digits of a number within a word stand for. -/
theorem node_toDigits {n : Nat} (hn : n ≤ wordMax) (negative : Bool) :
    Literal.node ⟨negative, Nat.toDigits 10 n, none, none⟩ =
      if !negative then .integer n
      else if n = 0 || twoTo 63 < n then
        Literal.signed ⟨negative, Nat.toDigits 10 n, none, none⟩ (.ofRatio false n 1)
      else .integer (-n) := by
  have hdigits : Nat.ofDigitChars 10 (Nat.toDigits 10 n) 0 = n := Nat.ofDigitChars_ten_toDigits
  rw [Literal.node, absorb_eq 0 0 _ (hdigits.trans_le hn), hdigits]
  rfl

/-- A number without a sign is no other content. -/
theorem simple?_digit {c : Char} (hc : c.isDigit = true) (cs : List Char) :
    simple? (c :: cs) = number? false (c :: cs) := by
  rw [simple?.eq_def]
  split
  case h_6 => rfl
  all_goals
    rename_i h
    cases h
    cases hc

theorem toList_natCast (n : Nat) : (toString (n : Int)).toList = Nat.toDigits 10 n := by
  exact Nat.toList_repr

theorem toList_negSucc (n : Nat) :
    (toString (Int.negSucc n)).toList = '-' :: Nat.toDigits 10 (n + 1) := by
  have hrepr : toString (Int.negSucc n) = "-" ++ (n + 1).repr := rfl
  rw [hrepr, String.toList_append, Nat.toList_repr]
  rfl

theorem fitsWord_natCast {n : Nat} : Document.fitsWord n ↔ n ≤ wordMax := by
  have h64 : twoTo 64 = 18446744073709551616 := rfl
  have h63 : twoTo 63 = 9223372036854775808 := rfl
  simp only [Document.fitsWord, wordMax, h63, h64, Bool.and_eq_true, decide_eq_true_eq]
  omega

theorem fitsWord_negSucc {n : Nat} : Document.fitsWord (Int.negSucc n) ↔ n + 1 ≤ twoTo 63 := by
  have h64 : twoTo 64 = 18446744073709551616 := rfl
  have h63 : twoTo 63 = 9223372036854775808 := rfl
  simp only [Document.fitsWord, h63, h64, Bool.and_eq_true, decide_eq_true_eq]
  omega

theorem exists_toDigits_eq_cons (n : Nat) :
    ∃ c cs, Nat.toDigits 10 n = c :: cs ∧ c.isDigit = true := by
  cases hds : Nat.toDigits 10 n with
  | nil => exact absurd hds Nat.toDigits_ne_nil
  | cons c cs =>
    have hc : c ∈ Nat.toDigits 10 n := by
      rw [hds]
      exact List.mem_cons_self
    exact ⟨c, cs, rfl, Nat.isDigit_of_mem_toDigits (by decide) (by decide) hc⟩

/-- An integer starts with a digit, or with its sign. -/
theorem exists_toString_eq_cons (i : Int) :
    ∃ c cs, (toString i).toList = c :: cs ∧ (c = '-' ∨ c.isDigit = true) := by
  cases i with
  | ofNat n =>
    obtain ⟨c, cs, hds, hc⟩ := exists_toDigits_eq_cons n
    exact ⟨c, cs, (toList_natCast n).trans hds, .inr hc⟩
  | negSucc n => exact ⟨'-', _, toList_negSucc n, .inl rfl⟩

/-- **An integer within a word is read back.** -/
theorem simple?_integer {i : Int} (hi : Document.fitsWord i) {rest : List Char}
    (hrest : Ends rest) : simple? ((toString i).toList ++ rest) = some (.integer i, rest) := by
  cases i with
  | ofNat n =>
    have hread := number?_toDigits false n hrest
    rw [node_toDigits (fitsWord_natCast.mp hi)] at hread
    rw [Int.ofNat_eq_natCast, toList_natCast]
    obtain ⟨d, ds, hds, hd⟩ := exists_toDigits_eq_cons n
    rw [hds, List.cons_append, simple?_digit hd, ← List.cons_append, ← hds]
    exact hread
  | negSucc n =>
    have hn : n + 1 ≤ twoTo 63 := fitsWord_negSucc.mp hi
    have hmax : n + 1 ≤ wordMax := hn.trans (by decide)
    have hread := number?_toDigits true (n + 1) hrest
    rw [node_toDigits hmax, if_neg (by decide), if_neg (by simpa using hn)] at hread
    rw [toList_negSucc]
    exact hread

end DeepCopy.Json
