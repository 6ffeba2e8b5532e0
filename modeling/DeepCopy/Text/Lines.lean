/-!
# Lines and comments

A text is read as lines that end in a line feed, with a carriage return before it dropped; the
last line may lack its end. `lineComment` turns every line into a comment of its own.
-/

namespace DeepCopy.Text

/-- A line read backwards without the carriage return at its end. -/
def dropReturn : List Char → List Char
  | '\r' :: cs => cs
  | cs => cs

/-- The lines of a text, given the line begun so far, backwards. -/
def linesFrom (begun : List Char) : List Char → List (List Char)
  -- A carriage return at the end of a text without a line feed stays.
  | [] => if begun.isEmpty then [] else [begun.reverse]
  | c :: cs =>
    if c = '\n' then (dropReturn begun).reverse :: linesFrom [] cs else linesFrom (c :: begun) cs

/-- The lines of a text, without their ends. -/
def lines (text : String) : List String :=
  (linesFrom [] text.toList).map String.ofList

/-- A line after the marker of a comment; a blank line is the marker alone. -/
def commentLine (marker line : String) : String :=
  if line.isEmpty then marker else marker ++ " " ++ line

/-- Every line of a text after the marker of a comment. -/
def lineComment (text marker : String) : String :=
  "\n".intercalate ((lines text).map (commentLine marker))

/-- A text that is begun has a line. -/
theorem linesFrom_ne_nil {begun cs : List Char} (h : begun ≠ [] ∨ cs ≠ []) :
    linesFrom begun cs ≠ [] := by
  induction cs generalizing begun with
  | nil =>
    have hbegun : begun.isEmpty = false := List.isEmpty_eq_false_iff.mpr (h.resolve_right (· rfl))
    rw [linesFrom, hbegun]
    exact List.cons_ne_nil _ _
  | cons c cs ih =>
    rw [linesFrom]
    split
    · exact List.cons_ne_nil _ _
    · exact ih (.inl (List.cons_ne_nil c begun))

theorem lines_ne_nil {text : String} (h : text ≠ "") : lines text ≠ [] := by
  have hchars : text.toList ≠ [] := fun hnil => h (String.toList_eq_nil_iff.mp hnil)
  exact fun hlines => linesFrom_ne_nil (.inr hchars) (List.map_eq_nil_iff.mp hlines)

theorem linesFrom_ne_newline (begun cs : List Char) (h : '\n' ∉ begun) :
    ∀ l ∈ linesFrom begun cs, '\n' ∉ l := by
  induction cs generalizing begun with
  | nil =>
    intro l hl
    unfold linesFrom at hl
    split at hl
    · simp at hl
    · simp at hl
      subst hl
      simpa using h
  | cons c cs ih =>
    intro l hl
    unfold linesFrom at hl
    split at hl
    · rcases List.mem_cons.1 hl with rfl | hl
      · intro hm
        apply h
        have hm := List.mem_reverse.1 hm
        unfold dropReturn at hm
        split at hm
        · exact List.mem_cons_of_mem _ hm
        · exact hm
      · exact ih [] (by simp) l hl
    · next hc => exact ih (c :: begun) (by simp [h, Ne.symm hc]) l hl

end DeepCopy.Text
