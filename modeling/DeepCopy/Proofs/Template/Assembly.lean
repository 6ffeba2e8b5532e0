import DeepCopy.Template.Filling
import DeepCopy.Template.Reader

/-!
# Templates taken apart and put together

A template is read by assembling its segments, and filled in piece by piece. Here are the laws for
templates whose pieces are known: the segments of such a template assemble to it again, whatever
parts are open around it, and its text is the texts of its pieces one behind another.

## Main definitions

* `Expression.tokens`, `segmentsOf`: the segments that a template is written with
* `Legible`: the expressions of a template are read back from their tokens

## Main results

* `assemble_segmentsOf`: a legible template is assembled from its segments
* `fill_append`: templates one behind another
* `fill_text`, `fill_output`, `fill_whenever`, `fill_each`: the texts of pieces
-/

namespace DeepCopy.Template

/-! ## Segments -/

/-- The tokens of an expression without literals and without arguments of filters. -/
def Expression.tokens : Expression → List Token
  | .literal _ => []
  | .variable name => [.name name]
  | .field e name => e.tokens ++ [.mark '.', .name name]
  | .filter name e _ => e.tokens ++ [.mark '|', .name name]

/-- An expression is read back from its tokens. -/
def Expression.Legible (e : Expression) : Prop := expression? e.tokens = some e

mutual

/-- The segments of a piece. -/
def Piece.segments : Piece → List Segment
  | .text s => [.text s]
  | .output e => [.output e.tokens]
  | .whenever condition yes no =>
    .control (.name "if" :: condition.tokens) :: segmentsOf yes ++ otherwiseSegments no ++
      [.control [.name "endif"]]
  | .each name items body =>
    .control (.name "for" :: .name name :: .name "in" :: items.tokens) :: segmentsOf body ++
      [.control [.name "endfor"]]

/-- The segments of an alternative, which is left out if it is empty. -/
def otherwiseSegments : List Piece → List Segment
  | [] => []
  | p :: ps => .control [.name "else"] :: p.segments ++ segmentsOf ps

/-- The segments of a template. -/
def segmentsOf : List Piece → List Segment
  | [] => []
  | p :: ps => p.segments ++ segmentsOf ps

end

mutual

/-- The expressions of a piece are read back from their tokens. -/
def Piece.Legible : Piece → Prop
  | .text _ => True
  | .output e => e.Legible
  | .whenever condition yes no => condition.Legible ∧ Legible yes ∧ Legible no
  | .each _ items body => items.Legible ∧ Legible body

/-- The expressions of a template are read back from their tokens. -/
def Legible : List Piece → Prop
  | [] => True
  | p :: ps => p.Legible ∧ Legible ps

end

section

variable {ts : List Token} {parts : List Part} {pieces before yes : List Piece}
  {rest : List Segment} {condition items : Expression} {name : String}

/-! A control tag opens, divides or closes the innermost part. -/

theorem assemble_if (h : control? ts = some (.whenever condition)) :
    assemble parts pieces (.control ts :: rest) =
      assemble (.yes pieces condition :: parts) [] rest := by
  rw [assemble, h]
  rfl

theorem assemble_for (h : control? ts = some (.each name items)) :
    assemble parts pieces (.control ts :: rest) =
      assemble (.body pieces name items :: parts) [] rest := by
  rw [assemble, h]
  rfl

theorem assemble_else :
    assemble (.yes before condition :: parts) pieces (.control [.name "else"] :: rest) =
      assemble (.no before condition pieces.reverse :: parts) [] rest := by
  rw [assemble]
  rfl

theorem assemble_endif :
    assemble (.yes before condition :: parts) pieces (.control [.name "endif"] :: rest) =
      assemble parts (.whenever condition pieces.reverse [] :: before) rest := by
  rw [assemble]
  rfl

theorem assemble_else_endif :
    assemble (.no before condition yes :: parts) pieces (.control [.name "endif"] :: rest) =
      assemble parts (.whenever condition yes pieces.reverse :: before) rest := by
  rw [assemble]
  rfl

theorem assemble_endfor :
    assemble (.body before name items :: parts) pieces (.control [.name "endfor"] :: rest) =
      assemble parts (.each name items pieces.reverse :: before) rest := by
  rw [assemble]
  rfl

theorem Expression.Legible.control?_if (h : condition.Legible) :
    control? (.name "if" :: condition.tokens) = some (.whenever condition) := by
  rw [control?, h]
  rfl

theorem Expression.Legible.control?_for (h : items.Legible) :
    control? (.name "for" :: .name name :: .name "in" :: items.tokens) =
      some (.each name items) := by
  rw [control?, h]
  rfl

end

mutual

/-- **A legible piece is assembled from its segments**, whatever parts are open around it. -/
theorem assemble_segments : ∀ p : Piece, p.Legible →
    ∀ (parts : List Part) (pieces : List Piece) (rest : List Segment),
      assemble parts pieces (p.segments ++ rest) = assemble parts (p :: pieces) rest
  | .text s, _, parts, pieces, rest => by
    rw [Piece.segments, List.singleton_append, assemble]
  | .output e, he, parts, pieces, rest => by
    rw [Piece.Legible, Expression.Legible] at he
    rw [Piece.segments, List.singleton_append, assemble, he]
    rfl
  | .whenever condition yes [], ⟨hcondition, hyes, _⟩, parts, pieces, rest => by
    simp only [Piece.segments, otherwiseSegments, List.cons_append, List.append_assoc,
      List.nil_append]
    rw [assemble_if hcondition.control?_if, assemble_segmentsOf yes hyes, assemble_endif,
      List.append_nil, List.reverse_reverse]
  | .whenever condition yes (p :: ps), ⟨hcondition, hyes, hp, hps⟩, parts, pieces, rest => by
    simp only [Piece.segments, otherwiseSegments, List.cons_append, List.append_assoc,
      List.nil_append]
    -- The first part ends at the tag that divides it from the alternative.
    rw [assemble_if hcondition.control?_if, assemble_segmentsOf yes hyes, assemble_else,
      assemble_segments p hp, assemble_segmentsOf ps hps, assemble_else_endif]
    simp only [List.append_nil, List.reverse_append, List.reverse_reverse, List.reverse_singleton,
      List.singleton_append]
  | .each name items body, ⟨hitems, hbody⟩, parts, pieces, rest => by
    simp only [Piece.segments, List.cons_append, List.append_assoc, List.nil_append]
    rw [assemble_for hitems.control?_for, assemble_segmentsOf body hbody, assemble_endfor,
      List.append_nil, List.reverse_reverse]

/-- **A legible template is assembled from its segments**, whatever parts are open around it. -/
theorem assemble_segmentsOf : ∀ ps : List Piece, Legible ps →
    ∀ (parts : List Part) (pieces : List Piece) (rest : List Segment),
      assemble parts pieces (segmentsOf ps ++ rest) = assemble parts (ps.reverse ++ pieces) rest
  | [], _, parts, pieces, rest => rfl
  | p :: ps, h, parts, pieces, rest => by
    rw [segmentsOf, List.append_assoc, assemble_segments p h.1, assemble_segmentsOf ps h.2,
      List.reverse_cons, List.append_assoc, List.singleton_append]

end

/-- A text whose segments are those of a legible template is read as the template. -/
theorem read_eq_some {text : String} {t : Template} (ht : Legible t)
    (h : segments text.toList = some (segmentsOf t)) : read text = some t := by
  have hassemble := assemble_segmentsOf t ht [] [] []
  rw [List.append_nil, List.append_nil, assemble, List.reverse_reverse] at hassemble
  rw [read, h]
  exact hassemble

/-! ### Expressions that are read back -/

namespace Expression

variable {name field filter : String}

theorem legible_variable (hname : named name = .variable name) :
    (Expression.variable name).Legible := by
  rw [Legible, tokens, expression?]
  simp [operand?, hname, fields, filters?]

theorem legible_field (hname : named name = .variable name) :
    (Expression.field (.variable name) field).Legible := by
  rw [Legible, tokens, tokens, expression?]
  simp [operand?, hname, fields, filters?]

theorem legible_filter (hname : named name = .variable name) :
    (Expression.filter filter (.variable name) []).Legible := by
  rw [Legible, tokens, tokens, expression?]
  simp [operand?, hname, fields, filters?]

end Expression

theorem legible_append {ps qs : List Piece} (hps : Legible ps) (hqs : Legible qs) :
    Legible (ps ++ qs) := by
  induction ps with
  | nil => exact hqs
  | cons p ps ih => exact ⟨hps.1, ih hps.2⟩

/-! ## Filling -/

section

variable {context : Context} {p : Piece} {ps qs yes no body : List Piece} {s t name : String}
  {e : Expression} {v : Value}

theorem fill_nil : fill context [] = .ok "" := rfl

/-- A piece before a template. -/
theorem fill_cons (hp : fillPiece context p = .ok s) (hps : fill context ps = .ok t) :
    fill context (p :: ps) = .ok (s ++ t) := by
  rw [fill, hp, hps]
  rfl

/-- A text is written as it is. -/
theorem fill_text (hps : fill context ps = .ok t) :
    fill context (.text s :: ps) = .ok (s ++ t) :=
  fill_cons rfl hps

/-- The value of an expression is written out. -/
theorem fill_output (he : e.value context = .ok v) (hps : fill context ps = .ok t) :
    fill context (.output e :: ps) = .ok (v.written ++ t) := by
  apply fill_cons _ hps
  rw [fillPiece, he]
  rfl

/-- One of two parts is written. -/
theorem fill_whenever (he : e.value context = .ok v)
    (hs : fill context (if v.isTrue then yes else no) = .ok s) (hps : fill context ps = .ok t) :
    fill context (.whenever e yes no :: ps) = .ok (s ++ t) := by
  apply fill_cons _ hps
  rw [fillPiece, he, ← hs]
  show (if v.isTrue then fill context yes else fill context no) = _
  split <;> rfl

/-- A part is written once for each item of a list. -/
theorem fill_each {α : Type} {as : List α} {item : α → Value} {line : α → String}
    (he : e.value context = .ok (.list (as.map item)))
    (hbody : ∀ a, fill ((name, item a) :: context) body = .ok (line a))
    (hps : fill context ps = .ok t) :
    fill context (.each name e body :: ps) = .ok (String.join (as.map line) ++ t) := by
  apply fill_cons _ hps
  rw [fillPiece, he]
  show joinEach _ (as.map item) = _
  clear he
  induction as with
  | nil => rfl
  | cons a as ih =>
    rw [List.map_cons, joinEach, hbody, ih, List.map_cons, String.join_cons]
    rfl

/-- Templates one behind another. -/
theorem fill_append (hps : fill context ps = .ok s) (hqs : fill context qs = .ok t) :
    fill context (ps ++ qs) = .ok (s ++ t) := by
  induction ps generalizing s with
  | nil =>
    cases hps
    rw [List.nil_append, hqs, String.empty_append]
  | cons p ps ih =>
    rw [fill] at hps
    cases hp : fillPiece context p with
    | error gap =>
      rw [hp] at hps
      cases hps
    | ok u =>
      rw [hp] at hps
      cases hrest : fill context ps with
      | error gap =>
        rw [hrest] at hps
        cases hps
      | ok v =>
        rw [hrest] at hps
        cases hps
        rw [List.cons_append, fill_cons hp (ih hrest), String.append_assoc]

end

end DeepCopy.Template
