import DeepCopy.Number.Layout
import DeepCopy.Text.Quoted

/-!
# Values and cells

A `Value` is a scalar or a reference to a cell; a `Cell` is an object, an array, a sequence or a
mapping. Whoever holds a reference shares the cell.

## Main definitions

* `Value`, `Cell`: values and cells
* `Fields`: the fields of an object in the order of their names
* `Kind`: what there is to tell about a value without looking into it
-/

namespace DeepCopy

open Number (Binary64)

/-- The place of a cell. -/
abbrev Address := Nat

/-- A value that a field or a container holds. -/
inductive Value where
  | null
  | bool (value : Bool)
  | integer (value : Int)
  | float (value : Binary64)
  | text (value : String)
  /-- A reference to a cell. -/
  | ref (address : Address)
  deriving DecidableEq, Inhabited

/-- The cell a value refers to. -/
def Value.address? : Value → Option Address
  | .ref a => some a
  | _ => none

/-- Entries in the order of their names with one of them set. -/
def setField (name : String) (v : Value) : List (String × Value) → List (String × Value)
  | [] => [(name, v)]
  | e :: es =>
    if name < e.1 then (name, v) :: e :: es
    else if name = e.1 then (name, v) :: es
    else e :: setField name v es

/-- Whether entries are in the strict order of their names. -/
abbrev Ordered (es : List (String × Value)) : Prop := es.Pairwise (·.1 < ·.1)

theorem lt_of_mem_setField {a name : String} {v : Value} {es : List (String × Value)}
    (hn : a < name) (hs : ∀ e ∈ es, a < e.1) : ∀ e ∈ setField name v es, a < e.1 := by
  induction es with
  | nil =>
    intro x hx
    exact List.mem_singleton.1 hx ▸ hn
  | cons e es ih =>
    intro x hx
    have hs' := fun x hx => hs x (List.mem_cons_of_mem _ hx)
    unfold setField at hx
    split at hx
    · rcases List.mem_cons.1 hx with rfl | hx
      · exact hn
      · exact hs x hx
    · split at hx
      · rcases List.mem_cons.1 hx with rfl | hx
        · exact hn
        · exact hs' x hx
      · rcases List.mem_cons.1 hx with rfl | hx
        · exact hs x (by simp)
        · exact ih hs' x hx

theorem ordered_setField (name : String) (v : Value) {es : List (String × Value)}
    (h : Ordered es) : Ordered (setField name v es) := by
  induction es with
  | nil => simp [setField]
  | cons e es ih =>
    obtain ⟨he, hes⟩ := List.pairwise_cons.1 h
    unfold setField
    split
    · next hlt =>
      refine List.pairwise_cons.2 ⟨fun x hx => ?_, h⟩
      rcases List.mem_cons.1 hx with rfl | hx
      · exact hlt
      · exact String.lt_trans hlt (he x hx)
    · next hlt =>
      split
      · next heq => exact List.pairwise_cons.2 ⟨fun x hx => heq ▸ he x hx, hes⟩
      · next hne =>
        have hgt : e.1 < name := by
          by_cases hg : e.1 < name
          · exact hg
          · exact absurd (String.le_antisymm (String.not_lt.1 hg) (String.not_lt.1 hlt)) hne
        exact List.pairwise_cons.2 ⟨lt_of_mem_setField hgt he, ih hes⟩

/-- The fields of an object in the order of their names. -/
structure Fields where
  entries : List (String × Value)
  ordered : Ordered entries
  deriving DecidableEq

namespace Fields

/-- No fields. -/
def empty : Fields := ⟨[], List.Pairwise.nil⟩

/-- The value of a field, null where there is no such field. -/
def get (f : Fields) (name : String) : Value := (f.entries.lookup name).getD .null

/-- The fields with one of them set. -/
def set (f : Fields) (name : String) (v : Value) : Fields :=
  ⟨setField name v f.entries, ordered_setField name v f.ordered⟩

/-- Entries as fields; of entries with one name the last one counts. -/
def ofList (es : List (String × Value)) : Fields :=
  es.foldl (fun f e => f.set e.1 e.2) empty

end Fields

/-- What a reference refers to. -/
inductive Cell where
  | object (typeName : String) (fields : Fields)
  | array (items : List Value)
  | sequence (typeName : String) (items : List Value)
  | mapping (typeName : String) (entries : List (Value × Value))
  deriving DecidableEq

/-- The values in a cell, in order. -/
def Cell.values : Cell → List Value
  | .object _ fields => fields.entries.map (·.2)
  | .array items | .sequence _ items => items
  | .mapping _ entries => entries.flatMap fun e => [e.1, e.2]

/-- What there is to tell about a value without looking into it. -/
inductive Kind where
  | null
  | bool
  | integer
  | float
  | text
  | object
  | array
  | sequence
  | mapping
  deriving DecidableEq

/-- The word for a kind. -/
def Kind.name : Kind → String
  | .null => "null"
  | .bool => "bool"
  | .integer => "int"
  | .float => "float"
  | .text => "string"
  | .object => "object"
  | .array => "array"
  | .sequence => "sequence"
  | .mapping => "mapping"

/-- The kind of a cell. -/
def Cell.kind : Cell → Kind
  | .object _ _ => .object
  | .array _ => .array
  | .sequence _ _ => .sequence
  | .mapping _ _ => .mapping

end DeepCopy
