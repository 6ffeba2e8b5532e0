import DeepCopy.Text.CaseTables

/-!
# Word case

The full case mapping of a character, and the two spellings of an operation name: `PascalCase`
and `camelCase`, from a name written in either of them or with underscores.

## Main definitions

* `upper`, `lower`: the case mapping of a character, which may be several characters
* `pascalCase`, `camelCase`: a name with its words capitalised and joined
-/

namespace DeepCopy.Text

/-- The mapping of a character by tables: several characters, one, or the character itself. -/
def mapCase (runs : List CaseRun) (special : List (Nat × List Nat)) (c : Char) : List Char :=
  match special.lookup c.toNat with
  | some image => image.map Char.ofNat
  | none =>
    match runs.findSome? (·.map? c.toNat) with
    | some n => [Char.ofNat n]
    | none => [c]

/-- The upper case of a character. -/
def upper (c : Char) : List Char :=
  if c.toNat < 0x80 then [c.toUpper] else mapCase upperRuns upperSpecial c

/-- The lower case of a character. -/
def lower (c : Char) : List Char :=
  if c.toNat < 0x80 then [c.toLower] else mapCase lowerRuns lowerSpecial c

/-- The parts of a text between its underscores. -/
def words : List Char → List (List Char)
  | [] => [[]]
  | c :: cs =>
    match words cs with
    | [] => [[c]]
    | w :: ws => if c = '_' then [] :: w :: ws else (c :: w) :: ws

theorem words_ne_nil (cs : List Char) : words cs ≠ [] := by
  cases cs with
  | nil => simp [words]
  | cons c cs =>
    unfold words
    split
    · simp
    · split <;> simp

/-- A word with its first character in upper case and the rest as it is. -/
def capitalize : List Char → List Char
  | [] => []
  | c :: cs => upper c ++ cs

/-- A word with its first character in lower case and the rest as it is. -/
def uncapitalize : List Char → List Char
  | [] => []
  | c :: cs => lower c ++ cs

/-- The words of a name, each capitalised, joined without a separator. -/
def pascalCase (name : String) : String :=
  String.ofList ((words name.toList).flatMap capitalize)

/-- As `pascalCase`, with the first character in lower case. -/
def camelCase (name : String) : String :=
  String.ofList (uncapitalize (pascalCase name).toList)

end DeepCopy.Text
