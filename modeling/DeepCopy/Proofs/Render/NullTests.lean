import DeepCopy.CSharp.Expression
import DeepCopy.TypeScript.Expression

/-!
# Null tests in rendered expressions

An accessor says where null is let through: at its guards and at its nullable calls. Every such node
works on one value, the member itself or a value that a binder of the expression names: an item, or
the key or the value of an entry. A `Level` is such a value without its name.

An expression is gone through with the level that it is about and with the receiver that names its
value there. Below a binder the level is one deeper and the receiver is what the binder binds, so
that a test of any other receiver, or of the receiver of another level, shows as a test of no level.

## Main definitions

* `Level`: the value of a nesting level
* `Accessor.nodes`, `Accessor.guards`: the nodes of an accessor in order, and the levels of those
  that let null through
* `CSharp.Expression.tests`, `TypeScript.Expression.tests`: the levels whose receivers an expression
  tests for null
* `CSharp.Expression.names`, `TypeScript.Expression.names`: the names an expression is written with

## Main results

* `CSharp.Expression.questionMarks_text`, `TypeScript.Expression.questionMarks_text`: a text tests
  for null as often as its expression
* `Accessor.tests_csharp`, `Accessor.tests_typescript`: an expression tests the levels of its
  accessor's guards
* `nullTests_follow_guards`: both targets place null tests where the accessor has guards
-/

namespace DeepCopy

/-- The value of a nesting level: that of the member, an item of the level above, or the key or the
value of an item that is an entry. -/
inductive Level where
  | root
  | item (outer : Level)
  | key (entry : Level)
  | value (entry : Level)
  deriving DecidableEq

/-! ## Guards of accessors -/

namespace Accessor

/-- The nodes of an accessor with their levels, from left to right. -/
def nodes (l : Level) (a : Accessor) : List (Level × Accessor) :=
  (l, a) ::
    match a with
    | .copy | .passOn | .call _ _ => []
    | .guarded inner => inner.nodes l
    | .array element | .sequence _ element _ | .project element => element.nodes (.item l)
    | .map _ _ _ key value _ => key.nodes (.key (.item l)) ++ value.nodes (.value (.item l))

/-- Whether a node is a guard or a nullable call. -/
def admitsNull : Accessor → Bool
  | .guarded _ => true
  | .call nullable _ => nullable
  | _ => false

/-- The levels of the guards and the nullable calls of an accessor, from left to right. -/
def guards (l : Level) (a : Accessor) : List Level :=
  ((a.nodes l).filter fun n => n.2.admitsNull).map (·.1)

variable (l : Level)

@[simp] theorem guards_copy : copy.guards l = [] := rfl

@[simp] theorem guards_passOn : passOn.guards l = [] := rfl

@[simp] theorem guards_call (nullable : Bool) (op : Operation) :
    (call nullable op).guards l = if nullable then [l] else [] := by
  cases nullable <;> rfl

@[simp] theorem guards_guarded (inner : Accessor) :
    (guarded inner).guards l = l :: inner.guards l := rfl

@[simp] theorem guards_array (element : Accessor) :
    (array element).guards l = element.guards (.item l) := rfl

@[simp] theorem guards_project (element : Accessor) :
    (project element).guards l = element.guards (.item l) := rfl

@[simp] theorem guards_sequence (container : String) (element : Accessor) (strategy : Strategy) :
    (sequence container element strategy).guards l = element.guards (.item l) := rfl

@[simp] theorem guards_map (container keyType valueType : String) (key value : Accessor)
    (strategy : Strategy) :
    (map container keyType valueType key value strategy).guards l =
      key.guards (.key (.item l)) ++ value.guards (.value (.item l)) := by
  have hnode : (map container keyType valueType key value strategy).admitsNull = false := rfl
  simp [guards, nodes, hnode]

/-- What is left out where the value itself is the result holds no guards. -/
theorem guards_of_isCopy {a : Accessor} (ha : a.isCopy = true) : a.guards l = [] := by
  cases a with
  | copy | passOn => rfl
  | _ => cases ha

end Accessor

/-- The test of a receiver, if there is one: it shows the level where the receiver is the one that
names its value. -/
def testOf {R : Type} [DecidableEq R] (l : Level) (here r : R) (test : Bool) :
    List (Option Level) :=
  if test then [if r = here then some l else none] else []

@[simp] theorem testOf_self {R : Type} [DecidableEq R] (l : Level) (r : R) (test : Bool) :
    testOf l r r test = if test then [some l] else [] := by
  simp [testOf]

@[simp] theorem length_testOf {R : Type} [DecidableEq R] (l : Level) (here r : R) (test : Bool) :
    (testOf l here r test).length = if test then 1 else 0 := by
  cases test <;> rfl

/-! ## Question marks -/

/-- The number of question marks in a text. -/
def questionMarks (s : String) : Nat := s.toList.count '?'

@[simp] theorem questionMarks_append (s t : String) :
    questionMarks (s ++ t) = questionMarks s + questionMarks t := by
  rw [questionMarks, String.toList_append, List.count_append]
  rfl

/-! ## Tests in C# expressions -/

namespace CSharp

/-- The key of the entry that a receiver names. -/
def Receiver.entryKey : Receiver → Receiver
  | .variable x => .key x
  | r => r

/-- The value of the entry that a receiver names. -/
def Receiver.entryValue : Receiver → Receiver
  | .variable x => .value x
  | r => r

namespace Expression

/-- The levels whose receivers an expression tests for null, from left to right, for an expression
about a level whose value a receiver names. -/
def tests (l : Level) (here : Receiver) : Expression → List (Option Level)
  | .read _ => []
  | .call r test _ => testOf l here r test
  | .unlessNull r body => testOf l here r true ++ body.tests l here
  | .select r test x body => testOf l here r test ++ body.tests (.item l) (.variable x)
  | .toArray projection | .toList projection => projection.tests l here
  | .toDictionary _ x key value =>
    key.tests (.key (.item l)) (.key x) ++ value.tests (.value (.item l)) (.value x)
  -- A pair is made of an entry, which is what the receiver names.
  | .pair _ _ key value =>
    key.tests (.key l) here.entryKey ++ value.tests (.value l) here.entryValue
  | .construct _ argument => argument.tests l here

/-- The names that an expression is written with, the calls among them. -/
def names (ops : OperationNames) : Expression → List String
  | .read r => [r.text]
  | .call r _ op => [r.text, callText ops op]
  | .unlessNull r body => r.text :: body.names ops
  | .select r _ x body => r.text :: x :: body.names ops
  | .toArray projection | .toList projection => projection.names ops
  | .toDictionary r x key value => r.text :: x :: x :: key.names ops ++ value.names ops
  | .pair keyType valueType key value => keyType :: valueType :: key.names ops ++ value.names ops
  | .construct container argument => container :: argument.names ops

@[simp] theorem questionMarks_access (test : Bool) :
    questionMarks (access test) = if test then 1 else 0 := by
  cases test <;> rfl

/-- The fixed texts of an expression: null is tested once by a conditional expression. -/
@[simp] theorem questionMarks_fixed :
    questionMarks " is null ? null : " = 1 ∧ questionMarks "Select(" = 0 ∧
      questionMarks " => " = 0 ∧ questionMarks ".ToArray()" = 0 ∧ questionMarks ".ToList()" = 0 ∧
      questionMarks ".ToDictionary(" = 0 ∧ questionMarks "new " = 0 ∧ questionMarks pairType = 0 ∧
      questionMarks "<" = 0 ∧ questionMarks ">(" = 0 ∧ questionMarks ", " = 0 ∧
      questionMarks "(" = 0 ∧ questionMarks ")" = 0 ∧ questionMarks "" = 0 := by
  decide +kernel

/-- **A C# text tests for null as often as its expression**: a test is written with one question
mark, and the other question marks are those in names. -/
theorem questionMarks_text (e : Expression) (ops : OperationNames) (l : Level) (here : Receiver) :
    questionMarks (e.text ops) =
      (e.tests l here).length + questionMarks (String.join (e.names ops)) := by
  induction e generalizing l here with
  | read r => simp [tests, names]
  | call r test op =>
    simp [tests, names]
    omega
  | unlessNull r body ih =>
    simp [tests, names, ih l here]
    omega
  | select r test x body ih =>
    simp [tests, names, ih (.item l) (.variable x)]
    omega
  | toArray projection ih | toList projection ih =>
    simp [tests, names, ih l here]
  | toDictionary r x key value ihk ihv =>
    -- Two lambdas have the one variable: one of them makes the key and the other one the value.
    have hkey := ihk (.key (.item l)) (.key x)
    have hvalue := ihv (.value (.item l)) (.value x)
    simp [tests, names, hkey, hvalue]
    omega
  | pair keyType valueType key value ihk ihv =>
    have hkey := ihk (.key l) here.entryKey
    have hvalue := ihv (.value l) here.entryValue
    simp [tests, names, hkey, hvalue]
    omega
  | construct container argument ih =>
    simp [tests, names, ih l here]
    omega

end Expression

end CSharp

/-! ## Tests in TypeScript expressions -/

namespace TypeScript.Expression

/-- The levels whose receivers an expression tests for null, from left to right, for an expression
about a level whose value a receiver names. -/
def tests (l : Level) (here : Receiver) : Expression → List (Option Level)
  | .read _ => []
  | .call r test _ => testOf l here r test
  | .unlessNull r body => testOf l here r true ++ body.tests l here
  | .map r test x body => testOf l here r test ++ body.tests (.item l) (.variable x)
  | .generate _ x body | .elements _ x body => body.tests (.item l) (.variable x)
  | .entries _ k v key value =>
    key.tests (.key (.item l)) (.variable k) ++ value.tests (.value (.item l)) (.variable v)
  | .construct _ argument => argument.tests l here

/-- The names that an expression is written with, the calls among them. -/
def names (ops : OperationNames) : Expression → List String
  | .read r => [r.text]
  | .call r _ op => [r.text, callText ops op]
  | .unlessNull r body => r.text :: r.text :: body.names ops
  | .map r _ x body | .generate r x body | .elements r x body => r.text :: x :: body.names ops
  | .entries r k v key value => r.text :: k :: v :: key.names ops ++ value.names ops
  | .construct container argument => container :: argument.names ops

@[simp] theorem questionMarks_access (test : Bool) :
    questionMarks (access test) = if test then 1 else 0 := by
  cases test <;> rfl

/-- The fixed texts of an expression: null is tested once by a conditional expression. -/
@[simp] theorem questionMarks_fixed :
    questionMarks " == null ? " = 1 ∧ questionMarks " : " = 0 ∧ questionMarks "map((" = 0 ∧
      questionMarks ") => " = 0 ∧ questionMarks "(function* (s) \x7b for (const " = 0 ∧
      questionMarks " of s) yield " = 0 ∧ questionMarks "; \x7d)(" = 0 ∧
      questionMarks "Array.from(" = 0 ∧ questionMarks ", (" = 0 ∧ questionMarks ", ([" = 0 ∧
      questionMarks "]) => [" = 0 ∧ questionMarks "])" = 0 ∧ questionMarks ", " = 0 ∧
      questionMarks "new " = 0 ∧ questionMarks "(" = 0 ∧ questionMarks ")" = 0 ∧
      questionMarks "" = 0 := by
  decide +kernel

/-- **A TypeScript text tests for null as often as its expression.** -/
theorem questionMarks_text (e : Expression) (ops : OperationNames) (l : Level) (here : Receiver) :
    questionMarks (e.text ops) =
      (e.tests l here).length + questionMarks (String.join (e.names ops)) := by
  induction e generalizing l here with
  | read r => simp [tests, names]
  | call r test op =>
    simp [tests, names]
    omega
  | unlessNull r body ih =>
    simp [tests, names, ih l here]
    omega
  | map r test x body ih =>
    simp [tests, names, ih (.item l) (.variable x)]
    omega
  | generate r x body ih | elements r x body ih =>
    simp [tests, names, ih (.item l) (.variable x)]
    omega
  | entries r k v key value ihk ihv =>
    have hkey := ihk (.key (.item l)) (.variable k)
    have hvalue := ihv (.value (.item l)) (.variable v)
    simp [tests, names, hkey, hvalue]
    omega
  | construct container argument ih =>
    simp [tests, names, ih l here]
    omega

end TypeScript.Expression

/-! ## Tests of accessors -/

namespace Accessor

section CSharp

open CSharp (Receiver)
open CSharp.Expression (tests)

/-- Around a chain of accesses a guard is the test of the first access. -/
theorem tests_csharp_of_isChain {a : Accessor} (ha : a.isChain = true) (l : Level) (r : Receiver)
    (name : String) :
    (a.csharp r name true).tests l r = some l :: (a.csharp r name false).tests l r := by
  cases a with
  | array element | project element => simp [csharp, tests]
  | _ => cases ha

/-- **A C# expression tests the levels of its accessor's guards**, each once and in order, by
induction on the accessor: what a shortcut leaves out has no guards. -/
theorem tests_csharp (a : Accessor) (l : Level) (r : Receiver) (name : String) :
    (a.csharp r name false).tests l r = (a.guards l).map some := by
  induction a generalizing l r name with
  | copy | passOn => rfl
  | call nullable op => cases nullable <;> simp [csharp, tests]
  | guarded inner ih =>
    rw [csharp, guards_guarded, List.map_cons, ← ih l r name]
    -- The test is written into the chain where there is one, and else around the expression.
    by_cases hinner : inner.isChain = true
    · rw [if_pos hinner, tests_csharp_of_isChain hinner]
    · rw [if_neg hinner, tests, testOf_self]
      rfl
  | array element ih | project element ih => simp [csharp, tests, ih]
  | sequence container element strategy ih =>
    rw [csharp, guards_sequence, tests]
    by_cases hown : strategy = .ownInterface
    · by_cases hcopy : element.isCopy = true
      · rw [if_pos hown, if_pos hcopy, guards_of_isCopy _ hcopy]
        rfl
      · rw [if_pos hown, if_neg hcopy]
        simp [tests, ih]
    · rw [if_neg hown]
      simp [tests, ih]
  | map container keyType valueType key value strategy ihk ihv =>
    rw [csharp, guards_map, tests]
    by_cases hown : strategy = .ownInterface
    · by_cases hcopy : (key.isCopy && value.isCopy) = true
      · obtain ⟨hkey, hvalue⟩ := Bool.and_eq_true_iff.mp hcopy
        rw [if_pos hown, if_pos hcopy, guards_of_isCopy _ hkey, guards_of_isCopy _ hvalue]
        rfl
      · rw [if_pos hown, if_neg hcopy]
        simp [tests, ihk, ihv]
    · rw [if_neg hown]
      simp [tests, CSharp.Receiver.entryKey, CSharp.Receiver.entryValue, ihk, ihv]

end CSharp

section TypeScript

open TypeScript (Receiver)
open TypeScript.Expression (tests)

/-- Around an array a guard is the test of the access. -/
theorem tests_typescript_of_isArray {a : Accessor} (ha : a.isArray = true) (l : Level)
    (r : Receiver) (name : String) :
    (a.typescript r name true).tests l r = some l :: (a.typescript r name false).tests l r := by
  cases a with
  | array element => simp [typescript, tests]
  | _ => cases ha

/-- **A TypeScript expression tests the levels of its accessor's guards**, each once and in
order. -/
theorem tests_typescript (a : Accessor) (l : Level) (r : Receiver) (name : String) :
    (a.typescript r name false).tests l r = (a.guards l).map some := by
  induction a generalizing l r name with
  | copy | passOn => rfl
  | call nullable op => cases nullable <;> simp [typescript, tests]
  | guarded inner ih =>
    rw [typescript, guards_guarded, List.map_cons, ← ih l r name]
    by_cases hinner : inner.isArray = true
    · rw [if_pos hinner, tests_typescript_of_isArray hinner]
    · rw [if_neg hinner, tests, testOf_self]
      rfl
  | array element ih | project element ih => simp [typescript, tests, ih]
  | sequence container element strategy ih =>
    rw [typescript, guards_sequence, tests]
    by_cases hcopy : (strategy = .ownInterface && element.isCopy) = true
    · have helement : element.isCopy = true := (Bool.and_eq_true_iff.mp hcopy).2
      rw [if_pos hcopy, guards_of_isCopy _ helement]
      rfl
    · rw [if_neg hcopy]
      simp [tests, ih]
  | map container keyType valueType key value strategy ihk ihv =>
    rw [typescript, guards_map, tests]
    by_cases hcopy : (strategy = .ownInterface && key.isCopy && value.isCopy) = true
    · obtain ⟨hcopy', hvalue⟩ := Bool.and_eq_true_iff.mp hcopy
      have hkey : key.isCopy = true := (Bool.and_eq_true_iff.mp hcopy').2
      rw [if_pos hcopy, guards_of_isCopy _ hkey, guards_of_isCopy _ hvalue]
      rfl
    · rw [if_neg hcopy]
      simp [tests, ihk, ihv]

end TypeScript

end Accessor

/-- **Both targets place null tests exactly where the accessor has guards**: the tested receivers
are those of the guards and the nullable calls, from left to right, and nothing else in the text is
a test. -/
theorem nullTests_follow_guards (a : Accessor) (name : String) :
    (∀ r : CSharp.Receiver,
      (a.csharp r name false).tests .root r = (a.guards .root).map some ∧
        ∀ ops, questionMarks ((a.csharp r name false).text ops) = (a.guards .root).length +
          questionMarks (String.join ((a.csharp r name false).names ops))) ∧
    ∀ r : TypeScript.Receiver,
      (a.typescript r name false).tests .root r = (a.guards .root).map some ∧
        ∀ ops, questionMarks ((a.typescript r name false).text ops) = (a.guards .root).length +
          questionMarks (String.join ((a.typescript r name false).names ops)) := by
  constructor
  · intro r
    have htests := a.tests_csharp .root r name
    refine ⟨htests, fun ops => ?_⟩
    rw [CSharp.Expression.questionMarks_text _ ops .root r, htests, List.length_map]
  · intro r
    have htests := a.tests_typescript .root r name
    refine ⟨htests, fun ops => ?_⟩
    rw [TypeScript.Expression.questionMarks_text _ ops .root r, htests, List.length_map]

end DeepCopy
