import DeepCopy.Yaml.Scalar

/-!
# Reading a document as a type

Readers for texts, booleans, numbers, choices, lists, records and variants, from which the formats
of this library are built. What a reader accepts depends on where the content comes from, its
`Stage`: JSON text, YAML text whose scalars have no type yet, a YAML value whose scalars have one,
or content that was kept back while the tag of a variant was looked for.

A reader reports the first fault in the order of the text. The number `depth` bounds how many
containers may still be entered; a container beyond it counts as malformed.

## Main definitions

* `Source`: stage, dialect and anchors of the content being read
* `readText`, `readBool`, `readWord`, `readOption`, `readList`, `readChoice`: the basic readers
* `FieldReader`, `readRecord`: records, whose fields may come in any order
* `readVariant`: records and lists that name their own variant
* `keep`: content kept back, with its scalars typed and its mentions replaced
* `valueOf`: a YAML text as a value
-/

namespace DeepCopy.Document

/-- Where content comes from. -/
inductive Stage where
  /-- A JSON text. -/
  | json
  /-- A YAML text; scalars get a type when one is asked for. -/
  | yaml
  /-- A YAML value; scalars have a type already. -/
  | typed
  /-- Content kept back while the tag of a variant was looked for. -/
  | kept
  deriving DecidableEq

/-- The stage of content, and the anchored nodes that its mentions refer to. -/
structure Source where
  stage : Stage
  anchors : List (Nat × Node)

/-- A reader of one type from one source. -/
abbrev Reader (α : Type) := Node → Except Fault α

namespace Source

/-- A JSON text. -/
def json : Source := ⟨.json, []⟩

/-- A YAML value. -/
def typed : Source := ⟨.typed, []⟩

/-- Content kept back. -/
def kept : Source := ⟨.kept, []⟩

/-- The node a mention refers to; any other node is itself. -/
def follow (src : Source) : Node → Node
  | .mention anchor => (src.anchors.lookup anchor).getD .broken
  | n => n

/-- The node behind a mention and an application's own tag. -/
def bare (src : Source) (n : Node) : Node :=
  match src.follow n with
  | .tagged _ content => content
  | n => n

end Source

/-- What a node is found to be where something else is wanted. -/
def Node.found : Node → Except Fault Found
  | .null => .ok .nothing
  | .bool b => .ok (.bool b)
  | .integer n => .ok (.integer n)
  | .float x => .ok (.float x)
  | .text s => .ok (.text s)
  | .written _ => .error .malformed
  | .list _ => .ok .list
  | .record _ => .ok .record
  | .tagged _ _ => .ok .choice
  | .mention _ | .unreadable | .broken => .error .malformed

/-- The fault of finding a node where something else is expected. -/
def mismatch (n : Node) (expected : String) : Fault :=
  let settled : Except Fault Node :=
    match n with
    | .written s => Yaml.content s
    | n => .ok n
  match settled.bind Node.found with
  | .ok found => .wrongType found expected
  | .error fault => fault

/-- As `mismatch`, where an application's own tag shows. -/
def taggedMismatch (n : Node) (expected : String) : Fault :=
  match n with
  | .written s =>
    if (Yaml.ownTag? s.tag).isSome then .wrongType .choice expected else mismatch n expected
  | n => mismatch n expected

/-- A node that is passed over must still be well formed. -/
def passOver (n : Node) : Except Fault Unit :=
  if n.isWhole then .ok () else .error .malformed

/-- Whether a written scalar is nothing at all, which stands for an empty container. -/
def isVoid (s : Scalar) : Bool :=
  s.style = .plain && s.text.isEmpty

/-! ## Scalars -/

/-- A text; in YAML text every scalar is one. -/
def readText (src : Source) (expected : String) : Reader String := fun n =>
  match src.bare n with
  | .text s => .ok s
  | .written s => .ok s.text
  | n => .error (mismatch n expected)

/-- A boolean. -/
def readBool (src : Source) : Reader Bool := fun n =>
  match src.bare n with
  | .bool b => .ok b
  | .written s =>
    let asked := s.style = .plain || s.style = .literal && s.tag = some (Yaml.coreTag "bool")
    match if asked then Yaml.boolWord? s.text else none with
    | some b => .ok b
    | none => .error (mismatch (.written s) "a boolean")
  | n => .error (mismatch n "a boolean")

/-- A number without a sign below a bound, which the name of its type states. -/
def readWord (src : Source) (bound : Nat) (expected : String) : Reader Nat :=
  let fit (n : Int) : Except Fault Nat :=
    -- Beyond sixty-four bits a number is of the wrong type, within them of the wrong size.
    if !fitsWord n then .error (.wrongType (.integer n) expected)
    else if 0 ≤ n && n < bound then .ok n.toNat
    else .error (.wrongValue (.integer n) expected)
  fun n =>
    match src.bare n with
    | .integer i => fit i
    | .written s =>
      -- A scalar in quotes is no number, whatever its text is.
      let asked := s.style = .plain || s.style = .literal && s.tag = some (Yaml.coreTag "int")
      match if asked then Yaml.magnitude? s.text else none with
      | some i => if i < Number.twoTo 64 then fit i else .error (mismatch (.written s) expected)
      | none => .error (mismatch (.written s) expected)
    | n => .error (mismatch n expected)

/-- An optional content: null is none, and every other content is read. -/
def readOption {α : Type} (src : Source) (read : Reader α) : Reader (Option α) := fun n =>
  match src.follow n with
  | .null => .ok none
  | .written s =>
    if s.style ≠ .plain then some <$> read n
    else
      match s.tag with
      | some tag =>
        if tag = Yaml.coreTag "null" then
          if Yaml.isNullWord s.text then .ok none
          else .error (.wrongValue (.text s.text) "null")
        else some <$> read n
      | none => if s.text.isEmpty || Yaml.isNullWord s.text then .ok none else some <$> read n
  | _ => some <$> read n

/-! ## Containers -/

/-- Every item, read in order. -/
def readItems {m : Type → Type} [Monad m] {α : Type} (read : Node → m α) :
    List Node → m (List α)
  | [] => return []
  | n :: ns => do
    let a ← read n
    let as ← readItems read ns
    return a :: as

/-- A list. Where nothing stands in YAML there is an empty list. -/
def readList {α : Type} (src : Source) (depth : Nat) (read : Reader α) : Reader (List α) := fun n =>
  match src.bare n with
  | .list items => if depth = 0 then .error .malformed else readItems read items
  | .written s => if isVoid s then .ok [] else .error (mismatch (.written s) "a sequence")
  | .null => if src.stage = .typed then .ok [] else .error (mismatch .null "a sequence")
  | n => .error (mismatch n "a sequence")

/-- A field of a record: its name, whether it may be left out, and how its content changes the
record read so far. -/
structure FieldReader (σ : Type) where
  name : String
  required : Bool
  read : Reader (σ → σ)

namespace FieldReader

/-- A field that must be there. -/
def must {σ α : Type} (name : String) (read : Reader α) (put : α → σ → σ) : FieldReader σ where
  name := name
  required := true
  read := fun n => put <$> read n

/-- A field that may be left out. -/
def may {σ α : Type} (name : String) (read : Reader α) (put : α → σ → σ) : FieldReader σ where
  name := name
  required := false
  read := fun n => put <$> read n

end FieldReader

/-- The name in a key; content kept back may give the position of a field instead. -/
def readKey (src : Source) (names : List String) (expected : String) (n : Node) :
    Except Fault (Option String) :=
  match src.bare n with
  | .integer i =>
    if src.stage = .kept && 0 ≤ i && fitsWord i then .ok (names[i.toNat]?)
    else .error (mismatch (.integer i) expected)
  | .text s => .ok (some s)
  | .written s => .ok (some s.text)
  | n => .error (mismatch n expected)

/-- The entries of a record, read in order: the names met and the record. -/
def readEntries {σ : Type} (src : Source) (fields : List (FieldReader σ)) :
    List (Node × Node) → List String → σ → Except Fault (List String × σ)
  | [], met, s => .ok (met, s)
  | (key, content) :: rest, met, s => do
    let name? ← readKey src (fields.map (·.name)) "field identifier" key
    match fields.find? fun f => some f.name == name? with
    | none =>
      -- The content of an unknown field is passed over unread.
      passOver content
      readEntries src fields rest met s
    | some f =>
      if met.contains f.name then throw (.duplicateField f.name)
      let put ← f.read content
      readEntries src fields rest (f.name :: met) (put s)

/-- The first field that must be there and is not. -/
def missing? {σ : Type} (fields : List (FieldReader σ)) (met : List String) :
    Option (FieldReader σ) :=
  fields.find? fun f => f.required && !met.contains f.name

/-- One count of things in words. -/
def countOf (n : Nat) (thing : String) : String :=
  toString n ++ " " ++ thing ++ (if n = 1 then "" else "s")

/-- Items read by position as the fields in order; the items left over are kept. -/
def readPositions {σ : Type} (expected : String) :
    Nat → List (FieldReader σ) → List Node → σ → Except Fault (σ × List Node)
  | _, [], rest, s => .ok (s, rest)
  | i, f :: fs, [], s =>
    if f.required then .error (.wrongLength i expected) else readPositions expected (i + 1) fs [] s
  | i, f :: fs, n :: ns, s => do
    let put ← f.read n
    readPositions expected (i + 1) fs ns (put s)

/-- A record given by its entries. -/
def readNamed {σ : Type} (src : Source) (fields : List (FieldReader σ)) (blank : σ)
    (entries : List (Node × Node)) : Except Fault σ := do
  let (met, s) ← readEntries src fields entries [] blank
  match missing? fields met with
  | some f => throw (.missingField f.name)
  | none => return s

/-- A record given by position. JSON leaves no item over; neither does content kept back, which
counts them. -/
def readPositional {σ : Type} (src : Source) (title : String) (fields : List (FieldReader σ))
    (blank : σ) (items : List Node) : Except Fault σ := do
  let expected := title ++ " with " ++ countOf fields.length "element"
  let (s, rest) ← readPositions expected 0 fields items blank
  if rest.isEmpty then return s
  else if src.stage = .kept then
    throw (.wrongLength items.length (countOf fields.length "element" ++ " in sequence"))
  else throw .malformed

/-- A record. Outside YAML it may be given by position; where nothing stands in YAML there is a
record without entries. -/
def readRecord {σ : Type} (src : Source) (depth : Nat) (title : String)
    (fields : List (FieldReader σ)) (blank : σ) : Reader σ := fun n =>
  match src.bare n with
  | .record entries =>
    if depth = 0 then .error .malformed else readNamed src fields blank entries
  | .list items =>
    if src.stage = .json || src.stage = .kept then
      if depth = 0 then .error .malformed else readPositional src title fields blank items
    else .error (mismatch (.list items) title)
  | .written s =>
    if isVoid s then readNamed src fields blank [] else .error (mismatch (.written s) title)
  | .null =>
    if src.stage = .typed then readNamed src fields blank [] else .error (mismatch .null title)
  | n => .error (mismatch n title)

/-! ## Choices -/

/-- One of several named values. -/
abbrev Choices (α : Type) := List (String × α)

namespace Choices

/-- The names in order. -/
def names {α : Type} (cs : Choices α) : List String :=
  cs.map (·.1)

/-- The value of a name. -/
def pick {α : Type} (cs : Choices α) (name : String) : Except Fault α :=
  match cs.lookup name with
  | some a => .ok a
  | none => .error (.unknownVariant name cs.names)

/-- The value a name or, in content kept back, a position stands for. -/
def read {α : Type} (cs : Choices α) (src : Source) : Reader α := fun n =>
  match src.bare n with
  | .integer i =>
    if src.stage = .kept && 0 ≤ i && fitsWord i then
      match cs[i.toNat]? with
      | some c => .ok c.2
      | none => .error (.wrongValue (.integer i) ("variant index 0 <= i < " ++ toString cs.length))
    else .error (mismatch (.integer i) "variant identifier")
  | .text s => cs.pick s
  | .written s => cs.pick s.text
  | n => .error (mismatch n "variant identifier")

end Choices

/-- Nothing, as the content of a choice. -/
def readNothing (n : Node) : Except Fault Unit :=
  match n with
  | .null => .ok ()
  | n => .error (mismatch n "unit")

/-- One of several named values, as a text or as the sole key of a record without content. -/
def readChoice {α : Type} (src : Source) (depth : Nat) (cs : Choices α) : Reader α := fun n =>
  match src.stage, src.follow n with
  | .json, .text s => cs.pick s
  | .json, .record ((key, content) :: rest) => do
    if depth = 0 then throw .malformed
    let a ← cs.read src key
    readNothing content
    if rest.isEmpty then return a else throw .malformed
  | .json, _ => .error .malformed
  | .yaml, .written s =>
    match Yaml.ownTag? s.tag with
    | none => cs.pick s.text
    | some tag => do
      let a ← cs.pick tag
      if s.style = .plain && (s.text.isEmpty || Yaml.isNullWord s.text) then return a
      else throw (.wrongValue (.text s.text) "null")
  | .yaml, .tagged tag content => do
    let a ← cs.pick tag
    readNothing content
    return a
  | .yaml, n => .error (mismatch n "a YAML tag starting with '!'")
  | .typed, .text s => cs.pick s
  | .typed, .tagged tag content => do
    let a ← cs.pick tag
    readNothing content
    return a
  | .typed, n => .error (mismatch n "a Value::Tag enum")
  | .kept, .text s => cs.pick s
  | .kept, .record [(key, content)] => do
    let a ← cs.read src key
    match content with
    | .record [] => return a
    | content =>
      readNothing content
      return a
  | .kept, .record _ => .error (.wrongValue .record "map with a single key")
  | .kept, n => .error (mismatch n "string or map")

/-! ## Content with all its types -/

/-- A scalar of YAML text as content kept back: it may carry no tag of the application's own, and
no integer beyond sixty-four bits. -/
def keepScalar (s : Scalar) : Except Fault Node := do
  if (Yaml.ownTag? s.tag).isSome then throw .malformed
  match ← Yaml.content s with
  | .integer n =>
    if fitsWord n then return .integer n else throw (.wrongType (.integer n) "any value")
  | n => return n

/-- Entries with keys and contents transformed in order. -/
def mapEntries (f : Reader Node) : List (Node × Node) → Except Fault (List (Node × Node))
  | [] => .ok []
  | (k, v) :: es => do
    let k ← f k
    let v ← f v
    let es ← mapEntries f es
    return (k, v) :: es

/-- Content kept back while the tag of a variant is looked for: every scalar has its type, and
mentions are replaced by what they refer to. -/
def keep (src : Source) : Nat → Reader Node
  | 0, n =>
    match src.follow n with
    | .list _ | .record _ | .tagged _ _ | .mention _ | .unreadable | .broken => .error .malformed
    | .written s => keepScalar s
    | n => .ok n
  | depth + 1, n =>
    match src.follow n with
    | .list items => .list <$> readItems (keep src depth) items
    | .record entries => .record <$> mapEntries (keep src depth) entries
    | .tagged _ _ | .mention _ | .unreadable | .broken => .error .malformed
    | .written s => keepScalar s
    | n => .ok n

mutual

/-- Whether two contents are the same key: numbers of one kind by value, the entries of a record
in any order. -/
def sameKey : Node → Node → Bool
  | .null, .null => true
  | .bool a, .bool b => a == b
  | .integer a, .integer b => a == b
  | .float x, .float y => x.ieeeEq y || x.isNaN && y.isNaN
  | .text s, .text t => s == t
  | .list as, .list bs => sameKeys as bs
  | .record as, .record bs => as.length == bs.length && sameEntries as bs
  | .tagged s a, .tagged t b => s == t && sameKey a b
  | _, _ => false

/-- Whether two lists hold the same keys. -/
def sameKeys : List Node → List Node → Bool
  | [], [] => true
  | a :: as, b :: bs => sameKey a b && sameKeys as bs
  | _, _ => false

/-- Whether every entry of the first record is one of the second. -/
def sameEntries : List (Node × Node) → List (Node × Node) → Bool
  | [], _ => true
  | (k, v) :: es, bs => hasEntry k v bs && sameEntries es bs

/-- Whether a record has an entry. -/
def hasEntry (k v : Node) : List (Node × Node) → Bool
  | [] => false
  | (k', v') :: es => sameKey k k' && sameKey v v' || hasEntry k v es

end

/-- A computation that may follow so many more mentions. -/
abbrev Expansion := StateT Nat (Except Fault)

/-- The node a mention refers to, while mentions may be followed; any other node is itself. -/
def Source.expand (src : Source) (n : Node) : Expansion Node := do
  match n with
  | .mention _ =>
    match ← get with
    | 0 => throw .malformed
    | left + 1 =>
      set left
      return src.follow n
  | n => return n

/-- The entries of a value, whose keys all differ. -/
def valueEntries (f : Node → Expansion Node) :
    List (Node × Node) → List (Node × Node) → Expansion (List (Node × Node))
  | [], done => return done.reverse
  | (k, v) :: es, done => do
    let k ← f k
    -- A repeated key is a fault before its content is looked at.
    if done.any fun e => sameKey e.1 k then throw (.duplicateEntry k)
    let v ← f v
    valueEntries f es ((k, v) :: done)

/-- A scalar of YAML text as a value. -/
def valueScalar (s : Scalar) : Except Fault Node := do
  let narrow (n : Node) : Except Fault Node :=
    match n with
    | .integer i =>
      if fitsWord i then .ok n else .error (.wrongType (.integer i) "any YAML value")
    | n => .ok n
  match Yaml.ownTag? s.tag with
  | some tag => .tagged tag <$> narrow (Yaml.untaggedContent s)
  | none => narrow (← Yaml.content s)

/-- YAML text as a value: every scalar has its type, mentions are replaced, and no mapping has a
key twice. -/
def valueOf (src : Source) : Nat → Node → Expansion Node
  | 0, n => do
    match ← src.expand n with
    | .written s => valueScalar s
    | _ => throw .malformed
  | depth + 1, n => do
    match ← src.expand n with
    | .written s => valueScalar s
    | .list items => .list <$> readItems (valueOf src depth) items
    | .record entries => .record <$> valueEntries (valueOf src depth) entries []
    | .tagged tag (.list items) =>
      (.tagged tag ∘ .list) <$> readItems (valueOf src depth) items
    | .tagged tag (.record entries) =>
      (.tagged tag ∘ .record) <$> valueEntries (valueOf src depth) entries []
    | _ => throw .malformed

/-! ## Variants -/

/-- A variant of a type: how its content is read once its tag is known. -/
abbrev Variants (α : Type) := Choices (Reader α)

/-- A variant without content. -/
def unitVariant {α : Type} (a : α) : Reader α := fun n =>
  match n with
  | .list (_ :: items) => .error (.wrongLength (items.length + 1) "0 elements in sequence")
  | _ => .ok a

/-- The tag among the entries of a record, and the other entries, kept back in order. -/
def splitTag {α : Type} (src : Source) (depth : Nat) (tag : String) (variants : Variants α) :
    List (Node × Node) → Option (Reader α) → List (Node × Node) →
      Except Fault (Option (Reader α) × List (Node × Node))
  | [], found, others => .ok (found, others.reverse)
  | (k, v) :: es, found, others => do
    let k ← keep src depth k
    match k with
    | .text name =>
      if name = tag then
        if found.isSome then throw (.duplicateField tag)
        -- The tag is read at once, so that a fault in it comes before those of later entries.
        let variant ← variants.read src v
        splitTag src depth tag variants es (some variant) others
      else
        let v ← keep src depth v
        splitTag src depth tag variants es found ((k, v) :: others)
    | k =>
      let v ← keep src depth v
      splitTag src depth tag variants es found ((k, v) :: others)

/-- A type with variants: a record whose entry `tag` names the variant, or a list that starts with
its name. The rest is kept back and then read as the variant. -/
def readVariant {α : Type} (src : Source) (depth : Nat) (title tag : String)
    (variants : Variants α) : Reader α := fun n =>
  let expected := "internally tagged enum " ++ title
  match src.follow n with
  | .record entries => do
    if depth = 0 then throw .malformed
    match ← splitTag src (depth - 1) tag variants entries none [] with
    | (some variant, others) => variant (.record others)
    | (none, _) => throw (.missingField tag)
  | .list items => do
    if depth = 0 then throw .malformed
    match items with
    | [] => throw (.missingField tag)
    | first :: rest =>
      let variant ← variants.read src first
      variant (.list (← readItems (keep src (depth - 1)) rest))
  | n => .error (taggedMismatch n expected)

end DeepCopy.Document
