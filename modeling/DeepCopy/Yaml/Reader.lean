import DeepCopy.Yaml.Scalar
import DeepCopy.Yaml.Token

/-!
# Reading YAML text

`read` builds the first document of a YAML text from its tokens. Where the tokens end too early or
do not fit together, the node is broken and no token after that place is used.

An anchor gets the number of different names that were anchored before it. Two anchors can share a
number when a name is anchored twice; a mention of the number then means the later of them.

## Main definitions

* `Composer`: the tokens left, the handles of tags and the anchors met
* `node`: the node at the next token
* `read`: a text as a document
-/

namespace DeepCopy.Yaml

open Document (Scalar ScalarStyle Node Parsed)

/-- The state between two nodes. -/
structure Composer where
  tokens : List Token
  /-- What the handles of tags stand for. -/
  handles : List (String × String)
  /-- The number of each anchored name, the latest first. -/
  names : List (String × Nat)
  /-- How many nodes have been anchored. -/
  count : Nat
  /-- The anchored nodes with their numbers and the order they started in. -/
  anchored : List (Nat × Nat × Node)

namespace Composer

/-- A step that builds something from the next tokens. -/
abbrev Step := StateM Composer

/-- The next token. -/
def peek : Step (Option Token) := do return (← get).tokens.head?

/-- The place after the next token. -/
def advance : Step Unit := modify fun s => { s with tokens := s.tokens.tail }

/-- No token is used any more. -/
def stop : Step Node := do
  modify fun s => { s with tokens := [] }
  return .broken

/-- The scalar that stands where nothing is written. -/
def void : Node := .written ⟨.plain, none, ""⟩

/-- The meaning of a tag, where its handle is known. -/
def meaning? (s : Composer) (handle suffix : String) : Option String :=
  if handle.isEmpty then some suffix else (s.handles.lookup handle).map (· ++ suffix)

/-- The number of different names anchored so far. -/
def distinct (s : Composer) : Nat := (s.names.map (·.1)).eraseDups.length

/-- A content under its tag, when that is the application's own. -/
def withTag (tag : Option String) (n : Node) : Node :=
  match ownTag? tag with
  | some name => .tagged name n
  | none => n

/-- The anchor and the tag in front of a node, in either order. -/
def properties : Step (Option String × Option (String × String)) := do
  match ← peek with
  | some (.anchor name) =>
    advance
    match ← peek with
    | some (.tag handle suffix) =>
      advance
      return (some name, some (handle, suffix))
    | _ => return (some name, none)
  | some (.tag handle suffix) =>
    advance
    match ← peek with
    | some (.anchor name) =>
      advance
      return (some name, some (handle, suffix))
    | _ => return (none, some (handle, suffix))
  | _ => return (none, none)

/-- A node built under its anchor. -/
def anchoring (anchor : Option String) (build : Step Node) : Step Node := do
  match anchor with
  | none => build
  | some name =>
    let s ← get
    -- The name counts from here on, so a node may mention itself.
    let number := s.distinct
    let order := s.count
    set { s with names := (name, number) :: s.names, count := order + 1 }
    let n ← build
    modify fun s => { s with anchored := (number, order, n) :: s.anchored }
    return n

/-- Whether a token leaves nothing between a mark of a block mapping and itself. -/
def leavesEntry : Token → Bool
  | .key | .colon | .blockEnd => true
  | _ => false

mutual

/-- The node at the next token. Blocks may start only where `block` says so, and a list level with
its key only where `level` says so. -/
def node : Nat → (block level : Bool) → Step Node
  | 0, _, _ => stop
  | fuel + 1, block, level => do
    match ← peek with
    | some (.alias name) =>
      advance
      match (← get).names.lookup name with
      | some number => return .mention number
      | none => stop
    | _ =>
      let (anchor, written) ← properties
      let s ← get
      let tag? : Option (Option String) :=
        match written with
        | none => some none
        | some (handle, suffix) => (s.meaning? handle suffix).map some
      match tag?, ← peek with
      | none, _ | _, none => stop
      | some tag, some token =>
        let collection (items : Step Node) : Step Node := anchoring anchor (withTag tag <$> items)
        match token, block, level with
        -- A dash level with its key starts a list although no block starts there.
        | .dash, _, true => collection (.list <$> levelItems fuel)
        | .scalar style text, _, _ =>
          advance
          -- The bare mark says only that the scalar is a text.
          let tag := if tag == some "!" then none else tag
          anchoring anchor (return .written ⟨style, tag, text⟩)
        | .flowSequence, _, _ =>
          advance
          collection (.list <$> flowItems fuel true)
        | .flowMapping, _, _ =>
          advance
          collection (.record <$> flowEntries fuel true)
        | .blockSequence, true, _ =>
          advance
          collection (.list <$> blockItems fuel)
        | .blockMapping, true, _ =>
          advance
          collection (.record <$> blockEntries fuel)
        | _, _, _ =>
          -- A name or a tag may stand alone; what it belongs to is then empty.
          if anchor.isSome || tag.isSome then
            anchoring anchor (return .written ⟨.plain, tag, ""⟩)
          else stop

/-- The items of a block list up to its end. -/
def blockItems : Nat → Step (List Node)
  | 0 => return [← stop]
  | fuel + 1 => do
    match ← peek with
    | some .dash =>
      advance
      let item ←
        match ← peek with
        | some .dash | some .blockEnd => pure void
        | _ => node fuel true false
      return item :: (← blockItems fuel)
    | some .blockEnd =>
      advance
      return []
    | _ => return [← stop]

/-- The items of a block list level with its key; whatever is not a dash ends it. -/
def levelItems : Nat → Step (List Node)
  | 0 => return [← stop]
  | fuel + 1 => do
    match ← peek with
    | some .dash =>
      advance
      let item ←
        match ← peek with
        | some .dash | some .key | some .colon | some .blockEnd => pure void
        | _ => node fuel true false
      return item :: (← levelItems fuel)
    | some _ => return []
    | none => return [← stop]

/-- The entries of a block mapping up to its end. -/
def blockEntries : Nat → Step (List (Node × Node))
  | 0 => return [(← stop, .broken)]
  | fuel + 1 => do
    match ← peek with
    | some .key =>
      advance
      let key ← blockPart fuel
      let content ←
        match ← peek with
        | some .colon =>
          advance
          blockPart fuel
        | some _ => pure void
        | none => stop
      return (key, content) :: (← blockEntries fuel)
    | some .blockEnd =>
      advance
      return []
    | _ => return [(← stop, .broken)]

/-- The key or the content of an entry of a block mapping. -/
def blockPart : Nat → Step Node
  | 0 => stop
  | fuel + 1 => do
    match ← peek with
    | some t => if leavesEntry t then return void else node fuel true true
    | none => stop

/-- The items of a flow list up to its end. An item may be a mapping with one entry. -/
def flowItems : Nat → (first : Bool) → Step (List Node)
  | 0, _ => return [← stop]
  | fuel + 1, first => do
    match ← peek, first with
    | some .flowSequenceEnd, _ =>
      advance
      return []
    | some .comma, false =>
      advance
      flowItem fuel
    | _, true => flowItem fuel
    | _, false => return [← stop]

/-- An item of a flow list, and those after it. -/
def flowItem : Nat → Step (List Node)
  | 0 => return [← stop]
  | fuel + 1 => do
    match ← peek with
    | some .flowSequenceEnd =>
      advance
      return []
    | some .key =>
      advance
      let key ←
        match ← peek with
        -- The token after a lone key mark is used up, whichever of these it is.
        | some .colon | some .comma | some .flowSequenceEnd =>
          advance
          pure void
        | _ => node fuel false false
      let content ←
        match ← peek with
        | some .colon =>
          advance
          match ← peek with
          | some .comma | some .flowSequenceEnd => pure void
          | _ => node fuel false false
        | some _ => pure void
        | none => stop
      return .record [(key, content)] :: (← flowItems fuel false)
    | _ =>
      let item ← node fuel false false
      return item :: (← flowItems fuel false)

/-- The entries of a flow mapping up to its end. -/
def flowEntries : Nat → (first : Bool) → Step (List (Node × Node))
  | 0, _ => return [(← stop, .broken)]
  | fuel + 1, first => do
    match ← peek, first with
    | some .flowMappingEnd, _ =>
      advance
      return []
    | some .comma, false =>
      advance
      flowEntry fuel
    | _, true => flowEntry fuel
    | _, false => return [(← stop, .broken)]

/-- An entry of a flow mapping, and those after it. Without the mark of a key it has no content. -/
def flowEntry : Nat → Step (List (Node × Node))
  | 0 => return [(← stop, .broken)]
  | fuel + 1 => do
    match ← peek with
    | some .flowMappingEnd =>
      advance
      return []
    | some .key =>
      advance
      let key ←
        match ← peek with
        | some .colon | some .comma | some .flowMappingEnd => pure void
        | _ => node fuel false false
      let content ←
        match ← peek with
        | some .colon =>
          advance
          match ← peek with
          | some .comma | some .flowMappingEnd => pure void
          | _ => node fuel false false
        | some _ => pure void
        | none => stop
      return (key, content) :: (← flowEntries fuel false)
    | _ =>
      let key ← node fuel false false
      let content ←
        match ← peek with
        | some _ => pure void
        | none => stop
      return (key, content) :: (← flowEntries fuel false)

end

/-- The handles that every text knows. -/
def knownHandles : List (String × String) :=
  [("!", "!"), ("!!", "tag:yaml.org,2002:")]

/-- The directives in front of a document: its handles, and the tokens after them. A version other
than 1.1 and 1.2, a second version and a repeated handle are errors. -/
def directives? : List Token → (version : Bool) → List (String × String) →
    Option (List (String × String) × List Token)
  | .directive (.version major minor) :: ts, version, handles =>
    if version || major ≠ 1 || !(minor == 1 || minor == 2) then none
    else directives? ts true handles
  | .directive (.handle name meaning) :: ts, version, handles =>
    if (handles.lookup name).isSome then none
    else directives? ts version (handles ++ [(name, meaning)])
  | ts, _, handles => some (handles ++ knownHandles, ts)

/-- Whether a token ends a document or belongs to the next one. -/
def endsDocument : Token → Bool
  | .directive _ | .documentStart | .documentEnd | .textEnd => true
  | _ => false

/-- The root of the first document. -/
def root (fuel : Nat) : Step Node := do
  match (← get).tokens with
  | .textEnd :: _ => return void
  | t :: ts =>
    let explicit :=
      match t with
      | .directive _ | .documentStart => true
      | _ => false
    if explicit then
      match directives? (t :: ts) false [] with
      | some (handles, .documentStart :: ts) =>
        modify fun s => { s with tokens := ts, handles := handles }
        match ts with
        | t :: _ => if endsDocument t then return void else node fuel true false
        | [] => stop
      | _ => stop
    else node fuel true false
  | [] => stop

/-- The tokens after the marks of a document's end. -/
def skipEnds : List Token → List Token
  | .documentEnd :: ts => skipEnds ts
  | ts => ts

/-- The anchored nodes by number, the one that started last first. -/
def anchors (s : Composer) : List (Nat × Node) :=
  (s.anchored.mergeSort fun a b => b.2.1 ≤ a.2.1).map fun (number, _, n) => (number, n)

end Composer

/-- A text without the mark of its encoding. -/
def dropMark : List Char → List Char
  | '\ufeff' :: cs => cs
  | cs => cs

/-- A YAML text as a document. -/
def read (text : String) : Parsed :=
  let cs := dropMark text.toList
  -- A character that no YAML text may hold spoils the whole text, wherever it stands.
  if cs.all isAllowed then
    let ts := tokens cs
    let (root, s) := (Composer.root (4 * ts.length + 8)).run ⟨ts, Composer.knownHandles, [], 0, []⟩
    let complete :=
      match Composer.skipEnds s.tokens with
      | [.textEnd] => true
      | _ => false
    ⟨root, s.anchors, complete⟩
  else ⟨.broken, [], false⟩

end DeepCopy.Yaml
