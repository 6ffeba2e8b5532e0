import DeepCopy.Schema.Basic

/-!
# The schema of plans

What a plan looks like as a document.
-/

namespace DeepCopy.Schema

/-- A step with some properties, sorted by name around the step's own, and the names of all those
that are required, in the order of the step. -/
def step (name description : String) (before after : List (String × Schema))
    (required : List String) : Schema :=
  described description <|
    object (before ++ [("step", constant name)] ++ after) ("step" :: required)

/-- Accessors. -/
def accessor : Schema :=
  let inner := ref "AccessorPlan"
  let strategy := ("strategy", ref "ConstructionStrategy")
  described "Transformation from a source value to its cloned value" <|
    oneOf
      [step "copy_scalar" "Copy as-is (reference types alias the source)" [] [] [],
        step "call_clone" "Invoke the value's own clone operation"
          [("nullable", boolean), ("op", ref "CloneOp")] [] ["nullable", "op"],
        step "null_guard" "Null short-circuits to null without running `inner`"
          [("inner", inner)] [] ["inner"],
        step "map_array" "New array of the same length, each slot transformed"
          [("element", inner)] [] ["element"],
        step "map_sequence" "New container built per `strategy` from transformed elements"
          [("container", string), ("element", inner)] [strategy]
          ["container", "element", "strategy"],
        step "map_map"
          "New container built per `strategy` from independently transformed keys and values"
          [("container", string), ("key", inner), ("key_type", string)]
          [strategy, ("value", inner), ("value_type", string)]
          ["container", "key_type", "value_type", "key", "value", "strategy"],
        step "project_sequence" "Lazy transformed sequence, not materialized"
          [("element", inner)] [] ["element"],
        step "identity" "Pass the source through by reference" [] [] []]

/-- Operations. -/
def operation : Schema :=
  described "Which whole-type operation a deep-clone call site invokes" <|
    oneOf
      [described "No cycle protection" (constant "fast"),
        described "Threads the shared visited stack" (constant "safe")]

/-- Strategies. -/
def strategy : Schema :=
  described "How a container instance is rebuilt from its transformed elements" <|
    oneOf
      [described "A constructor accepts the container's own interface type"
          (constant "self_constructible"),
        described "A constructor accepts a generic sequence of the element type"
          (constant "enumerable_constructible"),
        described "A constructor accepts a sequence of key/value pairs (maps only)"
          (constant "key_value_constructible"),
        described "No usable constructor; the source container is passed through"
          (constant "identity")]

/-- Cloned members. -/
def clonedMember : Schema :=
  described "One member's accessor" <|
    object [("accessor", ref "AccessorPlan"), ("name", string)] ["name", "accessor"]

/-- Kept members. -/
def keptMember : Schema :=
  described "Ignored member copied by plain assignment" <|
    object
      [("name", string),
        ("position",
          described "Number of cloned members declared ahead of this one" (natural "uint"))]
      ["name", "position"]

/-- The schema of plans. -/
def plan : Document.Tree :=
  document "Clone Plan" "Compiled fast and safe clone operations of a type"
    (object
      [("descriptor_hash", string),
        ("fast",
          described "Accessors of the fast operation, in declaration order"
            (listOf "MemberPlan")),
        ("fqn", string), ("namespace", string), ("operations", ref "OperationNames"),
        ("retained",
          described "Ignored members copied by plain assignment" (listOf "RetainedMember")),
        ("safe",
          described "Accessors of the safe operation, in declaration order"
            (listOf "MemberPlan")),
        ("type_name", string), ("visibility", ref "Visibility")]
      ["type_name", "fqn", "namespace", "visibility", "operations", "fast", "safe",
        "descriptor_hash"])
    [("AccessorPlan", accessor), ("CloneOp", operation), ("ConstructionStrategy", strategy),
      ("MemberPlan", clonedMember), ("OperationNames", operationNames),
      ("RetainedMember", keptMember), ("Visibility", visibility)]

end DeepCopy.Schema
