import DeepCopy.Plan.Basic

/-!
# Catalogs of plans

Plans are looked up by the full name of their type or by its simple name. A plan takes its full
name from whatever had it; the simple name it takes only if nothing has it.
-/

namespace DeepCopy

/-- Plans by the names they are found under. -/
structure Catalog where
  /-- The plans in the order in which they were added. -/
  plans : List Plan := []
  /-- The names with their plans; the first entry of a name counts. -/
  names : List (String × Plan) := []

namespace Catalog

/-- The plan that is found under a name. -/
def get? (c : Catalog) (name : String) : Option Plan := c.names.lookup name

/-- The catalog with a plan added. -/
def insert (c : Catalog) (p : Plan) : Catalog :=
  let names := (p.fqn, p) :: c.names
  { plans := c.plans ++ [p]
    names := if (names.lookup p.typeName).isSome then names else (p.typeName, p) :: names }

/-- The catalog of plans added in order. -/
def ofList (ps : List Plan) : Catalog := ps.foldl insert {}

end Catalog

end DeepCopy
