/-!
# Compliance.Provenance

What an evaluation made use of.

* `Reference`         — a path into the data, or a function.
* `Provenance`        — the paths and functions used, in the order of their first use.
* `Provenance.record` — takes down one use.
-/

namespace Compliance

inductive Reference where
  | variable (path : String)
  | function (name : String)
deriving DecidableEq

structure Provenance where
  paths : List String
  functions : List String
deriving DecidableEq

namespace Provenance

def empty : Provenance := ⟨[], []⟩

/-- A list with a name at its end, unless it is there already. -/
def addNew (name : String) (names : List String) : List String :=
  if names.contains name then names else names ++ [name]

/-- Takes down one use. -/
def record (p : Provenance) : Reference → Provenance
  | .variable path => { p with paths := addNew path p.paths }
  | .function name => { p with functions := addNew name p.functions }

/-- The provenance of uses one after the other. -/
def ofReferences (rs : List Reference) : Provenance := rs.foldl record empty

end Provenance

end Compliance
