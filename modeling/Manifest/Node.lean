import Manifest.Table

/-!
# Nodes

## Main definitions

* `Node` — what a catalog is compiled for.
* `Node.same` — equality of nodes, which does not depend on the order of the facts.
-/

namespace Manifest

/-- A node, with the facts it reports. -/
structure Node where
  name : String
  /-- Facts become variables of the top scope. -/
  facts : Table String
  /-- The environment that the node asks for. -/
  environment : Option String
  deriving DecidableEq

namespace Node

/-- Whether two nodes agree in name, facts and environment. -/
def same (a b : Node) : Bool :=
  a.name == b.name && a.facts.sameEntries b.facts && a.environment == b.environment

end Node

end Manifest
