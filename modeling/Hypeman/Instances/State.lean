import Mathlib.Tactic.TypeStar

/-!
# Instance states

The states of an instance (`lib/instances/types.go`, `lib/instances/state.go`).
-/

namespace Hypeman.Instances

inductive State
  | stopped
  | created
  | initializing
  | running
  | paused
  | shutdown
  | standby
  | unknown
deriving DecidableEq, Repr

end Hypeman.Instances
