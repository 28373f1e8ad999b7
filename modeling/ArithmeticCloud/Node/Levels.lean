import ArithmeticCloud.Wire.Protocol

/-!
Contract: the resource levels of a node.

Owns: the committed share, the one slot for a staged share, and the least share
that the node accepts. Committing promotes whatever was staged last.

Does not own: who offers shares, and when a staged share is settled.
-/

namespace ArithmeticCloud.Node

open Wire

structure Levels where
  /-- The share of the last commit; zero before the first. -/
  committed : UInt64
  /-- The staged share. -/
  proposed : UInt64
  /-- The least share that the node accepts. -/
  minimum : UInt64
deriving DecidableEq, Repr

namespace Levels

def initial (minimum : UInt64) : Levels := ⟨0, 0, minimum⟩

def stage (levels : Levels) (value : UInt64) : Levels := { levels with proposed := value }

/-- Votes on an offered share and stages it if it is accepted. -/
def offer (levels : Levels) (value : UInt64) : Vote × Levels :=
  if levels.minimum ≤ value then (.accept, levels.stage value) else (.reject, levels)

def commit (levels : Levels) : Levels := { levels with committed := levels.proposed }

def rollback (levels : Levels) : Levels := { levels with proposed := levels.committed }

/-- The effect of a request to the node. -/
def handle (levels : Levels) : NodeRequest → Levels
  | .share value => (levels.offer value).2
  | .commit _ => levels.commit
  | .rollback => levels.rollback
  | .compute .. | .getLogs => levels

/-- No share is staged that is not committed. -/
def Settled (levels : Levels) : Prop := levels.proposed = levels.committed

instance (levels : Levels) : Decidable levels.Settled := by
  unfold Settled
  infer_instance

end Levels

end ArithmeticCloud.Node
