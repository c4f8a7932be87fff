/-! Limits that the rule builder and the checks of foreign input go by. -/
namespace WorkflowRules

/-- `maxDepth` is the deepest nesting the builder offers to create, and conditions
authored elsewhere may nest deeper by the tolerance. -/
structure Limits where
  maxDepth : UInt64
  depthTolerance : UInt64
  suggestionLimit : UInt64
deriving DecidableEq

namespace Limits

def standard : Limits := ⟨3, 1, 8⟩

instance : Inhabited Limits := ⟨standard⟩

/-- Levels accepted on reading; the sum stops at the largest word. -/
def acceptedDepth (limits : Limits) : Nat :=
  min (limits.maxDepth.toNat + limits.depthTolerance.toNat) (UInt64.size - 1)

end Limits

end WorkflowRules
