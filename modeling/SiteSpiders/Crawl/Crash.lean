/-!
# Crashes

Ways in which a task breaks off instead of returning.
-/
namespace SiteSpiders

inductive Crash where
  | addOverflow
  | subtractOverflow
  | negativeDelay
  | unboundedDelay
  /-- A spider gave up by itself. -/
  | deliberate
  deriving DecidableEq, Repr, Inhabited

def Crash.message : Crash → String
  | .addOverflow => "attempt to add with overflow"
  | .subtractOverflow => "attempt to subtract with overflow"
  | .negativeDelay => "cannot convert float seconds to Duration: value is negative"
  | .unboundedDelay => "cannot convert float seconds to Duration: value is either too big or NaN"
  | .deliberate => "scripted panic"

/-- The bound of counters and depths. -/
def wordBound : Nat := Nat.pow 2 64

/-- A sum that has to stay below the bound. -/
def addWord (a b : Nat) : Except Crash Nat :=
  if a + b < wordBound then .ok (a + b) else .error .addOverflow

end SiteSpiders
