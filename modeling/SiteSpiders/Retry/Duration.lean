import SiteSpiders.Crawl.Crash
import SiteSpiders.Number.Floating

/-!
# Durations

Spans of time in whole nanoseconds, and their products with a factor.
-/
namespace SiteSpiders.Retry

open Number

structure Duration where
  nanos : Nat
  deriving DecidableEq, Repr, Inhabited

namespace Duration

def perSecond : Nat := 1000000000

/-- All spans are below this many nanoseconds. -/
def bound : Nat := wordBound * perSecond

def zero : Duration := ⟨0⟩

def ofParts (seconds nanos : Nat) : Duration := ⟨seconds * perSecond + nanos⟩

def ofSeconds (n : Nat) : Duration := ofParts n 0

def ofMillis (n : Nat) : Duration := ⟨n * 1000000⟩

/-- The whole seconds of a span. -/
def seconds (d : Duration) : Nat := d.nanos / perSecond

/-- The nanoseconds of a span past its whole seconds. -/
def subNanos (d : Duration) : Nat := d.nanos % perSecond

/-- The whole milliseconds of a span. -/
def millis (d : Duration) : Nat := d.nanos / 1000000

/-- Two spans one after the other. -/
def plus (a b : Duration) : Duration := ⟨a.nanos + b.nanos⟩

def shorter (a b : Duration) : Duration := if a.nanos ≤ b.nanos then a else b

/-- A span in seconds as a double. -/
def toFloating (d : Duration) : Floating :=
  double.add (double.ofNat d.seconds)
    (double.div (double.ofNat d.subNanos) (double.ofNat perSecond))

/-- The nearest nanosecond to a number of seconds, a tie going to the even one. -/
def ofFloating : Floating → Except Crash Duration
  | .nan => .error .unboundedDelay
  | .infinite negative => .error (if negative then .negativeDelay else .unboundedDelay)
  | .finite negative m e =>
    if negative ∧ m ≠ 0 then .error .negativeDelay
    else
      let (num, den) := scaleDown 2 (m * perSecond) 1 (-e)
      let nanos := roundDiv num den
      if nanos < bound then .ok ⟨nanos⟩ else .error .unboundedDelay

def times (d : Duration) (factor : Floating) : Except Crash Duration :=
  ofFloating (double.mul d.toFloating factor)

end Duration

end SiteSpiders.Retry
