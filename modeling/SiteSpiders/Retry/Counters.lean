import SiteSpiders.Retry.Policy
import SiteSpiders.Url.Basic

/-!
# Retry counters

How many attempts each address has used of each category, and the decision
whether a response is tried again.
-/
namespace SiteSpiders.Retry

structure Usage where
  counts : List (Category × Nat) := []
  total : Nat := 0
  deriving DecidableEq, Repr, Inhabited

/-- The attempts used of a category. -/
def Usage.count (u : Usage) (category : Category) : Nat := (u.counts.lookup category).getD 0

/-- Sets the value of a key, in place if it is there and at the end if not. -/
def assign [DecidableEq α] (key : α) (value : β) : List (α × β) → List (α × β)
  | [] => [(key, value)]
  | (k, v) :: rest => if k = key then (key, value) :: rest else (k, v) :: assign key value rest

/-- Uses an attempt of a category. -/
def Usage.spend (u : Usage) (category : Category) : Usage where
  counts := assign category (u.count category + 1) u.counts
  total := u.total + 1

/-- The attempts used, by the text of the address. -/
structure Counters where
  usages : List (String × Usage) := []
  deriving DecidableEq, Repr, Inhabited

namespace Counters

/-- The attempts an address has used. -/
def usage (c : Counters) (url : Url) : Usage := (c.usages.lookup url.text).getD {}

/-- The first category, in the order given, that applies and has attempts left. -/
def choose (categories : List (Category × CategoryConfig)) (u : Usage) (status : Nat)
    (content : String) : Option (Category × CategoryConfig) :=
  categories.find? fun c => u.count c.1 < c.2.maxRetries && c.2.applies status content

/-- Decides whether a response is tried again. If so, an attempt is used, whatever comes of the
delay. -/
def consider (c : Counters) (categories : List (Category × CategoryConfig)) (url : Url)
    (status : Nat) (content : String) : Option (Category × Except Crash Duration) × Counters :=
  let u := c.usage url
  match choose categories u status content with
  | none => (none, c)
  | some (category, config) =>
    (some (category, config.delay (u.count category)),
      ⟨assign url.text (u.spend category) c.usages⟩)

end Counters

end SiteSpiders.Retry
