import SiteSpiders.Pattern.Parser
import SiteSpiders.Retry.Duration
import SiteSpiders.Text.Literal
import SiteSpiders.Unicode.Casing

/-!
# Retry policies

Responses that ask for another attempt are sorted into categories. A category has
conditions, a budget of attempts per address, and a delay that grows with the
attempts already made.
-/
namespace SiteSpiders.Retry

open Number

inductive Category where
  | rateLimit
  | serverError
  | botDetection
  | custom (name : String)
  deriving DecidableEq, Repr, Inhabited

/-- The text of a category in reports. -/
def Category.label : Category → String
  | .rateLimit => "RateLimit"
  | .serverError => "ServerError"
  | .botDetection => "BotDetection"
  | .custom name => "Custom(" ++ Text.literal name ++ ")"

inductive Condition where
  | status (code : Nat)
  /-- Both ends belong to the range. -/
  | range (low high : Nat)
  /-- The text occurs in the body, in any case of letters. -/
  | text (text : String)
  /-- The pattern occurs in the body. `source` is how it was written. -/
  | pattern (source : String) (pattern : Pattern)

/-- Whether a text occurs in another. -/
def occursIn (needle : List Char) : List Char → Bool
  | [] => needle.isEmpty
  | c :: rest => needle.isPrefixOf (c :: rest) || occursIn needle rest

/-- Whether a text occurs in a content once both are in lower case. -/
def mentions (text content : String) : Bool :=
  occursIn (Unicode.lower text).toList (Unicode.lower content).toList

/-- Whether a response meets a condition. -/
def Condition.holds (status : Nat) (content : String) : Condition → Bool
  | .status code => code == status
  | .range low high => low ≤ status && status ≤ high
  | .text t => mentions t content
  | .pattern _ p => p.isMatch content

inductive Backoff where
  | constant
  | linear
  /-- The factor is of single precision. -/
  | exponential (factor : Floating)

/-- A power by repeated squaring in single precision. -/
def powerLoop (a r : Floating) (n : Nat) : Floating :=
  let r := if n % 2 = 1 then single.mul r a else r
  if n / 2 = 0 then r else powerLoop (single.mul a a) r (n / 2)
termination_by n
decreasing_by omega

/-- A power in single precision; a negative exponent gives the reciprocal. -/
def power (a : Floating) (n : Int) : Floating :=
  let r := powerLoop a (single.ofNat 1) n.natAbs
  if n < 0 then single.div (single.ofNat 1) r else r

/-- The number of an attempt as a signed word of 32 bits. -/
def attemptExponent (attempt : Nat) : Int := Int.bmod attempt (Nat.pow 2 32)

structure CategoryConfig where
  maxRetries : Nat := 3
  initialDelay : Duration := .ofSeconds 1
  maxDelay : Duration := .ofSeconds 60
  backoff : Backoff := .exponential (single.ofNat 2)
  conditions : List Condition := []

namespace CategoryConfig

/-- The delay before it is cut to the greatest one. -/
def rawDelay (c : CategoryConfig) (attempt : Nat) : Except Crash Duration :=
  match c.backoff with
  | .constant => .ok c.initialDelay
  | .linear => c.initialDelay.times (single.ofNat attempt)
  | .exponential factor => c.initialDelay.times (power factor (attemptExponent attempt))

/-- The delay after so many attempts. The first delay is taken as it is. -/
def delay (c : CategoryConfig) (attempt : Nat) : Except Crash Duration :=
  if attempt = 0 then .ok c.initialDelay
  else (c.rawDelay attempt).map fun d => d.shorter c.maxDelay

/-- Whether a response belongs to the category. -/
def applies (c : CategoryConfig) (status : Nat) (content : String) : Bool :=
  c.conditions.any fun k => k.holds status content

end CategoryConfig

structure Policy where
  categories : List (Category × CategoryConfig) := []

/-- Sets the treatment of a category. -/
def Policy.insert (p : Policy) (category : Category) (config : CategoryConfig) : Policy :=
  ⟨p.categories.filter (fun c => c.1 != category) ++ [(category, config)]⟩

/-- The wording of a rate limit. -/
def rateLimitSource : String := "rate limit|too many requests"

/-- A body that speaks of a rate limit. -/
def rateLimitPattern : Pattern :=
  .choice [.literal "rate limit", .literal "too many requests"]

/-- Rate limits are waited out longest. -/
def politeRateLimit : CategoryConfig where
  maxRetries := 5
  conditions := [.status 429, .pattern rateLimitSource rateLimitPattern]

/-- Server errors are waited out for a time that grows evenly. -/
def politeServerError : CategoryConfig where
  maxRetries := 3
  conditions := [.range 500 599]
  backoff := .linear

/-- A careful policy for public sites: waits on rate limits and on server errors. -/
def Policy.polite : Policy where
  categories := [(.rateLimit, politeRateLimit), (.serverError, politeServerError)]

end SiteSpiders.Retry
