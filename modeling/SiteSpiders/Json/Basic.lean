import SiteSpiders.Number.Floating

/-!
# JSON values

Values as they are stored, sent along with requests and read back. The fields of
an object are kept in the order of their names, each name once.
-/
namespace SiteSpiders

/-- A number: a natural number or a negative integer of 64 bits, or a double. -/
inductive JsonNumber where
  | natural (n : Nat)
  /-- The integer `-n`. -/
  | negative (n : Nat)
  | floating (x : Number.Floating)
  deriving Repr, BEq, DecidableEq, Inhabited

inductive Json where
  | null
  | bool (b : Bool)
  | number (n : JsonNumber)
  | string (s : String)
  | array (items : List Json)
  | object (fields : List (String × Json))
  deriving Inhabited, BEq

namespace Json

/-- Adds a field to fields in order, replacing one of the same name. -/
def insertField (key : String) (value : Json) : List (String × Json) → List (String × Json)
  | [] => [(key, value)]
  | (k, v) :: rest =>
    if key < k then (key, value) :: (k, v) :: rest
    else if key = k then (key, value) :: rest
    else (k, v) :: insertField key value rest

/-- An object from fields in any order; of two fields with one name the later stays. -/
def ofFields (fields : List (String × Json)) : Json :=
  .object (fields.foldl (fun acc f => insertField f.1 f.2 acc) [])

def field? (key : String) : Json → Option Json
  | .object fields => fields.lookup key
  | _ => none

/-- A natural number as a value. -/
def ofNat (n : Nat) : Json := .number (.natural n)

end Json

namespace JsonNumber

open Number

/-- Takes digits onto a number as long as it fits 64 bits. Returns it with the count of the digits
left out. -/
def takeDigits : Nat → List Nat → Nat × Nat
  | n, [] => (n, 0)
  | n, d :: rest =>
    if n * 10 + d < Nat.pow 2 64 then takeDigits (n * 10 + d) rest else (n, rest.length + 1)

/-- The double nearest to a power of ten. -/
def powerOfTen (k : Nat) : Floating := double.ofDecimal false 1 k

/-- The greatest power of ten a double can hold. -/
def greatestPower : Nat := 308

/-- A double scaled by a power of ten, rounded once; far below one it is scaled in steps. -/
def scaled (x : Floating) : Nat → Int → Floating
  | 0, _ => x
  | steps + 1, power =>
    if 0 ≤ power then double.mul x (powerOfTen power.toNat)
    else if -(greatestPower : Int) ≤ power then double.div x (powerOfTen (-power).toNat)
    else scaled (double.div x (powerOfTen greatestPower)) steps (power + greatestPower)

/-- A number with the sign set. -/
def signed (isNegative : Bool) : Floating → Floating
  | .nan => .nan
  | .infinite _ => .infinite isNegative
  | .finite _ m e => .finite isNegative m e

/-- The number a literal denotes: an integer if it is written as one and fits 64 bits, else a
double. The double is rounded twice: the leading digits that fit 64 bits are, and then their
product with a power of ten. -/
def ofLiteral (isNegative : Bool) (whole fraction : List Nat) (isInteger : Bool) (power : Int) :
    JsonNumber :=
  let (leading, leftOut) := takeDigits 0 whole
  let (digits, fractionLeft) := takeDigits leading fraction
  let scale : Int := (leftOut : Int) - ((fraction.length : Int) - fractionLeft) + power
  let size := if digits = 0 then double.ofNat 0 else scaled (double.ofNat digits) 4 scale
  let float := JsonNumber.floating (signed isNegative size)
  if isInteger ∧ leftOut = 0 then
    if isNegative then
      if digits = 0 ∨ Nat.pow 2 63 < digits then float else .negative digits
    else .natural digits
  else float

end JsonNumber

end SiteSpiders
