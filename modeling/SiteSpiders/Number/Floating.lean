/-!
# Floating-point numbers

Binary floating point as exact integers: a finite number is a sign, a mantissa
and a power of two, and every operation computes the exact result and then rounds
it to the nearest representable number, a tie going to the even mantissa.
-/
namespace SiteSpiders.Number

inductive Floating where
  | nan
  | infinite (negative : Bool)
  /-- Stands for `mantissa * 2 ^ exponent`, with the given sign. -/
  | finite (negative : Bool) (mantissa : Nat) (exponent : Int)
  deriving Repr, DecidableEq, Inhabited

/-- The shape of a binary format: bits of the mantissa, and the least and greatest exponent. -/
structure FloatFormat where
  precision : Nat
  minExponent : Int
  maxExponent : Int
  exponentBits : Nat

def double : FloatFormat := ⟨53, -1074, 971, 11⟩

def single : FloatFormat := ⟨24, -149, 104, 8⟩

/-- A quotient rounded to the nearest integer, a tie going to the even one. -/
def roundDiv (num den : Nat) : Nat :=
  let q := num / den
  let r := num % den
  if 2 * r < den then q
  else if den < 2 * r then q + 1
  else if q % 2 = 0 then q else q + 1

/-- Numerator and denominator of `num / den / base ^ exponent`. -/
def scaleDown (base num den : Nat) (exponent : Int) : Nat × Nat :=
  if 0 ≤ exponent then (num, den * Nat.pow base exponent.toNat)
  else (num * Nat.pow base (-exponent).toNat, den)

namespace FloatFormat

/-- The exponent at which `num / den` has a mantissa of full length. -/
def exponentFor (f : FloatFormat) (num den : Nat) : Int :=
  let guess : Int := (num.log2 : Int) - den.log2 - f.precision + 1
  let (n, d) := scaleDown 2 num den guess
  let adjusted := if n / d < Nat.pow 2 (f.precision - 1) then guess - 1 else guess
  max adjusted f.minExponent

/-- The number of the format nearest to `num / den`. -/
def round (f : FloatFormat) (negative : Bool) (num den : Nat) : Floating :=
  if num = 0 then .finite negative 0 f.minExponent
  else
    let e := f.exponentFor num den
    let (n, d) := scaleDown 2 num den e
    let m := roundDiv n d
    let (m, e) := if m = Nat.pow 2 f.precision then (Nat.pow 2 (f.precision - 1), e + 1) else (m, e)
    if f.maxExponent < e then .infinite negative else .finite negative m e

/-- The number of the format nearest to `mantissa * 2 ^ exponent`. -/
def roundScaled (f : FloatFormat) (negative : Bool) (mantissa : Nat) (exponent : Int) : Floating :=
  if 0 ≤ exponent then f.round negative (mantissa * Nat.pow 2 exponent.toNat) 1
  else f.round negative mantissa (Nat.pow 2 (-exponent).toNat)

/-- The number of the format nearest to a natural number. -/
def ofNat (f : FloatFormat) (n : Nat) : Floating := f.round false n 1

/-- The number of the format nearest to an integer. -/
def ofInt (f : FloatFormat) (n : Int) : Floating := f.round (n < 0) n.natAbs 1

/-- The number of the format nearest to another number. -/
def convert (f : FloatFormat) : Floating → Floating
  | .nan => .nan
  | .infinite s => .infinite s
  | .finite s m e => f.roundScaled s m e

/-- The number of the format nearest to `digits * 10 ^ power`. -/
def ofDecimal (f : FloatFormat) (negative : Bool) (digits : Nat) (power : Int) : Floating :=
  if digits = 0 then .finite negative 0 f.minExponent
  else if 400 < power then .infinite negative
  else if power + (Nat.toDigits 10 digits).length < -400 then .finite negative 0 f.minExponent
  else if 0 ≤ power then f.round negative (digits * Nat.pow 10 power.toNat) 1
  else f.round negative digits (Nat.pow 10 (-power).toNat)

def mul (f : FloatFormat) : Floating → Floating → Floating
  | .finite s m e, .finite t n g => f.roundScaled (s != t) (m * n) (e + g)
  | .infinite s, .infinite t => .infinite (s != t)
  | .infinite s, .finite t n _ => if n = 0 then .nan else .infinite (s != t)
  | .finite s m _, .infinite t => if m = 0 then .nan else .infinite (s != t)
  | .nan, _ => .nan
  | _, .nan => .nan

def div (f : FloatFormat) : Floating → Floating → Floating
  | .finite s m e, .finite t n g =>
    if n = 0 then (if m = 0 then .nan else .infinite (s != t))
    else
      let d := e - g
      if 0 ≤ d then f.round (s != t) (m * Nat.pow 2 d.toNat) n
      else f.round (s != t) m (n * Nat.pow 2 (-d).toNat)
  | .finite s _ _, .infinite t => .finite (s != t) 0 f.minExponent
  | .infinite s, .finite t _ _ => .infinite (s != t)
  | .infinite _, .infinite _ => .nan
  | .nan, _ => .nan
  | _, .nan => .nan

/-- Rounded sum; an exact zero is positive unless both terms are negative zeros. -/
def add (f : FloatFormat) : Floating → Floating → Floating
  | .finite s m e, .finite t n g =>
    let low := min e g
    let a : Int := (m * Nat.pow 2 (e - low).toNat : Nat)
    let b : Int := (n * Nat.pow 2 (g - low).toNat : Nat)
    let sum := (if s then -a else a) + (if t then -b else b)
    let negative := if sum = 0 then s && t else decide (sum < 0)
    f.roundScaled negative sum.natAbs low
  | .infinite s, .infinite t => if s = t then .infinite s else .nan
  | .infinite s, .finite .. => .infinite s
  | .finite .., .infinite t => .infinite t
  | .nan, _ => .nan
  | _, .nan => .nan

/-- The encoding of a number of the format: sign, biased exponent, fraction. -/
def bits (f : FloatFormat) : Floating → Nat
  | .nan =>
    (Nat.pow 2 f.exponentBits - 1) * Nat.pow 2 (f.precision - 1) + Nat.pow 2 (f.precision - 2)
  | .infinite s =>
    (if s then Nat.pow 2 (f.exponentBits + f.precision - 1) else 0)
      + (Nat.pow 2 f.exponentBits - 1) * Nat.pow 2 (f.precision - 1)
  | .finite s m e =>
    let sign := if s then Nat.pow 2 (f.exponentBits + f.precision - 1) else 0
    let hidden := Nat.pow 2 (f.precision - 1)
    if m < hidden then sign + m
    else sign + (e - f.minExponent + 1).toNat * hidden + (m - hidden)

/-- Whether `digits * 10 ^ power` rounds to the finite number `m * 2 ^ e`. -/
def readsBack (f : FloatFormat) (m : Nat) (e : Int) (digits : Nat) (power : Int) : Bool :=
  f.ofDecimal false digits power == f.roundScaled false m e

end FloatFormat

/-- The decimal exponent of `num / den`: the `k` with `10 ^ k ≤ num / den < 10 ^ (k + 1)`. -/
def decimalExponent (num den : Nat) : Int :=
  if den ≤ num then ((Nat.toDigits 10 (num / den)).length : Int) - 1
  else
    let rec climb : Nat → Nat → Nat → Int
      | 0, _, k => -(k : Int)
      | fuel + 1, n, k => if den ≤ n then -(k : Int) else climb fuel (n * 10) (k + 1)
    climb 400 num 0

def distance (a b : Nat) : Nat := (a - b) + (b - a)

/-- Of the two decimals `digits * 10 ^ power` next to `num / den`, the one that reads back as
`m * 2 ^ e`; if both do, the nearer, a tie going to even digits. -/
def FloatFormat.decimalAt (f : FloatFormat) (m : Nat) (e : Int) (num den : Nat) (power : Int) :
    Option (Nat × Int) :=
  let (a, b) := scaleDown 10 num den power
  let low := a / b
  let lowOk := f.readsBack m e low power && low != 0
  let highOk := f.readsBack m e (low + 1) power
  match lowOk, highOk with
  | true, true =>
    let dl := distance a (low * b)
    let dh := distance a ((low + 1) * b)
    if dl < dh then some (low, power)
    else if dh < dl then some (low + 1, power)
    else some (if low % 2 = 0 then low else low + 1, power)
  | true, false => some (low, power)
  | false, true => some (low + 1, power)
  | false, false => none

/-- The shortest decimal `digits * 10 ^ power` that rounds to the positive number
`m * 2 ^ e` of a format; among the shortest the nearest, a tie going to even digits. -/
def shortest (f : FloatFormat) (m : Nat) (e : Int) : Nat × Int :=
  let (num, den) := scaleDown 2 m 1 (-e)
  let top := decimalExponent num den
  match (List.range 17).findSome? fun i : Nat => f.decimalAt m e num den (top - i) with
  | some r => r
  | none => (num / den, 0)

/-- Strips trailing zeros of the digits into the power. -/
def stripZeros : Nat → Nat × Int → Nat × Int
  | 0, r => r
  | fuel + 1, (digits, power) =>
    if digits % 10 = 0 ∧ digits ≠ 0 then stripZeros fuel (digits / 10, power + 1)
    else (digits, power)

/-- Decimal text of a natural number. -/
def decimalText (n : Nat) : String := String.ofList (Nat.toDigits 10 n)

/-- A number with two decimals, the exact value rounded to the nearest and ties to even. -/
def twoPlaces : Floating → String
  | .nan => "NaN"
  | .infinite s => if s then "-inf" else "inf"
  | .finite s m e =>
    let hundredths :=
      if 0 ≤ e then m * Nat.pow 2 e.toNat * 100 else roundDiv (m * 100) (Nat.pow 2 (-e).toNat)
    let cents := hundredths % 100
    (if s then "-" else "") ++ decimalText (hundredths / 100) ++ "."
      ++ (if cents < 10 then "0" else "") ++ decimalText cents

/-- The last `width` hexadecimal digits of a number. -/
def hexText (width n : Nat) : String :=
  let rec digits : Nat → Nat → List Char
    | 0, _ => []
    | w + 1, k =>
      let d := k % 16
      digits w (k / 16) ++ [if d < 10 then Char.ofNat (d + 48) else Char.ofNat (d + 87)]
  String.ofList (digits width n)

end SiteSpiders.Number
