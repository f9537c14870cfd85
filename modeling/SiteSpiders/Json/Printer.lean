import SiteSpiders.Json.Basic

/-!
# Compact JSON text

No blanks between tokens, control characters escaped, all other characters
written as they are. A double has the fewest digits that read back to it.
-/
namespace SiteSpiders

namespace Json

/-- A control character inside a string: a short escape where there is one. -/
def controlEscape (c : Char) : List Char :=
  if c = '\n' then ['\\', 'n']
  else if c = '\r' then ['\\', 'r']
  else if c = '\t' then ['\\', 't']
  else if c.toNat = 8 then ['\\', 'b']
  else if c.toNat = 12 then ['\\', 'f']
  else '\\' :: 'u' :: (Number.hexText 4 c.toNat).toList

def stringChar (c : Char) : List Char :=
  if c = '"' then ['\\', '"']
  else if c = '\\' then ['\\', '\\']
  else if c.toNat < 0x20 then controlEscape c
  else [c]

def quoted (s : String) : List Char := '"' :: (s.toList.flatMap stringChar ++ ['"'])

/-- Digits with a point after the first, if there is more than one. -/
def pointed : List Char → List Char
  | [] => []
  | [d] => [d]
  | d :: rest => d :: '.' :: rest

/-- A positive double: positional from `1e-5` up to sixteen places before the point, with an
signed exponent outside. -/
def positiveDouble (m : Nat) (e : Int) : List Char :=
  let (digits, power) := Number.stripZeros 20 (Number.shortest Number.double m e)
  let text := Nat.toDigits 10 digits
  let places := (text.length : Int) + power
  if 0 ≤ power ∧ places ≤ 16 then text ++ List.replicate power.toNat '0' ++ ['.', '0']
  else if 0 < places ∧ places ≤ 16 then
    text.take places.toNat ++ '.' :: text.drop places.toNat
  else if -5 < places ∧ places ≤ 0 then
    '0' :: '.' :: (List.replicate (-places).toNat '0' ++ text)
  else
    let exponent := places - 1
    pointed text ++ 'e' :: (if exponent < 0 then '-' else '+') ::
      Nat.toDigits 10 exponent.natAbs

/-- A double; what is not finite has no JSON form and becomes null. -/
def doubleChars : Number.Floating → List Char
  | .finite s m e =>
    (if s then ['-'] else []) ++ (if m = 0 then ['0', '.', '0'] else positiveDouble m e)
  | _ => ['n', 'u', 'l', 'l']

def numberChars : JsonNumber → List Char
  | .natural n => Nat.toDigits 10 n
  | .negative n => '-' :: Nat.toDigits 10 n
  | .floating x => doubleChars x

def commaJoin : List (List Char) → List Char
  | [] => []
  | [item] => item
  | item :: rest => item ++ ',' :: commaJoin rest

mutual
/-- The compact text of a value. -/
def chars : Json → List Char
  | .null => ['n', 'u', 'l', 'l']
  | .bool b => if b then ['t', 'r', 'u', 'e'] else ['f', 'a', 'l', 's', 'e']
  | .number n => numberChars n
  | .string s => quoted s
  | .array items => '[' :: (commaJoin (itemChars items) ++ [']'])
  | .object fields => '\x7b' :: (commaJoin (fieldChars fields) ++ ['\x7d'])

/-- The compact texts of the items of an array. -/
def itemChars : List Json → List (List Char)
  | [] => []
  | item :: rest => item.chars :: itemChars rest

/-- The compact texts of the fields of an object. -/
def fieldChars : List (String × Json) → List (List Char)
  | [] => []
  | (key, value) :: rest => (quoted key ++ ':' :: value.chars) :: fieldChars rest
end

/-- The compact text of a value. -/
def compact (j : Json) : String := String.ofList j.chars

end Json

end SiteSpiders
