import SiteSpiders.Json.Basic
import SiteSpiders.Text.CharSet

/-!
# Reading JSON text

A recursive reader over characters. Its fuel is the length of the text, which
bounds the nesting.
-/
namespace SiteSpiders.Json

def skipBlanks : List Char → List Char :=
  List.dropWhile fun c => c == ' ' || c == '\n' || c == '\r' || c == '\t'

def readUnit : List Char → Option (Nat × List Char)
  | a :: b :: c :: d :: rest => do
    let w ← Text.hexDigit? a
    let x ← Text.hexDigit? b
    let y ← Text.hexDigit? c
    let z ← Text.hexDigit? d
    pure (((w * 16 + x) * 16 + y) * 16 + z, rest)
  | _ => none

/-- The rest of a string after its opening quote, read onto `acc` in reverse. -/
def readString : Nat → List Char → List Char → Option (String × List Char)
  | 0, _, _ => none
  | _ + 1, _, [] => none
  | _ + 1, acc, '"' :: rest => some (String.ofList acc.reverse, rest)
  | fuel + 1, acc, '\\' :: 'u' :: rest => do
    let (u, rest) ← readUnit rest
    if 0xd800 ≤ u ∧ u < 0xdc00 then
      match rest with
      | '\\' :: 'u' :: more => do
        let (v, more) ← readUnit more
        let n := 0x10000 + (u - 0xd800) * 0x400 + (v - 0xdc00)
        readString fuel (Char.ofNat n :: acc) more
      | _ => none
    else readString fuel (Char.ofNat u :: acc) rest
  | fuel + 1, acc, '\\' :: c :: rest =>
    let plain := match c with
      | 'n' => '\n'
      | 'r' => '\r'
      | 't' => '\t'
      | 'b' => Char.ofNat 8
      | 'f' => Char.ofNat 12
      | other => other
    readString fuel (plain :: acc) rest
  | fuel + 1, acc, c :: rest => readString fuel (c :: acc) rest

/-- The value of a decimal digit. -/
def digitOf (c : Char) : Nat := c.toNat - '0'.toNat

/-- The number that decimal digits denote. -/
def digitsValue (cs : List Char) : Nat := cs.foldl (fun n c => n * 10 + digitOf c) 0

/-- The exponent of a number, with the rest. -/
def readExponent : List Char → Option Int × List Char
  | 'e' :: rest | 'E' :: rest =>
    let (negative, rest) := match rest with
      | '-' :: more => (true, more)
      | '+' :: more => (false, more)
      | more => (false, more)
    let digits := rest.takeWhile Char.isDigit
    let value : Int := digitsValue digits
    (some (if negative then -value else value), rest.dropWhile Char.isDigit)
  | rest => (none, rest)

def readNumber (cs : List Char) : JsonNumber × List Char :=
  let (negative, cs) := match cs with
    | '-' :: rest => (true, rest)
    | _ => (false, cs)
  let whole := cs.takeWhile Char.isDigit
  let cs := cs.dropWhile Char.isDigit
  let (fraction, hasPoint, cs) := match cs with
    | '.' :: rest => (rest.takeWhile Char.isDigit, true, rest.dropWhile Char.isDigit)
    | _ => ([], false, cs)
  let (exponent, cs) := readExponent cs
  let isInteger := !hasPoint && exponent.isNone
  (JsonNumber.ofLiteral negative (whole.map digitOf) (fraction.map digitOf) isInteger
    (exponent.getD 0), cs)

mutual
def readValue : Nat → List Char → Option (Json × List Char)
  | 0, _ => none
  | fuel + 1, cs =>
    match skipBlanks cs with
    | 'n' :: 'u' :: 'l' :: 'l' :: rest => some (.null, rest)
    | 't' :: 'r' :: 'u' :: 'e' :: rest => some (.bool true, rest)
    | 'f' :: 'a' :: 'l' :: 's' :: 'e' :: rest => some (.bool false, rest)
    | '"' :: rest => (readString (rest.length + 1) [] rest).map fun (s, more) => (.string s, more)
    | '[' :: rest =>
      match skipBlanks rest with
      | ']' :: more => some (.array [], more)
      | more => (readItems fuel [] more).map fun (items, more) => (.array items, more)
    | '\x7b' :: rest =>
      match skipBlanks rest with
      | '\x7d' :: more => some (.object [], more)
      | more => (readFields fuel [] more).map fun (fields, more) => (ofFields fields, more)
    | c :: rest =>
      if c == '-' || c.isDigit then
        let (n, more) := readNumber (c :: rest)
        some (.number n, more)
      else none
    | [] => none

/-- The items of an array after its bracket, onto `acc` in reverse. -/
def readItems : Nat → List Json → List Char → Option (List Json × List Char)
  | 0, _, _ => none
  | fuel + 1, acc, cs => do
    let (item, rest) ← readValue fuel cs
    match skipBlanks rest with
    | ',' :: more => readItems fuel (item :: acc) more
    | ']' :: more => some ((item :: acc).reverse, more)
    | _ => none

/-- The fields of an object after its brace, onto `acc` in reverse. -/
def readFields : Nat → List (String × Json) → List Char → Option (List (String × Json) × List Char)
  | 0, _, _ => none
  | fuel + 1, acc, cs =>
    match skipBlanks cs with
    | '"' :: rest => do
      let (key, rest) ← readString (rest.length + 1) [] rest
      match skipBlanks rest with
      | ':' :: more => do
        let (value, rest) ← readValue fuel more
        match skipBlanks rest with
        | ',' :: more => readFields fuel ((key, value) :: acc) more
        | '\x7d' :: more => some (((key, value) :: acc).reverse, more)
        | _ => none
      | _ => none
    | _ => none
end

def read? (s : String) : Option Json :=
  let cs := s.toList
  (readValue (cs.length + 1) cs).bind fun (j, rest) =>
    if (skipBlanks rest).isEmpty then some j else none

end SiteSpiders.Json
