import Std.Data.HashMap
import SiteSpiders.Html.EntityTable
import SiteSpiders.Text.CharSet

/-!
# Character references

What follows an ampersand: a name, a decimal or a hexadecimal code point.
-/
namespace SiteSpiders.Html

def entities : Std.HashMap String (List Char) :=
  (Text.words entityText).foldl (fun m word =>
    match Text.divide '=' word with
    | name :: points :: _ =>
      m.insert (String.ofList name)
        ((Text.divide ',' points).map fun p => Char.ofNat (Text.hexOfList p))
    | _ => m) {}

/-- The longest name of a reference. -/
def longestEntity : Nat := 40

def isAlnum (c : Char) : Bool := c.isAlphanum

/-- The longest named reference a text starts with, of at most the given length: what it stands
for, whether it ended in a semicolon, and the rest. -/
def longestName (cs : List Char) : Nat → Option (List Char × Bool × List Char)
  | 0 => none
  | n + 1 =>
    let name := cs.take (n + 1)
    if name.length = n + 1 then
      match entities.get? (String.ofList name) with
      | some found => some (found, name.getLast? == some ';', cs.drop (n + 1))
      | none => longestName cs n
    else longestName cs n

/-- Replacements for numeric references to a block of control characters. -/
def controlReplacement (n : Nat) : Nat :=
  let table := [0x20ac, 0x81, 0x201a, 0x192, 0x201e, 0x2026, 0x2020, 0x2021, 0x2c6, 0x2030, 0x160,
    0x2039, 0x152, 0x8d, 0x17d, 0x8f, 0x90, 0x2018, 0x2019, 0x201c, 0x201d, 0x2022, 0x2013, 0x2014,
    0x2dc, 0x2122, 0x161, 0x203a, 0x153, 0x9d, 0x17e, 0x178]
  if 0x80 ≤ n ∧ n ≤ 0x9f then (table[n - 0x80]?).getD n else n

/-- The character a numeric reference stands for. -/
def numericChar (n : Nat) : Char :=
  if n = 0 ∨ 0x10ffff < n ∨ (0xd800 ≤ n ∧ n ≤ 0xdfff) then Char.ofNat 0xfffd
  else Char.ofNat (controlReplacement n)

/-- The number that digits of a base denote, held below a bound past the last code point. -/
def cappedValue (base : Nat) (cs : List Char) : Nat :=
  cs.foldl (fun n c => min 0x110000 (n * base + (Text.hexDigit? c).getD 0)) 0

/-- A numeric reference after its number sign. -/
def numericReference (cs : List Char) : Option (List Char × List Char) :=
  let (base, digitsFrom) := match cs with
    | 'x' :: rest | 'X' :: rest => (16, rest)
    | _ => (10, cs)
  let isDigit := fun (c : Char) => if base = 16 then (Text.hexDigit? c).isSome else c.isDigit
  let digits := digitsFrom.takeWhile isDigit
  if digits.isEmpty then none
  else
    let rest := match digitsFrom.drop digits.length with
      | ';' :: more => more
      | more => more
    some ([numericChar (cappedValue base digits)], rest)

/-- The characters for a reference after its ampersand, and the rest. What is no reference stays an
ampersand. -/
def reference (inAttribute : Bool) (cs : List Char) : List Char × List Char :=
  match cs with
  | '#' :: rest =>
    match numericReference rest with
    | some found => found
    | none => (['&'], cs)
  | c :: _ =>
    if isAlnum c then
      match longestName cs longestEntity with
      | some (found, ended, rest) =>
        let blocked := inAttribute && !ended && (match rest with
          | d :: _ => d == '=' || isAlnum d
          | [] => false)
        if blocked then (['&'], cs) else (found, rest)
      | none => (['&'], cs)
    else (['&'], cs)
  | [] => (['&'], [])

end SiteSpiders.Html
