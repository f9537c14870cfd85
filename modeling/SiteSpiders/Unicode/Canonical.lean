import SiteSpiders.Text.CharSet
import SiteSpiders.Unicode.CanonicalTable

/-!
# Canonical composition

The composed normal form: characters are decomposed, marks are put in the order
of their combining classes, and everything that composes is composed again.
-/
namespace SiteSpiders.Unicode

open SiteSpiders.Text (bisect divide hexOfList words)

/-- Full decompositions in the order of the characters they belong to. -/
def decompositions : Array (Nat × List Nat) :=
  ((words decompositionText).map fun word =>
    match divide '=' word with
    | a :: d :: _ => (hexOfList a, (divide ',' d).map hexOfList)
    | _ => (0, [])).toArray

/-- A pair of code points as one key. -/
def pairKey (a b : Nat) : Nat := a * 0x200000 + b

/-- Compositions in the order of the keys of their pairs. -/
def compositions : Array (Nat × Nat) :=
  ((words compositionText).map fun word =>
    match divide '=' word with
    | p :: c :: _ =>
      match divide ',' p with
      | a :: b :: _ => (pairKey (hexOfList a) (hexOfList b), hexOfList c)
      | _ => (0, 0)
    | _ => (0, 0)).toArray

/-- Ranges with a combining class other than zero. -/
def combiningRanges : Array (Nat × Nat × Nat) :=
  ((words combiningText).map fun word =>
    match divide '=' word with
    | r :: v :: _ =>
      let cls := v.foldl (fun n c => n * 10 + (c.toNat - 48)) 0
      match divide '-' r with
      | a :: b :: _ => (hexOfList a, hexOfList b, cls)
      | _ => (hexOfList r, hexOfList r, cls)
    | _ => (1, 0, 0)).toArray

/-- The first combining mark: nothing before it combines with what precedes it. -/
def firstMark : Nat := 0x300

/-- The combining class of a code point. -/
def combiningClass (n : Nat) : Nat :=
  if n < firstMark then 0
  else match bisect (fun j => (combiningRanges[j]?.getD (0, 0, 0)).1) n 0 combiningRanges.size with
    | 0 => 0
    | j + 1 =>
      match combiningRanges[j]? with
      | some (_, b, cls) => if n ≤ b then cls else 0
      | none => 0

/-- The first code point that decomposes. -/
def firstComposed : Nat := 0xc0

/-- First syllable of Hangul, and the first of each of its three kinds of letters. -/
def hangulSyllables : Nat := 0xac00
def hangulLeading : Nat := 0x1100
def hangulVowel : Nat := 0x1161
/-- The position before the first trailing consonant. -/
def hangulTrailing : Nat := 0x11a7

/-- The full decomposition of a code point. -/
def decompose (n : Nat) : List Nat :=
  if n < firstComposed then [n]
  else if hangulSyllables ≤ n ∧ n < hangulSyllables + 11172 then
    let i := n - hangulSyllables
    let letters := [hangulLeading + i / 588, hangulVowel + i % 588 / 28]
    if i % 28 = 0 then letters else letters ++ [hangulTrailing + i % 28]
  else
    match bisect (fun j => (decompositions[j]?.getD (0, [])).1) n 0 decompositions.size with
    | 0 => [n]
    | j + 1 =>
      match decompositions[j]? with
      | some (m, d) => if m = n then d else [n]
      | none => [n]

/-- What two code points compose to. -/
def composePair? (a b : Nat) : Option Nat :=
  if b < firstMark then none
  else if hangulLeading ≤ a ∧ a < hangulLeading + 19 ∧ hangulVowel ≤ b ∧ b < hangulVowel + 21 then
    some (hangulSyllables + ((a - hangulLeading) * 21 + (b - hangulVowel)) * 28)
  else if hangulSyllables ≤ a ∧ a < hangulSyllables + 11172 ∧ (a - hangulSyllables) % 28 = 0
      ∧ hangulTrailing < b ∧ b < hangulTrailing + 28 then
    some (a + (b - hangulTrailing))
  else
    let key := pairKey a b
    match bisect (fun j => (compositions[j]?.getD (0, 0)).1) key 0 compositions.size with
    | 0 => none
    | j + 1 => (compositions[j]?).bind fun (k, c) => if k = key then some c else none

/-- Puts a mark after all marks of its own or a lower class. -/
def insertMark (m : Nat) : List Nat → List Nat
  | [] => [m]
  | x :: rest =>
    if combiningClass m < combiningClass x then m :: x :: rest else x :: insertMark m rest

/-- Puts every run of marks in the order of combining classes. `marks` is the sorted run so far. -/
def orderMarks (marks : List Nat) : List Nat → List Nat
  | [] => marks
  | n :: rest =>
    if combiningClass n = 0 then marks ++ n :: orderMarks [] rest
    else orderMarks (insertMark n marks) rest

/-- Composes ordered code points. `starter` waits for what may compose with it, `marks` are those
that did not, in reverse. -/
def composeFrom (starter : Option Nat) (marks : List Nat) : List Nat → List Nat
  | [] => starter.toList ++ marks.reverse
  | n :: rest =>
    let open? := match marks with
      | [] => true
      | last :: _ => combiningClass last < combiningClass n
    match starter with
    | none =>
      if combiningClass n = 0 then composeFrom (some n) [] rest else n :: composeFrom none [] rest
    | some s =>
      match (if open? then composePair? s n else none) with
      | some p => composeFrom (some p) marks rest
      | none =>
        if combiningClass n = 0 then (s :: marks.reverse) ++ composeFrom (some n) [] rest
        else composeFrom (some s) (n :: marks) rest

/-- The composed normal form of some code points. -/
def composed (ns : List Nat) : List Nat :=
  composeFrom none [] (orderMarks [] (ns.flatMap decompose))

end SiteSpiders.Unicode
