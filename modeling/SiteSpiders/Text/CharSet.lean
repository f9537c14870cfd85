import SiteSpiders.Sorting
import SiteSpiders.Text.Divide

/-!
# Tables over code points

Sets of characters as sorted closed ranges, tables of runs that share a value,
and tables of shifted ranges, each written compactly as text and searched by
bisection.
-/
namespace SiteSpiders.Text

/-- The value of a hexadecimal digit. -/
def hexDigit? (c : Char) : Option Nat :=
  if '0' ≤ c ∧ c ≤ '9' then some (c.toNat - '0'.toNat)
  else if 'a' ≤ c ∧ c ≤ 'f' then some (c.toNat - 'a'.toNat + 10)
  else if 'A' ≤ c ∧ c ≤ 'F' then some (c.toNat - 'A'.toNat + 10)
  else none

/-- The number that hexadecimal digits denote; other characters are passed over. -/
def hexOfList (cs : List Char) : Nat :=
  cs.foldl (fun n c => match hexDigit? c with
    | some d => n * 16 + d
    | none => n) 0

/-- The words of a text, divided by blanks and line breaks. -/
def words (s : String) : List (List Char) :=
  let step := fun (acc : List Char × List (List Char)) (c : Char) =>
    if c == ' ' || c == '\n' then
      (if acc.1.isEmpty then acc else ([], acc.1.reverse :: acc.2))
    else (c :: acc.1, acc.2)
  let (last, found) := s.toList.foldl step ([], [])
  (if last.isEmpty then found else last.reverse :: found).reverse

/-- The first index in `lo ..< hi` whose key exceeds `k`, for keys in rising order. -/
def bisect (key : Nat → Nat) (k lo hi : Nat) : Nat :=
  if lo < hi then
    let mid := (lo + hi) / 2
    if key mid ≤ k then bisect key k (mid + 1) hi else bisect key k lo mid
  else lo
termination_by hi - lo

/-- A set of code points: closed ranges in rising order, no two of them touching. -/
structure CharSet where
  ranges : Array (Nat × Nat)
  deriving Repr, BEq

namespace CharSet

/-- Appends a range to sorted ranges held in reverse, joining it to the last one if they touch. -/
def joinRange (acc : List (Nat × Nat)) (r : Nat × Nat) : List (Nat × Nat) :=
  match acc with
  | [] => [r]
  | (a, b) :: rest => if r.1 ≤ b + 1 then (a, max b r.2) :: rest else r :: acc

/-- The set covered by any list of ranges. -/
def ofRanges (rs : List (Nat × Nat)) : CharSet :=
  let sorted := Sorting.sortBy (fun a b => a.1 ≤ b.1) (rs.filter fun r => r.1 ≤ r.2)
  ⟨(sorted.foldl joinRange []).reverse.toArray⟩

def empty : CharSet := ⟨#[]⟩

/-- The set of one code point. -/
def single (n : Nat) : CharSet := ⟨#[(n, n)]⟩

/-- The closed range from `a` to `b`. -/
def range (a b : Nat) : CharSet := ofRanges [(a, b)]

def all : CharSet := ⟨#[(0, 0x10ffff)]⟩

/-- Reads ranges such as `41-5a aa`. -/
def ofText (s : String) : CharSet :=
  ⟨((words s).map fun word =>
    match divide '-' word with
    | [a] => (hexOfList a, hexOfList a)
    | a :: b :: _ => (hexOfList a, hexOfList b)
    | [] => (1, 0)).toArray⟩

def containsNat (s : CharSet) (n : Nat) : Bool :=
  let i := bisect (fun j => (s.ranges[j]?.getD (0, 0)).1) n 0 s.ranges.size
  match i with
  | 0 => false
  | j + 1 => n ≤ (s.ranges[j]?.getD (1, 0)).2

def contains (s : CharSet) (c : Char) : Bool := s.containsNat c.toNat

def union (s t : CharSet) : CharSet := ofRanges (s.ranges.toList ++ t.ranges.toList)

/-- The gaps left by sorted ranges, from `start` up to the last code point. -/
def gaps (start : Nat) : List (Nat × Nat) → List (Nat × Nat)
  | [] => if start ≤ 0x10ffff then [(start, 0x10ffff)] else []
  | (a, b) :: rest =>
    if start < a then (start, a - 1) :: gaps (b + 1) rest else gaps (b + 1) rest

def complement (s : CharSet) : CharSet := ⟨(gaps 0 s.ranges.toList).toArray⟩

def inter (s t : CharSet) : CharSet := (s.complement.union t.complement).complement

/-- Members of the first set that are not in the second. -/
def diff (s t : CharSet) : CharSet := s.inter t.complement

/-- Members of exactly one of the sets. -/
def symmDiff (s t : CharSet) : CharSet := (s.diff t).union (t.diff s)

end CharSet

/-- Runs of code points that share a value, each given by its first code point. -/
structure RunTable where
  runs : Array (Nat × String)

namespace RunTable

/-- Reads runs such as `41:Lu 5b:Ps`. -/
def ofText (s : String) : RunTable :=
  ⟨((words s).map fun word =>
    match divide ':' word with
    | a :: v :: _ => (hexOfList a, String.ofList v)
    | _ => (0, "")).toArray⟩

/-- The value at a code point. -/
def find? (t : RunTable) (n : Nat) : Option String :=
  match bisect (fun j => (t.runs[j]?.getD (0, "")).1) n 0 t.runs.size with
  | 0 => none
  | j + 1 => t.runs[j]?.map (·.2)

/-- The ranges of a list of runs whose value satisfies `p`. -/
def selectRuns (p : String → Bool) : List (Nat × String) → List (Nat × Nat)
  | [] => []
  | [(a, v)] => if p v then [(a, 0x10ffff)] else []
  | (a, v) :: (b, w) :: rest =>
    let tail := selectRuns p ((b, w) :: rest)
    if p v then (a, b - 1) :: tail else tail

/-- All code points whose value satisfies `p`. -/
def select (t : RunTable) (p : String → Bool) : CharSet :=
  CharSet.ofRanges (selectRuns p t.runs.toList)

end RunTable

/-- A range of code points, taken in steps, that all move by one distance. -/
structure Shift where
  first : Nat
  last : Nat
  step : Nat
  distance : Int
  deriving Repr, Inhabited

namespace Shift

/-- Where a code point moves, if the shift covers it. -/
def moved? (s : Shift) (n : Nat) : Option Nat :=
  if s.first ≤ n ∧ n ≤ s.last ∧ (n - s.first) % s.step = 0 then
    some ((n : Int) + s.distance).toNat
  else none

/-- Reads `a-b+d`, `a/b+d`, `a+d`, or the same with `~` for a downward move. -/
def ofWord (word : List Char) : Shift :=
  let (source, distance) := match divide '+' word with
    | s :: d :: _ => (s, (hexOfList d : Int))
    | _ => match divide '~' word with
      | s :: d :: _ => (s, -(hexOfList d : Int))
      | _ => (word, 0)
  match divide '-' source with
  | a :: b :: _ => ⟨hexOfList a, hexOfList b, 1, distance⟩
  | _ => match divide '/' source with
    | a :: b :: _ => ⟨hexOfList a, hexOfList b, 2, distance⟩
    | _ => ⟨hexOfList source, hexOfList source, 1, distance⟩

/-- Every code point the shift covers, with where it moves. -/
def pairs (s : Shift) : List (Nat × Nat) :=
  (List.range ((s.last - s.first) / s.step + 1)).map fun i =>
    let n := s.first + i * s.step
    (n, ((n : Int) + s.distance).toNat)

end Shift

structure ShiftTable where
  shifts : Array Shift

namespace ShiftTable

def ofText (s : String) : ShiftTable := ⟨((words s).map Shift.ofWord).toArray⟩

/-- Where the table moves a code point. -/
def moved? (t : ShiftTable) (n : Nat) : Option Nat :=
  match bisect (fun j => (t.shifts[j]?.getD default).first) n 0 t.shifts.size with
  | 0 => none
  | j + 1 => t.shifts[j]?.bind (·.moved? n)

/-- The code point the table moves to `n`. -/
def source? (t : ShiftTable) (n : Nat) : Option Nat :=
  t.shifts.findSome? fun s =>
    let m := ((n : Int) - s.distance).toNat
    if s.moved? m = some n then some m else none

/-- Every code point the table moves, with where it moves. -/
def pairs (t : ShiftTable) : List (Nat × Nat) := t.shifts.toList.flatMap Shift.pairs

end ShiftTable

end SiteSpiders.Text
