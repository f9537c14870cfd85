import SiteSpiders.Text.CharSet
import SiteSpiders.Unicode.Property

/-!
# Patterns

Regular expressions as data, and what they match. A pattern run at a position
yields the positions it can end at, the preferred one first and each only once:
earlier alternatives come before later ones, and a greedy repetition prefers more.
-/
namespace SiteSpiders

/-- A condition on a position between two characters. -/
inductive Assertion where
  | textStart
  | textEnd
  | lineStart
  | lineEnd
  /-- Line boundaries where a carriage return also ends a line. -/
  | anyLineStart
  | anyLineEnd
  | wordBoundary
  | notWordBoundary
  | wordStart
  | wordEnd
  | wordStartHalf
  | wordEndHalf
  deriving DecidableEq, Repr, Inhabited

inductive Pattern where
  | empty
  /-- One character that passes a test; `ranges` says how many ranges the test is made of. -/
  | chars (accepts : Char → Bool) (ranges : Nat)
  /-- An assertion, with the characters that count as parts of words. -/
  | check (word : Char → Bool) (assertion : Assertion)
  | cat (first second : Pattern)
  | alt (first second : Pattern)
  | repeated (least : Nat) (most : Option Nat) (greedy : Bool) (body : Pattern)
  | group (index : Nat) (body : Pattern)
  deriving Inhabited

namespace Pattern

/-- A position in a text: the character before it, what follows, its offset, and the groups
matched on the way to it as index, start and end. -/
structure Place where
  before : Option Char
  rest : List Char
  offset : Nat
  groups : List (Nat × Nat × Nat)
  deriving Inhabited

namespace Place

def start (cs : List Char) : Place := ⟨none, cs, 0, []⟩

/-- The place after one more character. -/
def advance? (p : Place) : Option (Char × Place) :=
  match p.rest with
  | [] => none
  | c :: rest => some (c, { p with before := some c, rest := rest, offset := p.offset + 1 })

/-- Whether an assertion holds at a place. -/
def satisfies (word : Char → Bool) (p : Place) (a : Assertion) : Bool :=
  let after := p.rest.head?
  let isWord (c : Option Char) : Bool := match c with
    | some c => word c
    | none => false
  let left := isWord p.before
  let right := isWord after
  match a with
  | .textStart => p.before.isNone
  | .textEnd => after.isNone
  | .lineStart => p.before.isNone || p.before == some '\n'
  | .lineEnd => after.isNone || after == some '\n'
  | .anyLineStart =>
    p.before.isNone || p.before == some '\n' || (p.before == some '\r' && after != some '\n')
  | .anyLineEnd =>
    after.isNone || after == some '\r' || (after == some '\n' && p.before != some '\r')
  | .wordBoundary => left != right
  | .notWordBoundary => left == right
  | .wordStart => !left && right
  | .wordEnd => left && !right
  | .wordStartHalf => !left
  | .wordEndHalf => !right

end Place

/-- Keeps the first place of every offset. -/
def firstOfEach (seen : List Nat) : List Place → List Place
  | [] => []
  | p :: rest =>
    if seen.contains p.offset then firstOfEach seen rest
    else p :: firstOfEach (p.offset :: seen) rest

/-- The places after characters that pass a test, from the nearest on: all those reached by at most
`bound` of them. -/
def spans (accepts : Char → Bool) (before : Option Char) (offset : Nat)
    (groups : List (Nat × Nat × Nat)) : Option Nat → List Char → List Place
  | bound, rest =>
    let here : Place := ⟨before, rest, offset, groups⟩
    if bound = some 0 then [here]
    else match rest with
      | [] => [here]
      | c :: more =>
        if accepts c then
          here :: spans accepts (some c) (offset + 1) groups (bound.map (· - 1)) more
        else [here]

/-- Applies a step `count` times to a list of places. -/
def iterate (step : Place → List Place) : Nat → List Place → List Place
  | 0, ps => ps
  | count + 1, ps =>
    match ps with
    | [] => []
    | _ => iterate step count (firstOfEach [] (ps.flatMap step))

/-- The places reached by further steps, at most `bound` of them, each of which gets ahead. A place
met again with the same number of steps left is not entered twice. -/
def further (step : Place → List Place) (greedy : Bool) :
    Nat → Option Nat → List (Nat × Nat) → Place → List Place × List (Nat × Nat)
  | 0, _, seen, p => ([p], seen)
  | fuel + 1, bound, seen, p =>
    let key := (bound.getD 0, p.offset)
    if seen.contains key then ([], seen)
    else
      let seen := key :: seen
      if bound = some 0 then ([p], seen)
      else
        let next := (step p).filter fun q => q.offset != p.offset
        let (found, seen) := next.foldl (fun (acc : List Place × List (Nat × Nat)) q =>
          let (more, seen) := further step greedy fuel (bound.map (· - 1)) acc.2 q
          (acc.1 ++ more, seen)) ([], seen)
        (if greedy then found ++ [p] else p :: found, seen)

/-- The places a pattern can end at, the preferred one first. -/
def run : Pattern → Place → List Place
  | .empty, p => [p]
  | .chars accepts _, p =>
    match p.advance? with
    | some (c, q) => if accepts c then [q] else []
    | none => []
  | .check word a, p => if p.satisfies word a then [p] else []
  | .cat a b, p => firstOfEach [] ((a.run p).flatMap b.run)
  | .alt a b, p => firstOfEach [] (a.run p ++ b.run p)
  | .repeated least most greedy body, p =>
    let start := iterate body.run least [p]
    let bound := most.map (· - least)
    match body with
    | .chars accepts _ =>
      start.flatMap fun q =>
        let ends := spans accepts q.before q.offset q.groups bound q.rest
        if greedy then ends.reverse else ends
    | _ =>
      firstOfEach [] (start.flatMap fun q =>
        (further body.run greedy (q.rest.length + 1) bound [] q).1)
  | .group index body, p =>
    (body.run p).map fun q => { q with groups := (index, p.offset, q.offset) :: q.groups }

/-- A match: where it starts and ends, and its groups. -/
structure Found where
  first : Nat
  last : Nat
  groups : List (Nat × Nat × Nat)

/-- The leftmost match at or after a place; among those the preferred one. -/
def findFrom (pattern : Pattern) (before : Option Char) (offset : Nat) :
    List Char → Option Found
  | [] =>
    match pattern.run ⟨before, [], offset, []⟩ with
    | q :: _ => some ⟨offset, q.offset, q.groups⟩
    | [] => none
  | c :: rest =>
    match pattern.run ⟨before, c :: rest, offset, []⟩ with
    | q :: _ => some ⟨offset, q.offset, q.groups⟩
    | [] => findFrom pattern (some c) (offset + 1) rest

/-- The first match in a text. -/
def find? (pattern : Pattern) (cs : List Char) : Option Found :=
  pattern.findFrom none 0 cs

/-- Whether a text holds a match. -/
def isMatch (pattern : Pattern) (s : String) : Bool := (pattern.find? s.toList).isSome

def charBefore (cs : List Char) (offset : Nat) : Option Char :=
  match offset with
  | 0 => none
  | n + 1 => cs[n]?

/-- All matches in turn, each after the one before; none that is empty right after another. -/
def findAll (pattern : Pattern) (cs : List Char) : List Found :=
  let rec go : Nat → Nat → Option Nat → List Found
    | 0, _, _ => []
    | fuel + 1, offset, lastEnd =>
      match pattern.findFrom (charBefore cs offset) offset (cs.drop offset) with
      | none => []
      | some m =>
        if m.first = m.last ∧ lastEnd = some m.last then
          if cs.length ≤ offset then [] else go fuel (offset + 1) none
        else m :: go fuel m.last (some m.last)
  go (2 * cs.length + 2) 0 none

/-- The characters of a range of offsets. -/
def slice (cs : List Char) (first last : Nat) : List Char := (cs.drop first).take (last - first)

def Found.text (m : Found) (cs : List Char) : List Char := slice cs m.first m.last

/-- The text of a group of a match. -/
def Found.groupText (m : Found) (cs : List Char) (index : Nat) : Option (List Char) :=
  (m.groups.find? fun g => g.1 == index).map fun g => slice cs g.2.1 g.2.2

/-- One character that passes a test. -/
def one (accepts : Char → Bool) : Pattern := .chars accepts 1

def char (c : Char) : Pattern := one fun d => d == c

def ofSet (set : Text.CharSet) : Pattern := .chars set.contains set.ranges.size

def sequence : List Pattern → Pattern
  | [] => .empty
  | [p] => p
  | p :: rest => .cat p (sequence rest)

def literal (s : String) : Pattern := sequence (s.toList.map char)

/-- A pattern that may be left out. -/
def optional (p : Pattern) : Pattern := .repeated 0 (some 1) true p

/-- A pattern once or more, as often as possible. -/
def oneOrMore (p : Pattern) : Pattern := .repeated 1 none true p

/-- A pattern any number of times, as few as possible. -/
def fewest (p : Pattern) : Pattern := .repeated 0 none false p

/-- A choice of patterns, earlier ones preferred. -/
def choice : List Pattern → Pattern
  | [] => .chars (fun _ => false) 0
  | [p] => p
  | p :: rest => .alt p (choice rest)

/-- An estimate of the room a compiled pattern takes. -/
def weight : Pattern → Nat
  | .empty => 8
  | .chars _ ranges => 24 + 16 * ranges
  | .check _ _ => 24
  | .cat a b => a.weight + b.weight
  | .alt a b => a.weight + b.weight + 24
  | .repeated least most _ body => (max (most.getD (least + 1)) 1) * (body.weight + 16)
  | .group _ body => body.weight + 48

end Pattern

end SiteSpiders
