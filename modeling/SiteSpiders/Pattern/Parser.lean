import SiteSpiders.Pattern.Basic
import SiteSpiders.Pattern.Classes

/-!
# Reading patterns

The notation of patterns: literals, classes, repetitions, groups, flags and
assertions. There are no look-around assertions and no references to groups, and
a pattern whose compiled form would be too large is refused.
-/
namespace SiteSpiders.Pattern

open SiteSpiders.Text (CharSet)
open SiteSpiders

inductive PatternError where
  | malformed
  | unknownClass
  /-- It could match a part of a character. -/
  | splitsCharacters
  | tooLarge
  deriving DecidableEq, Repr

structure Flags where
  ignoreCase : Bool := false
  multiLine : Bool := false
  dotAll : Bool := false
  swapGreed : Bool := false
  unicode : Bool := true
  verbose : Bool := false
  crlf : Bool := false

/-- The text that is left, the flags in force, and the groups seen so far. -/
structure Source where
  rest : List Char
  flags : Flags
  groups : Nat := 0
  names : List String := []

/-- Readers of parts of a pattern. -/
abbrev Reader := StateT Source (Except PatternError)

namespace Reader

def refuse {α : Type} : Reader α := throw .malformed

def peek : Reader (Option Char) := do return (← get).rest.head?

def bump : Reader Unit := modify fun s => { s with rest := s.rest.drop 1 }

/-- The rest after blanks and comments. -/
def dropSpace : Nat → List Char → List Char
  | 0, cs => cs
  | _ + 1, [] => []
  | fuel + 1, c :: rest =>
    if Unicode.isWhiteSpace c then dropSpace fuel rest
    else if c = '#' then dropSpace fuel (rest.dropWhile (· != '\n'))
    else c :: rest

/-- Passes blanks and comments where the flags say they do not count. -/
def skipSpace : Reader Unit := modify fun s =>
  if s.flags.verbose then { s with rest := dropSpace (s.rest.length + 1) s.rest } else s

/-- Passes the next character and what does not count after it. -/
def bumpSpace : Reader Unit := do bump; skipSpace

/-- The next character; the pattern may not end here. -/
def need : Reader Char := do
  match ← peek with
  | some c => pure c
  | none => refuse

/-- Passes a given text if it is next. -/
def skip? (text : List Char) : Reader Bool := do
  let s ← get
  if text.isPrefixOf s.rest then
    set { s with rest := s.rest.drop text.length }
    pure true
  else pure false

end Reader

open Reader

/-- What an escape or a single character stands for. -/
inductive Primitive where
  | point (n : Nat) (isByte : Bool)
  | set (s : CharSet)
  | check (a : Assertion)

/-- A code point that is a character. -/
def scalar (n : Nat) : Reader Nat :=
  if n ≤ 0x10ffff ∧ ¬ (0xd800 ≤ n ∧ n ≤ 0xdfff) then pure n else refuse

def hexFixed : Nat → Nat → Reader Nat
  | 0, n => pure n
  | count + 1, n => do
    let c ← need
    match Text.hexDigit? c with
    | some d => do bumpSpace; hexFixed count (n * 16 + d)
    | none => refuse

/-- Hexadecimal digits up to a closing brace. -/
def hexBraced : Nat → List Char → Reader (List Char)
  | 0, _ => refuse
  | fuel + 1, acc => do
    let c ← need
    if c = '\x7d' then do
      bump
      if acc.isEmpty then refuse else pure acc.reverse
    else match Text.hexDigit? c with
      | some _ => do bumpSpace; hexBraced fuel (c :: acc)
      | none => refuse

/-- A hexadecimal escape after its letter, whose short form has `width` digits. -/
def hexEscape (width : Nat) : Reader Primitive := do
  bumpSpace
  let c ← need
  if c = '\x7b' then do
    bumpSpace
    let digits ← hexBraced ((← get).rest.length + 1) []
    if 8 < (digits.dropWhile (· == '0')).length then refuse
    else return .point (← scalar (Text.hexOfList digits)) false
  else do
    let n ← hexFixed width 0
    return .point (← scalar n) (width == 2)

/-- Applies the flags to a set of characters and negates it if asked. -/
def foldNegate (negated : Bool) (s : CharSet) : Reader CharSet := do
  let flags := (← get).flags
  let s := if flags.ignoreCase then Unicode.closeUnderCase s else s
  pure (if negated then s.complement else s)

/-- Characters up to a closing brace. -/
def untilBrace : Nat → List Char → Reader (List Char)
  | 0, _ => refuse
  | fuel + 1, acc => do
    let c ← need
    if c = '\x7d' then do bump; pure acc.reverse
    else do bumpSpace; untilBrace fuel (c :: acc)

/-- Splits a text at the first occurrence of another. -/
def splitOnce (mark : List Char) : List Char → Option (List Char × List Char)
  | [] => none
  | c :: rest =>
    if mark.isPrefixOf (c :: rest) then some ([], (c :: rest).drop mark.length)
    else (splitOnce mark rest).map fun (a, b) => (c :: a, b)

/-- A class of Unicode after its `p` or `P`. -/
def unicodeClass (negated : Bool) : Reader Primitive := do
  bumpSpace
  let c ← need
  let (found, extra) ← if c = '\x7b' then do
      bumpSpace
      let name ← untilBrace ((← get).rest.length + 1) []
      match splitOnce ['!', '='] name with
      | some (p, v) => pure (valueClass? (String.ofList p) (String.ofList v), true)
      | none => match splitOnce [':'] name with
        | some (p, v) => pure (valueClass? (String.ofList p) (String.ofList v), false)
        | none => match splitOnce ['='] name with
          | some (p, v) => pure (valueClass? (String.ofList p) (String.ofList v), false)
          | none => pure (namedClass? (String.ofList name), false)
    else if c = '\\' then refuse
    else do
      bump
      pure (category? (plainName (String.singleton c)), false)
  if !(← get).flags.unicode then refuse
  else match found with
    | none => throw .unknownClass
    | some s => return .set (← foldNegate (negated != extra) s)

/-- A class of digits, blanks or word characters. -/
def classEscape (unicodeSet asciiSet : CharSet) (negated : Bool) : Reader Primitive := do
  bump
  let flags := (← get).flags
  if flags.unicode then
    pure (.set (if negated then unicodeSet.complement else unicodeSet))
  else if negated then throw .splitsCharacters
  else pure (.set asciiSet)

/-- ASCII characters an escape may make literal. -/
def isEscapable (c : Char) : Bool :=
  c.toNat < 0x80 && !c.isAlphanum && c != '<' && c != '>'

/-- The special forms of a word boundary, in braces after it. -/
def boundaryForm : Reader Assertion := do
  let s ← get
  match s.rest with
  | '\x7b' :: rest =>
    let isName := fun (c : Char) => c.isAlpha || c == '-'
    let rest := if s.flags.verbose then dropSpace (rest.length + 1) rest else rest
    match rest with
    | [] => refuse
    | c :: _ =>
      if !isName c then pure .wordBoundary
      else
        let name := String.ofList (rest.takeWhile isName)
        match rest.dropWhile isName with
        | '\x7d' :: more =>
          set { s with rest := more }
          match name with
          | "start" => pure .wordStart
          | "end" => pure .wordEnd
          | "start-half" => pure .wordStartHalf
          | "end-half" => pure .wordEndHalf
          | _ => refuse
        | _ => refuse
  | _ => pure .wordBoundary

def escape : Reader Primitive := do
  let c ← need
  match c with
  | 'x' => hexEscape 2
  | 'u' => hexEscape 4
  | 'U' => hexEscape 8
  | 'p' => unicodeClass false
  | 'P' => unicodeClass true
  | 'd' => classEscape Unicode.decimalDigit asciiDigit false
  | 'D' => classEscape Unicode.decimalDigit asciiDigit true
  | 's' => classEscape Unicode.whiteSpace asciiSpace false
  | 'S' => classEscape Unicode.whiteSpace asciiSpace true
  | 'w' => classEscape Unicode.word asciiWord false
  | 'W' => classEscape Unicode.word asciiWord true
  | _ => do
    bump
    match c with
    | 'a' => pure (.point 7 false)
    | 'f' => pure (.point 12 false)
    | 't' => pure (.point 9 false)
    | 'n' => pure (.point 10 false)
    | 'r' => pure (.point 13 false)
    | 'v' => pure (.point 11 false)
    | 'A' => pure (.check .textStart)
    | 'z' => pure (.check .textEnd)
    | 'b' => return .check (← boundaryForm)
    | 'B' => pure (.check .notWordBoundary)
    | '<' => pure (.check .wordStart)
    | '>' => pure (.check .wordEnd)
    | _ => if isEscapable c then pure (.point c.toNat false) else refuse

/-- A member of a bracketed class. -/
def classMember : Reader Primitive := do
  let c ← need
  if c = '\\' then do bump; escape
  else do bump; pure (.point c.toNat false)

/-- The set of a member that is not an endpoint of a range. -/
def memberSet : Primitive → Reader CharSet
  | .point n isByte => do
    let flags := (← get).flags
    if !flags.unicode ∧ 0x7f < n then
      (if isByte then throw .splitsCharacters else refuse)
    else pure (.single n)
  | .set s => pure s
  | .check _ => refuse

/-- The next character after the coming one, blanks that do not count aside. -/
def peekAfter : Reader (Option Char) := do
  let s ← get
  let rest := s.rest.drop 1
  pure (if s.flags.verbose then dropSpace (rest.length + 1) rest else rest).head?

/-- A member or a range of a bracketed class. -/
def classItem : Reader CharSet := do
  let first ← classMember
  skipSpace
  let c ← need
  let after ← peekAfter
  if c != '-' || after == some ']' || after == some '-' then memberSet first
  else do
    bumpSpace
    discard need
    let last ← classMember
    match first, last with
    | .point a aByte, .point b bByte => do
      discard (memberSet (.point a aByte))
      discard (memberSet (.point b bByte))
      if a ≤ b then pure (.range a b) else refuse
    | _, _ => refuse

inductive ClassOp where
  | inter
  | diff
  | symmDiff

/-- Combines a pending left side with a set. -/
def combine (pending : Option (ClassOp × CharSet)) (s : CharSet) : Reader CharSet := do
  let fold (t : CharSet) : Reader CharSet := foldNegate false t
  match pending with
  | none => pure s
  | some (.inter, l) => return (← fold l).inter (← fold s)
  | some (.diff, l) => return (← fold l).diff (← fold s)
  | some (.symmDiff, l) => return (← fold l).symmDiff (← fold s)

/-- A bracketed ASCII class such as `[:alpha:]`, if one is next. -/
def asciiClass : Reader (Option CharSet) := do
  let s ← get
  match s.rest with
  | '[' :: ':' :: rest =>
    let (negated, rest) := match rest with
      | '^' :: more => (true, more)
      | _ => (false, rest)
    let name := rest.takeWhile (· != ':')
    match rest.dropWhile (· != ':') with
    | ':' :: ']' :: more =>
      match asciiClass? (String.ofList name) with
      | some cls => do
        set { s with rest := more }
        return some (← foldNegate negated cls)
      | none => pure none
    | _ => pure none
  | _ => pure none

/-- Hyphens in front of the members of a class. -/
def leadingHyphens : Nat → CharSet → Reader CharSet
  | 0, s => pure s
  | fuel + 1, s => do
    if (← need) = '-' then do bumpSpace; leadingHyphens fuel (s.union (.single 0x2d)) else pure s

mutual
/-- A bracketed class, from its opening bracket on. -/
def bracketed : Nat → Reader CharSet
  | 0 => refuse
  | fuel + 1 => do
    bumpSpace
    let negated ← if (← need) = '^' then do bumpSpace; pure true else pure false
    let start ← leadingHyphens ((← get).rest.length + 1) .empty
    let start ← if start.ranges.isEmpty ∧ (← need) = ']' then do
        bumpSpace
        pure (CharSet.single 0x5d)
      else pure start
    let s ← members fuel none start
    let folded ← foldNegate negated s
    if !(← get).flags.unicode ∧ negated then throw .splitsCharacters else pure folded

/-- The members of a class up to its closing bracket. -/
def members : Nat → Option (ClassOp × CharSet) → CharSet → Reader CharSet
  | 0, _, _ => refuse
  | fuel + 1, pending, acc => do
    skipSpace
    let c ← need
    let after ← peekAfter
    if c = '[' then do
      match ← asciiClass with
      | some cls => members fuel pending (acc.union cls)
      | none => do
        let inner ← bracketed fuel
        members fuel pending (acc.union inner)
    else if c = ']' then do
      bump
      combine pending acc
    else if c = '&' ∧ (← get).rest.take 2 = ['&', '&'] then do
      bump; bump
      members fuel (some (.inter, ← combine pending acc)) .empty
    else if c = '-' ∧ after = some '-' then do
      bump; bump
      members fuel (some (.diff, ← combine pending acc)) .empty
    else if c = '~' ∧ (← get).rest.take 2 = ['~', '~'] then do
      bump; bump
      members fuel (some (.symmDiff, ← combine pending acc)) .empty
    else do
      let item ← classItem
      members fuel pending (acc.union item)
end

/-- A decimal number with blanks around it; `none` if there is no digit. -/
def decimal : Reader (Option Nat) := do
  let dropBlanks : Reader Unit := modify fun s =>
    { s with rest := s.rest.dropWhile Unicode.isWhiteSpace }
  dropBlanks
  let s ← get
  let digits := s.rest.takeWhile Char.isDigit
  set { s with rest := s.rest.drop digits.length }
  skipSpace
  dropBlanks
  if digits.isEmpty then pure none
  else
    let n := digits.foldl (fun n c => n * 10 + (c.toNat - 48)) 0
    if n < Nat.pow 2 32 then pure (some n) else refuse

/-- The bounds of a counted repetition, after its opening brace. -/
def counts : Reader (Nat × Option Nat) := do
  bumpSpace
  discard need
  let least ← decimal
  let c ← need
  let bounds ← if c = ',' then do
      bumpSpace
      if (← need) = '\x7d' then
        match least with
        | some n => pure (n, none)
        | none => refuse
      else do
        let most ← decimal
        match least, most with
        | some n, some m => if n ≤ m then pure (n, some m) else refuse
        | _, _ => refuse
    else match least with
      | some n => pure (n, some n)
      | none => refuse
  if (← need) = '\x7d' then pure bounds else refuse

/-- A repetition of a pattern, after the operator itself was passed. -/
def repetition (bounds : Nat × Option Nat) (body : Pattern) : Reader Pattern := do
  let lazily ← do
    if (← peek) = some '?' then do bump; pure true else pure false
  let flags := (← get).flags
  pure (.repeated bounds.1 bounds.2 ((!lazily) != flags.swapGreed) body)

/-- Sets one flag by its letter. -/
def Flags.assign (f : Flags) (c : Char) (on : Bool) : Option Flags :=
  match c with
  | 'i' => some { f with ignoreCase := on }
  | 'm' => some { f with multiLine := on }
  | 's' => some { f with dotAll := on }
  | 'U' => some { f with swapGreed := on }
  | 'u' => some { f with unicode := on }
  | 'x' => some { f with verbose := on }
  | 'R' => some { f with crlf := on }
  | _ => none

/-- Flags up to a colon or closing parenthesis; says which it was and whether there were any. -/
def flagItems : Nat → List Char → Bool → Bool → Flags → Reader (Flags × Char × Bool)
  | 0, _, _, _, _ => refuse
  | fuel + 1, seen, negating, dangling, f => do
    let c ← need
    if c = ':' ∨ c = ')' then do
      bump
      if dangling then refuse else pure (f, c, !seen.isEmpty)
    else if seen.contains c then refuse
    else if c = '-' then do bumpSpace; flagItems fuel (c :: seen) true true f
    else match f.assign c (!negating) with
      | some f => do bumpSpace; flagItems fuel (c :: seen) negating false f
      | none => refuse

/-- Letters and digits of any script. -/
def isNameChar (first : Bool) (c : Char) : Bool :=
  c == '_' || Unicode.alphabetic.contains c
    || (!first && (c == '.' || c == '[' || c == ']'
      || (Unicode.category c).startsWith "N"))

/-- The name of a group, after its opening bracket. -/
def groupName : Reader String := do
  let s ← get
  let name := s.rest.takeWhile (· != '>')
  match name, s.rest.dropWhile (· != '>') with
  | c :: more, '>' :: rest =>
    let text := String.ofList name
    if isNameChar true c ∧ more.all (isNameChar false) ∧ ¬ s.names.contains text then do
      set { s with rest := rest, names := text :: s.names }
      pure text
    else refuse
  | _, _ => refuse

/-- The pattern of a single character. -/
def literalChar (n : Nat) (isByte : Bool) : Reader Pattern := do
  let flags := (← get).flags
  if isByte ∧ !flags.unicode ∧ 0x7f < n then throw .splitsCharacters
  else if flags.ignoreCase then
    pure (.ofSet (.ofRanges ((Unicode.caseFamily n).map fun m => (m, m))))
  else pure (.ofSet (.single n))

/-- The pattern of an assertion under the flags in force. -/
def assertionPattern (a : Assertion) : Reader Pattern := do
  let flags := (← get).flags
  pure (.check (if flags.unicode then Unicode.isWord else asciiWord.contains) a)

/-- What a group's opening says: an end to reading flags, or the index of a group to open. -/
inductive Opening where
  | flags (f : Flags)
  | group (index : Option Nat) (f : Flags)

/-- Reads what follows an opening parenthesis. -/
def opening : Reader Opening := do
  bumpSpace
  let s ← get
  let looks := [['?', '='], ['?', '!'], ['?', '<', '='], ['?', '<', '!']]
  if looks.any (·.isPrefixOf s.rest) then refuse
  else if (← skip? ['?', 'P', '<']) || (← skip? ['?', '<']) then do
    discard groupName
    modify fun s => { s with groups := s.groups + 1 }
    return .group (some (← get).groups) s.flags
  else if ← skip? ['?'] then do
    let (f, ending, any) ← flagItems (s.rest.length + 1) [] false false s.flags
    if ending = ')' then (if any then pure (.flags f) else refuse)
    else pure (.group none f)
  else do
    modify fun s => { s with groups := s.groups + 1 }
    return .group (some (← get).groups) s.flags

/-- A class or dot must not match parts of characters. -/
def dotPattern : Reader Pattern := do
  bump
  let flags := (← get).flags
  if !flags.unicode then throw .splitsCharacters
  else if flags.dotAll then pure (.ofSet .all)
  else if flags.crlf then
    pure (.ofSet (CharSet.ofRanges [(10, 10), (13, 13)]).complement)
  else pure (.ofSet (CharSet.single 10).complement)

mutual
/-- Alternatives up to a closing parenthesis or the end. -/
def alternatives : Nat → Nat → Reader Pattern
  | 0, _ => refuse
  | fuel + 1, depth => do
    let first ← items fuel depth []
    if (← peek) = some '|' then do
      bump
      return .alt first (← alternatives fuel depth)
    else pure first

/-- A sequence of items, those read so far in reverse; each knows whether it may be repeated. -/
def items : Nat → Nat → List (Pattern × Bool) → Reader Pattern
  | 0, _, _ => refuse
  | fuel + 1, depth, acc => do
    skipSpace
    let done : Reader Pattern := pure (sequence (acc.reverse.map (·.1)))
    let again (bounds : Nat × Option Nat) : Reader Pattern := do
      match acc with
      | (p, true) :: rest => do
        let r ← repetition bounds p
        items fuel depth ((r, true) :: rest)
      | _ => refuse
    let push (p : Pattern) : Reader Pattern := items fuel depth ((p, true) :: acc)
    match ← peek with
    | none => done
    | some '|' => done
    | some ')' => done
    | some '(' => do
      if 250 ≤ depth then refuse
      else match ← opening with
        | .flags f => do
          modify fun s => { s with flags := f }
          items fuel depth ((.empty, false) :: acc)
        | .group index f => do
          let outer := (← get).flags
          modify fun s => { s with flags := f }
          let body ← alternatives fuel (depth + 1)
          if (← peek) = some ')' then do
            bump
            modify fun s => { s with flags := outer }
            push (match index with
              | some i => .group i body
              | none => body)
          else refuse
    | some '[' => do push (.ofSet (← bracketed (fuel + 1)))
    | some '?' => do bump; again (0, some 1)
    | some '*' => do bump; again (0, none)
    | some '+' => do bump; again (1, none)
    | some '\x7b' => do
      if acc.isEmpty then refuse
      else do
        let bounds ← counts
        bumpSpace
        again bounds
    | some '.' => do push (← dotPattern)
    | some '^' => do
      bump
      let f := (← get).flags
      push (← assertionPattern (if f.multiLine then
        (if f.crlf then .anyLineStart else .lineStart) else .textStart))
    | some '$' => do
      bump
      let f := (← get).flags
      push (← assertionPattern (if f.multiLine then
        (if f.crlf then .anyLineEnd else .lineEnd) else .textEnd))
    | some '\\' => do
      bump
      match ← escape with
      | .point n isByte => do push (← literalChar n isByte)
      | .set s => push (.ofSet s)
      | .check a => do push (← assertionPattern a)
    | some c => do
      bump
      push (← literalChar c.toNat false)
end

/-- The room a compiled pattern may take. -/
def sizeLimit : Nat := 10 * Nat.pow 2 20

def parse (s : String) : Except PatternError Pattern := do
  let cs := s.toList
  let (p, after) ← (alternatives (2 * cs.length + 2) 0).run { rest := cs, flags := {} }
  if !after.rest.isEmpty then throw .malformed
  else if sizeLimit < p.weight then throw .tooLarge
  else pure p

end SiteSpiders.Pattern
