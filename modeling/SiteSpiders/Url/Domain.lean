import SiteSpiders.Text.Utf8
import SiteSpiders.Unicode.Canonical
import SiteSpiders.Unicode.Category
import SiteSpiders.Unicode.Direction
import SiteSpiders.Url.DomainTable
import SiteSpiders.Url.Punycode

/-!
# Domain names

A domain name is brought to its ASCII form: characters are mapped, composed and
checked label by label, and labels beyond ASCII are written in Punycode.
-/
namespace SiteSpiders.Url

open SiteSpiders.Text (RunTable divide hexOfList joinWith)

/-- The fate of code points in domain names. -/
def domainRuns : RunTable := RunTable.ofText domainText

/-- What a code point becomes in a domain name: `none` if it is refused, as whatever is no character
is. -/
def mapPoint (n : Nat) : Option (List Nat) :=
  if n < 0x80 then some [if 0x41 ≤ n ∧ n ≤ 0x5a then n + 0x20 else n]
  else if ¬n.isValidChar then none
  else match (domainRuns.find? n).map String.toList with
    | some ['V'] => some [n]
    | some ['I'] => some []
    | some ('=' :: points) => some ((divide ',' points).map hexOfList)
    | some ('+' :: d) => some [n + hexOfList d]
    | some ('~' :: d) => some [n - hexOfList d]
    | _ => none

/-- Maps all code points, refusing if one is refused. -/
def mapPoints : List Nat → Option (List Nat)
  | [] => some []
  | n :: rest => do
    let m ← mapPoint n
    let more ← mapPoints rest
    pure (m ++ more)

/-- ASCII characters that no domain name may hold. -/
def forbiddenInDomain (n : Nat) : Bool :=
  n ≤ 0x20 || n == 0x7f || [0x23, 0x25, 0x2f, 0x3a, 0x3c, 0x3e, 0x3f, 0x40, 0x5b, 0x5c, 0x5d,
    0x5e, 0x7c].contains n

/-- Whether code points, nearest first, run through transparent letters to one that joins. -/
def joinsThrough (kinds : List String) : List Nat → Bool
  | [] => false
  | n :: rest =>
    let j := Unicode.joining (Char.ofNat n)
    if j == "T" then joinsThrough kinds rest else kinds.contains j

/-- Joiners may stand only after a virama, or between letters that join over them. -/
def joinersFit : List Nat → List Nat → Bool
  | _, [] => true
  | before, n :: rest =>
    let afterVirama := match before with
      | [] => false
      | b :: _ => Unicode.combiningClass b == 9
    let fits :=
      if n = 0x200c then
        afterVirama || (joinsThrough ["L", "D"] before && joinsThrough ["R", "D"] rest)
      else if n = 0x200d then afterVirama
      else true
    fits && joinersFit (n :: before) rest

/-- Whether a code point is a combining mark. -/
def isMark (n : Nat) : Bool := Unicode.firstMark ≤ n && Unicode.markSet.containsNat n

/-- Whether all code points of a label stay as they are. -/
def isMapped (label : List Nat) : Bool := label.all fun n => mapPoint n == some [n]

/-- The most code points of a label beyond ASCII. -/
def longestLabel : Nat := 1000

/-- The most characters of a label in Punycode, behind its mark. -/
def longestPunycode : Nat := 2000

/-- Checks every label has to pass: it is composed, starts with no mark, holds only code points
that stay as they are, its joiners stand where they may, and it is not too long to be coded. -/
def labelValid (label : List Nat) : Bool :=
  Unicode.composed label == label
  && (match label with
    | [] => true
    | n :: _ => !isMark n)
  && isMapped label
  && joinersFit [] label
  && (label.length ≤ longestLabel || label.all (· < 0x80))

/-- The direction classes of a label. -/
def directions (label : List Nat) : List String :=
  label.map fun n => Unicode.direction (Char.ofNat n)

/-- Whether a code point is written from right to left. -/
def isRightToLeft (n : Nat) : Bool :=
  0x590 ≤ n && ["R", "AL", "AN"].contains (Unicode.direction (Char.ofNat n))

/-- Whether a label holds right-to-left text. -/
def hasRightToLeft (label : List Nat) : Bool := label.any isRightToLeft

/-- Whether the directions within a label of a right-to-left domain are consistent. -/
def directionsFit (label : List Nat) : Bool :=
  match directions label with
  | [] => true
  | first :: rest =>
    let all := first :: rest
    let last := all.reverse.dropWhile (· == "NSM")
    let ends (kinds : List String) := match last with
      | d :: _ => kinds.contains d
      | [] => false
    if first == "R" || first == "AL" then
      all.all (["R", "AL", "AN", "EN", "ES", "CS", "ET", "ON", "BN", "NSM"].contains ·)
        && ends ["R", "AL", "EN", "AN"]
        && !(all.contains "EN" && all.contains "AN")
    else if first == "L" then
      all.all (["L", "EN", "ES", "CS", "ET", "ON", "BN", "NSM"].contains ·) && ends ["L", "EN"]
    else false

/-- The mark of a label in Punycode. -/
def punycodeMark : List Nat := [0x78, 0x6e, 0x2d, 0x2d]

/-- A label as it reads and as it is written in ASCII. -/
def processLabel (label : List Nat) : Option (List Nat × List Char) :=
  if punycodeMark.isPrefixOf label then
    if label.all (· < 0x80) && isMapped label && label.length ≤ 4 + longestPunycode then do
      let decoded ← Punycode.decode? ((label.drop 4).map Char.ofNat)
      if decoded.isEmpty || decoded.all (· < 0x80) || !labelValid decoded then none
      else pure (decoded, label.map Char.ofNat)
    else none
  else if !labelValid label then none
  else if label.all (· < 0x80) then some (label, label.map Char.ofNat)
  else some (label, 'x' :: 'n' :: '-' :: '-' :: Punycode.encode label)

/-- The ASCII form of a domain name given as bytes. -/
def domainToAscii (bytes : List Nat) : Option (List Char) := do
  let cs ← Text.utf8Decode? bytes
  let mapped ← mapPoints (cs.map Char.toNat)
  let labels ← (divide 0x2e (Unicode.composed mapped)).mapM processLabel
  let readable := labels.map (·.1)
  if readable.any hasRightToLeft && !readable.all directionsFit then none
  else
    let written := joinWith '.' (labels.map (·.2))
    if written.any (fun c => forbiddenInDomain c.toNat) then none else some written

end SiteSpiders.Url
