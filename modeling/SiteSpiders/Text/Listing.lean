import SiteSpiders.Unicode.Category

/-!
# Listings

Text nodes are laid out as one listing, `['first', 'second']`, from which the
detailed definitions are cut by character offset. Offsets count characters and
may be taken from the end.
-/
namespace SiteSpiders.Text

def hexChar (n : Nat) : Char :=
  if n < 10 then Char.ofNat (n + 48) else Char.ofNat (n + 87)

/-- The last `width` hexadecimal digits of a number. -/
def hexPadded : Nat → Nat → List Char
  | 0, _ => []
  | width + 1, n => hexPadded width (n / 16) ++ [hexChar (n % 16)]

/-- Whether a character is one of the unified ideographs, which all leave a mark. -/
def isIdeograph (c : Char) : Bool := 0x4e00 ≤ c.toNat && c.toNat ≤ 0x9fff

/-- Whether a character is written as an escape inside a listing item. Only characters that are
neither ASCII nor ideographs have to be looked up. -/
def isInvisible (c : Char) : Bool :=
  if c.toNat < 0x7f then c < ' '
  else if isIdeograph c then false
  else Unicode.invisibleSet.contains c

/-- A code point as an escape of two, four or eight digits. -/
def escapeCode (n : Nat) : List Char :=
  if n ≤ 0xff then '\\' :: 'x' :: hexPadded 2 n
  else if n ≤ 0xffff then '\\' :: 'u' :: hexPadded 4 n
  else '\\' :: 'U' :: hexPadded 8 n

/-- One character of an item, escaped where the listing asks for it. -/
def quoteChar (invisible : Char → Bool) (delimiter c : Char) : List Char :=
  if c = '\\' then ['\\', '\\']
  else if c = '\n' then ['\\', 'n']
  else if c = '\r' then ['\\', 'r']
  else if c = '\t' then ['\\', 't']
  else if c = delimiter then ['\\', c]
  else if invisible c then escapeCode c.toNat
  else [c]

/-- The quote of an item: double only for a text with apostrophes and no double quotes. -/
def delimiterOf (cs : List Char) : Char :=
  if cs.contains '\'' && !cs.contains '"' then '"' else '\''

/-- An item between its quotes, for a given class of invisible characters. -/
def quoteWith (invisible : Char → Bool) (cs : List Char) : List Char :=
  let d := delimiterOf cs
  d :: (cs.flatMap (quoteChar invisible d) ++ [d])

/-- Items divided by comma and blank. -/
def joinItems : List (List Char) → List Char
  | [] => []
  | [item] => item
  | item :: rest => item ++ ',' :: ' ' :: joinItems rest

/-- The listing of some texts, for a given class of invisible characters. -/
def listingWith (invisible : Char → Bool) (nodes : List (List Char)) : List Char :=
  '[' :: (joinItems (nodes.map (quoteWith invisible)) ++ [']'])

/-- The listing of some texts as characters. -/
def listingChars (nodes : List String) : List Char :=
  listingWith isInvisible (nodes.map String.toList)

def renderListing (nodes : List String) : String := String.ofList (listingChars nodes)

/-- The offset of the first occurrence of `needle`, counted from `at`. -/
def findFrom (needle : List Char) : Nat → List Char → Option Nat
  | i, [] => if needle.isEmpty then some i else none
  | i, c :: rest =>
    if needle.isPrefixOf (c :: rest) then some i else findFrom needle (i + 1) rest

/-- The offset of the first occurrence of `needle`, or -1. -/
def charFind (haystack needle : List Char) : Int :=
  match findFrom needle 0 haystack with
  | some i => i
  | none => -1

/-- A bound brought into the text: negative bounds count back from its end. -/
def clampBound (length : Nat) (i : Int) : Nat :=
  min (if i < 0 then i + length else i).toNat length

/-- The characters from `first` up to `last`; an inverted window is empty. -/
def charWindow (cs : List Char) (first last : Int) : List Char :=
  let a := clampBound cs.length first
  let b := clampBound cs.length last
  if a < b then (cs.drop a).take (b - a) else []

end SiteSpiders.Text
