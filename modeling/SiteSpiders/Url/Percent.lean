import SiteSpiders.Text.CharSet
import SiteSpiders.Text.Utf8

/-!
# Percent-encoding

Which ASCII characters each part of a URL encodes; everything beyond ASCII is
encoded everywhere.
-/
namespace SiteSpiders.Url

abbrev EncodeSet := Char → Bool

/-- Control characters, and everything beyond ASCII. -/
def controls : EncodeSet := fun c => c.toNat < 0x20 || 0x7f ≤ c.toNat

def inFragment : EncodeSet := fun c => controls c || [' ', '"', '<', '>', '\x60'].contains c

def inPath : EncodeSet := fun c => inFragment c || ['#', '?', '\x7b', '\x7d'].contains c

/-- Encoded in user names and passwords. -/
def inUserinfo : EncodeSet := fun c =>
  inPath c || ['/', ':', ';', '=', '@', '[', '\\', ']', '^', '|'].contains c

def inQuery : EncodeSet := fun c => controls c || [' ', '"', '#', '<', '>'].contains c

/-- Encoded in queries of special schemes. -/
def inSpecialQuery : EncodeSet := fun c => inQuery c || c == '\''

def upperHex (n : Nat) : Char :=
  if n < 10 then Char.ofNat (n + 48) else Char.ofNat (n + 55)

/-- A byte as a percent escape. -/
def escapeByte (b : Nat) : List Char := ['%', upperHex (b / 16), upperHex (b % 16)]

/-- Encodes the characters of a set. -/
def percentEncode (s : EncodeSet) (cs : List Char) : List Char :=
  cs.flatMap fun c => if s c then (Text.utf8Bytes c).flatMap escapeByte else [c]

/-- The byte two hexadecimal digits denote. -/
def hexPair? (h l : Nat) : Option Nat := do
  let x ← Text.hexDigit? (Char.ofNat h)
  let y ← Text.hexDigit? (Char.ofNat l)
  pure (x * 16 + y)

/-- Bytes with every well-formed percent escape decoded. -/
def percentDecode : List Nat → List Nat
  | 0x25 :: h :: l :: rest =>
    match hexPair? h l with
    | some b => b :: percentDecode rest
    | none => 0x25 :: percentDecode (h :: l :: rest)
  | b :: rest => b :: percentDecode rest
  | [] => []

end SiteSpiders.Url
