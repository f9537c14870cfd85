import SiteSpiders.Text.Listing
import SiteSpiders.Unicode.Property

/-!
# Quoted literals

A text between double quotes, in which quotes, backslashes and whatever does not
show by itself are escaped.
-/
namespace SiteSpiders.Text

/-- The hexadecimal digits of a number. -/
def hexDigits (n : Nat) : List Char := Nat.toDigits 16 n

/-- Whether a character is written by its code point. -/
def needsCode (c : Char) : Bool :=
  isInvisible c || (0x300 ≤ c.toNat && Unicode.graphemeExtend.contains c)

def literalChar (c : Char) : List Char :=
  if c = '"' then ['\\', '"']
  else if c = '\\' then ['\\', '\\']
  else if c = '\n' then ['\\', 'n']
  else if c = '\r' then ['\\', 'r']
  else if c = '\t' then ['\\', 't']
  else if c.toNat = 0 then ['\\', '0']
  else if needsCode c then ['\\', 'u', '\x7b'] ++ hexDigits c.toNat ++ ['\x7d']
  else [c]

def literal (s : String) : String :=
  String.ofList ('"' :: (s.toList.flatMap literalChar ++ ['"']))

end SiteSpiders.Text
