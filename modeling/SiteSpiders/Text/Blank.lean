import SiteSpiders.Unicode.Property

/-!
# Blanks

Trimming and blankness by the White_Space property.
-/
namespace SiteSpiders.Text

def isBlank (c : Char) : Bool := Unicode.isWhiteSpace c

def trimList (cs : List Char) : List Char :=
  ((cs.dropWhile isBlank).reverse.dropWhile isBlank).reverse

/-- Removes blanks from both ends of a text. -/
def trim (s : String) : String := String.ofList (trimList s.toList)

/-- Whether a text has nothing but blanks. -/
def isBlankText (s : String) : Bool := s.toList.all isBlank

end SiteSpiders.Text
