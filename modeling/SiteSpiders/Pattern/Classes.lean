import SiteSpiders.Unicode.Casing
import SiteSpiders.Unicode.Script

/-!
# Named classes of characters

The classes a pattern may ask for by name: categories, scripts and properties of
Unicode, and the bracketed ASCII classes. Case, blanks, hyphens and underscores
in a name do not matter.
-/
namespace SiteSpiders.Pattern

open SiteSpiders.Text (CharSet)
open SiteSpiders

/-- A name without case, blanks, hyphens and underscores, and without a leading `is`. -/
def plainName (s : String) : String :=
  let shown := s.toList.filter fun c => c != ' ' && c != '-' && c != '_' && c != '\t'
  let cs := shown.map Char.toLower
  match cs with
  | 'i' :: 's' :: 'c' :: [] => "isc"
  | 'i' :: 's' :: rest => if rest.isEmpty then "is" else String.ofList rest
  | _ => String.ofList cs

/-- The categories and groups of categories, by all their names. -/
def categoryNames : List (String × List String) :=
  [("C", ["Other"]), ("Cc", ["Control", "Cntrl"]), ("Cf", ["Format"]), ("Cn", ["Unassigned"]),
   ("Co", ["Private_Use"]), ("Cs", ["Surrogate"]), ("L", ["Letter"]), ("LC", ["Cased_Letter"]),
   ("Ll", ["Lowercase_Letter"]), ("Lm", ["Modifier_Letter"]), ("Lo", ["Other_Letter"]),
   ("Lt", ["Titlecase_Letter"]), ("Lu", ["Uppercase_Letter"]), ("M", ["Mark", "Combining_Mark"]),
   ("Mc", ["Spacing_Mark"]), ("Me", ["Enclosing_Mark"]), ("Mn", ["Nonspacing_Mark"]),
   ("N", ["Number"]), ("Nd", ["Decimal_Number", "Digit"]), ("Nl", ["Letter_Number"]),
   ("No", ["Other_Number"]), ("P", ["Punctuation", "Punct"]), ("Pc", ["Connector_Punctuation"]),
   ("Pd", ["Dash_Punctuation"]), ("Pe", ["Close_Punctuation"]), ("Pf", ["Final_Punctuation"]),
   ("Pi", ["Initial_Punctuation"]), ("Po", ["Other_Punctuation"]), ("Ps", ["Open_Punctuation"]),
   ("S", ["Symbol"]), ("Sc", ["Currency_Symbol"]), ("Sk", ["Modifier_Symbol"]),
   ("Sm", ["Math_Symbol"]), ("So", ["Other_Symbol"]), ("Z", ["Separator"]),
   ("Zl", ["Line_Separator"]), ("Zp", ["Paragraph_Separator"]), ("Zs", ["Space_Separator"])]

/-- The set of a category or a group of categories. -/
def categoryClass (abbreviation : String) : CharSet :=
  if abbreviation == "LC" then
    Unicode.categorySet fun k => k == "Lu" || k == "Ll" || k == "Lt"
  else if abbreviation.length == 1 then
    Unicode.categorySet fun k => k.startsWith abbreviation
  else Unicode.categorySet fun k => k == abbreviation

def category? (name : String) : Option CharSet :=
  if name == "any" then some CharSet.all
  else if name == "assigned" then some (categoryClass "Cn").complement
  else if name == "ascii" then some (CharSet.range 0 0x7f)
  else (categoryNames.find? fun (a, names) => (a :: names).any fun n => plainName n == name).map
    fun (a, _) => categoryClass a

def script? (name : String) : Option CharSet :=
  (Unicode.scriptNames.find? fun names => names.any fun n => plainName n == name).bind
    fun names => names.head?.map Unicode.scriptSet

def propertyAliases : List (String × String) :=
  [("alpha", "alphabetic"), ("lower", "lowercase"), ("upper", "uppercase"),
   ("wspace", "whitespace"), ("space", "whitespace"), ("ci", "caseignorable"),
   ("grext", "graphemeextend"), ("ideo", "ideographic"), ("hex", "hexdigit"),
   ("ahex", "asciihexdigit"), ("dia", "diacritic"), ("ext", "extender"),
   ("di", "defaultignorablecodepoint"), ("nchar", "noncharactercodepoint"),
   ("qmark", "quotationmark"), ("ri", "regionalindicator"), ("sterm", "sentenceterminal"),
   ("term", "terminalpunctuation"), ("uideo", "unifiedideograph"), ("vs", "variationselector"),
   ("joinc", "joincontrol"), ("bidic", "bidicontrol"), ("sd", "softdotted"),
   ("patws", "patternwhitespace"), ("patsyn", "patternsyntax"), ("ids", "idstart"),
   ("idc", "idcontinue"), ("xids", "xidstart"), ("xidc", "xidcontinue"),
   ("epres", "emojipresentation"), ("extpict", "extendedpictographic")]

def property? (name : String) : Option CharSet :=
  let name := (propertyAliases.lookup name).getD name
  (Unicode.namedProperties.find? fun (n, _) => plainName n == name).map (·.2)

def namedClass? (name : String) : Option CharSet :=
  let plain := plainName name
  let property := if ["cf", "sc", "lc"].contains plain then none else property? plain
  match property with
  | some s => some s
  | none => match category? plain with
    | some s => some s
    | none => script? plain

/-- A class by the name of a property and its value. -/
def valueClass? (property value : String) : Option CharSet :=
  match plainName property with
  | "gc" | "generalcategory" => category? (plainName value)
  | "sc" | "script" | "scx" | "scriptextensions" => script? (plainName value)
  | _ => none

def asciiClass? : String → Option CharSet
  | "alnum" => some (.ofRanges [(0x30, 0x39), (0x41, 0x5a), (0x61, 0x7a)])
  | "alpha" => some (.ofRanges [(0x41, 0x5a), (0x61, 0x7a)])
  | "ascii" => some (.range 0 0x7f)
  | "blank" => some (.ofRanges [(0x09, 0x09), (0x20, 0x20)])
  | "cntrl" => some (.ofRanges [(0, 0x1f), (0x7f, 0x7f)])
  | "digit" => some (.range 0x30 0x39)
  | "graph" => some (.range 0x21 0x7e)
  | "lower" => some (.range 0x61 0x7a)
  | "print" => some (.range 0x20 0x7e)
  | "punct" => some (.ofRanges [(0x21, 0x2f), (0x3a, 0x40), (0x5b, 0x60), (0x7b, 0x7e)])
  | "space" => some (.ofRanges [(0x09, 0x0d), (0x20, 0x20)])
  | "upper" => some (.range 0x41 0x5a)
  | "word" => some (.ofRanges [(0x30, 0x39), (0x41, 0x5a), (0x5f, 0x5f), (0x61, 0x7a)])
  | "xdigit" => some (.ofRanges [(0x30, 0x39), (0x41, 0x46), (0x61, 0x66)])
  | _ => none

def asciiWord : CharSet := .ofRanges [(0x30, 0x39), (0x41, 0x5a), (0x5f, 0x5f), (0x61, 0x7a)]

def asciiSpace : CharSet := .ofRanges [(0x09, 0x0d), (0x20, 0x20)]

def asciiDigit : CharSet := .range 0x30 0x39

end SiteSpiders.Pattern
