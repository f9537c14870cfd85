import SiteSpiders.Json.Printer
import SiteSpiders.Text.Literal

/-!
# Reading values as records

A record with one field is read from an object with that field, or from an array
with one item. The errors say what was found and what was expected.
-/
namespace SiteSpiders

inductive JsonFault where
  | missingField (name : String)
  | invalidLength (length : Nat) (expected : String)
  | invalidType (found expected : String)
  | invalidValue (found expected : String)
  /-- A text that ends before a value. -/
  | endOfText
  deriving DecidableEq, Repr, Inhabited

def JsonFault.message : JsonFault → String
  | .missingField name => "missing field `" ++ name ++ "`"
  | .invalidLength n expected =>
    "invalid length " ++ Number.decimalText n ++ ", expected " ++ expected
  | .invalidType found expected => "invalid type: " ++ found ++ ", expected " ++ expected
  | .invalidValue found expected => "invalid value: " ++ found ++ ", expected " ++ expected
  | .endOfText => "EOF while parsing a value at line 1 column 0"

namespace Json

/-- How an error names a number. -/
def numberName : JsonNumber → String
  | .floating x => "floating point `" ++ String.ofList (doubleChars x) ++ "`"
  | n => "integer `" ++ String.ofList (numberChars n) ++ "`"

/-- How an error names a value. -/
def foundName : Json → String
  | .null => "null"
  | .bool b => "boolean `" ++ (if b then "true" else "false") ++ "`"
  | .number n => numberName n
  | .string s => "string " ++ Text.literal s
  | .array _ => "sequence"
  | .object _ => "map"

def asString : Json → Except JsonFault String
  | .string s => .ok s
  | j => .error (.invalidType j.foundName "a string")

def asNat : Json → Except JsonFault Nat
  | .number (.natural n) => .ok n
  | .number (.negative n) => .error (.invalidValue (numberName (.negative n)) "usize")
  | j => .error (.invalidType j.foundName "usize")

/-- Reads a record with one field. -/
def asRecord (record field : String) (read : Json → Except JsonFault α) :
    Json → Except JsonFault α
  | .object fields =>
    match fields.lookup field with
    | some j => read j
    | none => .error (.missingField field)
  | .array [] => .error (.invalidLength 0 ("struct " ++ record ++ " with 1 element"))
  | .array (first :: rest) =>
    match read first with
    | .error e => .error e
    | .ok value =>
      if rest.isEmpty then .ok value
      else .error (.invalidLength (rest.length + 1) "fewer elements in array")
  | j => .error (.invalidType j.foundName ("struct " ++ record))

end Json

end SiteSpiders
