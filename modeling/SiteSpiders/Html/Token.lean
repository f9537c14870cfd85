import SiteSpiders.Html.Entity

/-!
# Tokens of a page

The text of a page is read token by token. How the next one is read depends on
where the reader stands: in ordinary text, inside an element that holds only
text, or in a script.
-/
namespace SiteSpiders.Html

structure Doctype where
  name : String := ""
  publicId : Option String := none
  systemId : Option String := none
  broken : Bool := false

inductive Token where
  | doctype (d : Doctype)
  | startTag (name : String) (attributes : List (String × String)) (selfClosing : Bool)
  | endTag (name : String)
  | comment
  /-- White space only. -/
  | space (cs : List Char)
  /-- No white space and no NUL. -/
  | text (cs : List Char)
  | null
  | eof

inductive TextMode where
  | data
  /-- Text with references, up to the end tag. -/
  | escapable
  /-- Text without references, up to the end tag. -/
  | raw
  | script
  | plain
  deriving DecidableEq

def isSpace (c : Char) : Bool :=
  c == ' ' || c == '\n' || c == '\t' || c == '\r' || c.toNat == 12

def isLetter (c : Char) : Bool := c.isAlpha

/-- A character of a tag or attribute name: lower case, and no NUL. -/
def nameChar (c : Char) : Char := if c.toNat = 0 then Char.ofNat 0xfffd else c.toLower

/-- A character of a value: no NUL. -/
def valueChar (c : Char) : Char := if c.toNat = 0 then Char.ofNat 0xfffd else c

/-- Whether a text starts with an ASCII word, in any case. -/
def startsWithWord (word : List Char) (cs : List Char) : Bool :=
  word.isPrefixOf ((cs.take word.length).map Char.toLower)

/-- A value up to a closing quote; `none` at the end of the page. -/
def quotedValue (quote : Char) : Nat → List Char → List Char → Option (List Char × List Char)
  | 0, _, _ => none
  | _ + 1, _, [] => none
  | fuel + 1, acc, c :: rest =>
    if c = quote then some (acc.reverse, rest)
    else if c = '&' then
      let (found, rest) := reference true rest
      quotedValue quote fuel (found.reverse ++ acc) rest
    else quotedValue quote fuel (valueChar c :: acc) rest

/-- A value without quotes; `none` at the end of the page. -/
def bareValue : Nat → List Char → List Char → Option (List Char × List Char)
  | 0, _, _ => none
  | _ + 1, _, [] => none
  | fuel + 1, acc, c :: rest =>
    if isSpace c ∨ c = '>' then some (acc.reverse, c :: rest)
    else if c = '&' then
      let (found, rest) := reference true rest
      bareValue fuel (found.reverse ++ acc) rest
    else bareValue fuel (valueChar c :: acc) rest

/-- The value after an equals sign. -/
def attributeValue (cs : List Char) : Option (List Char × List Char) :=
  match cs.dropWhile isSpace with
  | [] => none
  | '>' :: rest => some ([], '>' :: rest)
  | c :: rest =>
    if c = '"' ∨ c = '\'' then quotedValue c (rest.length + 1) [] rest
    else bareValue (rest.length + 2) [] (c :: rest)

/-- Adds an attribute unless one of its name is there. -/
def addAttribute (acc : List (String × String)) (name : List Char) (value : List Char) :
    List (String × String) :=
  let key := String.ofList name
  if acc.any fun a => a.1 == key then acc else acc ++ [(key, String.ofList value)]

/-- The attributes of a tag, whether it closes itself, and the rest; `none` at the end of the
page. -/
def readAttributes : Nat → List (String × String) → List Char →
    Option (List (String × String) × Bool × List Char)
  | 0, _, _ => none
  | fuel + 1, acc, cs =>
    match cs.dropWhile isSpace with
    | [] => none
    | '>' :: rest => some (acc, false, rest)
    | '/' :: rest =>
      match rest with
      | '>' :: more => some (acc, true, more)
      | _ => readAttributes fuel acc rest
    | c :: rest =>
      let inName := fun (d : Char) => !(isSpace d || d == '/' || d == '>' || d == '=')
      let name := c :: rest.takeWhile inName
      let after := (rest.dropWhile inName).dropWhile isSpace
      match after with
      | '=' :: more =>
        match attributeValue more with
        | none => none
        | some (value, more) =>
          readAttributes fuel (addAttribute acc (name.map nameChar) value) more
      | [] => none
      | _ => readAttributes fuel (addAttribute acc (name.map nameChar) []) after

/-- A tag from its name on: name, attributes, whether it closes itself, and the rest. -/
def readTag (cs : List Char) :
    Option (String × List (String × String) × Bool × List Char) :=
  let inName := fun (d : Char) => !(isSpace d || d == '/' || d == '>')
  let name := cs.takeWhile inName
  (readAttributes (cs.length + 1) [] (cs.dropWhile inName)).map
    fun (attributes, closing, rest) =>
      (String.ofList (name.map nameChar), attributes, closing, rest)

def afterComment : List Char → List Char
  | '-' :: '-' :: '>' :: rest => rest
  | '-' :: '-' :: '!' :: '>' :: rest => rest
  | _ :: rest => afterComment rest
  | [] => []

/-- What follows a comment, from the text after its opening. -/
def skipComment : List Char → List Char
  | '>' :: rest => rest
  | '-' :: '>' :: rest => rest
  | cs => afterComment cs

/-- What follows the next closing bracket. -/
def skipBogus (cs : List Char) : List Char := (cs.dropWhile (· != '>')).drop 1

/-- A quoted identifier of a document type: its text and the rest; `none` if it is not closed. -/
def quotedIdentifier (quote : Char) (cs : List Char) : Option (String × List Char) :=
  let body := cs.takeWhile fun c => c != quote && c != '>'
  match cs.drop body.length with
  | c :: rest => if c = quote then some (String.ofList (body.map valueChar), rest) else none
  | [] => none

/-- A document type with a system identifier to come. -/
def readSystemId (d : Doctype) (cs : List Char) : Doctype :=
  match cs.dropWhile isSpace with
  | '>' :: _ => d
  | c :: rest =>
    if c = '"' ∨ c = '\'' then
      match quotedIdentifier c rest with
      | some (s, _) => { d with systemId := some s }
      | none => { d with broken := true }
    else { d with broken := true }
  | [] => { d with broken := true }

/-- The document type from the text after its keyword. -/
def readDoctype (cs : List Char) : Doctype :=
  let cs := cs.dropWhile isSpace
  let name := cs.takeWhile fun c => !isSpace c && c != '>'
  let after := (cs.drop name.length).dropWhile isSpace
  let d : Doctype := { name := String.ofList (name.map nameChar) }
  if name.isEmpty then { d with broken := true }
  else match after with
    | [] => { d with broken := true }
    | '>' :: _ => d
    | _ =>
      if startsWithWord ['p', 'u', 'b', 'l', 'i', 'c'] after then
        match (after.drop 6).dropWhile isSpace with
        | c :: rest =>
          if c = '"' ∨ c = '\'' then
            match quotedIdentifier c rest with
            | some (p, more) => readSystemId { d with publicId := some p } more
            | none => { d with broken := true }
          else { d with broken := true }
        | [] => { d with broken := true }
      else if startsWithWord ['s', 'y', 's', 't', 'e', 'm'] after then
        match (after.drop 6).dropWhile isSpace with
        | '>' :: _ => { d with broken := true }
        | rest => readSystemId d rest
      else { d with broken := true }

/-- The part of a text before a mark, and what follows the mark. -/
def splitAtMark (mark : List Char) : List Char → List Char × List Char
  | [] => ([], [])
  | c :: rest =>
    if mark.isPrefixOf (c :: rest) then ([], (c :: rest).drop mark.length)
    else
      let (a, b) := splitAtMark mark rest
      (c :: a, b)

/-- Whether a text after `</` closes the element of the given name. -/
def closes (name : List Char) (cs : List Char) : Bool :=
  startsWithWord name cs && (match cs.drop name.length with
    | c :: _ => isSpace c || c == '/' || c == '>'
    | [] => false)

/-- Where a script stands with respect to comment marks in it. -/
inductive ScriptState where
  | outside
  | escaped
  | doubleEscaped
  deriving DecidableEq

/-- Whether a text after `<` names the script element, or after `</` closes it. -/
def namesScript (cs : List Char) : Bool := closes ['s', 'c', 'r', 'i', 'p', 't'] cs

/-- The content of a script, in reverse onto `acc`, and the rest from its end tag on. `dashes`
counts the hyphens just passed inside a comment mark. -/
def scriptText : ScriptState → Nat → List Char → List Char → List Char × List Char
  | _, _, acc, [] => (acc.reverse, [])
  | state, dashes, acc, c :: rest =>
    if c = '<' then
      match rest with
      | '/' :: name =>
        if namesScript name then
          match state with
          | .doubleEscaped => scriptText .escaped 0 (c :: acc) rest
          | _ => (acc.reverse, c :: rest)
        else scriptText state 0 (c :: acc) rest
      | '!' :: '-' :: '-' :: _ =>
        if state = .outside then scriptText .escaped 0 (c :: acc) rest
        else scriptText state 0 (c :: acc) rest
      | _ =>
        if state = .escaped ∧ namesScript rest then scriptText .doubleEscaped 0 (c :: acc) rest
        else scriptText state 0 (c :: acc) rest
    else if c = '-' then scriptText state (dashes + 1) (c :: acc) rest
    else if c = '>' ∧ 2 ≤ dashes ∧ state ≠ .outside then scriptText .outside 0 (c :: acc) rest
    else scriptText state 0 (c :: acc) rest

/-- The content of an element without references, and the rest from its end tag on. -/
def rawText (name : List Char) : List Char → List Char × List Char
  | [] => ([], [])
  | c :: rest =>
    let ended := c == '<' && (match rest with
      | '/' :: more => closes name more
      | _ => false)
    if ended then ([], c :: rest)
    else
      let (a, b) := rawText name rest
      (c :: a, b)

/-- Decodes the references of a text. -/
def decodeReferences : Nat → List Char → List Char
  | 0, cs => cs
  | _ + 1, [] => []
  | fuel + 1, c :: rest =>
    if c = '&' then
      let (found, rest) := reference false rest
      found ++ decodeReferences fuel rest
    else c :: decodeReferences fuel rest

/-- Splits a text into tokens of white space, of other characters, and of NULs. -/
def textTokens : Nat → List Char → List Token
  | 0, _ => []
  | _ + 1, [] => []
  | fuel + 1, c :: rest =>
    if c.toNat = 0 then .null :: textTokens fuel rest
    else if isSpace c then
      .space (c :: rest.takeWhile isSpace) :: textTokens fuel (rest.dropWhile isSpace)
    else
      let more := fun (d : Char) => !isSpace d && d.toNat != 0
      .text (c :: rest.takeWhile more) :: textTokens fuel (rest.dropWhile more)

def tokensOf (cs : List Char) : List Token := textTokens (cs.length + 1) cs

/-- The coming markup declaration after `<!`. -/
def declaration (inForeign : Bool) (cs : List Char) : List Token × List Char :=
  match cs with
  | '-' :: '-' :: rest => ([.comment], skipComment rest)
  | _ =>
    if startsWithWord ['d', 'o', 'c', 't', 'y', 'p', 'e'] cs then
      let d := readDoctype (cs.drop 7)
      ([.doctype { d with broken := d.broken || !cs.contains '>' }], skipBogus (cs.drop 7))
    else if inForeign ∧ ['[', 'C', 'D', 'A', 'T', 'A', '['].isPrefixOf cs then
      let (content, rest) := splitAtMark [']', ']', '>'] (cs.drop 7)
      (tokensOf content, rest)
    else ([.comment], skipBogus cs)

/-- What stands after `<` in ordinary text. -/
def markup (inForeign : Bool) (cs : List Char) : List Token × List Char :=
  match cs with
  | '!' :: rest => declaration inForeign rest
  | '?' :: _ => ([.comment], skipBogus cs)
  | '/' :: rest =>
    match rest with
    | [] => ([.text ['<', '/']], [])
    | '>' :: more => ([], more)
    | c :: _ =>
      if isLetter c then
        match readTag rest with
        | some (name, _, _, more) => ([.endTag name], more)
        | none => ([], [])
      else ([.comment], skipBogus rest)
  | c :: _ =>
    if isLetter c then
      match readTag cs with
      | some (name, attributes, closing, more) => ([.startTag name attributes closing], more)
      | none => ([], [])
    else ([.text ['<']], cs)
  | [] => ([.text ['<']], [])

/-- The next tokens and the rest of the page. `name` is the element whose end tag ends a text that
is read specially. -/
def nextTokens (mode : TextMode) (name : String) (inForeign : Bool) (cs : List Char) :
    List Token × List Char :=
  match mode with
  | .data =>
    match cs with
    | '<' :: rest => markup inForeign rest
    | '&' :: rest =>
      let (found, more) := reference false rest
      (tokensOf found, more)
    | _ =>
      let ordinary := fun (c : Char) => c != '<' && c != '&'
      (tokensOf (cs.takeWhile ordinary), cs.dropWhile ordinary)
  | .plain => (tokensOf (cs.map valueChar), [])
  | .escapable =>
    let (content, rest) := rawText name.toList cs
    (tokensOf (decodeReferences (content.length + 1) (content.map valueChar)), rest)
  | .raw =>
    let (content, rest) := rawText name.toList cs
    (tokensOf (content.map valueChar), rest)
  | .script =>
    let (content, rest) := scriptText .outside 0 [] cs
    (tokensOf (content.map valueChar), rest)

/-- A page with a leading byte-order mark dropped and every line break a single line feed. -/
def lineFeeds : List Char → List Char
  | '\r' :: '\n' :: rest => '\n' :: lineFeeds rest
  | '\r' :: rest => '\n' :: lineFeeds rest
  | c :: rest => c :: lineFeeds rest
  | [] => []

/-- The characters of a page as they are read. -/
def pageChars (s : String) : List Char :=
  match s.toList with
  | c :: rest => lineFeeds (if c.toNat = 0xfeff then rest else c :: rest)
  | [] => []

end SiteSpiders.Html
