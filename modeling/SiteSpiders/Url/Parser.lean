import SiteSpiders.Url.Host
import SiteSpiders.Text.Blank

/-!
# Reading URLs

A text is read on its own or as a link found on a page. Control characters and
blanks around it and line breaks and tabs inside it do not count.
-/
namespace SiteSpiders.Url

inductive SchemeKind where
  | file
  | special
  | other
  deriving DecidableEq, Repr

def schemeKind (scheme : String) : SchemeKind :=
  if scheme = "file" then .file
  else if ["http", "https", "ws", "wss", "ftp"].contains scheme then .special
  else .other

namespace SchemeKind

/-- Schemes in which a backslash divides like a slash. -/
def isSpecial (k : SchemeKind) : Bool := k != .other

end SchemeKind

/-- The port a scheme uses when none is given. -/
def defaultPort (scheme : String) : Option Nat :=
  match scheme with
  | "http" | "ws" => some 80
  | "https" | "wss" => some 443
  | "ftp" => some 21
  | _ => none

/-- Drops control characters and blanks at both ends, and tabs and line breaks anywhere. -/
def clean (cs : List Char) : List Char :=
  let outer := fun (c : Char) => c.toNat ≤ 0x20
  (((cs.dropWhile outer).reverse.dropWhile outer).reverse).filter
    fun c => c != '\t' && c != '\n' && c != '\r'

def isLetter (c : Char) : Bool := ('a' ≤ c && c ≤ 'z') || ('A' ≤ c && c ≤ 'Z')

/-- The ASCII lower case of a character. -/
def lowerAscii (c : Char) : Char :=
  if 'A' ≤ c ∧ c ≤ 'Z' then Char.ofNat (c.toNat + 32) else c

/-- Characters of a scheme after the first. -/
def isSchemeChar (c : Char) : Bool :=
  isLetter c || c.isDigit || c == '+' || c == '-' || c == '.'

/-- The scheme in front of a colon, with what follows it. -/
def readScheme (cs : List Char) : Option (String × List Char) :=
  match cs with
  | c :: _ =>
    if isLetter c then
      match cs.dropWhile isSchemeChar with
      | ':' :: rest => some (String.ofList ((cs.takeWhile isSchemeChar).map lowerAscii), rest)
      | _ => none
    else none
  | [] => none

/-- A slash, or a backslash where that counts as one. -/
def isSlash (c : Char) : Bool := c == '/' || c == '\\'

/-- A letter and a colon or bar. -/
def isDriveLetter : List Char → Bool
  | [a, b] => isLetter a && (b == ':' || b == '|')
  | _ => false

def isNormalDriveLetter (s : String) : Bool :=
  match s.toList with
  | [a, ':'] => isLetter a
  | _ => false

/-- Whether a text starts with a drive letter that is a whole segment. -/
def startsWithDrive : List Char → Bool
  | a :: b :: rest =>
    isLetter a && (b == ':' || b == '|') && (match rest with
      | [] => true
      | c :: _ => isSlash c || c == '?' || c == '#')
  | _ => false

/-- A segment that names its own directory. -/
def isSingleDot (s : String) : Bool :=
  s == "." || s.map lowerAscii == "%2e"

/-- A segment that names the parent directory. -/
def isDoubleDot (s : String) : Bool :=
  ["..", ".%2e", "%2e.", "%2e%2e"].contains (s.map lowerAscii)

/-- Steps out of the last directory; a drive letter is never left. `dirs` are in reverse. -/
def stepOut : List String → List String
  | [] => []
  | d :: rest => if isDriveLetter d.toList then d :: rest else rest

/-- One segment, whether a slash ended it, and the rest. -/
def readSegment (kind : SchemeKind) : List Char → List Char × Bool × List Char
  | [] => ([], false, [])
  | c :: rest =>
    if c = '/' ∨ (c = '\\' ∧ kind.isSpecial) then ([], true, rest)
    else if c = '?' ∨ c = '#' then ([], false, c :: rest)
    else
      let (segment, slash, more) := readSegment kind rest
      (c :: segment, slash, more)

/-- A path being read: its directories in reverse, and whether its host stays. -/
structure PathRead where
  segments : List String
  keepsHost : Bool
  rest : List Char

/-- Reads segments onto the directories `dirs`, which are in reverse. -/
def readPath (kind : SchemeKind) : Nat → List String → Bool → List Char → PathRead
  | 0, dirs, keeps, cs => ⟨dirs.reverse, keeps, cs⟩
  | fuel + 1, dirs, keeps, cs =>
    let (raw, slash, rest) := readSegment kind cs
    let segment := String.ofList (percentEncode inPath raw)
    if isDoubleDot segment then
      let dirs := stepOut dirs
      if slash then readPath kind fuel dirs keeps rest else ⟨(("" :: dirs)).reverse, keeps, rest⟩
    else if isSingleDot segment then
      if slash then readPath kind fuel dirs keeps rest else ⟨(("" :: dirs)).reverse, keeps, rest⟩
    else
      let drive := kind = .file ∧ dirs.isEmpty ∧ isDriveLetter segment.toList
      let segment := if drive then
          match segment.toList with
          | a :: _ => String.ofList [a, ':']
          | [] => segment
        else segment
      let keeps := if drive then false else keeps
      if slash then readPath kind fuel (segment :: dirs) keeps rest
      else ⟨(segment :: dirs).reverse, keeps, rest⟩

/-- Drops empty segments in front of others. -/
def dropEmptyFront : List String → List String
  | "" :: s :: rest => dropEmptyFront (s :: rest)
  | segments => segments

/-- Reads a path after its first slash, onto directories in reverse. -/
def pathFrom (kind : SchemeKind) (dirs : List String) (keeps : Bool) (cs : List Char) : PathRead :=
  let read := readPath kind (cs.length + 1) dirs keeps cs
  if kind = .file then { read with segments := dropEmptyFront read.segments } else read

/-- Reads a path right after an authority. -/
def pathAfterAuthority (kind : SchemeKind) (keeps : Bool) (cs : List Char) : PathRead :=
  match cs with
  | [] => if kind.isSpecial then pathFrom kind [] keeps [] else ⟨[], keeps, []⟩
  | c :: rest =>
    if c = '/' ∨ (c = '\\' ∧ kind.isSpecial) then pathFrom kind [] keeps rest
    else if kind.isSpecial then pathFrom kind [] keeps cs
    else if c = '?' ∨ c = '#' then ⟨[], keeps, cs⟩
    else pathFrom kind [] keeps cs

/-- A query and a fragment, from the text that starts with `?` or `#`. -/
def readTail (kind : SchemeKind) (cs : List Char) : Option String × Option String :=
  let fragmentOf (rest : List Char) : Option String :=
    match rest with
    | '#' :: f => some (String.ofList (percentEncode inFragment f))
    | _ => none
  match cs with
  | '?' :: rest =>
    let raw := rest.takeWhile (· != '#')
    let set := if kind.isSpecial then inSpecialQuery else inQuery
    (some (String.ofList (percentEncode set raw)), fragmentOf (rest.dropWhile (· != '#')))
  | _ => (none, fragmentOf cs)

/-- Whether a character ends the authority. -/
def endsAuthority (kind : SchemeKind) (c : Char) : Bool :=
  c == '/' || c == '?' || c == '#' || (c == '\\' && kind.isSpecial)

/-- User name and password, and what follows the last `@` of the authority. -/
def readUserinfo (kind : SchemeKind) (cs : List Char) :
    Except UrlError (String × String × List Char) :=
  let span := cs.takeWhile fun c => !endsAuthority kind c
  let after := cs.drop span.length
  let host := (span.reverse.takeWhile (· != '@')).reverse
  if host.length = span.length then .ok ("", "", cs)
  else
    let info := span.take (span.length - host.length - 1)
    let rest := host ++ after
    if info.isEmpty then
      match host, after with
      | [], _ :: _ => .error .emptyHost
      | _, _ => .ok ("", "", rest)
    else
      let encode (part : List Char) := String.ofList (percentEncode inUserinfo part)
      .ok (encode (info.takeWhile (· != ':')), encode ((info.dropWhile (· != ':')).drop 1), rest)

/-- The text of the host and what follows: a colon outside brackets or the end of the authority. -/
def readHostText (kind : SchemeKind) : Bool → List Char → List Char × List Char
  | _, [] => ([], [])
  | inside, c :: rest =>
    if (c = ':' ∧ !inside) ∨ endsAuthority kind c then ([], c :: rest)
    else
      let inside := if c = '[' then true else if c = ']' then false else inside
      let (host, more) := readHostText kind inside rest
      (c :: host, more)

def readPort (default? : Option Nat) (cs : List Char) : Except UrlError (Option Nat × List Char) :=
  let digits := cs.takeWhile Char.isDigit
  let rest := cs.drop digits.length
  let port := digits.foldl (fun n c => n * 10 + (c.toNat - 48)) 0
  let ended := match rest with
    | [] => true
    | c :: _ => isSlash c || c == '?' || c == '#'
  if 65535 < port ∨ !ended then .error .invalidPort
  else if digits.isEmpty ∨ default? = some port then .ok (none, rest)
  else .ok (some port, rest)

/-- A URL whose text goes on after `scheme://`. -/
def readAuthority (scheme : String) (cs : List Char) : Except UrlError Url := do
  let kind := schemeKind scheme
  let (username, password, rest) ← readUserinfo kind cs
  let (hostText, rest) := readHostText kind false rest
  if kind = .special ∧ hostText.isEmpty then throw .emptyHost
  let host ← if kind = .special then (parseHost hostText).map some else parseFreeHost hostText
  let portAhead := rest.head? == some ':'
  if host.isNone ∧ portAhead then throw .emptyHost
  let (port, rest) ← if portAhead then readPort (defaultPort scheme) (rest.drop 1)
    else .ok (none, rest)
  if host.isNone ∧ !(username.isEmpty && password.isEmpty) then throw .emptyHost
  let read := pathAfterAuthority kind true rest
  let (query, fragment) := readTail kind read.rest
  pure { scheme, authority := some { username, password, host, port }
         path := .rooted read.segments, query, fragment }

/-- A file URL with a path read, and its host if the path let it stay. -/
def fileUrl (host : Option Host) (read : PathRead) : Url :=
  let (query, fragment) := readTail .file read.rest
  { scheme := "file", authority := some { host := host }
    path := .rooted read.segments, query, fragment }

/-- The segments of a rooted path. -/
def segments (u : Url) : List String :=
  match u.path with
  | .rooted s => s
  | .rootless _ => []

/-- The directories of a base URL, in reverse: all segments but the last. -/
def baseDirs (kind : SchemeKind) (base : Url) : List String :=
  match base.segments.reverse with
  | [] => []
  | last :: dirs => if kind = .file ∧ isNormalDriveLetter last then last :: dirs else dirs

/-- A link that keeps everything of the base up to its path. -/
def withPath (base : Url) (kind : SchemeKind) (read : PathRead) : Url :=
  let (query, fragment) := readTail kind read.rest
  { base with path := .rooted read.segments, query, fragment }

/-- The base without its fragment, with the fragment of a link that has nothing else. -/
def withTail (base : Url) (kind : SchemeKind) (cs : List Char) : Url :=
  match cs with
  | '?' :: _ =>
    let (query, fragment) := readTail kind cs
    { base with query, fragment }
  | '#' :: _ => { base with fragment := (readTail kind cs).2 }
  | _ => base.withoutFragment

/-- A file URL whose host is read from the text after two slashes. -/
def readFileHost (cs : List Char) : Except UrlError Url := do
  let span := cs.takeWhile fun c => !(isSlash c || c == '?' || c == '#')
  if isDriveLetter span then pure (fileUrl none (pathFrom .file [] false cs))
  else if span.isEmpty then pure (fileUrl none (pathFrom .file [] false cs))
  else
    let rest := cs.drop span.length
    match ← parseHost span with
    | .domain "localhost" => pure (fileUrl none (pathFrom .file [] false rest))
    | host =>
      let read := pathAfterAuthority .file true rest
      pure (fileUrl (if read.keepsHost then some host else none) read)

/-- A file URL, from the text after its scheme. -/
def readFile (base : Option Url) (cs : List Char) : Except UrlError Url :=
  match cs with
  | a :: b :: rest =>
    if isSlash a ∧ isSlash b then readFileHost rest
    else readFilePath base cs
  | _ => readFilePath base cs
where
  /-- A file URL without a host of its own. -/
  readFilePath (base : Option Url) (cs : List Char) : Except UrlError Url :=
    match cs, base with
    | c :: rest, base =>
      if isSlash c then
        let (dirs, host) := match base with
          | some b =>
            if startsWithDrive rest then ([], none)
            else match b.segments with
              | first :: _ => if isNormalDriveLetter first then ([first], none) else ([], b.host?)
              | [] => ([], b.host?)
          | none => ([], none)
        .ok (fileUrl host (pathFrom .file dirs false rest))
      else match base with
        | some b =>
          if c = '?' ∨ c = '#' then .ok (b.withTail .file cs)
          else if startsWithDrive cs then .ok (fileUrl none (pathFrom .file [] false cs))
          else .ok (b.withPath .file (pathFrom .file (baseDirs .file b) true cs))
        | none => .ok (fileUrl none (pathFrom .file [] false cs))
    | [], some b => .ok (b.withoutFragment)
    | [], none => .ok (fileUrl none (pathFrom .file [] false []))

/-- A link relative to a base that is not a file. -/
def readRelative (base : Url) (cs : List Char) : Except UrlError Url :=
  let kind := schemeKind base.scheme
  match cs with
  | [] => .ok base.withoutFragment
  | '?' :: _ | '#' :: _ => .ok (base.withTail kind cs)
  | '/' :: '/' :: rest => readAuthority base.scheme rest
  | a :: rest =>
    if isSlash a then
      match rest with
      | b :: _ =>
        if isSlash b then readAuthority base.scheme (cs.dropWhile isSlash)
        else .ok (base.withPath kind (pathFrom kind [] true rest))
      | [] => .ok (base.withPath kind (pathFrom kind [] true rest))
    else .ok (base.withPath kind (pathFrom kind (baseDirs kind base) true cs))

/-- A URL of another scheme, from the text after the scheme. -/
def readOther (scheme : String) (cs : List Char) : Except UrlError Url :=
  match cs with
  | '/' :: '/' :: rest => readAuthority scheme rest
  | '/' :: rest =>
    let read := pathFrom .other [] false rest
    let (query, fragment) := readTail .other read.rest
    .ok { scheme, path := .rooted read.segments, query, fragment }
  | _ =>
    let raw := cs.takeWhile fun c => c != '?' && c != '#'
    let (query, fragment) := readTail .other (cs.drop raw.length)
    .ok { scheme, path := .rootless (String.ofList (percentEncode controls raw)), query, fragment }

/-- Reads a text that may be relative to a base. -/
def read (base : Option Url) (cs : List Char) : Except UrlError Url :=
  let cs := clean cs
  match readScheme cs with
  | some (scheme, rest) =>
    match schemeKind scheme with
    | .file => readFile (base.filter fun b => b.scheme = "file") rest
    | .special =>
      let slashes := rest.takeWhile isSlash
      match base with
      | some b =>
        if slashes.length < 2 ∧ b.scheme = scheme then readRelative b rest
        else readAuthority scheme (rest.dropWhile isSlash)
      | none => readAuthority scheme (rest.dropWhile isSlash)
    | .other => readOther scheme rest
  | none =>
    match base with
    | none => .error .relativeWithoutBase
    | some b =>
      if cs.head? = some '#' then .ok (b.withTail (schemeKind b.scheme) cs)
      else if b.isRootless then .error .relativeToRootless
      else if b.scheme = "file" then readFile (some b) cs
      else readRelative b cs

/-- Reads a text on its own. -/
def parse (s : String) : Except UrlError Url := read none s.toList

/-- Resolves a link found at a URL. -/
def join (base : Url) (link : String) : Except UrlError Url := read (some base) link.toList

/-- Resolves a link found at a URL, blanks around it aside, the way a browser would. -/
def follow (base : Url) (link : String) : Option Url :=
  (base.join (Text.trim link)).toOption

end SiteSpiders.Url
