import SiteSpiders.Text.Utf8
import SiteSpiders.Number.Floating

/-!
# URLs

A URL in its parts, and its one serialisation. Two URLs are the same exactly when
they serialise to the same text.
-/
namespace SiteSpiders

inductive Host where
  | domain (name : String)
  | ipv4 (address : Nat)
  /-- The eight sixteen-bit pieces of an IPv6 address. -/
  | ipv6 (pieces : List Nat)
  deriving DecidableEq, Repr, Inhabited

structure Authority where
  username : String := ""
  password : String := ""
  host : Option Host := none
  port : Option Nat := none
  deriving DecidableEq, Repr, Inhabited

/-- A path: plain text that no link can be resolved against, or segments after slashes. -/
inductive UrlPath where
  | rootless (text : String)
  | rooted (segments : List String)
  deriving DecidableEq, Repr, Inhabited

structure Url where
  scheme : String
  authority : Option Authority := none
  path : UrlPath
  query : Option String := none
  fragment : Option String := none
  deriving DecidableEq, Repr, Inhabited

inductive UrlError where
  | emptyHost
  | invalidDomain
  | invalidPort
  | invalidIpv4
  | invalidIpv6
  | invalidHostCharacter
  | relativeWithoutBase
  | relativeToRootless
  deriving DecidableEq, Repr, Inhabited

namespace UrlError

def message : UrlError → String
  | emptyHost => "empty host"
  | invalidDomain => "invalid international domain name"
  | invalidPort => "invalid port number"
  | invalidIpv4 => "invalid IPv4 address"
  | invalidIpv6 => "invalid IPv6 address"
  | invalidHostCharacter => "invalid domain character"
  | relativeWithoutBase => "relative URL without a base"
  | relativeToRootless => "relative URL with a cannot-be-a-base base"

end UrlError

namespace Host

/-- The four numbers of an IPv4 address. -/
def ipv4Text (n : Nat) : String :=
  String.intercalate "." ([n / 16777216 % 256, n / 65536 % 256, n / 256 % 256, n % 256].map
    Number.decimalText)

/-- The length of the run of zeros a list starts with. -/
def zeroRun : List Nat → Nat
  | 0 :: rest => zeroRun rest + 1
  | _ => 0

/-- Start and length of the longest run of zeros, the first of equals. -/
def longestZeros : Nat → List Nat → Nat × Nat
  | _, [] => (0, 0)
  | i, n :: rest =>
    let here := zeroRun (n :: rest)
    let later := longestZeros (i + 1) rest
    if later.2 ≤ here then (i, here) else later

/-- A piece of an IPv6 address in hexadecimal without leading zeros. -/
def pieceText (n : Nat) : String := String.ofList (Nat.toDigits 16 n)

/-- An IPv6 address with its longest run of two or more zeros left out. -/
def ipv6Text (pieces : List Nat) : String :=
  let (start, length) := longestZeros 0 pieces
  if length < 2 then String.intercalate ":" (pieces.map pieceText)
  else
    String.intercalate ":" ((pieces.take start).map pieceText) ++ "::"
      ++ String.intercalate ":" ((pieces.drop (start + length)).map pieceText)

/-- The text of a host inside a URL. -/
def text : Host → String
  | .domain name => name
  | .ipv4 n => ipv4Text n
  | .ipv6 pieces => "[" ++ ipv6Text pieces ++ "]"

end Host

namespace UrlPath

/-- The text of a path: every segment after its slash. -/
def text : UrlPath → String
  | .rootless t => t
  | .rooted segments => String.join (segments.map ("/" ++ ·))

end UrlPath

namespace Authority

/-- User name and password, up to the `@`. -/
def userinfo (a : Authority) : String :=
  if a.username.isEmpty && a.password.isEmpty then ""
  else a.username ++ (if a.password.isEmpty then "" else ":" ++ a.password) ++ "@"

def text (a : Authority) : String :=
  a.userinfo ++ (a.host.map Host.text).getD ""
    ++ (match a.port with
      | some p => ":" ++ Number.decimalText p
      | none => "")

end Authority

namespace Url

/-- The path with a guard in front where it would read as an authority. -/
def guardedPath (u : Url) : String :=
  match u.authority, u.path with
  | none, .rooted ("" :: _ :: _) => "/." ++ u.path.text
  | _, _ => u.path.text

def text (u : Url) : String :=
  u.scheme ++ ":"
    ++ (match u.authority with
      | some a => "//" ++ a.text
      | none => "")
    ++ u.guardedPath
    ++ (match u.query with
      | some q => "?" ++ q
      | none => "")
    ++ (match u.fragment with
      | some f => "#" ++ f
      | none => "")

/-- The host, if the URL has one. -/
def host? (u : Url) : Option Host := u.authority.bind (·.host)

/-- The text of the host, if the URL has one. -/
def hostText? (u : Url) : Option String := u.host?.map Host.text

def withoutFragment (u : Url) : Url := { u with fragment := none }

/-- Whether links cannot be resolved against the URL. -/
def isRootless (u : Url) : Bool :=
  match u.authority, u.path with
  | none, .rootless _ => true
  | none, .rooted [] => true
  | _, _ => false

end Url

end SiteSpiders
