import SiteSpiders.Url.Basic
import SiteSpiders.Url.Domain
import SiteSpiders.Url.Percent

/-!
# Reading hosts

Domain names, IPv4 addresses in any of their number forms, and bracketed IPv6
addresses.
-/
namespace SiteSpiders.Url

open SiteSpiders.Text (divide hexDigit?)

/-- Digits in a base, if all of them are below it. -/
def digitsIn (base : Nat) (cs : List Char) : Option Nat :=
  cs.foldlM (fun n c => do
    let d ← hexDigit? c
    if d < base then some (n * base + d) else none) 0

/-- A number of an IPv4 address: hexadecimal after `0x`, octal after `0`, else decimal. -/
def ipv4Number : List Char → Option Nat
  | [] => none
  | '0' :: 'x' :: rest | '0' :: 'X' :: rest => digitsIn 16 rest
  | '0' :: d :: rest => digitsIn 8 (d :: rest)
  | cs => digitsIn 10 cs

/-- Whether a domain ends in a number and so has to be an IPv4 address. -/
def endsInNumber (cs : List Char) : Bool :=
  let last := match (divide '.' cs).reverse with
    | [] :: last :: _ => some last
    | [] :: [] => none
    | last :: _ => some last
    | [] => none
  match last with
  | some l => (!l.isEmpty && l.all Char.isDigit) || (ipv4Number l).isSome
  | none => false

/-- The address of the numbers before the last, each one byte. -/
def ipv4Bytes : List Nat → Nat → Nat
  | [], _ => 0
  | n :: rest, weight => n * weight + ipv4Bytes rest (weight / 256)

def parseIpv4 (cs : List Char) : Except UrlError Nat :=
  let parts := divide '.' cs
  let parts := if parts.getLast? = some [] then parts.dropLast else parts
  if 4 < parts.length then .error .invalidIpv4
  else match parts.mapM ipv4Number with
    | none => .error .invalidIpv4
    | some numbers =>
      match numbers.getLast? with
      | none => .error .invalidIpv4
      | some last =>
        let front := numbers.dropLast
        if Nat.pow 256 (4 - front.length) ≤ last ∨ front.any (255 < ·) then .error .invalidIpv4
        else .ok (ipv4Bytes front 16777216 + last)

/-- Up to four hexadecimal digits, with the rest. -/
def readPiece (cs : List Char) : Option (Nat × Nat × List Char) :=
  let digits := (cs.take 4).takeWhile fun c => (hexDigit? c).isSome
  some (Text.hexOfList digits, digits.length, cs.drop digits.length)

/-- A decimal number of an embedded IPv4 address: at most 255, no leading zeros. -/
def readByte (cs : List Char) : Option (Nat × List Char) :=
  let digits := cs.takeWhile Char.isDigit
  match digits with
  | [] => none
  | '0' :: _ :: _ => none
  | _ =>
    let n := digits.foldl (fun n c => n * 10 + (c.toNat - 48)) 0
    if 255 < n then none else some (n, cs.drop digits.length)

/-- The four numbers of an embedded IPv4 address, which ends the text. -/
def readEmbedded (cs : List Char) : Option (List Nat) := do
  let (a, cs) ← readByte cs
  let cs ← match cs with
    | '.' :: r => some r
    | _ => none
  let (b, cs) ← readByte cs
  let cs ← match cs with
    | '.' :: r => some r
    | _ => none
  let (c, cs) ← readByte cs
  let cs ← match cs with
    | '.' :: r => some r
    | _ => none
  let (d, cs) ← readByte cs
  if cs.isEmpty then some [a * 256 + b, c * 256 + d] else none

/-- Reads pieces; `before` are those read so far in reverse, `gap` their number where `::` stood. -/
def readPieces : Nat → List Char → List Nat → Option Nat → Option (List Nat × Option Nat)
  | 0, _, _, _ => none
  | fuel + 1, cs, before, gap =>
    if cs.isEmpty then some (before.reverse, gap)
    else if 8 ≤ before.length then none
    else match cs with
      | ':' :: rest =>
        if gap.isSome then none else readPieces fuel rest before (some before.length)
      | _ => do
        let (value, length, rest) ← readPiece cs
        match rest with
        | '.' :: _ =>
          if length = 0 ∨ 6 < before.length then none
          else do
            let pieces ← readEmbedded cs
            some ((pieces.reverse ++ before).reverse, gap)
        | ':' :: more => if more.isEmpty then none else readPieces fuel more (value :: before) gap
        | [] => some ((value :: before).reverse, gap)
        | _ => none

/-- An IPv6 address without its brackets. -/
def parseIpv6 (cs : List Char) : Except UrlError (List Nat) :=
  let start : Option (List Char × Option Nat) := match cs with
    | ':' :: ':' :: rest => some (rest, some 0)
    | ':' :: _ => none
    | _ => some (cs, none)
  match start.bind fun (rest, gap) => readPieces (cs.length + 1) rest [] gap with
  | none => .error .invalidIpv6
  | some (pieces, none) => if pieces.length = 8 then .ok pieces else .error .invalidIpv6
  | some (pieces, some g) =>
    if 8 ≤ pieces.length then .error .invalidIpv6
    else .ok (pieces.take g ++ List.replicate (8 - pieces.length) 0 ++ pieces.drop g)

def parseBracketed (rest : List Char) : Except UrlError Host :=
  if rest.getLast? = some ']' then (parseIpv6 rest.dropLast).map .ipv6
  else .error .invalidIpv6

/-- The host of a special scheme. -/
def parseHost (cs : List Char) : Except UrlError Host :=
  match cs with
  | '[' :: rest => parseBracketed rest
  | _ =>
    match domainToAscii (percentDecode (Text.utf8Encode cs)) with
    | none => .error .invalidDomain
    | some [] => .error .emptyHost
    | some name =>
      if endsInNumber name then (parseIpv4 name).map .ipv4
      else .ok (.domain (String.ofList name))

def forbiddenInHost (c : Char) : Bool :=
  c.toNat == 0 || ['\t', '\n', '\r', ' ', '#', '/', ':', '<', '>', '?', '@', '[', '\\', ']', '^',
    '|'].contains c

/-- The host of any other scheme; empty text is no host. -/
def parseFreeHost (cs : List Char) : Except UrlError (Option Host) :=
  match cs with
  | '[' :: rest => (parseBracketed rest).map some
  | [] => .ok none
  | _ =>
    if cs.any forbiddenInHost then .error .invalidHostCharacter
    else .ok (some (.domain (String.ofList (percentEncode controls cs))))

end SiteSpiders.Url
