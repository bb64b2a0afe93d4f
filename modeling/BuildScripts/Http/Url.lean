import BuildScripts.Decimal.Whole
import BuildScripts.Domain.Label
import BuildScripts.Fault
import BuildScripts.Text.Basic
import BuildScripts.Text.Lowered

namespace BuildScripts

open BuildScripts.Text

structure Url where
  scheme : String
  userInfo : String
  host : String
  port : Option Int
  path : String
  query : Option String
  fragment : Option String
  deriving DecidableEq, Repr

namespace Url

def longest : Nat := 65536

def isControl (c : Char) : Bool :=
  c.toNat < 0x20 || c.toNat == 0x7f

def isUnreserved (c : Char) : Bool :=
  c.isAlphanum || "-._~".toList.contains c

def printableBut (excluded : String) (c : Char) : Bool :=
  0x20 ≤ c.toNat && c.toNat < 0x7f && !excluded.toList.contains c

def staysInQuery : Char → Bool := printableBut " \"#<>"

def staysInFragment : Char → Bool := printableBut " \"<>\x60"

def staysInPath : Char → Bool := printableBut " \"#<>?\x60\x7b\x7d"

def staysInUserInfo : Char → Bool := printableBut " \"#<>?\x60\x7b\x7d/;=@[\\]^|"

def staysInHost (c : Char) : Bool :=
  isUnreserved c || "!$&'()*+,;=\"\x60\x7b\x7d%|\\".toList.contains c

def upperHex (n : Nat) : Char :=
  if n < 10 then Char.ofNat (0x30 + n) else Char.ofNat (0x41 + n - 10)

def percent (b : UInt8) : List Char :=
  ['%', upperHex (b.toNat / 16), upperHex (b.toNat % 16)]

def escapeChar (c : Char) : List Char :=
  (Utf8.encode (String.ofList [c])).toList.flatMap percent

def escapeFrom (stays : Char → Bool) : Nat → List Char → List Char
  | _, [] => []
  | skip + 1, c :: cs => c :: escapeFrom stays skip cs
  | 0, '%' :: a :: b :: cs =>
    if (hexDigit? a).isSome && (hexDigit? b).isSome then
      '%' :: escapeFrom stays 2 (a :: b :: cs)
    else (if stays '%' then ['%'] else escapeChar '%') ++ escapeFrom stays 0 (a :: b :: cs)
  | 0, c :: cs =>
    (if isUnreserved c || stays c then [c] else escapeChar c) ++ escapeFrom stays 0 cs

def escape (stays : Char → Bool) (cs : List Char) : String :=
  String.ofList (escapeFrom stays 0 cs)

def unescapedBytes : Nat → List Char → List UInt8
  | _, [] => []
  | skip + 1, _ :: cs => unescapedBytes skip cs
  | 0, '%' :: a :: b :: cs =>
    match hexDigit? a, hexDigit? b with
    | some x, some y => UInt8.ofNat (16 * x + y) :: unescapedBytes 2 (a :: b :: cs)
    | _, _ => 0x25 :: unescapedBytes 0 (a :: b :: cs)
  | 0, c :: cs => (Utf8.encode (String.ofList [c])).toList ++ unescapedBytes 0 cs

def unescape (s : String) : String :=
  Utf8.decodeLossy (unescapedBytes 0 s.toList).toByteArray

def cutScheme (cs : List Char) : List Char × List Char :=
  let scheme := cs.takeWhile fun c => c.isAlphanum || "+.-".toList.contains c
  match cs.drop scheme.length, scheme with
  | ':' :: rest, [] => ([], rest)
  | ':' :: rest, s :: _ => if s.isAlpha then (scheme, rest) else ([], cs)
  | _, _ => ([], cs)

def cutAuthority : List Char → List Char × List Char
  | '/' :: '/' :: cs =>
    let authority := cs.takeWhile fun c => !"/?#".toList.contains c
    (authority, cs.drop authority.length)
  | cs => ([], cs)

def cutUserInfo (cs : List Char) : List Char × List Char :=
  let host := (cs.reverse.takeWhile (· != '@')).reverse
  if host.length = cs.length then ([], cs) else (cs.take (cs.length - host.length - 1), host)

def cutBrackets (cs : List Char) : Option (List Char × List Char) :=
  match cs with
  | '[' :: rest =>
    let after := (rest.reverse.takeWhile (· != ']')).reverse
    if after.length = rest.length then none
    else some (cs.take (cs.length - after.length), after)
  | _ => none

def cutHost (cs : List Char) : List Char × List Char :=
  match cutBrackets cs with
  | some cut => cut
  | none =>
    let host := cs.takeWhile fun c => c != ':' && c != '@'
    (host, cs.drop host.length)

def portText : List Char → List Char
  | ':' :: cs => cs
  | cs => cs

def commonPort? (scheme : String) : Option Int :=
  [("ftp", 21), ("http", 80), ("https", 443), ("ws", 80), ("wss", 443)].lookup scheme

def invalid {α : Type} (message : String) : Except Fault α :=
  .error (.invalidUrl message)

def readPort (scheme : String) (cs : List Char) : Except Fault (Option Int) :=
  if cs.isEmpty then .ok none
  else
    match Whole.read? (String.ofList cs) with
    | some n => .ok (if commonPort? scheme = some n then none else some n)
    | none => invalid ("Invalid port: " ++ quoted (String.ofList cs))

def atDots (cs : List Char) : List (List Char) :=
  cs.splitOn '.'

def isIpv4 (cs : List Char) : Bool :=
  let parts := atDots cs
  parts.length == 4 && parts.all fun p =>
    !p.isEmpty && p.length ≤ 3 && p.all (asciiDigit? · |>.isSome) &&
      (p.length == 1 || p.head? != some '0') && ofDigits 10 (p.filterMap asciiDigit?) < 256

def looksIpv4 (cs : List Char) : Bool :=
  let parts := atDots cs
  parts.length == 4 && parts.all fun p => !p.isEmpty && p.all (asciiDigit? · |>.isSome)

def isHexGroup (p : List Char) : Bool :=
  !p.isEmpty && p.length ≤ 4 && p.all (hexDigit? · |>.isSome)

def groupCount (parts : List (List Char)) : Option Nat :=
  match parts.reverse with
  | last :: before =>
    if before.all isHexGroup then
      if isHexGroup last then some parts.length
      else if isIpv4 last then some (parts.length + 1)
      else none
    else none
  | [] => some 0

def cutDoubleColon : List Char → Option (List Char × List Char)
  | ':' :: ':' :: rest => some ([], rest)
  | c :: rest => (cutDoubleColon rest).map fun (a, b) => (c :: a, b)
  | [] => none

def groupsOf (cs : List Char) : List (List Char) :=
  if cs.isEmpty then [] else cs.splitOn ':'

def isGroups (address : List Char) : Bool :=
  match cutDoubleColon address with
  | some (a, b) =>
    match (groupsOf a).all isHexGroup, groupCount (groupsOf b) with
    | true, some n => (groupsOf a).length + n ≤ 7
    | _, _ => false
  | none => groupCount (groupsOf address) == some 8

def isIpv6 (cs : List Char) : Bool :=
  match cs.splitOn '%' with
  | [address] => isGroups address
  | [address, zone] => isGroups address && !zone.isEmpty
  | _ => false

def isBracketed (cs : List Char) : Bool :=
  cs.head? == some '[' && 1 < cs.length && cs.getLast? == some ']'

/-- A host in brackets is an address of sixteen bytes, one of numbers an address of four; any other
with characters beyond ASCII is a domain name. -/
def readHost (cs : List Char) : Except Fault String :=
  let shown := quoted (String.ofList cs)
  if cs.isEmpty then .ok ""
  else if looksIpv4 cs then
    if isIpv4 cs then .ok (String.ofList cs) else invalid ("Invalid IPv4 address: " ++ shown)
  else if isBracketed cs then
    let address := (cs.drop 1).dropLast
    if isIpv6 address then .ok (String.ofList address)
    else invalid ("Invalid IPv6 address: " ++ shown)
  else if Domain.isAscii cs then .ok (escape staysInHost (cs.map Double.lowerAscii))
  else
    match Domain.asciiName? (lowered cs) with
    | some name => .ok (String.ofList name)
    | none => invalid ("Invalid IDNA hostname: " ++ shown)

def atSlashes (cs : List Char) : List (List Char) :=
  cs.splitOn '/'

def withoutDots : List (List Char) → List (List Char) → List (List Char)
  | kept, [] => kept.reverse
  | kept, p :: ps =>
    if p = ['.'] then withoutDots kept ps
    else if p = ['.', '.'] then
      withoutDots (if kept = [[]] then kept else kept.tail) ps
    else withoutDots (p :: kept) ps

def joinSlashes (parts : List (List Char)) : List Char :=
  ['/'].intercalate parts

def normalPath (cs : List Char) : List Char :=
  let parts := atSlashes cs
  if parts.any fun p => p = ['.'] ∨ p = ['.', '.'] then joinSlashes (withoutDots [] parts) else cs

def checkPath (hasScheme hasAuthority : Bool) (cs : List Char) : Except Fault Unit :=
  if hasAuthority && !cs.isEmpty && cs.head? != some '/' then
    invalid "For absolute URLs, path must be empty or begin with '/'"
  else if !hasScheme && !hasAuthority && beginsWith "//" (String.ofList cs) then
    invalid "Relative URLs cannot have a path starting with '//'"
  else if !hasScheme && !hasAuthority && cs.head? == some ':' then
    invalid "Relative URLs cannot have a path starting with ':'"
  else .ok ()

def checkCharacters (cs : List Char) : Except Fault Unit :=
  if longest < cs.length then invalid "URL too long"
  else
    match cs.find? isControl with
    | some c =>
      invalid ("Invalid non-printable ASCII character in URL, " ++ quoted (String.ofList [c]) ++
        " at position " ++ decimal (cs.takeWhile (!isControl ·)).length ++ ".")
    | none => .ok ()

def cutMarked (mark : Char) (stop : Char → Bool) : List Char → Option (List Char) × List Char
  | c :: cs =>
    if c = mark then (some (cs.takeWhile (!stop ·)), cs.dropWhile (!stop ·))
    else (none, c :: cs)
  | [] => (none, [])

def read (s : String) : Except Fault Url := do
  let cs := s.toList
  checkCharacters cs
  let (scheme, rest) := cutScheme cs
  let (authority, rest) := cutAuthority rest
  let path := rest.takeWhile fun c => c != '?' && c != '#'
  let (query, rest) := cutMarked '?' (· == '#') (rest.drop path.length)
  let (fragment, _) := cutMarked '#' (fun _ => false) rest
  let (userInfo, hostPort) := cutUserInfo authority
  let (host, portPart) := cutHost hostPort
  let userInfo := escape staysInUserInfo userInfo
  let host ← readHost host
  let port ← readPort (String.ofList scheme) (portText portPart)
  let hasScheme := !scheme.isEmpty
  let hasAuthority := !userInfo.isEmpty || !host.isEmpty || port.isSome
  checkPath hasScheme hasAuthority path
  let path := if hasScheme || hasAuthority then normalPath path else path
  return ⟨String.ofList (scheme.map Double.lowerAscii), userInfo, host, port,
    escape staysInPath path, query.map (escape staysInQuery), fragment.map (escape staysInFragment)⟩

def authorityText (u : Url) : String :=
  (if u.userInfo.isEmpty then "" else u.userInfo ++ "@") ++
    (if u.host.toList.contains ':' then "[" ++ u.host ++ "]" else u.host) ++
    (match u.port with
      | some p => ":" ++ signedDecimal p
      | none => "")

def toText (u : Url) : String :=
  (if u.scheme.isEmpty then "" else u.scheme ++ ":") ++
    (if u.authorityText.isEmpty then "" else "//" ++ u.authorityText) ++ u.path ++
    (match u.query with
      | some q => "?" ++ q
      | none => "") ++
    (match u.fragment with
      | some f => "#" ++ f
      | none => "")

def isAbsolute (u : Url) : Bool :=
  !u.scheme.isEmpty && !u.host.isEmpty

def dropSlashes (s : String) : List Char :=
  s.toList.dropWhile (· == '/')

def takenFrom (u base : Url) : Url :=
  if u.isAbsolute then u
  else
    let path := '/' :: dropSlashes u.path
    let hasPlace := !base.scheme.isEmpty || !base.authorityText.isEmpty
    { base with
      path := String.ofList (if hasPlace then normalPath path else path)
      query := u.query
      fragment := none }

def blank : Url :=
  ⟨"", "", "", none, "", none, none⟩

def forSending (u : Url) : Url :=
  u.takenFrom blank

def serverPath (u : Url) : String :=
  unescape (if u.path.isEmpty then "/" else u.path)

def base64Chars : List Char :=
  "ABCDEFGHIJKLMNOPQRSTUVWXYZabcdefghijklmnopqrstuvwxyz0123456789+/".toList

def base64Digit (n : Nat) : Char :=
  base64Chars.getD n 'A'

def base64 : List UInt8 → List Char
  | [] => []
  | [a] =>
    [base64Digit (a.toNat / 4), base64Digit (a.toNat % 4 * 16), '=', '=']
  | [a, b] =>
    [base64Digit (a.toNat / 4), base64Digit (a.toNat % 4 * 16 + b.toNat / 16),
      base64Digit (b.toNat % 16 * 4), '=']
  | a :: b :: c :: rest =>
    [base64Digit (a.toNat / 4), base64Digit (a.toNat % 4 * 16 + b.toNat / 16),
      base64Digit (b.toNat % 16 * 4 + c.toNat / 64), base64Digit (c.toNat % 64)] ++ base64 rest

def basicAuthorization? (u : Url) : Option String :=
  if u.userInfo.isEmpty then none
  else
    let cs := u.userInfo.toList
    let user := unescape (String.ofList (cs.takeWhile (· != ':')))
    let password := unescape (String.ofList ((cs.dropWhile (· != ':')).drop 1))
    if user.isEmpty && password.isEmpty then none
    else some ("Basic " ++
      String.ofList (base64 (Utf8.encode (user ++ ":" ++ password)).toList))

end Url

end BuildScripts
