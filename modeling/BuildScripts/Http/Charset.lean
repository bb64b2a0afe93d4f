import BuildScripts.Fault
import BuildScripts.Http.Codepage
import BuildScripts.Text.Basic
import BuildScripts.Text.LetterCase
import BuildScripts.Text.Utf8

namespace BuildScripts

open BuildScripts.Text

inductive Charset
  | utf8
  | utf8Marked
  | utf16 (highFirst : Option Bool)
  | utf32 (highFirst : Option Bool)
  | ascii
  | latin1
  | page (p : Codepage)
  | failing (raised : Raised)

namespace Charset

def unicodeNames : List (String × Charset) := [
  ("utf_8", utf8), ("utf8", utf8), ("u8", utf8), ("utf", utf8), ("utf8_ucs2", utf8),
  ("utf8_ucs4", utf8), ("cp65001", utf8), ("utf_8_sig", utf8Marked),
  ("utf_16", utf16 none), ("utf16", utf16 none), ("u16", utf16 none),
  ("utf_16_be", utf16 (some true)), ("utf_16be", utf16 (some true)),
  ("unicodebigunmarked", utf16 (some true)), ("utf_16_le", utf16 (some false)),
  ("utf_16le", utf16 (some false)), ("unicodelittleunmarked", utf16 (some false)),
  ("utf_32", utf32 none), ("utf32", utf32 none), ("u32", utf32 none),
  ("utf_32_be", utf32 (some true)), ("utf_32be", utf32 (some true)),
  ("utf_32_le", utf32 (some false)), ("utf_32le", utf32 (some false))]

def asciiNames : List String := [
  "ascii", "646", "ansi_x3_4_1968", "ansi_x3_4_1986", "cp367", "csascii", "ibm367", "iso646_us",
  "iso_646_irv_1991", "iso_ir_6", "us", "us_ascii"]

def latin1Names : List String := [
  "latin_1", "8859", "cp819", "csisolatin1", "ibm819", "iso8859", "iso8859_1", "iso_8859_1",
  "iso_8859_1_1987", "iso_ir_100", "l1", "latin", "latin1"]

def binaryNames : List String := [
  "base64", "base_64", "base64_codec", "bz2", "bz2_codec", "hex", "hex_codec", "quopri",
  "quopri_codec", "quoted_printable", "quotedprintable", "uu", "uu_codec", "zip", "zlib",
  "zlib_codec"]

def failures : List (String × Raised) :=
  let noBytes : Raised := ⟨"TypeError",
    some "descriptor 'translate' for 'str' objects doesn't apply to a 'bytes' object"⟩
  binaryNames.map (fun n => (n, ⟨"AssertionError", none⟩)) ++ [
    ("rot13", noBytes), ("rot_13", noBytes),
    ("idna", ⟨"UnicodeError", some "Unsupported error handling replace"⟩),
    ("undefined", ⟨"UnicodeError", some "undefined encoding"⟩)]

def lowered (cs : List Char) : List Char :=
  cs.map fun c => Char.ofNat (lowerCode c.toNat)

def normalName (cs : List Char) : String :=
  let parts := (lowered cs).splitBy fun a b => a.isAlphanum == b.isAlphanum
  let parts := parts.filter fun p => p.any Char.isAlphanum
  String.intercalate "_" (parts.map String.ofList)

def ofName? (name : String) : Option Charset :=
  if asciiNames.contains name then some ascii
  else if latin1Names.contains name then some latin1
  else
    (unicodeNames.lookup name).or <| ((failures.lookup name).map failing).or <|
      (Codepage.all.find? (·.names.contains name)).map page

def named? (cs : List Char) : Option Charset :=
  ofName? (normalName cs)

def pieces (quoted : Bool) : List Char → List (List Char)
  | [] => [[]]
  | c :: cs =>
    if c = ';' ∧ !quoted then [] :: pieces false cs
    else
      match pieces (quoted != (c == '"')) cs with
      | [] => [[c]]
      | p :: ps => (c :: p) :: ps

def withoutQuotes (cs : List Char) : List Char :=
  match cs, cs.tail.getLast? with
  | '"' :: rest, some '"' => rest.dropLast
  | '<' :: rest, some '>' => rest.dropLast
  | _, _ => cs

def parameter? (name : String) (piece : List Char) : Option (List Char) :=
  if lowered (stripChars (piece.takeWhile (· != '='))) = name.toList then
    some (withoutQuotes (stripChars ((piece.dropWhile (· != '=')).drop 1)))
  else none

def ofContentType? (contentType : String) : Option Charset :=
  ((pieces false contentType.toList).findSome? (parameter? "charset")).bind named?

def replacement : Char := '\ufffd'

def charOfCode (n : Nat) : Char :=
  if isHalf n || 0x110000 ≤ n then replacement else Char.ofNat n

def unit16 (highFirst : Bool) (a b : UInt8) : Nat :=
  if highFirst then a.toNat * 0x100 + b.toNat else b.toNat * 0x100 + a.toNat

def units16 (highFirst : Bool) : List UInt8 → List Nat × Bool
  | [] => ([], false)
  | [_] => ([], true)
  | a :: b :: rest =>
    let (units, torn) := units16 highFirst rest
    (unit16 highFirst a b :: units, torn)

/-- The characters of units of two bytes. Bytes that do not suffice for a character at the end are
replaced together. -/
def charsOfUnits (torn : Bool) : List Nat → List Char
  | [] => if torn then [replacement] else []
  | [u] =>
    if isHighHalf u then [replacement]
    else charOfCode u :: if torn then [replacement] else []
  | u :: v :: rest =>
    if isHighHalf u && isLowHalf v then charOfCode (joinHalves u v) :: charsOfUnits torn rest
    else charOfCode u :: charsOfUnits torn (v :: rest)

def chars16 (highFirst : Bool) (bytes : List UInt8) : List Char :=
  let (units, torn) := units16 highFirst bytes
  charsOfUnits torn units

def chars32 (highFirst : Bool) : List UInt8 → List Char
  | [] => []
  | a :: b :: c :: d :: rest =>
    let n :=
      if highFirst then unit16 true a b * 0x10000 + unit16 true c d
      else unit16 false c d * 0x10000 + unit16 false a b
    charOfCode n :: chars32 highFirst rest
  | _ => [replacement]

/-- The order of bytes that a mark tells, and the bytes after the mark. Bytes that are fewer than a
unit need no mark. -/
def marked (mark : List UInt8) (unit : String) (bytes : List UInt8) :
    Except Fault (Bool × List UInt8) :=
  if mark.isPrefixOf bytes then .ok (true, bytes.drop mark.length)
  else if mark.reverse.isPrefixOf bytes then .ok (false, bytes.drop mark.length)
  else if bytes.length < mark.length then .ok (false, bytes)
  else .error (.noByteOrder unit)

def decode (charset : Charset) (bytes : ByteArray) : Except Fault String :=
  let bs := bytes.toList
  match charset with
  | .utf8 => .ok (Utf8.decodeLossy bytes)
  | .utf8Marked =>
    let mark : List UInt8 := [0xef, 0xbb, 0xbf]
    .ok (Utf8.decodeLossy (if mark.isPrefixOf bs then (bs.drop 3).toByteArray else bytes))
  | .utf16 (some highFirst) => .ok (String.ofList (chars16 highFirst bs))
  | .utf16 none => do
    let (highFirst, rest) ← marked [0xfe, 0xff] "UTF-16" bs
    return String.ofList (chars16 highFirst rest)
  | .utf32 (some highFirst) => .ok (String.ofList (chars32 highFirst bs))
  | .utf32 none => do
    let (highFirst, rest) ← marked [0x00, 0x00, 0xfe, 0xff] "UTF-32" bs
    return String.ofList (chars32 highFirst rest)
  | .ascii =>
    .ok (String.ofList (bs.map fun b => if b < 0x80 then Char.ofNat b.toNat else replacement))
  | .latin1 => .ok (String.ofList (bs.map fun b => Char.ofNat b.toNat))
  | .page p => .ok (p.decode bs)
  | .failing raised => if bs.isEmpty then .ok "" else .error (.raised raised)

end Charset

end BuildScripts
