import BuildScripts.Fault
import BuildScripts.Json.Reader

namespace BuildScripts.Json

open BuildScripts.Text

inductive Encoding
  | utf8
  | utf8Marked
  | utf16 (big : Bool) (marked : Bool)
  | utf32 (big : Bool) (marked : Bool)
  deriving DecidableEq, Repr

def encodingOf (bytes : List UInt8) : Encoding :=
  match bytes with
  | 0x00 :: 0x00 :: 0xfe :: 0xff :: _ => .utf32 true true
  | 0xff :: 0xfe :: 0x00 :: 0x00 :: _ => .utf32 false true
  | 0xfe :: 0xff :: _ => .utf16 true true
  | 0xff :: 0xfe :: _ => .utf16 false true
  | 0xef :: 0xbb :: 0xbf :: _ => .utf8Marked
  | a :: b :: c :: d :: _ =>
    if a = 0 then (if b = 0 then .utf32 true false else .utf16 true false)
    else if b = 0 then (if c = 0 ∧ d = 0 then .utf32 false false else .utf16 false false)
    else .utf8
  | [a, b] => if a = 0 then .utf16 true false else if b = 0 then .utf16 false false else .utf8
  | _ => .utf8

def codecName : Encoding → String
  | .utf8 => "utf-8"
  | .utf8Marked => "utf-8"
  | .utf16 big _ => if big then "utf-16-be" else "utf-16-le"
  | .utf32 big _ => if big then "utf-32-be" else "utf-32-le"

def undecodable (codec problem : String) (position : Nat) (bytes : List UInt8) : BuildScripts.Fault :=
  match bytes with
  | [b] =>
    BuildScripts.Fault.badEncoding ("'" ++ codec ++ "' codec can't decode byte 0x" ++
      String.ofList (hexDigits 2 b.toNat) ++ " in position " ++ decimal position ++ ": " ++ problem)
  | _ =>
    BuildScripts.Fault.badEncoding ("'" ++ codec ++ "' codec can't decode bytes in position " ++ decimal position ++
      "-" ++ decimal (position + bytes.length - 1) ++ ": " ++ problem)

def unit16 (big : Bool) (a b : UInt8) : Nat :=
  if big then a.toNat * 0x100 + b.toNat else b.toNat * 0x100 + a.toNat

def units16 (codec : String) (big : Bool) : Nat → List UInt8 → Except BuildScripts.Fault (List Nat)
  | _, [] => .ok []
  | pos, [a] => .error (undecodable codec "truncated data" pos [a])
  | pos, a :: b :: rest => (units16 codec big (pos + 2) rest).map (unit16 big a b :: ·)

def codesOfUnits : List Nat → List Nat
  | [] => []
  | [u] => [u]
  | u :: v :: rest =>
    if isHighHalf u && isLowHalf v then joinHalves u v :: codesOfUnits rest
    else u :: codesOfUnits (v :: rest)

def codes32 (codec : String) (big : Bool) : Nat → List UInt8 → Except BuildScripts.Fault (List Nat)
  | _, [] => .ok []
  | pos, a :: b :: c :: d :: rest =>
    let n :=
      if big then unit16 true a b * 0x10000 + unit16 true c d
      else unit16 false c d * 0x10000 + unit16 false a b
    if 0x110000 ≤ n then
      .error (undecodable codec "code point not in range(0x110000)" pos [a, b, c, d])
    else (codes32 codec big (pos + 4) rest).map (n :: ·)
  | pos, rest => .error (undecodable codec "truncated data" pos rest)

def half8? : List UInt8 → Option Nat
  | a :: b :: c :: _ =>
    if a = 0xed ∧ 0xa0 ≤ b ∧ b ≤ 0xbf ∧ 0x80 ≤ c ∧ c ≤ 0xbf then
      some (0xd000 + b.toNat % 0x40 * 0x40 + c.toNat % 0x40)
    else none
  | _ => none

def codes8 : Nat → Nat → List UInt8 → Except Utf8.Fault (List Nat)
  | _, _, [] => .ok []
  | skip + 1, pos, _ :: bs => codes8 skip (pos + 1) bs
  | 0, pos, b :: bs =>
    match half8? (b :: bs) with
    | some n => (codes8 2 (pos + 1) bs).map (n :: ·)
    | none =>
      match Utf8.firstPiece b bs with
      | (.char c, taken) => (codes8 taken (pos + 1) bs).map (c.toNat :: ·)
      | (.bad reason, taken) => .error ⟨reason, b, pos, taken + 1⟩

def decodeCodes (bytes : List UInt8) : Except BuildScripts.Fault (List Nat) :=
  let e := encodingOf bytes
  match e with
  | .utf8 => (codes8 0 0 bytes).mapError BuildScripts.Fault.notUtf8
  | .utf8Marked => (codes8 0 0 (bytes.drop 3)).mapError BuildScripts.Fault.notUtf8
  | .utf16 big marked =>
    let skip := if marked then 2 else 0
    (units16 (codecName e) big skip (bytes.drop skip)).map codesOfUnits
  | .utf32 big marked =>
    let skip := if marked then 4 else 0
    codes32 (codecName e) big skip (bytes.drop skip)

def halvesOf (codes : List Nat) : Halves :=
  (codes.zipIdx.filter fun (n, _) => isHalf n).map fun (n, i) => (i, n)

def faultOf (s : String) : Fault → BuildScripts.Fault
  | .malformed problem position => .badJson (placed problem position s)
  | .tooManyDigits count => .tooManyDigits count
  | .tooDeep => .tooDeep

def readBytes (bytes : ByteArray) : Except BuildScripts.Fault Value := do
  let codes ← decodeCodes bytes.toList
  let s := textOfCodes '\uffff' codes
  (readWith (halvesOf codes) s).mapError (faultOf s)

end BuildScripts.Json
