import BuildScripts.Text.Digit

namespace BuildScripts.Text

/-! ### Halves of surrogate pairs -/

def isHighHalf (n : Nat) : Bool := 0xd800 ≤ n && n < 0xdc00

def isLowHalf (n : Nat) : Bool := 0xdc00 ≤ n && n < 0xe000

def isHalf (n : Nat) : Bool := isHighHalf n || isLowHalf n

def joinHalves (high low : Nat) : Nat :=
  0x10000 + (high - 0xd800) * 0x400 + (low - 0xdc00)

/-- The text of code points, with some character in place of the halves that stand alone. -/
def textOfCodes (standIn : Char) (codes : List Nat) : String :=
  String.ofList (codes.map fun n => if isHalf n then standIn else Char.ofNat n)

def properText? (codes : List Nat) : Option String :=
  if codes.any isHalf then none else some (String.ofList (codes.map Char.ofNat))

theorem textOfCodes_of_proper {standIn : Char} {codes : List Nat} {text : String}
    (h : properText? codes = some text) : textOfCodes standIn codes = text := by
  rw [properText?] at h
  split at h
  · cases h
  · rename_i hnone
    rw [Bool.not_eq_true, List.any_eq_false] at hnone
    rw [← Option.some.inj h, textOfCodes]
    congr 1
    exact List.map_congr_left fun n hn => if_neg (hnone n hn)

namespace Utf8

inductive Reason
  | invalidStart
  | invalidContinuation
  | unexpectedEnd
  deriving DecidableEq, Repr

def Reason.message : Reason → String
  | .invalidStart => "invalid start byte"
  | .invalidContinuation => "invalid continuation byte"
  | .unexpectedEnd => "unexpected end of data"

structure Fault where
  reason : Reason
  byte : UInt8
  position : Nat
  count : Nat
  deriving DecidableEq, Repr

def Fault.message (f : Fault) : String :=
  if f.count ≤ 1 then
    "'utf-8' codec can't decode byte 0x" ++ String.ofList (hexDigits 2 f.byte.toNat) ++
      " in position " ++ decimal f.position ++ ": " ++ f.reason.message
  else
    "'utf-8' codec can't decode bytes in position " ++ decimal f.position ++ "-" ++
      decimal (f.position + f.count - 1) ++ ": " ++ f.reason.message

inductive Piece
  | char (c : Char)
  | bad (reason : Reason)

def shape? (b : UInt8) : Option (Nat × UInt8 × UInt8) :=
  if b < 0x80 then some (0, 0x80, 0xbf)
  else if b < 0xc2 then none
  else if b < 0xe0 then some (1, 0x80, 0xbf)
  else if b = 0xe0 then some (2, 0xa0, 0xbf)
  else if b = 0xed then some (2, 0x80, 0x9f)
  else if b < 0xf0 then some (2, 0x80, 0xbf)
  else if b = 0xf0 then some (3, 0x90, 0xbf)
  else if b < 0xf4 then some (3, 0x80, 0xbf)
  else if b = 0xf4 then some (3, 0x80, 0x8f)
  else none

def startBits (b : UInt8) : Nat :=
  if b < 0x80 then b.toNat
  else if b < 0xe0 then b.toNat % 0x20
  else if b < 0xf0 then b.toNat % 0x10
  else b.toNat % 8

/-- Reads up to `count` continuation bytes, the first of them within the bounds; the last result
is the number of bytes read. -/
def continued (low high : UInt8) : Nat → Nat → Nat → List UInt8 → Piece × Nat
  | 0, code, taken, _ => (.char (Char.ofNat code), taken)
  | _ + 1, _, taken, [] => (.bad .unexpectedEnd, taken)
  | count + 1, code, taken, b :: bs =>
    if low ≤ b ∧ b ≤ high then
      continued 0x80 0xbf count (code * 0x40 + b.toNat % 0x40) (taken + 1) bs
    else (.bad .invalidContinuation, taken)

def firstPiece (b : UInt8) (rest : List UInt8) : Piece × Nat :=
  match shape? b with
  | none => (.bad .invalidStart, 0)
  | some (count, low, high) => continued low high count (startBits b) 0 rest

def pieces : Nat → List UInt8 → List (Piece × UInt8 × Nat)
  | _, [] => []
  | skip + 1, _ :: bs => pieces skip bs
  | 0, b :: bs =>
    let (p, k) := firstPiece b bs
    (p, b, k + 1) :: pieces k bs

def faultIn? (position : Nat) : List (Piece × UInt8 × Nat) → Option Fault
  | [] => none
  | (.bad reason, byte, count) :: _ => some ⟨reason, byte, position, count⟩
  | (.char _, _, count) :: ps => faultIn? (position + count) ps

def firstFault (bytes : ByteArray) : Fault :=
  (faultIn? 0 (pieces 0 bytes.toList)).getD ⟨.invalidStart, 0, 0, 1⟩

def encode (s : String) : ByteArray :=
  s.toUTF8

def decode (bytes : ByteArray) : Except Fault String :=
  match String.fromUTF8? bytes with
  | some s => .ok s
  | none => .error (firstFault bytes)

def decodeLossy (bytes : ByteArray) : String :=
  match String.fromUTF8? bytes with
  | some s => s
  | none => String.ofList ((pieces 0 bytes.toList).map fun
      | (.char c, _, _) => c
      | (.bad _, _, _) => '\ufffd')

theorem decode_encode (s : String) : decode (encode s) = .ok s := by
  have h : String.fromUTF8? s.toUTF8 = some s := by
    simp [String.fromUTF8?, String.toUTF8, s.isValidUTF8]
    rfl
  unfold decode encode
  rw [h]

theorem encode_of_decode {bytes : ByteArray} {s : String} (h : decode bytes = .ok s) :
    encode s = bytes := by
  unfold decode String.fromUTF8? at h
  split at h
  · rename_i t ht
    split at ht
    · cases ht
      cases h
      rfl
    · cases ht
  · cases h

end Utf8

end BuildScripts.Text
