import BuildScripts.Decimal.Shortest
import BuildScripts.Text.Basic

namespace BuildScripts.Double

open BuildScripts.Text

structure Form where
  leastPlace : Int
  greatestPlace : Int
  exponentWidth : Nat

def plain : Form :=
  ⟨-3, 16, 2⟩

def zeroRun (n : Nat) : List Char :=
  List.replicate n '0'

def padded (width : Nat) (cs : List Char) : List Char :=
  zeroRun (width - cs.length) ++ cs

def positional (digits : List Char) (point : Int) : List Char :=
  if point ≤ 0 then '0' :: '.' :: zeroRun point.natAbs ++ digits
  else if point.toNat < digits.length then
    digits.take point.toNat ++ '.' :: digits.drop point.toNat
  else digits ++ zeroRun (point.toNat - digits.length) ++ ['.', '0']

def withExponent (form : Form) (digits : List Char) (exponent : Int) : List Char :=
  let mantissa := match digits with
    | [] => ['0']
    | [d] => [d]
    | d :: ds => d :: '.' :: ds
  mantissa ++ 'e' :: (if exponent < 0 then '-' else '+') ::
    padded form.exponentWidth (decimal exponent.natAbs).toList

def magnitudeChars (form : Form) (significand : Nat) (exponent : Int) : List Char :=
  if significand = 0 then ['0', '.', '0']
  else
    let (n, place) := shortest significand exponent
    let digits := (decimal n).toList
    let point := place + digits.length
    if form.leastPlace ≤ point ∧ point ≤ form.greatestPlace then positional digits point
    else withExponent form digits (point - 1)

def toText : Double → String
  | .nan => "nan"
  | .infinite false => "inf"
  | .infinite true => "-inf"
  | .finite negative s e =>
    String.ofList ((if negative then ['-'] else []) ++ magnitudeChars plain s e)

def takeDigits : List Char → List Nat × List Char
  | [] => ([], [])
  | c :: cs =>
    match asciiDigit? c with
    | some d => let (ds, rest) := takeDigits cs; (d :: ds, rest)
    | none => ([], c :: cs)

def takeSign : List Char → Bool × List Char
  | '-' :: cs => (true, cs)
  | '+' :: cs => (false, cs)
  | cs => (false, cs)

def lowerAscii (c : Char) : Char :=
  if 'A' ≤ c ∧ c ≤ 'Z' then Char.ofNat (c.toNat + 32) else c

def readExponent? : List Char → Option Int
  | [] => some 0
  | c :: cs =>
    if c = 'e' ∨ c = 'E' then
      let (negative, rest) := takeSign cs
      match takeDigits rest with
      | ([], _) => none
      | (ds, []) => some (if negative then -Int.ofNat (ofDigits 10 ds) else Int.ofNat (ofDigits 10 ds))
      | _ => none
    else none

def readMagnitude? (negative : Bool) (cs : List Char) : Option Double :=
  let (whole, rest) := takeDigits cs
  let (fraction, rest) := match rest with
    | '.' :: more => takeDigits more
    | more => ([], more)
  if whole.isEmpty && fraction.isEmpty then none
  else (readExponent? rest).map fun e =>
    ofScientific negative (ofDigits 10 (whole ++ fraction)) (e - fraction.length)

def dropSeparators? : Option Char → List Char → Option (List Char)
  | last, [] => if last = some '_' then none else some []
  | last, c :: cs =>
    if c = '_' then
      if (last.bind asciiDigit?).isSome then dropSeparators? (some c) cs else none
    else if last = some '_' && (asciiDigit? c).isNone then none
    else (dropSeparators? (some c) cs).map (c :: ·)

def asciiDigits (cs : List Char) : List Char :=
  cs.map fun c => match digitValue? c with
    | some d => digitChar d
    | none => c

def wordNumber? (negative : Bool) (cs : List Char) : Option Double :=
  let word := String.ofList (cs.map lowerAscii)
  if word = "inf" ∨ word = "infinity" then some (.infinite negative)
  else if word = "nan" then some .nan
  else none

def readPlain? (cs : List Char) : Option Double :=
  let (negative, rest) := takeSign cs
  match wordNumber? negative rest with
  | some d => some d
  | none => readMagnitude? negative rest

def read? (s : String) : Option Double :=
  (dropSeparators? none (asciiDigits (trim isWhite s.toList))).bind readPlain?

def readAscii? (bs : List UInt8) : Option Double :=
  if bs.all (· < 0x80) then read? (String.ofList (bs.map fun b => Char.ofNat b.toNat)) else none

end BuildScripts.Double
