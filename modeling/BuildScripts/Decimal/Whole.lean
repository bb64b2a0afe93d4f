import BuildScripts.Decimal.Written

namespace BuildScripts.Whole

open BuildScripts.Text BuildScripts.Double

def longest : Nat := 4300

def signed (negative : Bool) (n : Nat) : Int :=
  if negative then -Int.ofNat n else Int.ofNat n

def readSigned? (cs : List Char) : Option Int :=
  let (negative, rest) := takeSign cs
  match takeDigits rest with
  | (d :: ds, []) =>
    if longest < ds.length + 1 then none else some (signed negative (ofDigits 10 (d :: ds)))
  | _ => none

def read? (s : String) : Option Int :=
  (dropSeparators? none (asciiDigits (trim isWhite s.toList))).bind readSigned?

inductive Misfit
  | malformed
  | tooLong
  deriving DecidableEq, Repr

/-- The digits after leading zeros, among which separators may stand in any number. Of a text that
is nothing else the last character is kept, and so is the character before a point. -/
def withoutLeadingZeros : Char → List Char → List Char
  | last, [] => [last]
  | last, c :: cs =>
    if c = '0' ∨ c = '_' then withoutLeadingZeros c cs
    else if c = '.' then last :: c :: cs
    else c :: cs

def withoutZeroFraction (cs : List Char) : List Char :=
  let whole := cs.takeWhile (· != '.')
  match cs.drop (whole.length + 1) with
  | [] => cs
  | fraction => if fraction.all (· == '0') then whole else cs

def readGenerous (negative : Bool) (cs : List Char) : Except Misfit Int :=
  let cs := match cs with
    | '0' :: rest => withoutLeadingZeros '0' rest
    | _ => cs
  let cs := withoutZeroFraction cs
  let (digits, rest) := takeDigits ((dropSeparators? none cs).getD cs)
  if longest < digits.length + (if negative then 1 else 0) then .error .tooLong
  else if digits.isEmpty || !rest.isEmpty then .error .malformed
  else .ok (signed negative (ofDigits 10 digits))

def read (s : String) : Except Misfit Int :=
  let (negative, rest) := takeSign (trim isWhite s.toList)
  readGenerous negative rest

end BuildScripts.Whole
