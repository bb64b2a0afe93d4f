/-!
Binary floating-point numbers of 64 bits, in exact arithmetic: a finite one is a significand of at
most 53 bits times a power of two, and every operation rounds its exact result to the nearest such
number, a tie to the even significand.
-/

namespace BuildScripts

/-- The value of `finite negative significand exponent` is `significand * 2 ^ exponent`, negated if
`negative`. -/
inductive Double
  | nan
  | infinite (negative : Bool)
  | finite (negative : Bool) (significand : Nat) (exponent : Int)
  deriving DecidableEq, Repr, Inhabited

namespace Double

def leastExponent : Int := -1074

def greatestExponent : Int := 971

def roundDiv (num den : Nat) : Nat :=
  let q := num / den
  let twice := 2 * (num % den)
  if twice < den then q
  else if den < twice then q + 1
  else if q % 2 = 0 then q else q + 1

def scaled (num den : Nat) : Int → Nat × Nat
  | .ofNat e => (num, den * Nat.pow 2 e)
  | .negSucc e => (num * Nat.pow 2 (e + 1), den)

def exponentFor (num den : Nat) : Int :=
  let low := Int.ofNat num.log2 - Int.ofNat den.log2 - 53
  let (n, d) := scaled num den low
  max leastExponent (if n / d < Nat.pow 2 53 then low else low + 1)

def ofRatio (negative : Bool) (num den : Nat) : Double :=
  if num = 0 ∨ den = 0 then .finite negative 0 leastExponent
  else
    let e := exponentFor num den
    let (n, d) := scaled num den e
    let s := roundDiv n d
    let (s, e) := if s = Nat.pow 2 53 then (Nat.pow 2 52, e + 1) else (s, e)
    if e > greatestExponent then .infinite negative else .finite negative s e

def ofNat (n : Nat) : Double :=
  ofRatio false n 1

def ofInt? (i : Int) : Option Double :=
  match ofRatio (i < 0) i.natAbs 1 with
  | .infinite _ => none
  | d => some d

def ofScientific (negative : Bool) (digits : Nat) (exponent : Int) : Double :=
  let size := Int.ofNat (digits.log2 * 30103 / 100000) + exponent
  if digits = 0 then ofRatio negative 0 1
  else if size > 400 then .infinite negative
  else if size < -400 then ofRatio negative 0 1
  else match exponent with
    | .ofNat e => ofRatio negative (digits * Nat.pow 10 e) 1
    | .negSucc e => ofRatio negative digits (Nat.pow 10 (e + 1))

def negate : Double → Double
  | .nan => .nan
  | .infinite n => .infinite !n
  | .finite n s e => .finite (!n) s e

def isZero : Double → Bool
  | .finite _ s _ => s == 0
  | _ => false

def ratio (significand : Nat) : Int → Nat × Nat
  | .ofNat e => (significand * Nat.pow 2 e, 1)
  | .negSucc e => (significand, Nat.pow 2 (e + 1))

def toInt? : Double → Option Int
  | .finite negative s e =>
    let (n, d) := ratio s e
    if n % d = 0 then some (if negative then -Int.ofNat (n / d) else Int.ofNat (n / d)) else none
  | _ => none

def addMagnitudes : Double → Double → Double
  | .finite _ s e, .finite _ s' e' =>
    let (n, d) := ratio s e
    let (n', d') := ratio s' e'
    ofRatio false (n * d' + n' * d) (d * d')
  | .nan, _ => .nan
  | _, .nan => .nan
  | _, _ => .infinite false

def mulMagnitudes : Double → Double → Double
  | .finite _ s e, .finite _ s' e' =>
    let (n, d) := ratio s e
    let (n', d') := ratio s' e'
    ofRatio false (n * n') (d * d')
  | .nan, _ => .nan
  | _, .nan => .nan
  | .infinite _, y => if y.isZero then .nan else .infinite false
  | x, .infinite _ => if x.isZero then .nan else .infinite false

def sameValue : Double → Double → Bool
  | .nan, _ => false
  | .infinite n, .infinite n' => n == n'
  | .finite n s e, .finite n' s' e' =>
    (s == 0 && s' == 0) || (n == n' && s == s' && e == e')
  | _, _ => false

end Double

end BuildScripts
