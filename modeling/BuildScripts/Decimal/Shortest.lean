import BuildScripts.Decimal.Double
import BuildScripts.Text.Digit

namespace BuildScripts.Double

/-- A positive real number and the interval of reals that round to it, over one denominator; the
ends belong to the interval when `closed` holds. -/
structure Interval where
  low : Nat
  value : Nat
  high : Nat
  den : Nat
  closed : Bool

def interval (significand : Nat) (exponent : Int) : Interval :=
  let gap := if significand = Nat.pow 2 52 ∧ exponent > leastExponent then 1 else 2
  let (unit, den) := ratio 1 (exponent - 2)
  ⟨(4 * significand - gap) * unit, 4 * significand * unit, (4 * significand + 2) * unit, den,
    significand % 2 == 0⟩

def tenTo : Int → Nat × Nat
  | .ofNat e => (Nat.pow 10 e, 1)
  | .negSucc e => (1, Nat.pow 10 (e + 1))

def Interval.has (i : Interval) (digits : Nat) (place : Int) : Bool :=
  let (n, d) := tenTo place
  let here := digits * n * i.den
  if i.closed then i.low * d ≤ here && here ≤ i.high * d
  else i.low * d < here && here < i.high * d

def Interval.nearest? (i : Interval) (place : Int) : Option Nat :=
  let (n, d) := tenTo place
  let num := i.value * d
  let den := n * i.den
  let below := num / den
  let rest := 2 * (num % den)
  let nearer := if rest < den ∨ (rest = den ∧ below % 2 = 0) then below else below + 1
  let other := if nearer = below then below + 1 else below
  if i.has nearer place then some nearer
  else if i.has other place then some other
  else none

def Interval.magnitude (i : Interval) : Int :=
  let guess : Int := (Int.ofNat i.value.log2 - Int.ofNat i.den.log2) * 30103 / 100000 - 1
  let below (p : Int) : Bool :=
    let (n, d) := tenTo p
    i.value * d < n * i.den
  if below guess then guess
  else if below (guess + 1) then guess + 1
  else if below (guess + 2) then guess + 2
  else guess + 3

def dropZeros : Nat → Nat → Int → Nat × Int
  | 0, n, place => (n, place)
  | fuel + 1, n, place =>
    if n ≠ 0 ∧ n % 10 = 0 then dropZeros fuel (n / 10) (place + 1) else (n, place)

def Interval.search (i : Interval) (magnitude : Int) : Nat → Nat → Nat × Int
  | 0, digits => ((i.nearest? (magnitude - digits)).getD 0, magnitude - digits)
  | more + 1, digits =>
    match i.nearest? (magnitude - digits) with
    | some n => (n, magnitude - digits)
    | none => i.search magnitude more (digits + 1)

def shortest (significand : Nat) (exponent : Int) : Nat × Int :=
  let i := interval significand exponent
  let (n, place) := i.search i.magnitude 17 1
  dropZeros 20 n place

end BuildScripts.Double
