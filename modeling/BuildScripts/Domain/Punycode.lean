import BuildScripts.Text.Digit

/-!
Labels in ASCII letters and digits: the characters of ASCII come first, and after the last hyphen
stand the places and code points of all others, in increasing order, as a row of numbers. The weight
of a digit of such a number is set by a bias, which follows the numbers so far.
-/

namespace BuildScripts.Domain.Punycode

open BuildScripts.Text

def base : Nat := 36

def firstBias : Nat := 72

def firstCode : Nat := 0x80

def threshold (weight bias : Nat) : Nat :=
  if weight ≤ bias then 1 else if bias + 26 ≤ weight then 26 else weight - bias

def scaled : Nat → Nat → Nat → Nat
  | 0, k, delta => k + base * delta / (delta + 38)
  | fuel + 1, k, delta =>
    if 455 < delta then scaled fuel (k + base) (delta / 35) else k + base * delta / (delta + 38)

def nextBias (isFirst : Bool) (delta count : Nat) : Nat :=
  let delta := if isFirst then delta / 700 else delta / 2
  let delta := delta + delta / count
  scaled delta 0 delta

def digitOf (n : Nat) : Char :=
  if n < 26 then Char.ofNat ('a'.toNat + n) else Char.ofNat ('0'.toNat + n - 26)

def valueOf? (c : Char) : Option Nat :=
  if 'a' ≤ c ∧ c ≤ 'z' then some (c.toNat - 'a'.toNat)
  else if 'A' ≤ c ∧ c ≤ 'Z' then some (c.toNat - 'A'.toNat)
  else (asciiDigit? c).map (26 + ·)

def digits (bias : Nat) : Nat → Nat → Nat → List Char
  | 0, _, _ => []
  | fuel + 1, weight, n =>
    let t := threshold weight bias
    if n < t then [digitOf n]
    else digitOf (t + (n - t) % (base - t)) :: digits bias fuel (weight + base) ((n - t) / (base - t))

structure Writer where
  delta : Nat
  bias : Nat
  placed : Nat
  isFirst : Bool
  written : List Char

def Writer.pass (code : Nat) (w : Writer) (n : Nat) : Writer :=
  if n < code then { w with delta := w.delta + 1 }
  else if n = code then
    ⟨0, nextBias w.isFirst w.delta (w.placed + 1), w.placed + 1, false,
      w.written ++ digits w.bias (w.delta + 1) base w.delta⟩
  else w

def writeCodes (all : List Nat) : Nat → Writer → List Nat → Writer
  | _, w, [] => w
  | last, w, code :: rest =>
    let w := { w with delta := w.delta + (code - last) * (w.placed + 1) }
    let w := all.foldl (Writer.pass code) w
    writeCodes all (code + 1) { w with delta := w.delta + 1 } rest

def insertCode (n : Nat) : List Nat → List Nat
  | [] => [n]
  | m :: ms => if n < m then n :: m :: ms else if n = m then m :: ms else m :: insertCode n ms

def encode (cs : List Char) : List Char :=
  let plain := cs.filter (·.toNat < firstCode)
  let all := cs.map Char.toNat
  let codes := (all.filter (firstCode ≤ ·)).foldr insertCode []
  let w := writeCodes all firstCode ⟨0, firstBias, plain.length, true, []⟩ codes
  (if plain.isEmpty then [] else plain ++ ['-']) ++ w.written

def readNumber? (bias : Nat) : Nat → Nat → Nat → List Char → Option (Nat × List Char)
  | _, _, _, [] => none
  | weight, factor, sum, c :: cs => do
    let d ← valueOf? c
    let t := threshold weight bias
    if d < t then return (sum + d * factor, cs)
    else readNumber? bias (weight + base) (factor * (base - t)) (sum + d * factor) cs

structure Reader where
  bias : Nat
  code : Nat
  place : Nat
  isFirst : Bool
  codes : List Nat

def Reader.insert? (delta : Nat) (r : Reader) : Option Reader :=
  let count := r.codes.length + 1
  let code := r.code + (r.place + delta) / count
  let place := (r.place + delta) % count
  if code < 0x110000 then
    some ⟨nextBias r.isFirst delta count, code, place + 1, false,
      r.codes.take place ++ code :: r.codes.drop place⟩
  else none

def readAll? : Nat → Reader → List Char → Option (List Nat)
  | _, r, [] => some r.codes
  | 0, _, _ => none
  | fuel + 1, r, cs => do
    let (delta, rest) ← readNumber? r.bias base 1 0 cs
    readAll? fuel (← r.insert? delta) rest

def decode? (cs : List Char) : Option (List Nat) :=
  let numbers := (cs.reverse.takeWhile (· != '-')).reverse
  let plain := cs.take (cs.length - numbers.length - 1)
  readAll? numbers.length ⟨firstBias, firstCode, 0, true, plain.map Char.toNat⟩ numbers

end BuildScripts.Domain.Punycode
