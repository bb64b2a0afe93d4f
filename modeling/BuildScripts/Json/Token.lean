import BuildScripts.Text.Utf8
import BuildScripts.Value.Basic

/-!
Tokens of JSON texts. Each token knows where it starts; a string that is not well formed is a token
too, with the fault that a reader who needs a string there reports.
-/

namespace BuildScripts.Json

open BuildScripts.Text

inductive Fault
  | malformed (problem : String) (position : Nat)
  | tooManyDigits (count : Nat)
  | tooDeep
  deriving DecidableEq, Repr

inductive Token
  | openObject
  | closeObject
  | openList
  | closeList
  | colon
  | comma
  | text (codes : List Nat)
  | scalar (v : Value)
  | badText (fault : Fault)
  | longNumber (digits : Nat)
  | unknown
  deriving Repr

structure Placed where
  token : Token
  position : Nat
  deriving Repr

abbrev Read := Token × Nat

def isSpace (c : Char) : Bool :=
  c == ' ' || c == '\t' || c == '\n' || c == '\r'

def hexValue? : List Char → Option Nat
  | [a, b, c, d] => do
    let ds ← [a, b, c, d].mapM hexDigit?
    return ofDigits 16 ds
  | _ => none

def textValue (codes : List Nat) : Value :=
  match properText? codes with
  | some s => .text s
  | none => .unpaired codes

def secondHalf? (cs : List Char) : Option (Option Nat) :=
  match cs with
  | '\\' :: 'u' :: a :: b :: c :: d :: _ :: _ => some (hexValue? [a, b, c, d])
  | _ => none

def shortEscape? (c : Char) : Option Char :=
  match c with
  | '"' => some '"'
  | '\\' => some '\\'
  | '/' => some '/'
  | 'b' => some '\x08'
  | 'f' => some '\x0c'
  | 'n' => some '\n'
  | 'r' => some '\r'
  | 't' => some '\t'
  | _ => none

inductive Escape
  | code (n : Nat) (taken : Nat)
  | bad (fault : Fault)

def badDigits (pos : Nat) : Escape :=
  .bad (.malformed "Invalid \\uXXXX escape" pos)

/-- A half of a surrogate pair that no other half follows stands alone. -/
def unicodeEscape (pos : Nat) (digits rest : List Char) : Escape :=
  if rest.isEmpty then badDigits (pos + 1)
  else
    match hexValue? digits with
    | none => badDigits (pos + 1)
    | some n =>
      if isHighHalf n then
        match secondHalf? rest with
        | none => .code n 5
        | some none => badDigits (pos + 7)
        | some (some low) => if isLowHalf low then .code (joinHalves n low) 11 else .code n 5
      else .code n 5

def unterminated (start : Nat) : Fault :=
  .malformed "Unterminated string starting at" start

def readEscape (start pos : Nat) : List Char → Escape
  | [] => .bad (unterminated start)
  | 'u' :: a :: b :: c :: d :: rest => unicodeEscape pos [a, b, c, d] rest
  | 'u' :: _ => badDigits (pos + 1)
  | c :: _ =>
    match shortEscape? c with
    | some e => .code e.toNat 1
    | none => .bad (.malformed "Invalid \\escape" pos)

/-- The positions of halves of surrogate pairs that stand alone in a text, with their code points;
in the text itself stands some other character, which has no meaning outside strings. -/
abbrev Halves := List (Nat × Nat)

def readText (halves : Halves) (start : Nat) : Nat → Nat → List Nat → List Char → Read
  | _, pos, _, [] => (.badText (unterminated start), pos - start)
  | skip + 1, pos, acc, _ :: cs => readText halves start skip (pos + 1) acc cs
  | 0, pos, acc, c :: cs =>
    if c = '"' then (.text acc.reverse, pos + 1 - start)
    else if c = '\\' then
      match readEscape start pos cs with
      | .code n taken => readText halves start taken (pos + 1) (n :: acc) cs
      | .bad fault => (.badText fault, 1)
    else if c.toNat ≤ 0x1f then
      (.badText (.malformed "Invalid control character at" pos), 1)
    else readText halves start 0 (pos + 1) ((halves.lookup pos).getD c.toNat :: acc) cs

def digitsOf (cs : List Char) : List Char × List Char :=
  (cs.takeWhile (asciiDigit? · |>.isSome), cs.dropWhile (asciiDigit? · |>.isSome))

def wholePart : List Char → List Char × List Char
  | '0' :: cs => (['0'], cs)
  | cs => digitsOf cs

def fractionPart : List Char → List Char × List Char
  | '.' :: cs =>
    match digitsOf cs with
    | ([], _) => ([], '.' :: cs)
    | (ds, rest) => ('.' :: ds, rest)
  | cs => ([], cs)

def exponentPart : List Char → List Char
  | [] => []
  | c :: cs =>
    if c = 'e' ∨ c = 'E' then
      match cs with
      | s :: more =>
        if s = '+' ∨ s = '-' then
          match digitsOf more with
          | ([], _) => []
          | (ds, _) => c :: s :: ds
        else
          match digitsOf cs with
          | ([], _) => []
          | (ds, _) => c :: ds
      | [] => []
    else []

def natOf (digits : List Char) : Nat :=
  ofDigits 10 (digits.filterMap asciiDigit?)

def longest : Nat := 4300

def integer (negative : Bool) (digits : List Char) : Token :=
  if longest < digits.length then .longNumber digits.length
  else
    let n := Int.ofNat (natOf digits)
    .scalar (.int (if negative then -n else n))

def readNumber (cs : List Char) : Option Read :=
  let (negative, body) := match cs with
    | '-' :: rest => (true, rest)
    | rest => (false, rest)
  match wholePart body with
  | ([], _) => none
  | (whole, rest) =>
    let (fraction, rest) := fractionPart rest
    let exponent := exponentPart rest
    let length := (if negative then 1 else 0) + whole.length + fraction.length + exponent.length
    if fraction.isEmpty && exponent.isEmpty then
      some (integer negative whole, length)
    else
      (Double.readMagnitude? negative (whole ++ fraction ++ exponent)).map fun d =>
        (.scalar (.float d), length)

def words : List (String × Value) := [
  ("null", .null), ("true", .bool true), ("false", .bool false), ("NaN", .float .nan),
  ("Infinity", .float (.infinite false)), ("-Infinity", .float (.infinite true))]

def readWord (cs : List Char) : Option Read :=
  (words.find? fun (w, _) => w.toList.isPrefixOf cs).map fun (w, v) => (.scalar v, w.length)

def punctuation? (c : Char) : Option Token :=
  match c with
  | '\x7b' => some .openObject
  | '\x7d' => some .closeObject
  | '[' => some .openList
  | ']' => some .closeList
  | ':' => some .colon
  | ',' => some .comma
  | _ => none

def readToken (halves : Halves) (pos : Nat) (c : Char) (cs : List Char) : Read :=
  match punctuation? c with
  | some t => (t, 1)
  | none =>
    if c = '"' then readText halves pos 0 (pos + 1) [] cs
    else ((readWord (c :: cs)).orElse fun _ => readNumber (c :: cs)).getD (.unknown, 1)

def tokensFrom (halves : Halves) : Nat → Nat → List Char → List Placed
  | _, _, [] => []
  | skip + 1, pos, _ :: cs => tokensFrom halves skip (pos + 1) cs
  | 0, pos, c :: cs =>
    if isSpace c then tokensFrom halves 0 (pos + 1) cs
    else
      let (t, length) := readToken halves pos c cs
      ⟨t, pos⟩ :: tokensFrom halves (length - 1) (pos + 1) cs

def tokens (halves : Halves) (s : String) : List Placed :=
  tokensFrom halves 0 0 s.toList

end BuildScripts.Json
