import BuildScripts.Text.Digit

namespace BuildScripts.Yaml.Base64

open BuildScripts.Text

def digit? (c : Char) : Option Nat :=
  if 'A' ≤ c ∧ c ≤ 'Z' then some (c.toNat - 'A'.toNat)
  else if 'a' ≤ c ∧ c ≤ 'z' then some (c.toNat - 'a'.toNat + 26)
  else if c = '+' then some 62
  else if c = '/' then some 63
  else (asciiDigit? c).map (· + 52)

def bytesOf (group : List Nat) : List UInt8 :=
  let n := ofDigits 64 (group ++ List.replicate (4 - group.length) 0)
  [UInt8.ofNat (n / 0x10000), UInt8.ofNat (n / 0x100), UInt8.ofNat n].take (group.length - 1)

def decodeFrom (group : List Nat) (signs : Nat) : List Char → Option (List UInt8)
  | [] => if group.isEmpty then some [] else none
  | c :: cs =>
    if c = '=' then
      if 2 ≤ group.length then
        if 4 ≤ group.length + signs + 1 then some (bytesOf group)
        else decodeFrom group (signs + 1) cs
      else decodeFrom group signs cs
    else
      match digit? c with
      | none => decodeFrom group signs cs
      | some d =>
        if group.length = 3 then (decodeFrom [] 0 cs).map (bytesOf (group ++ [d]) ++ ·)
        else decodeFrom (group ++ [d]) 0 cs

def decode? (cs : List Char) : Option (List UInt8) :=
  if cs.all (·.toNat < 0x80) then decodeFrom [] 0 cs else none

end BuildScripts.Yaml.Base64
