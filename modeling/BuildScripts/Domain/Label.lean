import BuildScripts.Domain.Direction
import BuildScripts.Domain.Joining
import BuildScripts.Domain.Letter
import BuildScripts.Domain.Punycode

namespace BuildScripts.Domain

def hasDigitFrom (first : Nat) (label : List Char) : Bool :=
  label.any fun c => first ≤ c.toNat && c.toNat < first + 10

def fitsIn (label before after : List Char) (c : Char) : Bool :=
  if c = '\xb7' then before.head? == some 'l' && after.head? == some 'l'
  else if c = '\u0375' then after.head?.any isGreek
  else if c = '\u05f3' ∨ c = '\u05f4' then before.head?.any isHebrew
  else if c = '\u30fb' then label.any isJapanese
  else if hasDigitFrom 0x660 [c] then !hasDigitFrom 0x6f0 label
  else if hasDigitFrom 0x6f0 [c] then !hasDigitFrom 0x660 label
  else if c = '\u200c' then maySeparate before after
  else if c = '\u200d' then mayConnect before
  else false

def allFit (label before : List Char) : List Char → Bool
  | [] => true
  | c :: cs => (isLetter c || fitsIn label before cs c) && allFit label (c :: before) cs

def hasProperHyphens (label : List Char) : Bool :=
  (label.drop 2).take 2 != ['-', '-'] && label.head? != some '-' && label.getLast? != some '-'

def longestName : Nat := 253

def longestLabel : Nat := 63

def isLabel (label : List Char) : Bool :=
  !label.isEmpty && label.length ≤ longestName + 1 && isComposed label && hasProperHyphens label &&
    !label.head?.any isCombining && allFit label [] label && isOrderly label

def charOf? (n : Nat) : Option Char :=
  if h : n.isValidChar then some (Char.ofNatAux n h) else none

def mark : List Char := ['x', 'n', '-', '-']

def isPlainLabel (label : List Char) : Bool :=
  if mark.isPrefixOf label then
    let rest := label.drop mark.length
    !rest.isEmpty && rest.getLast? != some '-' &&
      ((Punycode.decode? rest).bind (·.mapM charOf?)).any isLabel
  else isLabel label

def isAscii (cs : List Char) : Bool :=
  cs.all (·.toNat < 0x80)

def asciiLabel? (label : List Char) : Option (List Char) :=
  let written := if isAscii label then label else mark ++ Punycode.encode label
  let isProper := if isAscii label then isPlainLabel label else isLabel label
  if isProper && written.length ≤ longestLabel then some written else none

def isDot (c : Char) : Bool :=
  c == '.' || c == '\u3002' || c == '\uff0e' || c == '\uff61'

def asciiName? (name : List Char) : Option (List Char) := do
  let labels := name.splitOnP isDot
  let hasEnd := labels.getLast? == some []
  let longest := if hasEnd then longestName + 1 else longestName
  guard (name.length ≤ longestName + 1)
  let written ← (if hasEnd then labels.dropLast else labels).mapM asciiLabel?
  let text := ['.'].intercalate written ++ if hasEnd then ['.'] else []
  guard (!text.isEmpty && text.length ≤ longest)
  return text

end BuildScripts.Domain
