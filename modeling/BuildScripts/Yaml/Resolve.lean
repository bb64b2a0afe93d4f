import BuildScripts.Decimal.Whole
import BuildScripts.Text.Lowered
import BuildScripts.Yaml.Base64
import BuildScripts.Yaml.Node

namespace BuildScripts.Yaml

open BuildScripts.Text

inductive Kind
  | null
  | bool
  | int
  | float
  | timestamp
  | text
  | binary
  | list
  | pairs
  | map
  | set
  | merge
  | default
  | other
  deriving DecidableEq, Repr

def tagOf (name : String) : String :=
  "tag:yaml.org,2002:" ++ name

def kinds : List (String × Kind) := [
  (tagOf "null", .null), (tagOf "bool", .bool), (tagOf "int", .int), (tagOf "float", .float),
  (tagOf "timestamp", .timestamp), (tagOf "str", .text), (tagOf "binary", .binary),
  (tagOf "seq", .list), (tagOf "omap", .pairs), (tagOf "pairs", .pairs), (tagOf "map", .map),
  (tagOf "set", .set), (tagOf "merge", .merge), (tagOf "value", .default)]

def kindOfTag (tag : String) : Kind :=
  (kinds.lookup tag).getD .other

def Kind.isCollection (k : Kind) : Bool :=
  k = .list || k = .pairs || k = .map || k = .set

def nullWords : List String := ["", "~", "null", "Null", "NULL"]

def trueWords : List String := ["yes", "Yes", "YES", "true", "True", "TRUE", "on", "On", "ON"]

def falseWords : List String := ["no", "No", "NO", "false", "False", "FALSE", "off", "Off", "OFF"]

def isDigit (c : Char) : Bool := (asciiDigit? c).isSome

def isDigitOrMark (c : Char) : Bool := isDigit c || c == '_'

def dropSign : List Char → List Char
  | '+' :: cs => cs
  | '-' :: cs => cs
  | cs => cs

def dropSixties : List Char → List Char
  | ':' :: a :: b :: cs =>
    if '0' ≤ a && a ≤ '5' && isDigit b then dropSixties cs
    else if isDigit a then dropSixties (b :: cs)
    else ':' :: a :: b :: cs
  | [':', a] => if isDigit a then [] else [':', a]
  | cs => cs

def afterSixties? (cs : List Char) : Option (List Char) :=
  let rest := cs.dropWhile isDigitOrMark
  match rest with
  | ':' :: _ =>
    let after := dropSixties rest
    if after.length < rest.length then some after else none
  | _ => none

def looksInt (cs : List Char) : Bool :=
  match dropSign cs with
  | '0' :: 'b' :: d :: ds => (d :: ds).all fun c => c == '0' || c == '1' || c == '_'
  | '0' :: 'x' :: d :: ds => (d :: ds).all fun c => (hexDigit? c).isSome || c == '_'
  | '0' :: ds => ds.all fun c => ('0' ≤ c && c ≤ '7') || c == '_'
  | d :: ds =>
    isDigit d && (ds.all isDigitOrMark || afterSixties? (d :: ds) == some [])
  | [] => false

def isExponent : List Char → Bool
  | [] => true
  | e :: s :: d :: ds =>
    (e == 'e' || e == 'E') && (s == '+' || s == '-') && (d :: ds).all isDigit
  | _ => false

def looksFraction (cs : List Char) : Bool :=
  isExponent (cs.dropWhile isDigitOrMark)

def looksFloat (cs : List Char) : Bool :=
  let body := dropSign cs
  [".inf", ".Inf", ".INF"].any (·.toList == body) ||
    [".nan", ".NaN", ".NAN"].any (·.toList == cs) ||
    (match cs with
      | '.' :: d :: ds => isDigit d && looksFraction ds
      | _ => false) ||
    (match body with
      | d :: ds =>
        isDigit d &&
          ((match ds.dropWhile isDigitOrMark with
            | '.' :: rest => looksFraction rest
            | _ => false) ||
          (match afterSixties? (d :: ds) with
            | some ('.' :: rest) => rest.all isDigitOrMark
            | _ => false))
      | [] => false)

def natOf (cs : List Char) : Nat :=
  ofDigits 10 (cs.filterMap asciiDigit?)

def shortNumber? : List Char → Option (Nat × List Char)
  | a :: b :: cs =>
    if isDigit a then
      if isDigit b then some (natOf [a, b], cs) else some (natOf [a], b :: cs)
    else none
  | [a] => if isDigit a then some (natOf [a], []) else none
  | [] => none

def twoDigits? : List Char → Option (Nat × List Char)
  | a :: b :: cs => if isDigit a && isDigit b then some (natOf [a, b], cs) else none
  | _ => none

def expect? (c : Char) : List Char → Option (List Char)
  | x :: cs => if x = c then some cs else none
  | [] => none

def dateParts? (cs : List Char) : Option (Date × List Char) := do
  let year := cs.take 4
  guard (year.length = 4 && year.all isDigit)
  let (month, rest) ← shortNumber? (← expect? '-' (cs.drop 4))
  let (day, rest) ← shortNumber? (← expect? '-' rest)
  return (⟨natOf year, month, day⟩, rest)

def offset? (cs : List Char) : Option (Option Int) := do
  match cs.dropWhile isGapInside with
  | [] => if cs.isEmpty then return none else failure
  | ['Z'] => return some 0
  | s :: rest =>
    guard (s = '+' ∨ s = '-')
    let (hours, rest) ← shortNumber? rest
    let minutes ← match rest with
      | [] => pure 0
      | rest => do
        let (m, rest) ← twoDigits? (← expect? ':' rest)
        guard rest.isEmpty
        pure m
    let total := Int.ofNat (hours * 60 + minutes)
    return some (if s = '-' then -total else total)

def microseconds (digits : List Char) : Nat :=
  natOf ((digits ++ Double.zeroRun 6).take 6)

inductive Stamp
  | date (d : Date)
  | moment (m : Moment)

def stamp? (cs : List Char) : Option Stamp := do
  let (date, rest) ← dateParts? cs
  if rest.isEmpty then return .date date
  let rest ← match rest with
    | 'T' :: more => pure more
    | 't' :: more => pure more
    | c :: more => if isGapInside c then pure (more.dropWhile isGapInside) else failure
    | [] => failure
  let (hour, rest) ← shortNumber? rest
  let (minute, rest) ← twoDigits? (← expect? ':' rest)
  let (second, rest) ← twoDigits? (← expect? ':' rest)
  let (fraction, rest) := match rest with
    | '.' :: more => (more.takeWhile isDigit, more.dropWhile isDigit)
    | more => ([], more)
  return .moment ⟨date, hour, minute, second, microseconds fraction, ← offset? rest⟩

def looksTimestamp (cs : List Char) : Bool :=
  match stamp? cs with
  | some (.date _) => cs.length = 10
  | some (.moment _) => true
  | none => false

def plainKind (s : String) : Kind :=
  let cs := s.toList
  if trueWords.contains s || falseWords.contains s then .bool
  else if looksFloat cs then .float
  else if looksInt cs then .int
  else if s == "<<" then .merge
  else if nullWords.contains s then .null
  else if looksTimestamp cs then .timestamp
  else if s == "=" then .default
  else .text

def Node.kind : Node → Kind
  | .scalar (some t) _ _ => kindOfTag t
  | .scalar none plain s => if plain then plainKind s else .text
  | .list _ tag _ => tag.elim .list kindOfTag
  | .map _ tag _ => tag.elim .map kindOfTag
  | .loop _ => .other

def isLeapYear (y : Nat) : Bool :=
  y % 4 == 0 && (y % 100 != 0 || y % 400 == 0)

def daysIn (year month : Nat) : Nat :=
  if month = 2 then (if isLeapYear year then 29 else 28)
  else if month = 4 ∨ month = 6 ∨ month = 9 ∨ month = 11 then 30
  else 31

def checkDate (d : Date) : Except Fault Unit :=
  if d.year = 0 then .error (.badValue ("year " ++ decimal d.year ++ " is out of range"))
  else if d.month = 0 ∨ 12 < d.month then .error (.badValue "month must be in 1..12")
  else if d.day = 0 ∨ daysIn d.year d.month < d.day then
    .error (.badValue "day is out of range for month")
  else .ok ()

def offsetLabel (minutes : Int) : String :=
  let days := Int.fdiv minutes 1440
  let seconds := (minutes - days * 1440) * 60
  let parts := (if days = 0 then [] else ["days=" ++ signedDecimal days]) ++
    (if seconds = 0 then [] else ["seconds=" ++ signedDecimal seconds])
  "datetime.timedelta(" ++ String.intercalate ", " parts ++ ")"

def checkMoment (m : Moment) : Except Fault Unit := do
  if m.offset.any fun o => 1440 ≤ o.natAbs then
    throw (.badValue ("offset must be a timedelta strictly between -timedelta(hours=24) and " ++
      "timedelta(hours=24), not " ++ offsetLabel (m.offset.getD 0) ++ "."))
  checkDate m.date
  if 24 ≤ m.hour then throw (.badValue "hour must be in 0..23")
  if 60 ≤ m.minute then throw (.badValue "minute must be in 0..59")
  if 60 ≤ m.second then throw (.badValue "second must be in 0..59")

def timestampValue (s : String) : Except Fault Value :=
  match stamp? s.toList with
  | none => .error .noAttribute
  | some (.date d) => (checkDate d).map fun _ => .date d
  | some (.moment m) => (checkMoment m).map fun _ => .moment m

def shownLength : Nat := 200

def badInt {α : Type} (base : Nat) (cs : List Char) : Except Fault α :=
  .error (.badValue ("invalid literal for int() with base " ++ decimal base ++ ": " ++
    String.ofList ((quotedChars cs).take shownLength)))

def dropBaseMark (base : Nat) : List Char → List Char
  | '0' :: c :: cs =>
    if (base = 2 ∧ (c = 'b' ∨ c = 'B')) ∨ (base = 8 ∧ (c = 'o' ∨ c = 'O')) ∨
        (base = 16 ∧ (c = 'x' ∨ c = 'X')) then cs
    else '0' :: c :: cs
  | cs => cs

def readInt (base : Nat) (cs : List Char) : Except Fault Int :=
  let body := Double.asciiDigits (trim isWhite cs)
  match (dropBaseMark base (dropSign body)).mapM fun c => (hexDigit? c).filter (· < base) with
  | some (d :: ds) =>
    if base = 10 ∧ Whole.longest < ds.length + 1 then .error (.tooManyDigits (ds.length + 1))
    else .ok (Whole.signed (body.head? == some '-') (ofDigits base (d :: ds)))
  | _ => badInt base cs

def sixtiesSum (parts : List Int) : Int :=
  parts.foldl (fun total p => total * 60 + p) 0

def atColons : List Char → List (List Char)
  | [] => [[]]
  | c :: cs =>
    match atColons cs with
    | [] => [[]]
    | p :: ps => if c = ':' then [] :: p :: ps else (c :: p) :: ps

def emptyNumber : Fault :=
  .raised ⟨"IndexError", some "string index out of range"⟩

def intMagnitude (cs : List Char) : Except Fault Int :=
  match cs with
  | [] => .error emptyNumber
  | ['0'] => .ok 0
  | '0' :: 'b' :: ds => readInt 2 ds
  | '0' :: 'x' :: ds => readInt 16 ds
  | '0' :: _ => readInt 8 cs
  | _ =>
    if cs.contains ':' then ((atColons cs).mapM (readInt 10)).map sixtiesSum
    else readInt 10 cs

def intValue (s : String) : Except Fault Value :=
  match s.toList.filter (· != '_') with
  | [] => .error emptyNumber
  | '-' :: cs => (intMagnitude cs).map fun i => .int (-i)
  | '+' :: cs => (intMagnitude cs).map .int
  | cs => (intMagnitude cs).map .int

def readFloat (cs : List Char) : Except Fault Double :=
  match Double.read? (String.ofList cs) with
  | some d => .ok d
  | none => .error (.notFloat (quoted (String.ofList cs)))

def sixtiesFloat : Nat → Double → List Double → Double
  | _, total, [] => total
  | unit, total, d :: ds =>
    sixtiesFloat (unit * 60) (total.addMagnitudes (d.mulMagnitudes (.ofNat unit))) ds

def floatMagnitude (cs : List Char) : Except Fault Double :=
  if cs == ".inf".toList then .ok (.infinite false)
  else if cs == ".nan".toList then .ok .nan
  else if cs.contains ':' then do
    let parts ← (atColons cs).mapM readFloat
    return sixtiesFloat 1 (.ofNat 0) parts.reverse
  else readFloat cs

def floatValue (s : String) : Except Fault Value :=
  match lowered (s.toList.filter (· != '_')) with
  | [] => .error emptyNumber
  | '-' :: cs => (floatMagnitude cs).map fun d => .float (if d == .nan then d else d.negate)
  | '+' :: cs => (floatMagnitude cs).map .float
  | cs => (floatMagnitude cs).map .float

def boolValue (s : String) : Except Fault Value :=
  let word := String.ofList (lowered s.toList)
  if trueWords.contains word then .ok (.bool true)
  else if falseWords.contains word then .ok (.bool false)
  else .error (.raised ⟨"KeyError", some word⟩)

def binaryValue (s : String) : Except Fault Value :=
  match Base64.decode? s.toList with
  | some bytes => .ok (.bytes bytes)
  | none => .error .badDocument

/-- The value of a text of a kind. A collection is not made from a text, and a mark for merging or
for a default stands for no value. -/
def valueOfText (s : String) : Kind → Except Fault Value
  | .null => .ok .null
  | .bool => boolValue s
  | .int => intValue s
  | .float => floatValue s
  | .timestamp => timestampValue s
  | .text => .ok (.text s)
  | .binary => binaryValue s
  | _ => .error .badDocument

end BuildScripts.Yaml
