import BuildScripts.Value.Basic

namespace BuildScripts

open BuildScripts.Text

def twoDigits (n : Nat) : String :=
  String.ofList (Double.padded 2 (decimal n).toList)

def fixedDigits (width n : Nat) : String :=
  String.ofList (Double.padded width (decimal n).toList)

def Date.toText (d : Date) : String :=
  fixedDigits 4 d.year ++ "-" ++ twoDigits d.month ++ "-" ++ twoDigits d.day

def offsetText (minutes : Int) : String :=
  (if minutes < 0 then "-" else "+") ++ twoDigits (minutes.natAbs / 60) ++ ":" ++
    twoDigits (minutes.natAbs % 60)

def Moment.toText (separator : String) (m : Moment) : String :=
  m.date.toText ++ separator ++ twoDigits m.hour ++ ":" ++ twoDigits m.minute ++ ":" ++
    twoDigits m.second ++
    (if m.microsecond = 0 then "" else "." ++ fixedDigits 6 m.microsecond) ++
    (match m.offset with
      | none => ""
      | some o => offsetText o)

namespace Value

def commaSeparated (items : List String) : String :=
  String.intercalate ", " items

def quotedDate (d : Date) : String :=
  "datetime.date(" ++ commaSeparated [decimal d.year, decimal d.month, decimal d.day] ++ ")"

def quotedOffset (minutes : Int) : String :=
  if minutes = 0 then "tzinfo=datetime.timezone.utc"
  else
    let delta :=
      if minutes < 0 then
        "datetime.timedelta(days=-1, seconds=" ++ decimal (86400 - 60 * minutes.natAbs) ++ ")"
      else "datetime.timedelta(seconds=" ++ decimal (60 * minutes.natAbs) ++ ")"
    "tzinfo=datetime.timezone(" ++ delta ++ ")"

def quotedMoment (m : Moment) : String :=
  let fraction := if m.microsecond = 0 then [] else [m.microsecond]
  let second := if m.second = 0 ∧ m.microsecond = 0 then [] else [m.second]
  let fields := [m.date.year, m.date.month, m.date.day, m.hour, m.minute] ++ second ++ fraction
  let offset := match m.offset with
    | none => []
    | some o => [quotedOffset o]
  "datetime.datetime(" ++ commaSeparated (fields.map decimal ++ offset) ++ ")"

mutual

def quoted : Value → String
  | .null => "None"
  | .bool true => "True"
  | .bool false => "False"
  | .int i => signedDecimal i
  | .float d => d.toText
  | .text s => Text.quoted s
  | .unpaired codes => quotedCodes codes
  | .bytes bs => quotedBytes bs
  | .date d => quotedDate d
  | .moment m => quotedMoment m
  | .loop _ false => "[...]"
  | .loop _ true => "\x7b...\x7d"
  | .pair a b => "(" ++ a.quoted ++ ", " ++ b.quoted ++ ")"
  | .set [] => "set()"
  | .set (v :: vs) => "\x7b" ++ commaSeparated (v.quoted :: quotedItems vs) ++ "\x7d"
  | .list items => "[" ++ commaSeparated (quotedItems items) ++ "]"
  | .map entries => "\x7b" ++ commaSeparated (quotedEntries entries) ++ "\x7d"

def quotedItems : List Value → List String
  | [] => []
  | v :: vs => v.quoted :: quotedItems vs

def quotedEntries : List (Value × Value) → List String
  | [] => []
  | (k, v) :: es => (k.quoted ++ ": " ++ v.quoted) :: quotedEntries es

end

def mostDigits : Nat := 4300

mutual

def hasLongNumber : Value → Bool
  | .int i => Nat.pow 10 mostDigits ≤ i.natAbs
  | .pair a b => hasLongNumber a || hasLongNumber b
  | .list items => anyLongNumber items
  | .set items => anyLongNumber items
  | .map entries => anyEntryLongNumber entries
  | _ => false

def anyLongNumber : List Value → Bool
  | [] => false
  | v :: vs => hasLongNumber v || anyLongNumber vs

def anyEntryLongNumber : List (Value × Value) → Bool
  | [] => false
  | (k, v) :: es => hasLongNumber k || hasLongNumber v || anyEntryLongNumber es

end

def toText : Value → String
  | .text s => s
  | .date d => d.toText
  | .moment m => m.toText " "
  | v => v.quoted

end Value

end BuildScripts
