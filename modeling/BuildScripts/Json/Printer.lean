import BuildScripts.Value.Shown

namespace BuildScripts.Json

open BuildScripts.Text

def escapedChar (c : Char) : List Char :=
  match c with
  | '"' => ['\\', '"']
  | '\\' => ['\\', '\\']
  | '\n' => ['\\', 'n']
  | '\r' => ['\\', 'r']
  | '\t' => ['\\', 't']
  | '\x0c' => ['\\', 'f']
  | '\x08' => ['\\', 'b']
  | c => if c.toNat < 0x20 then '\\' :: 'u' :: hexDigits 4 c.toNat else [c]

def textLiteral (s : String) : String :=
  String.ofList ('"' :: s.toList.flatMap escapedChar ++ ['"'])

def codesLiteral (codes : List Nat) : String :=
  let escape (n : Nat) : List Char :=
    if h : n.isValidChar then escapedChar (Char.ofNatAux n h) else '\\' :: 'u' :: hexDigits 4 n
  String.ofList ('"' :: codes.flatMap escape ++ ['"'])

def floatLiteral : Double → String
  | .nan => "NaN"
  | .infinite false => "Infinity"
  | .infinite true => "-Infinity"
  | d => d.toText

structure Layout where
  between : String
  afterColon : String
  indent : Option Nat

def compact : Layout :=
  ⟨",", "", none⟩

def indented : Layout :=
  ⟨",", " ", some 2⟩

def Layout.lineBreak (l : Layout) (depth : Nat) : String :=
  match l.indent with
  | none => ""
  | some width => "\n" ++ String.ofList (List.replicate (width * depth) ' ')

def Layout.enclose (l : Layout) (depth : Nat) (opening closing : String) (members : List String) :
    String :=
  match members with
  | [] => opening ++ closing
  | _ =>
    opening ++ l.lineBreak (depth + 1) ++
      String.intercalate (l.between ++ l.lineBreak (depth + 1)) members ++
      l.lineBreak depth ++ closing

mutual

def write (l : Layout) (depth : Nat) : Value → String
  | .null => "null"
  | .bool true => "true"
  | .bool false => "false"
  | .int i => signedDecimal i
  | .float d => floatLiteral d
  | .text s => textLiteral s
  | .unpaired codes => codesLiteral codes
  | .bytes bs => textLiteral (quotedBytes bs)
  | .loop _ _ => "null"
  | .date d => textLiteral d.toText
  | .moment m => textLiteral (m.toText "T")
  | .pair a b =>
    l.enclose depth "[" "]" [write l (depth + 1) a, write l (depth + 1) b]
  | .set items => l.enclose depth "[" "]" (writeItems l (depth + 1) items)
  | .list items => l.enclose depth "[" "]" (writeItems l (depth + 1) items)
  | .map entries => l.enclose depth "\x7b" "\x7d" (writeEntries l (depth + 1) entries)

def writeItems (l : Layout) (depth : Nat) : List Value → List String
  | [] => []
  | v :: vs => write l depth v :: writeItems l depth vs

def writeEntries (l : Layout) (depth : Nat) : List (Value × Value) → List String
  | [] => []
  | (k, v) :: es =>
    (textLiteral k.toText ++ ":" ++ l.afterColon ++ write l depth v) :: writeEntries l depth es

end

mutual

def isSendable : Value → Bool
  | .unpaired _ => false
  | .loop _ _ => false
  | .float .nan => false
  | .float (.infinite _) => false
  | .pair a b => isSendable a && isSendable b
  | .set items => allSendable items
  | .list items => allSendable items
  | .map entries => entriesSendable entries
  | _ => true

def allSendable : List Value → Bool
  | [] => true
  | v :: vs => isSendable v && allSendable vs

def entriesSendable : List (Value × Value) → Bool
  | [] => true
  | (k, v) :: es => isSendable k && isSendable v && entriesSendable es

end

def render (l : Layout) (v : Value) : String :=
  write l 0 v

end BuildScripts.Json
