import BuildScripts.Text.Utf8
import BuildScripts.Yaml.Scalar

/-!
Tokens of a document. Block collections start and end by indentation, and a key may turn out to be
one only after it has been read; then its token is put in front of it.
-/

namespace BuildScripts.Yaml

open BuildScripts.Text

inductive Token
  | version (major : Nat)
  | tagHandle (handle start : String)
  | otherDirective
  | documentStart
  | documentEnd
  | listStart
  | mapStart
  | blockEnd
  | flowListStart
  | flowListEnd
  | flowMapStart
  | flowMapEnd
  | comma
  | entry
  | key
  | value
  | alias (name : String)
  | anchor (name : String)
  | tag (handle : Option String) (suffix : String)
  | scalar (text : String) (plain : Bool)
  deriving DecidableEq, Repr

structure KeyStart where
  token : Nat
  required : Bool
  index : Nat
  line : Nat
  column : Nat

structure Lexer where
  at_ : Cursor
  tokens : List Token
  flow : Nat
  indent : Int
  outer : List Int
  keyAllowed : Bool
  keys : List (Nat × KeyStart)

namespace Lexer

def start (cs : List Char) : Lexer :=
  ⟨.start cs, [], 0, -1, [], true, []⟩

def emit (l : Lexer) (t : Token) : Lexer :=
  { l with tokens := l.tokens ++ [t] }

def forward (l : Lexer) (n : Nat) : Lexer :=
  { l with at_ := l.at_.move n }

def moveTo (l : Lexer) (c : Cursor) : Lexer :=
  { l with at_ := c }

def allowKey (l : Lexer) (b : Bool) : Lexer :=
  { l with keyAllowed := b }

def inFlow (l : Lexer) : Bool :=
  l.flow != 0

def skipGaps : Nat → Lexer → Lexer
  | 0, l => l
  | fuel + 1, l =>
    let c := l.at_.skip (· == ' ')
    let c := if c.peek == '#' then c.skip (!isBreakOrEnd ·) else c
    if isBreak c.peek then
      skipGaps fuel { l with at_ := c.lineBreak.2, keyAllowed := l.keyAllowed || !l.inFlow }
    else { l with at_ := c }

def isStale (l : Lexer) (k : KeyStart) : Bool :=
  k.line != l.at_.line || l.at_.index - k.index > 1024

def dropStale (l : Lexer) : Option Lexer :=
  if l.keys.any fun (_, k) => l.isStale k && k.required then none
  else some { l with keys := l.keys.filter fun (_, k) => !l.isStale k }

def forgetKey (l : Lexer) : Option Lexer :=
  match l.keys.lookup l.flow with
  | some k => if k.required then none else some { l with keys := l.keys.filter (·.1 ≠ l.flow) }
  | none => some l

def rememberKey (l : Lexer) : Option Lexer :=
  if l.keyAllowed then do
    let required := !l.inFlow && l.indent == l.at_.column
    let l ← l.forgetKey
    let k : KeyStart := ⟨l.tokens.length, required, l.at_.index, l.at_.line, l.at_.column⟩
    return { l with keys := (l.flow, k) :: l.keys }
  else some l

def unwind (column : Int) : List Int → Lexer → Lexer
  | [], l => l
  | i :: outer, l =>
    if column < l.indent then
      unwind column outer { (l.emit .blockEnd) with indent := i, outer := outer }
    else l

def unwindTo (l : Lexer) (column : Int) : Lexer :=
  if l.inFlow then l else unwind column l.outer l

def deepens (l : Lexer) (column : Nat) : Bool :=
  l.indent < column

def deepen (l : Lexer) (column : Nat) : Lexer :=
  { l with indent := column, outer := l.indent :: l.outer }

def startBlock (l : Lexer) (t : Token) : Lexer :=
  if l.deepens l.at_.column then (l.deepen l.at_.column).emit t else l

def lastKey (l : Lexer) : Option Lexer :=
  (l.unwindTo (-1)).forgetKey.map (·.allowKey false)

def documentMark (l : Lexer) (t : Token) : Option Lexer :=
  l.lastKey.map fun l => (l.forward 3).emit t

def flowStart (l : Lexer) (t : Token) : Option Lexer :=
  l.rememberKey.map fun l =>
    { ((l.forward 1).emit t) with flow := l.flow + 1, keyAllowed := true }

def flowEnd (l : Lexer) (t : Token) : Option Lexer := do
  guard l.inFlow
  let l ← l.forgetKey
  return { ((l.forward 1).emit t) with flow := l.flow - 1, keyAllowed := false }

def flowComma (l : Lexer) : Option Lexer :=
  (l.allowKey true).forgetKey.map fun l => (l.forward 1).emit .comma

def blockEntry (l : Lexer) : Option Lexer := do
  guard (l.inFlow || l.keyAllowed)
  let l := if l.inFlow then l else l.startBlock .listStart
  let l ← (l.allowKey true).forgetKey
  return (l.forward 1).emit .entry

def explicitKey (l : Lexer) : Option Lexer := do
  guard (l.inFlow || l.keyAllowed)
  let l := if l.inFlow then l else l.startBlock .mapStart
  let l ← (l.allowKey (!l.inFlow)).forgetKey
  return (l.forward 1).emit .key

/-- The token of a key that has just turned out to be one goes in front of what has been read of
it, after the start of a map if the key is the first one in a block. -/
def insertKey (l : Lexer) (k : KeyStart) : Lexer :=
  let starts := !l.inFlow && l.deepens k.column
  let inserted := if starts then [.mapStart, .key] else [.key]
  let l := { l with
    keys := l.keys.filter (·.1 ≠ l.flow)
    tokens := l.tokens.take k.token ++ inserted ++ l.tokens.drop k.token
    keyAllowed := false }
  if starts then l.deepen k.column else l

def valueMark (l : Lexer) : Option Lexer :=
  match l.keys.lookup l.flow with
  | some k => some (((l.insertKey k).forward 1).emit .value)
  | none => do
    guard (l.inFlow || l.keyAllowed)
    let l := if l.inFlow then l else l.startBlock .mapStart
    let l ← (l.allowKey (!l.inFlow)).forgetKey
    return (l.forward 1).emit .value

def readName (c : Cursor) : Option (String × Cursor) := do
  let (name, c) := c.next.span isNameChar
  guard !name.isEmpty
  guard (isGap c.peek || "?:,]\x7d%@\x60".toList.contains c.peek)
  return (String.ofList name, c)

def named (l : Lexer) (t : String → Token) : Option Lexer := do
  let l ← l.rememberKey
  let (name, c) ← readName l.at_
  return ((l.allowKey false).moveTo c).emit (t name)

def isUriChar (c : Char) : Bool :=
  c.isAlphanum || "-;/?:@&=+$,_.!~*'()[]%".toList.contains c

def uriBytes : Nat → Cursor → Option (List UInt8 × Cursor)
  | 0, c => some ([], c)
  | fuel + 1, c =>
    if c.peek == '%' then do
      let high ← hexDigit? (c.peekAt 1)
      let low ← hexDigit? (c.peekAt 2)
      let (bs, c) ← uriBytes fuel (c.move 3)
      return (UInt8.ofNat (16 * high + low) :: bs, c)
    else some ([], c)

def uriFrom : Nat → Cursor → Option (List Char × Cursor)
  | 0, c => some ([], c)
  | fuel + 1, c =>
    if c.peek == '%' then do
      let (bytes, c) ← uriBytes (c.rest.length + 1) c
      let text ← String.fromUTF8? bytes.toByteArray
      let (more, c) ← uriFrom fuel c
      return (text.toList ++ more, c)
    else if isUriChar c.peek then do
      let (more, c') ← uriFrom fuel c.next
      return (c.peek :: more, c')
    else some ([], c)

def readUri (c : Cursor) : Option (String × Cursor) := do
  guard (isUriChar c.peek)
  let (cs, c) ← uriFrom (c.rest.length + 1) c
  return (String.ofList cs, c)

def readHandle (c : Cursor) : Option (String × Cursor) := do
  guard (c.peek == '!')
  let (name, after) := c.next.span isNameChar
  if c.next.peek == ' ' then return ("!", c.next)
  else
    guard (after.peek == '!')
    return (String.ofList ('!' :: name ++ ['!']), after.next)

def hasHandle (c : Cursor) : Bool :=
  (c.rest.drop 1).takeWhile (!isBlankOrEnd ·) |>.contains '!'

def readTag (c : Cursor) : Option (Token × Cursor) := do
  let (t, c) ←
    if c.peekAt 1 == '<' then do
      let (uri, c) ← readUri (c.move 2)
      guard (c.peek == '>')
      pure (Token.tag none uri, c.next)
    else if isGap (c.peekAt 1) then pure (Token.tag none "!", c.next)
    else if hasHandle c then do
      let (handle, c) ← readHandle c
      let (uri, c) ← readUri c
      pure (Token.tag (some handle) uri, c)
    else do
      let (uri, c) ← readUri c.next
      pure (Token.tag (some "!") uri, c)
  guard (isBlankOrEnd c.peek)
  return (t, c)

def tagMark (l : Lexer) : Option Lexer := do
  let l ← l.rememberKey
  let (t, c) ← readTag l.at_
  return ((l.allowKey false).moveTo c).emit t

def readNumber (c : Cursor) : Option (Nat × Cursor) := do
  let (ds, c) := c.span (asciiDigit? · |>.isSome)
  guard !ds.isEmpty
  return (ofDigits 10 (ds.filterMap asciiDigit?), c)

def readVersion (c : Cursor) : Option (Token × Cursor) := do
  let (major, c) ← readNumber (c.skip (· == ' '))
  guard (c.peek == '.')
  let (_, c) ← readNumber c.next
  guard (isBlankOrEnd c.peek)
  return (.version major, c)

def readTagHandle (c : Cursor) : Option (Token × Cursor) := do
  let (handle, c) ← readHandle (c.skip (· == ' '))
  guard (c.peek == ' ')
  let (uri, c) ← readUri (c.skip (· == ' '))
  guard (isBlankOrEnd c.peek)
  return (.tagHandle handle uri, c)

def readDirective (c : Cursor) : Option (Token × Cursor) := do
  let (name, c) := c.next.span isNameChar
  guard !name.isEmpty
  guard (isBlankOrEnd c.peek)
  if name == "YAML".toList then readVersion c
  else if name == "TAG".toList then readTagHandle c
  else return (.otherDirective, c.skip (!isBreakOrEnd ·))

def directive (l : Lexer) : Option Lexer := do
  let l ← l.lastKey
  let (t, c) ← readDirective l.at_
  let c ← restOfLine c
  return (l.moveTo c).emit t

def blockScalar (l : Lexer) (fold : Bool) : Reading Lexer := do
  let l ← (l.allowKey true).forgetKey
  let (cs, c) ← readBlock fold l.indent l.at_
  return (l.moveTo c).emit (.scalar (String.ofList cs) false)

def quotedScalar (l : Lexer) (double : Bool) : Reading Lexer := do
  let l ← l.rememberKey
  let (cs, c) ← readQuoted double l.at_
  return ((l.allowKey false).moveTo c).emit (.scalar (String.ofList cs) false)

def plainScalar (l : Lexer) : Option Lexer := do
  let l ← l.rememberKey
  let p := readPlain l.inFlow (l.indent + 1) l.at_
  return ((l.allowKey p.lineEnded).moveTo p.after).emit (.scalar (String.ofList p.text) true)

def atPlain (l : Lexer) : Bool :=
  let x := l.at_.peek
  !(isGap x || "-?:,[]\x7b\x7d#&*!|>'\"%@\x60".toList.contains x) ||
    (!isGap (l.at_.peekAt 1) && (x == '-' || (!l.inFlow && (x == '?' || x == ':'))))

def token (l : Lexer) : Reading Lexer := do
  let c := l.at_
  let gapNext := isGap (c.peekAt 1)
  let atStart := c.column == 0
  match c.peek with
  | '[' => l.flowStart .flowListStart
  | '\x7b' => l.flowStart .flowMapStart
  | ']' => l.flowEnd .flowListEnd
  | '\x7d' => l.flowEnd .flowMapEnd
  | ',' => l.flowComma
  | '*' => l.named .alias
  | '&' => l.named .anchor
  | '!' => l.tagMark
  | '\'' => l.quotedScalar false
  | '"' => l.quotedScalar true
  | x =>
    if x == '%' && atStart then l.directive
    else if x == '-' && atStart && c.atMark '-' then l.documentMark .documentStart
    else if x == '.' && atStart && c.atMark '.' then l.documentMark .documentEnd
    else if x == '-' && gapNext then l.blockEntry
    else if x == '?' && (l.inFlow || gapNext) then l.explicitKey
    else if x == ':' && (l.inFlow || gapNext) then l.valueMark
    else if x == '|' && !l.inFlow then l.blockScalar false
    else if x == '>' && !l.inFlow then l.blockScalar true
    else if l.atPlain then l.plainScalar
    else failure

def step (l : Lexer) : Reading (Lexer × Bool) := do
  let l ← (skipGaps (l.at_.rest.length + 1) l).dropStale
  let l := l.unwindTo l.at_.column
  if l.at_.rest.isEmpty then return (← l.lastKey, true) else return (← l.token, false)

/-- The tokens in front of which no token of a key can come any more. -/
def settled (l : Lexer) : List Token :=
  l.tokens.take (l.keys.foldl (fun n (_, k) => min n k.token) l.tokens.length)

end Lexer

structure Scan where
  tokens : List Token
  fault : Option Fault

def Scan.run : Nat → Lexer → Scan
  | 0, l => ⟨l.settled, some .badDocument⟩
  | fuel + 1, l =>
    match l.step.toExcept with
    | .ok (l, true) => ⟨l.tokens, none⟩
    | .ok (l, false) => run fuel l
    | .error f => ⟨l.settled, some f⟩

def isAllowed (c : Char) : Bool :=
  let n := c.toNat
  n == 0x09 || n == 0x0a || n == 0x0d || (0x20 ≤ n && n ≤ 0x7e) || n == 0x85 ||
    (0xa0 ≤ n && n ≤ 0xd7ff) || (0xe000 ≤ n && n ≤ 0xfffd) || 0x10000 ≤ n

def scan (s : String) : Scan :=
  let cs := s.toList
  if cs.all isAllowed then
    let l := Lexer.start cs
    let l := if l.at_.peek == '\ufeff' then l.forward 1 else l
    .run (cs.length + 2) l
  else ⟨[], some .badDocument⟩

end BuildScripts.Yaml
