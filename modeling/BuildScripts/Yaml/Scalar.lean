import BuildScripts.Text.Digit
import BuildScripts.Yaml.Cursor
import BuildScripts.Yaml.Reading

namespace BuildScripts.Yaml

open BuildScripts.Text

abbrev Read := Reading (List Char × Cursor)

def isGapInside (c : Char) : Bool :=
  c == ' ' || c == '\t'

def quotedBreaks : Nat → Cursor → Read
  | 0, _ => failure
  | fuel + 1, c =>
    if c.atSeparator then failure
    else
      let c := c.skip isGapInside
      if isBreak c.peek then do
        let (b, c) := c.lineBreak
        let (bs, c) ← quotedBreaks fuel c
        return (b ++ bs, c)
      else pure ([], c)

def folded (first : List Char) (more : List Char) : List Char :=
  if first != ['\n'] then first ++ more
  else if more.isEmpty then [' ']
  else more

def quotedSpaces (fuel : Nat) (c : Cursor) : Read := do
  let (blank, c) := c.span isGapInside
  if c.peek == endMark then failure
  else if isBreak c.peek then
    let (first, c) := c.lineBreak
    let (more, c) ← quotedBreaks fuel c
    return (folded first more, c)
  else return (blank, c)

def shortEscape? (c : Char) : Option Char :=
  match c with
  | '0' => some '\x00'
  | 'a' => some '\x07'
  | 'b' => some '\x08'
  | 't' => some '\t'
  | '\t' => some '\t'
  | 'n' => some '\n'
  | 'v' => some '\x0b'
  | 'f' => some '\x0c'
  | 'r' => some '\r'
  | 'e' => some '\x1b'
  | ' ' => some ' '
  | '"' => some '"'
  | '\\' => some '\\'
  | '/' => some '/'
  | 'N' => some '\x85'
  | '_' => some '\xa0'
  | 'L' => some '\u2028'
  | 'P' => some '\u2029'
  | _ => none

def escapeLength? (c : Char) : Option Nat :=
  match c with
  | 'x' => some 2
  | 'u' => some 4
  | 'U' => some 8
  | _ => none

def charOfCode (n : Nat) : Reading Char :=
  if Nat.pow 2 31 ≤ n then
    throw (.raised ⟨"OverflowError", some "Python int too large to convert to C int"⟩)
  else if 0x110000 ≤ n then throw (.badValue "chr() arg not in range(0x110000)")
  else pure (Char.ofNat n)

def readEscape (fuel : Nat) (c : Cursor) : Read :=
  match shortEscape? c.peek, escapeLength? c.peek with
  | some x, _ => pure ([x], c.next)
  | none, some n => do
    let c := c.next
    let digits ← Reading.ofOption ((c.rest.take n).mapM hexDigit?)
    guard (digits.length = n)
    return ([← charOfCode (ofDigits 16 digits)], c.move n)
  | none, none =>
    if isBreak c.peek then quotedBreaks fuel c.lineBreak.2 else failure

def isQuotedChar (c : Char) : Bool :=
  !(c == '\'' || c == '"' || c == '\\' || isGap c)

def quotedFrom (double : Bool) : Nat → List Char → Cursor → Read
  | 0, _, _ => failure
  | fuel + 1, acc, c =>
    let x := c.peek
    if isQuotedChar x then quotedFrom double fuel (x :: acc) c.next
    else if double then
      if x == '"' then pure (acc, c.next)
      else if x == '\'' then quotedFrom double fuel (x :: acc) c.next
      else if x == '\\' then do
        let (cs, c) ← readEscape fuel c.next
        quotedFrom double fuel (cs.reverse ++ acc) c
      else do
        let (cs, c) ← quotedSpaces fuel c
        quotedFrom double fuel (cs.reverse ++ acc) c
    else if x == '\'' then
      if c.peekAt 1 == '\'' then quotedFrom double fuel ('\'' :: acc) (c.move 2)
      else pure (acc, c.next)
    else if x == '"' || x == '\\' then quotedFrom double fuel (x :: acc) c.next
    else do
      let (cs, c) ← quotedSpaces fuel c
      quotedFrom double fuel (cs.reverse ++ acc) c

def readQuoted (double : Bool) (c : Cursor) : Read := do
  let (cs, c) ← quotedFrom double (2 * c.rest.length + 2) [] c.next
  return (cs.reverse, c)

def plainLength (inFlow : Bool) : List Char → Nat
  | [] => 0
  | x :: rest =>
    let after := rest.headD endMark
    let flowMark := inFlow && ",[]\x7b\x7d".toList.contains after
    if isGap x || (x == ':' && (isGap after || flowMark)) ||
        (inFlow && ",?[]\x7b\x7d".toList.contains x) then 0
    else plainLength inFlow rest + 1

/-- Breaks between the lines of a plain scalar, up to a separator of documents; the last result
tells whether there is one. -/
def plainBreaks : Nat → Cursor → List Char × Cursor × Bool
  | 0, c => ([], c, false)
  | fuel + 1, c =>
    if c.peek == ' ' then plainBreaks fuel c.next
    else if isBreak c.peek then
      let (b, c) := c.lineBreak
      if c.atSeparator then ([], c, true)
      else
        let (bs, c, stop) := plainBreaks fuel c
        (b ++ bs, c, stop)
    else ([], c, false)

structure PlainGap where
  text : List Char
  lineEnded : Bool
  after : Cursor

def plainGap (c : Cursor) : PlainGap :=
  let (blank, c) := c.span (· == ' ')
  if isBreak c.peek then
    let (first, c) := c.lineBreak
    if c.atSeparator then ⟨[], true, c⟩
    else
      let (more, c, stop) := plainBreaks (c.rest.length + 1) c
      ⟨if stop then [] else folded first more, true, c⟩
  else ⟨blank, false, c⟩

structure Plain where
  text : List Char
  lineEnded : Bool
  after : Cursor

def plainFrom (inFlow : Bool) (indent : Int) :
    Nat → List Char → List Char → Bool → Cursor → Plain
  | 0, acc, _, ended, c => ⟨acc, ended, c⟩
  | fuel + 1, acc, gap, ended, c =>
    let n := plainLength inFlow c.rest
    if c.peek == '#' || n = 0 then ⟨acc, ended, c⟩
    else
      let acc := acc ++ gap ++ c.rest.take n
      let g := plainGap (c.move n)
      if g.text.isEmpty || g.after.peek == '#' || (!inFlow && g.after.column < indent) then
        ⟨acc, g.lineEnded, g.after⟩
      else plainFrom inFlow indent fuel acc g.text g.lineEnded g.after

def readPlain (inFlow : Bool) (indent : Int) (c : Cursor) : Plain :=
  plainFrom inFlow indent (c.rest.length + 1) [] [] false c

inductive Chomping
  | clip
  | strip
  | keep
  deriving DecidableEq, Repr

structure BlockHead where
  chomping : Chomping
  increment : Option Nat

def chompingOf? (c : Char) : Option Chomping :=
  match c with
  | '+' => some .keep
  | '-' => some .strip
  | _ => none

def readBlockHead (c : Cursor) : Option (BlockHead × Cursor) := do
  let (head, c) := match chompingOf? c.peek with
    | some chomping =>
      match asciiDigit? c.next.peek with
      | some n => (BlockHead.mk chomping (some n), c.move 2)
      | none => (⟨chomping, none⟩, c.next)
    | none =>
      match asciiDigit? c.peek with
      | some n =>
        match chompingOf? c.next.peek with
        | some chomping => (⟨chomping, some n⟩, c.move 2)
        | none => (⟨.clip, some n⟩, c.next)
      | none => (⟨.clip, none⟩, c)
  guard (head.increment ≠ some 0)
  guard (isBlankOrEnd c.peek)
  return (head, c)

def restOfLine (c : Cursor) : Option Cursor :=
  let c := c.skip (· == ' ')
  let c := if c.peek == '#' then c.skip (!isBreakOrEnd ·) else c
  if isBreakOrEnd c.peek then some c.lineBreak.2 else none

def indentTo (column : Nat) : Nat → Cursor → Cursor
  | 0, c => c
  | fuel + 1, c => if c.column < column && c.peek == ' ' then indentTo column fuel c.next else c

def blockBreaks (indent : Nat) : Nat → Cursor → List Char × Cursor
  | 0, c => ([], c)
  | fuel + 1, c =>
    let c := indentTo indent indent c
    if isBreak c.peek then
      let (b, c) := c.lineBreak
      let (bs, c) := blockBreaks indent fuel c
      (b ++ bs, c)
    else ([], c)

def firstIndent : Nat → Nat → Cursor → List Char × Nat × Cursor
  | 0, widest, c => ([], widest, c)
  | fuel + 1, widest, c =>
    if c.peek == ' ' then firstIndent fuel (max widest c.next.column) c.next
    else if isBreak c.peek then
      let (b, c) := c.lineBreak
      let (bs, widest, c) := firstIndent fuel widest c
      (b ++ bs, widest, c)
    else ([], widest, c)

structure Block where
  text : List Char
  lastBreak : List Char
  breaks : List Char
  after : Cursor

def blockLines (fold : Bool) (indent : Nat) : Nat → Block → Block
  | 0, b => b
  | fuel + 1, b =>
    let c := b.after
    if c.column = indent ∧ c.peek ≠ endMark then
      let startsPlain := !isGapInside c.peek
      let (line, c) := c.span (!isBreakOrEnd ·)
      let (lastBreak, c) := c.lineBreak
      let (breaks, c) := blockBreaks indent (c.rest.length + 1) c
      let text := b.text ++ b.breaks ++ line
      if c.column = indent ∧ c.peek ≠ endMark then
        let between :=
          if fold && lastBreak == ['\n'] && startsPlain && !isGapInside c.peek then
            if breaks.isEmpty then [' '] else []
          else lastBreak
        blockLines fold indent fuel ⟨text ++ between, lastBreak, breaks, c⟩
      else ⟨text, lastBreak, breaks, c⟩
    else b

def Block.finish (b : Block) : Chomping → List Char
  | .strip => b.text
  | .clip => b.text ++ b.lastBreak
  | .keep => b.text ++ b.lastBreak ++ b.breaks

def readBlock (fold : Bool) (outer : Int) (c : Cursor) : Read := do
  let (head, c) ← readBlockHead c.next
  let c ← restOfLine c
  let least := (max (outer + 1) 1).toNat
  let fuel := c.rest.length + 1
  let (indent, breaks, c) := match head.increment with
    | none =>
      let (breaks, widest, c) := firstIndent fuel 0 c
      (max least widest, breaks, c)
    | some n =>
      let (breaks, c) := blockBreaks (least + n - 1) fuel c
      (least + n - 1, breaks, c)
  let block := blockLines fold indent fuel ⟨[], [], breaks, c⟩
  return (block.finish head.chomping, block.after)

end BuildScripts.Yaml
