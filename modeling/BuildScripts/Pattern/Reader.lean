import BuildScripts.Pattern.Basic
import BuildScripts.Text.Identifier
import BuildScripts.Text.Quoted

/-!
Reading of regular expressions. Characters are taken one by one; a group that is open keeps what
stood before it, so reading ends with the last character.
-/

namespace BuildScripts.Pattern

open BuildScripts.Text

structure Fault where
  problem : String
  position : Option Nat
  deriving DecidableEq, Repr

structure Flags where
  fold : Bool
  multiline : Bool
  dotAll : Bool
  verbose : Bool
  ascii : Bool
  deriving DecidableEq, Repr

def Flags.folding (f : Flags) : Fold :=
  if f.fold then (if f.ascii then .ascii else .all) else .none

def searchFlags : Flags :=
  ⟨true, false, true, false, false⟩

inductive GroupKind
  | plain
  | capture (index : Nat)
  | look (behind negated : Bool)
  | atomic
  | whether (index : Nat)
  deriving DecidableEq, Repr

/-- What waits for the end of a group: where the group started, the sequence before it and the
choices before that, both in reverse, and the flags that hold again after it. -/
structure Waiting where
  kind : GroupKind
  start : Nat
  choices : List Node
  sequence : List Node
  flags : Flags
  lookbehind : Option Nat

structure Builder where
  waiting : List Waiting
  choices : List Node
  sequence : List Node
  flags : Flags
  nextGroup : Nat
  closed : List (Nat × Width)
  names : List (String × Nat)
  asked : List (Nat × Nat)
  lookbehind : Option Nat
  unboundedLookbehind : Bool

def startBuilder (flags : Flags) : Builder :=
  ⟨[], [], [], flags, 1, [], [], [], none, false⟩

abbrev Reading := Except Fault

def failAt {α : Type} (problem : String) (position : Nat) : Reading α :=
  .error ⟨problem, some position⟩

def failUnknown {α : Type} (start : Nat) (lead : String) (cs : List Char) : Reading α :=
  let shown := if cs.head? == some '\\' then cs.take 2 else cs.take 1
  failAt ("unknown extension " ++ lead ++ String.ofList shown) (start + 1)

namespace Builder

def push (b : Builder) (n : Node) : Builder :=
  { b with sequence := n :: b.sequence }

def pushChar (b : Builder) (c : Char) : Builder :=
  b.push (.char b.flags.folding c)

def nodeOfSequence : List Node → Node
  | [n] => n
  | reversed => .seq reversed.reverse

def finishChoice (b : Builder) : Builder :=
  { b with choices := nodeOfSequence b.sequence :: b.choices, sequence := [] }

def body (b : Builder) : Node :=
  match b.finishChoice.choices with
  | [n] => n
  | reversed => .choice reversed.reverse

def open_ (b : Builder) (kind : GroupKind) (start : Nat) (inner : Flags) : Builder :=
  let lookbehind := match kind with
    | .look true _ => some (b.lookbehind.getD b.nextGroup)
    | _ => b.lookbehind
  { b with
    waiting := ⟨kind, start, b.choices, b.sequence, b.flags, b.lookbehind⟩ :: b.waiting
    choices := []
    sequence := []
    flags := inner
    lookbehind := lookbehind }

def closedNode (b : Builder) (kind : GroupKind) : Node :=
  match kind with
  | .plain => .group none b.body
  | .capture index => .group (some index) b.body
  | .look false negated => .look .ahead negated b.body
  | .look true negated => .look (.behind (width b.closed b.body).least) negated b.body
  | .atomic => .atomic b.body
  | .whether index =>
    match b.finishChoice.choices with
    | [no, yes] => .whether index yes no
    | [yes] => .whether index yes (.seq [])
    | _ => .seq []

def isUnbounded (b : Builder) (kind : GroupKind) : Bool :=
  match kind with
  | .look true _ =>
    let w := width b.closed b.body
    w.most != some w.least
  | _ => false

def close (b : Builder) (pos : Nat) : Reading Builder :=
  match b.waiting with
  | [] => failAt "unbalanced parenthesis" pos
  | w :: ws =>
    let node := b.closedNode w.kind
    let closed := match w.kind with
      | .capture index => (index, width b.closed b.body) :: b.closed
      | _ => b.closed
    .ok { b with
      waiting := ws
      choices := w.choices
      sequence := node :: w.sequence
      flags := w.flags
      closed := closed
      lookbehind := w.lookbehind
      unboundedLookbehind := b.unboundedLookbehind || b.isUnbounded w.kind }

def nextChoice (b : Builder) (pos : Nat) : Reading Builder :=
  match b.waiting, b.choices with
  | ⟨.whether _, _, _, _, _, _⟩ :: _, _ :: _ =>
    failAt "conditional backref with more than two branches" pos
  | _, _ => .ok b.finishChoice

def isClosed (b : Builder) (index : Nat) : Bool :=
  (b.closed.lookup index).isSome

def checkLookbehind (b : Builder) (index pos : Nat) : Reading Unit :=
  match b.lookbehind with
  | none => .ok ()
  | some before =>
    if !b.isClosed index then failAt "cannot refer to an open group" pos
    else if before ≤ index then
      failAt "cannot refer to group defined in the same lookbehind subpattern" pos
    else .ok ()

end Builder

abbrev Step := Reading (Builder × Nat)

def classOf? (ascii : Bool) (c : Char) : Option Item :=
  match c with
  | 'd' => some (.cls ascii false .digit)
  | 'D' => some (.cls ascii true .digit)
  | 's' => some (.cls ascii false .space)
  | 'S' => some (.cls ascii true .space)
  | 'w' => some (.cls ascii false .word)
  | 'W' => some (.cls ascii true .word)
  | _ => none

def controlOf? (c : Char) : Option Char :=
  match c with
  | 'a' => some '\x07'
  | 'f' => some '\x0c'
  | 'n' => some '\n'
  | 'r' => some '\r'
  | 't' => some '\t'
  | 'v' => some '\x0b'
  | '\\' => some '\\'
  | _ => none

def isOctal (c : Char) : Bool := '0' ≤ c && c ≤ '7'

def isDigit (c : Char) : Bool := '0' ≤ c && c ≤ '9'

def isLetter (c : Char) : Bool := ('a' ≤ c && c ≤ 'z') || ('A' ≤ c && c ≤ 'Z')

def codeOf (base : Nat) (digits : List Char) : Nat :=
  ofDigits base (digits.filterMap hexDigit?)

def leading (test : Char → Bool) (n : Nat) (cs : List Char) : List Char :=
  (cs.take n).takeWhile test

def hexEscape (mark : Char) (count pos : Nat) (rest : List Char) : Reading (Char × Nat) :=
  let digits := leading (hexDigit? · |>.isSome) count rest
  if digits.length = count then
    let code := codeOf 16 digits
    if code.isValidChar then .ok (Char.ofNat code, count)
    else failAt ("bad escape \\" ++ String.ofList (mark :: digits)) pos
  else failAt ("incomplete escape \\" ++ String.ofList (mark :: digits)) pos

def octalEscape (pos : Nat) (digits : List Char) (taken : Nat) : Reading (Char × Nat) :=
  if codeOf 8 digits > 255 then
    failAt ("octal escape value \\" ++ String.ofList digits ++ " outside of range 0-0o377") pos
  else .ok (Char.ofNat (codeOf 8 digits), taken)

def charEscape (pos : Nat) (c : Char) (rest : List Char) : Reading (Char × Nat) :=
  match controlOf? c with
  | some x => .ok (x, 0)
  | none =>
    if c = 'x' then hexEscape c 2 pos rest
    else if c = 'u' then hexEscape c 4 pos rest
    else if c = 'U' then hexEscape c 8 pos rest
    else if c = 'N' then
      match rest with
      | '\x7b' :: more =>
        match more.takeWhile (· != '\x7d') with
        | [] => failAt "missing character name" (pos + 3)
        | name => failAt ("undefined character name " ++ quoted (String.ofList name)) pos
      | _ => failAt "missing \x7b" (pos + 2)
    else if isLetter c then failAt ("bad escape \\" ++ String.ofList [c]) pos
    else .ok (c, 0)

def setEscape (flags : Flags) (pos : Nat) (c : Char) (rest : List Char) : Reading (Item × Nat) :=
  match classOf? flags.ascii c with
  | some item => .ok (item, 0)
  | none =>
    if c = 'b' then .ok (.char '\x08', 0)
    else if isOctal c then
      let more := leading isOctal 2 rest
      (octalEscape pos (c :: more) more.length).map fun (x, n) => (.char x, n)
    else if isDigit c then failAt ("bad escape \\" ++ String.ofList [c]) pos
    else (charEscape pos c rest).map fun (x, n) => (.char x, n)

structure Member where
  item : Item
  length : Nat
  shown : List Char

def setMember (flags : Flags) (pos : Nat) (c : Char) (rest : List Char) : Reading Member :=
  if c = '\\' then
    match rest with
    | [] => failAt "bad escape (end of pattern)" pos
    | d :: more => (setEscape flags pos d more).map fun (item, n) => ⟨item, n + 2, ['\\', d]⟩
  else .ok ⟨.char c, 1, [c]⟩

def badRange {α : Type} (a b : Member) (finish : Nat) : Reading α :=
  failAt ("bad character range " ++ String.ofList (a.shown ++ '-' :: b.shown))
    (finish - (a.shown.length + 1 + b.shown.length))

def setItems (flags : Flags) (start : Nat) :
    Nat → Nat → List Item → List Char → Reading (List Item × Nat)
  | 0, _, _, _ => failAt "unterminated character set" start
  | _, _, _, [] => failAt "unterminated character set" start
  | fuel + 1, pos, acc, c :: rest =>
    if c = ']' ∧ !acc.isEmpty then .ok (acc.reverse, pos + 1)
    else do
      let a ← setMember flags pos c rest
      match rest.drop (a.length - 1) with
      | '-' :: more =>
        match more with
        | [] => failAt "unterminated character set" start
        | ']' :: _ => .ok ((.char '-' :: a.item :: acc).reverse, pos + a.length + 2)
        | d :: others =>
          let b ← setMember flags (pos + a.length + 1) d others
          let finish := pos + a.length + 1 + b.length
          match a.item, b.item with
          | .char low, .char high =>
            if high < low then badRange a b finish
            else
              setItems flags start fuel finish (.range low high :: acc) (others.drop (b.length - 1))
          | _, _ => badRange a b finish
      | others => setItems flags start fuel (pos + a.length) (a.item :: acc) others

/-- A character that is alone in its set stands for itself in either case. -/
def simplest (items : List Item) : List Item :=
  match items.eraseDups with
  | [.char c] => [.range c c]
  | items => items

def readSet (b : Builder) (pos : Nat) (rest : List Char) : Step := do
  let (negated, body) := match rest with
    | '^' :: more => (true, more)
    | more => (false, more)
  let skip := if negated then 1 else 0
  let (items, finish) ← setItems b.flags pos (body.length + 1) (pos + 1 + skip) [] body
  return (b.push (.set b.flags.folding negated (simplest items)), finish - (pos + 1))

def groupReference (b : Builder) (pos : Nat) (digits : List Char) (taken : Nat) : Step := do
  let index := codeOf 10 digits
  if index < b.nextGroup then
    if !b.isClosed index then failAt "cannot refer to an open group" pos
    b.checkLookbehind index (pos + digits.length + 1)
    return (b.push (.backref b.flags.folding index), taken)
  else failAt ("invalid group reference " ++ decimal index) (pos + 1)

def digitEscape (b : Builder) (pos : Nat) (c : Char) (rest : List Char) : Step :=
  if c = '0' then
    let more := leading isOctal 2 rest
    .ok (b.pushChar (Char.ofNat (codeOf 8 (c :: more))), more.length + 1)
  else
    match leading isDigit 1 rest with
    | [d] =>
      match leading isOctal 1 (rest.drop 1) with
      | [e] =>
        if isOctal c && isOctal d then
          (octalEscape pos [c, d, e] 3).map fun (x, n) => (b.pushChar x, n)
        else groupReference b pos [c, d] 2
      | _ => groupReference b pos [c, d] 2
    | _ => groupReference b pos [c] 1

def anchorOf? (flags : Flags) (c : Char) : Option Anchor :=
  match c with
  | 'A' => some .textStart
  | 'Z' => some .textEnd
  | 'b' => some (.boundary flags.ascii false)
  | 'B' => some (.boundary flags.ascii true)
  | _ => none

def readEscape (b : Builder) (pos : Nat) : List Char → Step
  | [] => failAt "bad escape (end of pattern)" pos
  | c :: rest =>
    match anchorOf? b.flags c, classOf? b.flags.ascii c with
    | some a, _ => .ok (b.push (.anchor a), 1)
    | _, some item => .ok (b.push (.set b.flags.folding false [item]), 1)
    | _, _ =>
      if isDigit c then digitEscape b pos c rest
      else (charEscape pos c rest).map fun (x, n) => (b.pushChar x, n + 1)

def greatestRepeat : Nat := 4294967295

def repeatLast (b : Builder) (pos least : Nat) (most : Option Nat) (taken : Nat)
    (rest : List Char) : Step :=
  let (preference, more) := match rest with
    | '?' :: _ => (Preference.lazy, 1)
    | '+' :: _ => (Preference.possessive, 1)
    | _ => (Preference.greedy, 0)
  match b.sequence with
  | [] => failAt "nothing to repeat" pos
  | .anchor _ :: _ => failAt "nothing to repeat" pos
  | .loop _ _ _ _ :: _ => failAt "multiple repeat" pos
  | n :: ns => .ok ({ b with sequence := .loop least most preference n :: ns }, taken + more)

def readBounds (b : Builder) (pos : Nat) (rest : List Char) : Step :=
  let low := rest.takeWhile isDigit
  let after := rest.drop low.length
  let (high, comma, after) := match after with
    | ',' :: more => (more.takeWhile isDigit, 1, more.drop (more.takeWhile isDigit).length)
    | more => (low, 0, more)
  match after, rest with
  | _, '\x7d' :: _ => .ok (b.pushChar '\x7b', 0)
  | '\x7d' :: more, _ =>
    let length := low.length + comma + (if comma = 1 then high.length else 0) + 1
    let least := codeOf 10 low
    let most := if high.isEmpty then none else some (codeOf 10 high)
    if greatestRepeat ≤ least ∨ greatestRepeat ≤ most.getD 0 then
      .error ⟨"the repetition number is too large", none⟩
    else if most.any (· < least) then failAt "min repeat greater than max repeat" (pos + 1)
    else repeatLast b pos least most length more
  | _, _ => .ok (b.pushChar '\x7b', 0)

def isFlag (c : Char) : Bool :=
  "iLmsxatu".toList.contains c

def setFlag (on : Bool) (f : Flags) (c : Char) : Flags :=
  match c with
  | 'i' => { f with fold := on }
  | 'm' => { f with multiline := on }
  | 's' => { f with dotAll := on }
  | 'x' => { f with verbose := on }
  | 'a' => { f with ascii := on }
  | 'u' => { f with ascii := false }
  | _ => f

def checkFlags (added dropped : List Char) (finish : Nat) : Reading Unit :=
  if added.contains 'L' then
    failAt "bad inline flags: cannot use 'L' flag with a str pattern" finish
  else if added.contains 'a' && added.contains 'u' then
    failAt "bad inline flags: flags 'a', 'u' and 'L' are incompatible" finish
  else if dropped.any fun c => c == 'a' || c == 'u' || c == 'L' then
    failAt "bad inline flags: cannot turn off flags 'a', 'u' and 'L'" finish
  else if added.any dropped.contains then
    failAt "bad inline flags: flag turned on and off" (finish - 1)
  else .ok ()

def unknownFlag {α : Type} (missing : String) (pos : Nat) : List Char → Reading α
  | [] => failAt missing pos
  | c :: _ => failAt (if isLetterOrNumber c && !isDigit c then "unknown flag" else missing) pos

def readFlags (b : Builder) (start : Nat) (cs : List Char) : Step := do
  let added := cs.takeWhile isFlag
  let pos := start + 2 + added.length
  match cs.drop added.length with
  | ')' :: _ =>
    checkFlags added [] pos
    if !b.waiting.isEmpty || !b.choices.isEmpty || !b.sequence.isEmpty then
      failAt "global flags not at the start of the expression" start
    else return ({ b with flags := added.foldl (setFlag true) b.flags }, 1 + added.length + 1)
  | ':' :: _ =>
    checkFlags added [] (pos + 1)
    return (b.open_ .plain start (added.foldl (setFlag true) b.flags), 1 + added.length + 1)
  | '-' :: more =>
    let dropped := more.takeWhile isFlag
    let finish := pos + 1 + dropped.length
    if dropped.isEmpty then unknownFlag "missing flag" finish more
    else
      match more.drop dropped.length with
      | ':' :: _ =>
        checkFlags added dropped (finish + 1)
        let flags := dropped.foldl (setFlag false) (added.foldl (setFlag true) b.flags)
        return (b.open_ .plain start flags, 1 + added.length + 1 + dropped.length + 1)
      | others => unknownFlag "missing :" finish others
  | others => unknownFlag "missing -, : or )" pos others

def readName (what : String) (terminator : Char) (pos : Nat) (cs : List Char) :
    Reading (List Char) :=
  let name := cs.takeWhile (· != terminator)
  if name.isEmpty then failAt ("missing " ++ what) pos
  else if (cs.drop name.length).isEmpty then
    failAt ("missing " ++ String.ofList [terminator] ++ ", unterminated name") pos
  else .ok name

def checkGroupName (name : List Char) (pos : Nat) : Reading Unit :=
  if isIdentifierChars name then .ok ()
  else failAt ("bad character in group name " ++ quoted (String.ofList name)) pos

def openCapture (b : Builder) (start : Nat) (name : Option (List Char)) (namePos taken : Nat) :
    Step := do
  let index := b.nextGroup
  let b' := { b with nextGroup := index + 1 }
  match name.map String.ofList with
  | none => return (b'.open_ (.capture index) start b.flags, taken)
  | some n =>
    match b.names.lookup n with
    | some other =>
      failAt ("redefinition of group name " ++ quoted n ++ " as group " ++ decimal index ++
        "; was group " ++ decimal other) namePos
    | none =>
      return ({ b' with names := (n, index) :: b.names }.open_ (.capture index) start b.flags, taken)

def readNamed (b : Builder) (start : Nat) : List Char → Step
  | '<' :: cs => do
    let name ← readName "group name" '>' (start + 4) cs
    checkGroupName name (start + 4)
    openCapture b start (some name) (start + 4) (4 + name.length)
  | '=' :: cs => do
    let name ← readName "group name" ')' (start + 4) cs
    checkGroupName name (start + 4)
    match b.names.lookup (String.ofList name) with
    | none => failAt ("unknown group name " ++ quoted (String.ofList name)) (start + 4)
    | some index =>
      if !b.isClosed index then failAt "cannot refer to an open group" (start + 4)
      b.checkLookbehind index (start + 5 + name.length)
      return (b.push (.backref b.flags.folding index), 4 + name.length)
  | [] => failAt "unexpected end of pattern" (start + 3)
  | cs => failUnknown start "?P" cs

def readCondition (b : Builder) (start : Nat) (cs : List Char) : Step := do
  let name ← readName "group name" ')' (start + 3) cs
  let shown := quoted (String.ofList name)
  let index ←
    if isIdentifierChars name then
      match b.names.lookup (String.ofList name) with
      | some i => pure i
      | none => failAt ("unknown group name " ++ shown) (start + 3)
    else if name.all isDigit then
      let i := codeOf 10 name
      if i = 0 then failAt "bad group number" (start + 3) else pure i
    else failAt ("bad character in group name " ++ shown) (start + 3)
  b.checkLookbehind index (start + 4 + name.length)
  let b' := { b with asked := b.asked ++ [(index, start + 3)] }
  return (b'.open_ (.whether index) start b.flags, 2 + name.length + 1)

def readComment (b : Builder) (start : Nat) (cs : List Char) : Step :=
  let text := cs.takeWhile (· != ')')
  if text.length = cs.length then failAt "missing ), unterminated comment" start
  else .ok (b, 2 + text.length + 1)

def readLookbehind (b : Builder) (start : Nat) : List Char → Step
  | '=' :: _ => .ok (b.open_ (.look true false) start b.flags, 3)
  | '!' :: _ => .ok (b.open_ (.look true true) start b.flags, 3)
  | [] => failAt "unexpected end of pattern" (start + 3)
  | cs => failUnknown start "?<" cs

def readGroup (b : Builder) (start : Nat) : List Char → Step
  | '?' :: cs =>
    match cs with
    | [] => failAt "unexpected end of pattern" (start + 2)
    | 'P' :: more => readNamed b start more
    | ':' :: _ => .ok (b.open_ .plain start b.flags, 2)
    | '#' :: more => readComment b start more
    | '=' :: _ => .ok (b.open_ (.look false false) start b.flags, 2)
    | '!' :: _ => .ok (b.open_ (.look false true) start b.flags, 2)
    | '<' :: more => readLookbehind b start more
    | '(' :: more => readCondition b start more
    | '>' :: _ => .ok (b.open_ .atomic start b.flags, 2)
    | c :: _ =>
      if isFlag c || c == '-' then readFlags b start cs
      else failUnknown start "?" cs
  | _ => openCapture b start none 0 0

def isVerboseSpace (c : Char) : Bool :=
  " \t\n\r\x0b\x0c".toList.contains c

def step (b : Builder) (pos : Nat) (c : Char) (rest : List Char) : Step :=
  if b.flags.verbose && isVerboseSpace c then .ok (b, 0)
  else if b.flags.verbose && c == '#' then
    .ok (b, min rest.length ((rest.takeWhile (· != '\n')).length + 1))
  else
    match c with
    | '|' => (b.nextChoice pos).map (·, 0)
    | ')' => (b.close pos).map (·, 0)
    | '(' => readGroup b pos rest
    | '[' => readSet b pos rest
    | '\\' => readEscape b pos rest
    | '.' => .ok (b.push (.any b.flags.dotAll), 0)
    | '^' => .ok (b.push (.anchor (if b.flags.multiline then .lineStart else .textStart)), 0)
    | '$' => .ok (b.push (.anchor (if b.flags.multiline then .lineEnd else .lastLineEnd)), 0)
    | '*' => repeatLast b pos 0 none 0 rest
    | '+' => repeatLast b pos 1 none 0 rest
    | '?' => repeatLast b pos 0 (some 1) 0 rest
    | '\x7b' => readBounds b pos rest
    | c => .ok (b.pushChar c, 0)

def build : Nat → Nat → Builder → List Char → Reading Builder
  | _, _, b, [] => .ok b
  | skip + 1, pos, b, _ :: cs => build skip (pos + 1) b cs
  | 0, pos, b, c :: cs => do
    let (b', taken) ← step b pos c cs
    build taken (pos + 1) b' cs

def Builder.finish (b : Builder) : Reading Node :=
  match b.waiting with
  | w :: _ => failAt "missing ), unterminated subpattern" w.start
  | [] =>
    match b.asked.find? fun (index, _) => b.nextGroup ≤ index with
    | some (index, pos) => failAt ("invalid group reference " ++ decimal index) pos
    | none =>
      if b.unboundedLookbehind then .error ⟨"look-behind requires fixed-width pattern", none⟩
      else .ok b.body

def read (s : String) : Reading Node := do
  let b ← build 0 0 (startBuilder searchFlags) s.toList
  b.finish

def Fault.message (f : Fault) (s : String) : String :=
  match f.position with
  | none => f.problem
  | some p =>
    let before := s.toList.take p
    let at_ := f.problem ++ " at position " ++ decimal p
    if s.toList.contains '\n' then
      at_ ++ " (line " ++ decimal (before.count '\n' + 1) ++ ", column " ++
        decimal ((before.reverse.takeWhile (· != '\n')).length + 1) ++ ")"
    else at_

end BuildScripts.Pattern
