import BuildScripts.Text.Basic
import BuildScripts.Text.Digit
import BuildScripts.Text.LetterCase
import BuildScripts.Text.Word

/-!
Regular expressions as trees, and the search for a match. Matching a tree from a spot in a text
gives the spots where a match may end, the preferred ones first.
-/

namespace BuildScripts.Pattern

open BuildScripts.Text

inductive CharClass
  | digit
  | space
  | word
  deriving DecidableEq, Repr

inductive Item
  | char (c : Char)
  | range (low high : Char)
  | cls (ascii negated : Bool) (c : CharClass)
  deriving DecidableEq, Repr

inductive Preference
  | greedy
  | lazy
  | possessive
  deriving DecidableEq, Repr

inductive Fold
  | none
  | ascii
  | all
  deriving DecidableEq, Repr

inductive Side
  | ahead
  | behind (width : Nat)
  deriving DecidableEq, Repr

inductive Anchor
  | textStart
  | lineStart
  | textEnd
  | lastLineEnd
  | lineEnd
  | boundary (ascii negated : Bool)
  deriving DecidableEq, Repr

inductive Node
  | char (fold : Fold) (c : Char)
  | any (lineFeed : Bool)
  | set (fold : Fold) (negated : Bool) (items : List Item)
  | anchor (a : Anchor)
  | seq (nodes : List Node)
  | choice (nodes : List Node)
  | group (index : Option Nat) (body : Node)
  | loop (least : Nat) (most : Option Nat) (preference : Preference) (body : Node)
  | look (side : Side) (negated : Bool) (body : Node)
  | atomic (body : Node)
  | backref (fold : Fold) (index : Nat)
  | whether (index : Nat) (yes no : Node)
  deriving Repr, Inhabited

/-- A spot in a text: the characters before it, last first, those after it, and what the groups
have matched. -/
structure Spot where
  before : List Char
  after : List Char
  groups : List (Nat × List Char)
  deriving DecidableEq, Repr

def classHas (ascii : Bool) (c : CharClass) (x : Char) : Bool :=
  (!ascii || x.toNat < 0x80) &&
    match c with
    | .digit => (digitValue? x).isSome
    | .space => isBlank x
    | .word => isWord x

def Fold.lower (fold : Fold) (x : Char) : Char :=
  match fold with
  | .none => x
  | .ascii => if 'A' ≤ x ∧ x ≤ 'Z' then Char.ofNat (lowerCode x.toNat) else x
  | .all => Char.ofNat (lowerCode x.toNat)

def Fold.forms (fold : Fold) (x : Char) : List Char :=
  match fold with
  | .none => [x]
  | .ascii =>
    let low := Fold.ascii.lower x
    if 'a' ≤ low ∧ low ≤ 'z' then [low, Char.ofNat (low.toNat - 0x20)] else [x]
  | .all => (letterForms x.toNat).map Char.ofNat

def sameChar (fold : Fold) (a b : Char) : Bool :=
  a == b || (fold.forms a).contains b

/-- Whether a character is what an item says. Where case is no matter, a character beyond the first
plane still stands for the lower case only. -/
def Item.admits (fold : Fold) (x : Char) : Item → Bool
  | .char c => if c.toNat < 0x10000 then (fold.forms x).contains c else fold.lower x == c
  | .range low high => (fold.forms x).any fun y => low ≤ y && y ≤ high
  | .cls ascii negated c => classHas ascii c x != negated

def setHas (fold : Fold) (negated : Bool) (items : List Item) (x : Char) : Bool :=
  items.any (Item.admits fold x) != negated

def wordAt (ascii : Bool) : List Char → Bool
  | [] => false
  | x :: _ => classHas ascii .word x

def Anchor.holds (s : Spot) : Anchor → Bool
  | .textStart => s.before.isEmpty
  | .lineStart => s.before.isEmpty || s.before.head? == some '\n'
  | .textEnd => s.after.isEmpty
  | .lastLineEnd => s.after.isEmpty || s.after == ['\n']
  | .lineEnd => s.after.isEmpty || s.after.head? == some '\n'
  | .boundary ascii negated =>
    !(s.before.isEmpty && s.after.isEmpty) &&
      ((wordAt ascii s.before != wordAt ascii s.after) != negated)

namespace Spot

def step (test : Char → Bool) (s : Spot) : List Spot :=
  match s.after with
  | x :: rest => if test x then [{ s with before := x :: s.before, after := rest }] else []
  | [] => []

def back : Nat → Spot → Option Spot
  | 0, s => some s
  | n + 1, s =>
    match s.before with
    | [] => none
    | x :: rest => back n { s with before := rest, after := x :: s.after }

def capture (index : Nat) (start : Spot) (s : Spot) : Spot :=
  let text := (s.before.take (s.before.length - start.before.length)).reverse
  { s with groups := (index, text) :: s.groups.filter (·.1 ≠ index) }

def skip (fold : Fold) : List Char → Spot → Option Spot
  | [], s => some s
  | c :: cs, s =>
    match s.after with
    | x :: rest =>
      if fold.lower c == fold.lower x then skip fold cs { s with before := x :: s.before, after := rest }
      else none
    | [] => none

end Spot

def distinct (spots : List Spot) : List Spot :=
  spots.foldl (fun seen s => if seen.contains s then seen else seen ++ [s]) []

def exactly (step : Spot → List Spot) : Nat → List Spot → List Spot
  | 0, spots => spots
  | n + 1, spots =>
    let next := distinct (spots.flatMap step)
    if next.isEmpty || next == spots then next else exactly step n next

structure Tries where
  ends : List Spot
  tried : List (Option Nat × Spot)

def Tries.found (t : Tries) (s : Spot) : Tries :=
  if t.ends.contains s then t else { t with ends := t.ends ++ [s] }

/-- Goes on from a spot by further rounds, the first way to the end before the next is tried. A round
that does not get ahead ends the loop. -/
def further (lazy : Bool) (step : Spot → List Spot) : Nat → Option Nat → Spot → Tries → Tries
  | 0, _, s, t => t.found s
  | fuel + 1, left, s, t =>
    if t.tried.contains (left, s) then t
    else
      let goOn (t : Tries) : Tries :=
        if left = some 0 then t
        else (step s).foldl (fun t e =>
          if e.after.length = s.after.length then t.found e
          else further lazy step fuel (left.map (· - 1)) e t) t
      let t := { t with tried := (left, s) :: t.tried }
      if lazy then goOn (t.found s) else (goOn t).found s

def held (step : Spot → List Spot) : Nat → Option Nat → Spot → Spot
  | 0, _, s => s
  | _, some 0, s => s
  | fuel + 1, left, s =>
    match step s with
    | [] => s
    | e :: _ =>
      if e.after.length = s.after.length then e else held step fuel (left.map (· - 1)) e

def repeated (least : Nat) (most : Option Nat) (preference : Preference)
    (step : Spot → List Spot) (s : Spot) : List Spot :=
  let left := most.map (· - least)
  let fuel := s.after.length + 1
  let search (lazy : Bool) : List Spot :=
    ((exactly step least [s]).foldl (fun t e => further lazy step fuel left e t) ⟨[], []⟩).ends
  match preference with
  | .greedy => search false
  | .lazy => search true
  | .possessive => (exactly (fun e => (step e).take 1) least [s]).map (held step fuel left)

mutual

def ends : Node → Spot → List Spot
  | .char fold c, s => s.step (sameChar fold c)
  | .any lineFeed, s => s.step (fun x => lineFeed || x != '\n')
  | .set fold negated items, s => s.step (setHas fold negated items)
  | .anchor a, s => if a.holds s then [s] else []
  | .seq nodes, s => endsOfAll nodes [s]
  | .choice nodes, s => distinct (endsOfAny nodes s)
  | .group index body, s =>
    match index with
    | none => ends body s
    | some i => (ends body s).map (Spot.capture i s)
  | .loop least most preference body, s => repeated least most preference (ends body) s
  | .look side negated body, s =>
    let start := match side with
      | .ahead => some s
      | .behind width => s.back width
    match start.map (ends body) with
    | some (e :: _) => if negated then [] else [{ s with groups := e.groups }]
    | _ => if negated then [s] else []
  | .atomic body, s => (ends body s).take 1
  | .backref fold index, s =>
    match s.groups.lookup index with
    | none => []
    | some text => (s.skip fold text).toList
  | .whether index yes no, s =>
    if (s.groups.lookup index).isSome then ends yes s else ends no s

def endsOfAll : List Node → List Spot → List Spot
  | [], spots => spots
  | n :: ns, spots => endsOfAll ns (distinct (spots.flatMap (ends n)))

def endsOfAny : List Node → Spot → List Spot
  | [], _ => []
  | n :: ns, s => ends n s ++ endsOfAny ns s

end

def foundFrom (n : Node) : List Char → List Char → Bool
  | before, [] => !(ends n ⟨before, [], []⟩).isEmpty
  | before, x :: rest =>
    !(ends n ⟨before, x :: rest, []⟩).isEmpty || foundFrom n (x :: before) rest

def found (n : Node) (s : String) : Bool :=
  foundFrom n [] s.toList

structure Width where
  least : Nat
  most : Option Nat
  deriving DecidableEq, Repr

namespace Width

def exact (n : Nat) : Width := ⟨n, some n⟩

def add (a b : Width) : Width :=
  ⟨a.least + b.least, a.most.bind fun m => b.most.map (m + ·)⟩

def join (a b : Width) : Width :=
  ⟨min a.least b.least, a.most.bind fun m => b.most.map (max m)⟩

def times (w : Width) (least : Nat) (most : Option Nat) : Width :=
  ⟨w.least * least,
    match most, w.most with
    | _, some 0 => some 0
    | some n, some m => some (m * n)
    | _, _ => none⟩

end Width

mutual

def width (groups : List (Nat × Width)) : Node → Width
  | .char _ _ => .exact 1
  | .any _ => .exact 1
  | .set _ _ _ => .exact 1
  | .anchor _ => .exact 0
  | .seq nodes => widthOfAll groups nodes
  | .choice nodes => (widthOfAny groups nodes).getD (.exact 0)
  | .group _ body => width groups body
  | .loop least most _ body => (width groups body).times least most
  | .look _ _ _ => .exact 0
  | .atomic body => width groups body
  | .backref _ index => (groups.lookup index).getD (.exact 0)
  | .whether _ yes no => (width groups yes).join (width groups no)

def widthOfAll (groups : List (Nat × Width)) : List Node → Width
  | [] => .exact 0
  | n :: ns => (width groups n).add (widthOfAll groups ns)

def widthOfAny (groups : List (Nat × Width)) : List Node → Option Width
  | [] => none
  | n :: ns =>
    match widthOfAny groups ns with
    | none => some (width groups n)
    | some w => some ((width groups n).join w)

end

end BuildScripts.Pattern
