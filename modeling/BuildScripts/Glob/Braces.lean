import BuildScripts.Text.Basic

/-!
Brace expansion. A group is an opening brace, some characters that are not braces, and a closing
brace; the leftmost group is replaced by each of its options in turn until no group is left.
-/

namespace BuildScripts.Glob

open BuildScripts.Text

def isBrace (c : Char) : Bool :=
  c == '\x7b' || c == '\x7d'

def closedGroup? (cs : List Char) : Option (List Char × List Char) :=
  match cs.takeWhile (!isBrace ·), cs.dropWhile (!isBrace ·) with
  | c :: inner, '\x7d' :: after => some (c :: inner, after)
  | _, _ => none

structure Cut where
  before : List Char
  inner : List Char
  after : List Char

def firstGroup? : List Char → Option Cut
  | [] => none
  | c :: cs =>
    let later := (firstGroup? cs).map fun g => { g with before := c :: g.before }
    if c = '\x7b' then
      match closedGroup? cs with
      | some (inner, after) => some ⟨[], inner, after⟩
      | none => later
    else later

def atCommas : List Char → List (List Char)
  | [] => [[]]
  | c :: cs =>
    match atCommas cs with
    | [] => [[]]
    | p :: ps => if c = ',' then [] :: p :: ps else (c :: p) :: ps

def groupOptions (inner : List Char) : List (List Char) :=
  ((atCommas inner).map stripChars).filter (!·.isEmpty)

/-- Each expansion removes one opening brace, so `fuel` need not exceed their number. -/
def expandWith : Nat → List Char → List (List Char)
  | 0, pattern => [pattern]
  | fuel + 1, pattern =>
    match firstGroup? pattern with
    | none => [pattern]
    | some g =>
      match groupOptions g.inner with
      | [] => [pattern]
      | options => options.flatMap fun o => expandWith fuel (g.before ++ o ++ g.after)

def expandChars (pattern : List Char) : List (List Char) :=
  expandWith (pattern.count '\x7b') pattern

def mostGroups : Nat := 970

/-- The number of groups replaced on the way, as far as `fuel` reaches. It is the same whichever
options are taken, for options hold no braces. -/
def groupsReplaced : Nat → List Char → Nat
  | 0, _ => 0
  | fuel + 1, pattern =>
    match firstGroup? pattern with
    | none => 0
    | some g =>
      match groupOptions g.inner with
      | [] => 0
      | option :: _ => groupsReplaced fuel (g.before ++ option ++ g.after) + 1

def isTooDeep (pattern : String) : Bool :=
  mostGroups < groupsReplaced (mostGroups + 1) pattern.toList

def expandBraces (pattern : String) : List String :=
  (expandChars pattern.toList).map String.ofList

end BuildScripts.Glob
