import BuildScripts.Glob.Braces

/-!
Glob patterns over whole paths: a star stands for any characters, slashes among them, a question
mark for one, and brackets for one character of a set.
-/

namespace BuildScripts.Glob

inductive Piece
  | literal (c : Char)
  | one
  | star
  | within (negated : Bool) (ranges : List (Char × Char))
  deriving DecidableEq, Repr

def inRanges (ranges : List (Char × Char)) (c : Char) : Bool :=
  ranges.any fun (low, high) => low ≤ c && c ≤ high

def Piece.takes : Piece → Char → Bool
  | .literal l, c => l == c
  | .one, _ => true
  | .star, _ => false
  | .within negated ranges, c => inRanges ranges c != negated

def rests : List Char → List (List Char)
  | [] => [[]]
  | c :: cs => (c :: cs) :: rests cs

def covers : List Piece → List Char → Bool
  | [], cs => cs.isEmpty
  | .star :: ps, cs => (rests cs).any (covers ps)
  | _ :: _, [] => false
  | p :: ps, c :: cs => p.takes c && covers ps cs

/-- The characters of a bracket and what follows it. A closing bracket is a member when it comes
first, also after an exclamation mark; without a later closing bracket there is no bracket. -/
def bracket? (cs : List Char) : Option (List Char × List Char) :=
  let (mark, body) := match cs with
    | '!' :: rest => (['!'], rest)
    | rest => ([], rest)
  let (first, body) := match body with
    | ']' :: rest => ([']'], rest)
    | rest => ([], rest)
  match body.dropWhile (· != ']') with
  | [] => none
  | _ :: after => some (mark ++ first ++ body.takeWhile (· != ']'), after)

/-- Cuts the members of a bracket at the hyphens that make ranges: `wait` characters must pass
before a hyphen does. -/
def chunks : Nat → List Char → List Char → List (List Char)
  | _, acc, [] => [acc.reverse]
  | 0, acc, '-' :: cs => acc.reverse :: chunks 2 [] cs
  | 0, acc, c :: cs => chunks 0 (c :: acc) cs
  | wait + 1, acc, c :: cs => chunks wait (c :: acc) cs

def keepLastHyphen : List (List Char) → List (List Char)
  | [] => []
  | [c] => [c]
  | [c, []] => [c ++ ['-']]
  | c :: cs => c :: keepLastHyphen cs

def joinChunk (chunk : List Char) : List (List Char) → List (List Char)
  | (high :: more) :: others =>
    match chunk.getLast? with
    | some low =>
      if high < low then (chunk.dropLast ++ more) :: others
      else chunk :: (high :: more) :: others
    | none => chunk :: (high :: more) :: others
  | others => chunk :: others

def joinChunks : List (List Char) → List (List Char)
  | [] => []
  | [c] => [c]
  | c :: cs => joinChunk c (joinChunks cs)

def chunkRanges : List (List Char) → List (Char × Char)
  | [] => []
  | [c] => c.map fun x => (x, x)
  | c :: d :: cs =>
    (c.map fun x => (x, x)) ++
      (match c.getLast?, d.head? with
        | some low, some high => [(low, high)]
        | _, _ => []) ++
      chunkRanges (d :: cs)

def ofChunks : List (List Char) → Piece
  | ('!' :: c) :: cs => .within true (chunkRanges (c :: cs))
  | cs => .within false (chunkRanges cs)

def bracketPiece (members : List Char) : Piece :=
  if members.contains '-' then
    let wait := match members with
      | '!' :: _ => 2
      | _ => 1
    ofChunks (joinChunks (keepLastHyphen (chunks wait [] members)))
  else ofChunks [members]

def piecesFrom : Nat → List Char → List Piece
  | _, [] => []
  | skip + 1, _ :: cs => piecesFrom skip cs
  | 0, '*' :: cs => .star :: piecesFrom 0 cs
  | 0, '?' :: cs => .one :: piecesFrom 0 cs
  | 0, '[' :: cs =>
    match bracket? cs with
    | some (members, _) => bracketPiece members :: piecesFrom (members.length + 1) cs
    | none => .literal '[' :: piecesFrom 0 cs
  | 0, c :: cs => .literal c :: piecesFrom 0 cs

def pieces (pattern : String) : List Piece :=
  piecesFrom 0 pattern.toList

def accepts (pattern path : String) : Bool :=
  covers (pieces pattern) path.toList

def pathMatches (path : String) (patterns : List String) : Bool :=
  (patterns.flatMap expandBraces).any (accepts · path)

def isIncluded (path : String) (included excluded : List String) : Bool :=
  pathMatches path included && !pathMatches path excluded

end BuildScripts.Glob
